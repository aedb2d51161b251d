import Elf.Service.Lemmas.Op

/-!
This module contains when the scope of a note and its project agree: the notes in the organisation's
scope, and only they, belong to the organisation's project.
-/

namespace Elf

open Text

/-- The scope and the project of the note agree. -/
def MemoryNote.OrgScoped (note : MemoryNote) : Prop :=
  note.scope = "org_shared" ↔ note.projectId = orgProjectId

instance (note : MemoryNote) : Decidable note.OrgScoped :=
  inferInstanceAs (Decidable (_ ↔ _))

def Store.OrgScoped (s : Store) : Prop := ∀ note ∈ s.notes, note.OrgScoped

instance (s : Store) : Decidable s.OrgScoped :=
  inferInstanceAs (Decidable (∀ note ∈ s.notes.rows, note.OrgScoped))

/--
The steps that keep scope and project together. A request or a proposal may name the organisation's
project only along with its scope, and a restore may not move the note across the border of that
scope, since it leaves the project as it is.
-/
def KeepsOrgScope (s : Store) (a : Step) : Prop :=
  match a.op with
  | .addNote req _ _ _ => req.projectId = orgProjectId → req.scope = "org_shared"
  | .addEvent _ req note _ _ =>
    req.projectId = orgProjectId
      → (NoteProcessingData.fromRequestAndNote req note).scope = "org_shared"
  | .publish req => trim req.projectId = orgProjectId → req.scope = "org_shared"
  | .unpublish req => trim req.projectId ≠ orgProjectId
  | .correct req =>
    req.action = .restore → ∀ prev source snapshot, s.notes.find? req.noteId = some prev
      → loadRestoreSnapshot s prev.noteId req.restoreVersionId = .ok (source, snapshot)
      → (snapshot.get "scope" = some (.str "org_shared") ↔ prev.scope = "org_shared")
  | .review req =>
    ∀ proposal payload scope, s.proposals.find? req.proposalId = some proposal
      → proposal.projectId = orgProjectId
      → decodePromotedMemoryPayload proposal = .ok payload
      → promotedMemoryScope payload (proposal.defaultScope s) = .ok scope
      → scope = "org_shared"
  | _ => True

variable {svc : ElfService} {draw : Draw} {s t : Store} {op : Op} {w : NoteWrite}

theorem Store.Writes.org_scoped (h : s.Writes t w) (hs : s.OrgScoped) (hw : w.next.OrgScoped)
    : t.OrgScoped := by
  intro note hmem
  have hfind := t.notes.find?_key hmem
  rw [h.notes_eq] at hfind
  split at hfind
  . rw [← Option.some.inj hfind]
    exact hw
  . apply hs
    exact Table.mem_of_find? hfind

theorem Store.Quiet.org_scoped (h : s.Quiet t) (hs : s.OrgScoped) : t.OrgScoped := by
  intro note hmem
  rcases h.row (t.notes.find?_key hmem) with ⟨row, hfind, heq⟩
  rw [heq]
  exact hs row (Table.mem_of_find? hfind)

/-- The project that a request's notes belong to agrees with its scope. -/
theorem effectiveProjectId_org_scoped {w : ScopeWriteAllowed} (hscope : w.allows scope = true)
    (hproject : projectId = orgProjectId → scope = "org_shared")
    : scope = "org_shared"
      ↔ (if trim scope = "org_shared" then orgProjectId else projectId) = orgProjectId := by
  rw [trim_of_allows hscope]
  split
  next horg => exact ⟨fun _ => rfl, fun _ => horg⟩
  next horg => exact ⟨fun h => absurd h horg, hproject⟩

theorem targetProjectId_org_scoped (h : projectId = orgProjectId → scope = "org_shared")
    : scope = "org_shared" ↔ targetProjectId scope projectId = orgProjectId := by
  unfold targetProjectId
  split
  next horg => exact ⟨fun _ => rfl, fun _ => horg⟩
  next horg => exact ⟨fun h => absurd h horg, h⟩

theorem Store.OrgScoped.row {id : Uuid} {prev : MemoryNote} (h : s.OrgScoped)
    (hfind : s.notes.find? id = some prev) : prev.OrgScoped := by
  exact h prev (Table.mem_of_find? hfind)

/-- The step lemma: the note that a mutation writes is in the right project. -/
theorem Mutation.org_scoped (h : Mutation svc draw s t op w) (hs : s.OrgScoped)
    (hkeep : KeepsOrgScope s ⟨svc, draw, op⟩) : w.next.OrgScoped := by
  cases h with
  | added h =>
    have hgate := writegate_ok h.gate
    unfold KeepsOrgScope at hkeep
    dsimp only at hkeep hgate
    have hscoped := effectiveProjectId_org_scoped hgate.2.2.2.2.1 hkeep
    unfold MemoryNote.OrgScoped newMemoryNote AddNoteRequest.context
      AddNoteRequest.effectiveProjectId
    exact hscoped
  | @replaced req now note withinBudget text prev h =>
    have hprev := hs prev h.mem
    exact hprev
  | extracted hdata h =>
    have hgate := writegate_ok h.gate
    unfold KeepsOrgScope at hkeep
    dsimp only at hkeep hgate
    rw [← hdata] at hkeep
    have hscoped := effectiveProjectId_org_scoped hgate.2.2.2.2.1 hkeep
    unfold MemoryNote.OrgScoped PersistExtractedNoteArgs.memoryNote AddEventRequest.context
      AddEventRequest.effectiveProjectId
    exact hscoped
  | updated find active gate writes fields =>
    have hprev := hs.row find
    exact hprev
  | deleted find writes fields =>
    have hprev := hs.row find
    exact hprev
  | published loads moved writes fields => exact targetProjectId_org_scoped hkeep
  | @unpublished req prev find active shared writes fields =>
    have hprev := hs.row find
    unfold KeepsOrgScope at hkeep
    unfold MemoryNote.OrgScoped unpublishedNote unpublishedProjectId at *
    dsimp only at hkeep hprev ⊢
    constructor
    . intro hprivate
      exact absurd hprivate (by decide)
    . intro hproject
      split at hproject
      next horg => exact absurd hproject hkeep
      next horg =>
        simp only [Bool.and_eq_true, decide_eq_true_eq, not_and] at horg
        exact absurd hproject (horg (hprev.mpr hproject))
  | ended find ending writes fields =>
    have hprev := hs.row find
    exact hprev
  | @restored req prev restored source snapshot find action inactive load apply writes fields =>
    have hrestored := applyRestoreSnapshot_cases apply
    have hsame := hkeep action prev source snapshot find load
    rw [hrestored.scope_get, Option.some.injEq, Json.str.injEq] at hsame
    have hproject : restored.projectId = prev.projectId := by rw [hrestored.frame]
    unfold MemoryNote.OrgScoped restoredNote
    dsimp only
    rw [hsame, hproject]
    exact hs.row find
  | @promoted req w proposal promoted args s₁ s₂ find action contract h before after =>
    rcases h.payload with ⟨payload, hpayload, -, hscope⟩
    rw [decodePromotedMemoryPayload_congr contract] at hpayload
    rw [ConsolidationProposal.defaultScope_congr contract before.1.1] at hscope
    have howner : promoted.projectId = proposal.projectId := by
      rw [ConsolidationProposal.eq_of_unreviewed contract]
    have hproject := h.project
    rw [howner] at hproject
    unfold MemoryNote.OrgScoped
    rw [hproject]
    exact targetProjectId_org_scoped fun horg => hkeep proposal payload _ find horg hpayload hscope

theorem org_scoped_step (hs : s.OrgScoped) (h : Run.Guarded KeepsOrgScope Steps s a t)
    : t.OrgScoped := by
  rcases h with ⟨hkeep, hstep⟩
  rcases hstep.cases with rfl | ⟨r, hok⟩
  . exact hs
  . rcases Op.exec_cases hok with hquiet | ⟨w, hmut, -⟩
    . exact hquiet.org_scoped hs
    . exact hmut.writes.org_scoped hs (hmut.org_scoped hs hkeep)

/-- Scope and project agree in every state that such steps reach. -/
theorem org_scope_agrees (h : Run (Run.Guarded KeepsOrgScope Steps) Store.empty as s)
    : s.OrgScoped := by
  apply h.invariant (fun s a t hs hstep => org_scoped_step hs hstep)
  intro note hmem
  cases hmem

theorem org_scope_agrees_unpublish
    : (Store.empty.run [
      sampleAdd 1 "p" "org_shared" (sampleNote none "Deploys run on Friday."),
      sampleStep 2 (.unpublish ⟨"t", "p", "a", 1⟩)]).OrgScoped := by
  apply org_scope_agrees
  apply run_of_meets
  refine ⟨?_, ?_, trivial⟩
  . intro horg
    exact absurd horg (by decide)
  . have hproject : trim "p" ≠ orgProjectId := by decide
    exact hproject

/-- A note in the organisation's scope is made private, deleted and restored as it was before. -/
def restoreBeforeUnpublish : List Step := [
  sampleAdd 1 "p" "org_shared" (sampleNote none "Deploys run on Friday."),
  sampleStep 2 (.unpublish ⟨"t", "p", "a", 1⟩),
  sampleStep 3 (.delete ⟨"t", "p", "a", 1⟩),
  sampleStep 4 (.correct (sampleCorrection 1 .restore (some 2)))]

theorem not_org_scoped_restoreBeforeUnpublish
    : ¬ (Store.empty.run restoreBeforeUnpublish).OrgScoped := by
  decide +kernel

end Elf
