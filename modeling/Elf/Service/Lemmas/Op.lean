import Elf.Service.Lemmas.AddEvent
import Elf.Service.Lemmas.Review
import Elf.Service.Op

/-!
This module contains what a step of the service can do to the store: it leaves the notes alone but
for their hit counters, or it is one of the mutations listed here and writes one note. Every note that
is stored has a scope, a type and a text that are not blank, and an expiry as its column keeps it.
-/

namespace Elf

open Text

/-- The row without what searches count. -/
def MemoryNote.unhit (note : MemoryNote) : MemoryNote :=
  { note with hitCount := 0, lastHitAt := none }

/-- A step that mutates no note. -/
structure Store.Quiet (s t : Store) : Prop where
  notes : ∀ id, (t.notes.find? id).map MemoryNote.unhit = (s.notes.find? id).map MemoryNote.unhit
  versions : t.versions = s.versions
  outbox : t.outbox = s.outbox
  fields : t.fields = s.fields

/-- The mutations of notes, with the write that each one makes. -/
inductive Mutation (svc : ElfService) (draw : Draw) (s t : Store) : Op → NoteWrite → Prop where
  | added {req : AddNoteRequest} {now : Nat} {note : AddNoteInput} {withinBudget : Bool}
    {text : String}
    (h : AddNoteAdded svc (req.context svc now) { note with text } draw s t)
    : Mutation svc draw s t (.addNote req now note withinBudget)
      ⟨none, newMemoryNote svc (req.context svc now) { note with text } draw.noteId, .add, .upsert,
        draw.versionId⟩
  | replaced {req : AddNoteRequest} {now : Nat} {note : AddNoteInput} {withinBudget : Bool}
    {text : String} {prev : MemoryNote}
    (h : AddNoteReplaced svc (req.context svc now) { note with text } draw prev s t)
    : Mutation svc draw s t (.addNote req now note withinBudget)
      ⟨some prev, addNoteUpdated svc { note with text } prev now, .update, .upsert,
        draw.versionId⟩
  | extracted {event : EventIngestion} {req : AddEventRequest} {note : ExtractedNote} {now : Nat}
    {withinBudget : Bool} {data : NoteProcessingData} {expiresAt : Option Nat} {sourceRef : Json}
    (hdata : data = .fromRequestAndNote req note)
    (h : EventAdded svc ⟨req.context svc data.scope now, data, none, expiresAt, sourceRef⟩ draw s t)
    : Mutation svc draw s t (.addEvent event req note now withinBudget)
      ⟨none, PersistExtractedNoteArgs.memoryNote
        ⟨req.context svc data.scope now, data, none, expiresAt, sourceRef⟩ draw.noteId,
        .add, .upsert, draw.versionId⟩
  | updated {req : UpdateRequest} {prev : MemoryNote}
    (find : s.notes.find? req.noteId = some prev) (active : prev.status.toLower = "active")
    (gate : writegate svc.containsSecrets svc.cfg
      ⟨prev.type, prev.scope, req.text.getD prev.text⟩ = .ok ())
    (writes : s.Writes t ⟨some prev, req.written svc draw prev, .update, .upsert, draw.versionId⟩)
    (fields : t.fields = (if prev.text ≠ (req.written svc draw prev).text then
        deleteNoteFields s prev.noteId
      else
        s).fields)
    : Mutation svc draw s t (.update req)
      ⟨some prev, req.written svc draw prev, .update, .upsert, draw.versionId⟩
  | deleted {req : DeleteRequest} {prev : MemoryNote}
    (find : s.notes.find? req.noteId = some prev)
    (writes : s.Writes t
      ⟨some prev, deletedNote prev (draw.clock 0), .delete, .delete, draw.versionId⟩)
    (fields : t.fields = s.fields)
    : Mutation svc draw s t (.delete req)
      ⟨some prev, deletedNote prev (draw.clock 0), .delete, .delete, draw.versionId⟩
  | published {req : PublishNoteRequest} {prev : MemoryNote} {granted : Store}
    (loads : PublishLoads svc req draw s prev granted)
    (moved : ¬ (prev.scope = req.scope
      ∧ prev.projectId = targetProjectId req.scope (trim req.projectId)))
    (writes : s.Writes t
      ⟨some prev, publishedNote req prev (draw.clock 2), .publish, .upsert, draw.versionId⟩)
    (fields : t.fields = s.fields)
    : Mutation svc draw s t (.publish req)
      ⟨some prev, publishedNote req prev (draw.clock 2), .publish, .upsert, draw.versionId⟩
  | unpublished {req : UnpublishNoteRequest} {prev : MemoryNote}
    (find : s.notes.find? req.noteId = some prev) (active : prev.status = "active")
    (shared : prev.scope ≠ "agent_private")
    (writes : s.Writes t
      ⟨some prev, unpublishedNote req prev (draw.clock 1), .unpublish, .upsert, draw.versionId⟩)
    (fields : t.fields = s.fields)
    : Mutation svc draw s t (.unpublish req)
      ⟨some prev, unpublishedNote req prev (draw.clock 1), .unpublish, .upsert, draw.versionId⟩
  | ended {req : MemoryCorrectionRequest} {prev : MemoryNote} {status : String} {op : VersionOp}
    (find : s.notes.find? req.noteId = some prev) (ending : Ending req.action status op prev)
    (writes : s.Writes t
      ⟨some prev, endedNote prev req.action status (req.args draw), op, .delete, draw.versionId⟩)
    (fields : t.fields = s.fields)
    : Mutation svc draw s t (.correct req)
      ⟨some prev, endedNote prev req.action status (req.args draw), op, .delete, draw.versionId⟩
  | restored {req : MemoryCorrectionRequest} {prev restored : MemoryNote} {source : Uuid}
    {snapshot : Json} (find : s.notes.find? req.noteId = some prev) (action : req.action = .restore)
    (inactive : prev.status ≠ "active")
    (load : loadRestoreSnapshot s prev.noteId req.restoreVersionId = .ok (source, snapshot))
    (apply : applyRestoreSnapshot prev snapshot (draw.clock 0) = .ok restored)
    (writes : s.Writes t ⟨some prev, restoredNote svc restored snapshot source (req.args draw),
      .restore, .upsert, draw.versionId⟩)
    (fields : t.fields = s.fields)
    : Mutation svc draw s t (.correct req)
      ⟨some prev, restoredNote svc restored snapshot source (req.args draw), .restore, .upsert,
        draw.versionId⟩
  | promoted {req : ConsolidationProposalReviewRequest} {w : NoteWrite}
    {proposal promoted : ConsolidationProposal} {args : PromotionArgs} {s₁ s₂ : Store}
    (find : s.proposals.find? req.proposalId = some proposal) (action : req.reviewAction = .apply)
    (contract : promoted.unreviewed = proposal.unreviewed)
    (h : Promoted svc draw promoted args s₁ s₂ w) (before : s.SameMemory s₁)
    (after : s₂.SameMemory t)
    : Mutation svc draw s t (.review req) w

variable {svc : ElfService} {draw : Draw} {s t : Store} {op : Op} {w : NoteWrite}

theorem Mutation.writes (h : Mutation svc draw s t op w) : s.Writes t w := by
  cases h with
  | added h => exact h.writes
  | replaced h => exact h.writes
  | extracted hdata h => exact h.writes
  | updated find active gate writes fields => exact writes
  | deleted find writes fields => exact writes
  | published loads moved writes fields => exact writes
  | unpublished find active shared writes fields => exact writes
  | ended find ending writes fields => exact writes
  | restored find action inactive load apply writes fields => exact writes
  | promoted find action contract h before after => exact writes_of_same before.1 h.writes after.1

/-! ## Quiet steps -/

theorem Store.Quiet.of_same (hnotes : s.SameNotes t) (hfields : t.fields = s.fields)
    : s.Quiet t := by
  rcases hnotes with ⟨hnotes, hversions, houtbox⟩
  exact ⟨by simp [hnotes], hversions, houtbox, hfields⟩

theorem Store.Quiet.refl (s : Store) : s.Quiet s := of_same ⟨rfl, rfl, rfl⟩ rfl

theorem Store.SameMemory.quiet (h : s.SameMemory t) : s.Quiet t := .of_same h.1 h.2

theorem MemoryNote.eq_of_unhit {note row : MemoryNote} (h : note.unhit = row.unhit)
    : note = { row with hitCount := note.hitCount, lastHitAt := note.lastHitAt } := by
  cases note
  cases row
  simp only [unhit, MemoryNote.mk.injEq] at h ⊢
  simp [h]

/-- A row after a quiet step and the same row before it. -/
theorem Store.Quiet.row {id : Uuid} {note : MemoryNote} (h : s.Quiet t)
    (hfind : t.notes.find? id = some note)
    : ∃ row, s.notes.find? id = some row
      ∧ note = { row with hitCount := note.hitCount, lastHitAt := note.lastHitAt } := by
  have hid := h.notes id
  rw [hfind, Option.map_some] at hid
  rcases Option.map_eq_some_iff.mp hid.symm with ⟨row, hrow, heq⟩
  exact ⟨row, hrow, MemoryNote.eq_of_unhit heq.symm⟩

theorem recordHits_quiet (h : recordHits noteIds draw s = .ok (r, t)) : s.Quiet t := by
  cases h
  constructor
  . intro id
    simp only [Table.find?_updateWhere, Option.map_map]
    congr 1
    funext row
    simp only [Function.comp]
    split
    . rfl
    . rfl
  . rfl
  . rfl
  . rfl

theorem upsertGrant_frame (h : upsertGrant s req draw = .ok t) : ∃ grants, t = { s with grants } := by
  unfold upsertGrant at h
  dsimp only at h
  split at h
  . unfold upsertProjectGrant at h
    split at h
    . cases h
      exact ⟨_, rfl⟩
    . simp only [Except.bind_eq_ok, Table.insert_eq_ok, Except.pure_eq_ok] at h
      rcases h with ⟨grants, -, rfl⟩
      exact ⟨grants, rfl⟩
  . unfold upsertAgentGrant at h
    split at h
    . cases h
    . split at h
      . cases h
        exact ⟨_, rfl⟩
      . simp only [Except.bind_eq_ok, Table.insert_eq_ok, Except.pure_eq_ok] at h
        rcases h with ⟨grants, -, rfl⟩
        exact ⟨grants, rfl⟩

theorem spaceGrantUpsert_frame (h : spaceGrantUpsert svc req draw s = .ok (r, t))
    : ∃ grants, t = { s with grants } := by
  simp only [spaceGrantUpsert, Except.bind_eq_ok, Except.pure_eq_ok, Prod.mk.injEq] at h
  rcases h with ⟨-, -, -, -, -, -, -, -, s', hgrant, -, rfl⟩
  exact upsertGrant_frame hgrant

theorem spaceGrantRevoke_frame (h : spaceGrantRevoke svc req draw s = .ok (r, t))
    : ∃ grants, t = { s with grants } := by
  simp only [spaceGrantRevoke, Except.bind_eq_ok, Except.pure_eq_ok, Prod.mk.injEq] at h
  rcases h with ⟨-, -, -, -, -, -, -, -, -, -, -, rfl⟩
  exact ⟨_, rfl⟩

/-- What a worker's proposal does to the store. -/
theorem insertConsolidationProposal_cases
    (h : insertConsolidationProposal owner proposalId proposal draw s = .ok (row, t))
    : ∃ proposals, row = proposalRow owner proposalId (draw.clock 0) proposal
      ∧ s.proposals.insert? row = some proposals ∧ t = { s with proposals } := by
  simp only [insertConsolidationProposal, proposalRowFromContract, Except.bind_eq_ok,
    Table.insert_eq_ok, Except.pure_eq_ok, Prod.mk.injEq] at h
  rcases h with ⟨row', ⟨_, -, rfl⟩, proposals, hinsert, rfl, rfl⟩
  exact ⟨proposals, rfl, hinsert, rfl⟩

/-! ## Steps -/

/-- What the response of a step says when the step mutated a note. -/
def Reported (r : Option NoteOp) : Prop := r ≠ some .none ∧ r ≠ some .rejected

/-- What a transaction does to the notes: nothing, or it counts hits, or it mutates one of them. -/
theorem Op.exec_effect (h : op.exec svc draw s = .ok (r, t))
    : s.SameMemory t ∨ (∃ noteIds, op = .recordHits noteIds)
      ∨ ∃ w, Mutation svc draw s t op w ∧ Reported r := by
  cases op with
  | addNote req now note withinBudget =>
    rcases Transaction.reports_eq_ok.mp h with ⟨result, hok, rfl⟩
    rcases processAddNoteInput_cases hok with ⟨text, -, ⟨⟨decisions, rfl⟩, -⟩ | ⟨hop, hadd⟩ | hrep⟩
    . left
      exact ⟨⟨rfl, rfl, rfl⟩, rfl⟩
    . right
      right
      exact ⟨_, .added hadd, by simp [Reported, hop]⟩
    . rcases hrep with ⟨prev, hop, hrep⟩
      right
      right
      exact ⟨_, .replaced hrep, by simp [Reported, hop]⟩
  | addEvent event req note now withinBudget =>
    rcases Transaction.reports_eq_ok.mp h with ⟨result, hok, rfl⟩
    rcases processExtractedNote_cases hok with ⟨decisions, rfl⟩ | ⟨sourceRef, expiresAt, -, hop, hadd⟩
    . left
      exact ⟨⟨rfl, rfl, rfl⟩, rfl⟩
    . right
      right
      exact ⟨_, .extracted rfl hadd, by simp [Reported, hop]⟩
  | update req =>
    rcases Transaction.reports_eq_ok.mp h with ⟨response, hok, rfl⟩
    rcases update_cases hok with ⟨rfl, -⟩ | ⟨prev, hfind, hactive, hop, hgate, hwrites, hfields, -, -⟩
    . left
      exact ⟨⟨rfl, rfl, rfl⟩, rfl⟩
    . right
      right
      exact ⟨_, .updated hfind hactive hgate hwrites hfields, by simp [Reported, hop]⟩
  | delete req =>
    rcases Transaction.reports_eq_ok.mp h with ⟨response, hok, rfl⟩
    rcases delete_cases hok with ⟨rfl, -⟩ | ⟨prev, hfind, hop, hwrites, hfields, -, -⟩
    . left
      exact ⟨⟨rfl, rfl, rfl⟩, rfl⟩
    . right
      right
      exact ⟨_, .deleted hfind hwrites hfields, by simp [Reported, hop]⟩
  | publish req =>
    rcases Transaction.reports_eq_ok.mp h with ⟨response, hok, rfl⟩
    rcases publishNote_cases hok with ⟨prev, granted, hloads, -, ⟨-, -, rfl⟩ | hwrote⟩
    . left
      exact ⟨⟨rfl, rfl, rfl⟩, rfl⟩
    . rcases hwrote with ⟨hmoved, hwrites, hfields, -, -⟩
      right
      right
      exact ⟨_, .published hloads hmoved hwrites hfields, by simp [Reported]⟩
  | unpublish req =>
    rcases Transaction.reports_eq_ok.mp h with ⟨response, hok, rfl⟩
    rcases unpublishNote_cases hok with ⟨prev, hfind, hactive, ⟨-, rfl⟩ | hwrote⟩
    . left
      exact ⟨⟨rfl, rfl, rfl⟩, rfl⟩
    . rcases hwrote with ⟨hshared, hwrites, hfields, -, -⟩
      right
      right
      exact ⟨_, .unpublished hfind hactive hshared hwrites hfields, by simp [Reported]⟩
  | grantUpsert req =>
    rcases Transaction.reports_eq_ok.mp h with ⟨response, hok, rfl⟩
    rcases spaceGrantUpsert_frame hok with ⟨grants, rfl⟩
    left
    exact ⟨⟨rfl, rfl, rfl⟩, rfl⟩
  | grantRevoke req =>
    rcases Transaction.reports_eq_ok.mp h with ⟨response, hok, rfl⟩
    rcases spaceGrantRevoke_frame hok with ⟨grants, rfl⟩
    left
    exact ⟨⟨rfl, rfl, rfl⟩, rfl⟩
  | correct req =>
    rcases Transaction.reports_eq_ok.mp h with ⟨response, hok, rfl⟩
    rcases memoryCorrectionApply_cases hok with ⟨prev, hfind, -, -, hquiet | hended | hrestored⟩
    . rcases hquiet with ⟨-, rfl, -, -⟩
      left
      exact ⟨⟨rfl, rfl, rfl⟩, rfl⟩
    . rcases hended with ⟨status, op, hending, hop, -, hwrites, hfields, -⟩
      right
      right
      refine ⟨_, .ended hfind hending hwrites hfields, ?_⟩
      rcases hop with hop | hop
      . simp [Reported, hop]
      . simp [Reported, hop]
    . rcases hrestored with ⟨source, snapshot, restored, haction, hinactive, hop, -, hload, happly, hwrites,
        hfields, -⟩
      right
      right
      exact ⟨_, .restored hfind haction hinactive hload happly hwrites hfields, by simp [Reported, hop]⟩
  | propose owner proposalId proposal =>
    rcases Transaction.reports_eq_ok.mp h with ⟨row, hok, rfl⟩
    rcases insertConsolidationProposal_cases hok with ⟨proposals, -, -, rfl⟩
    left
    exact ⟨⟨rfl, rfl, rfl⟩, rfl⟩
  | review req =>
    rcases Transaction.reports_eq_ok.mp h with ⟨updated, hok, rfl⟩
    rcases consolidationProposalReview_cases hok with
      ⟨proposal, events, hfind, -, -, hactions, houtcome⟩
    rcases houtcome.memory with ⟨-, hsame⟩ | ⟨hpromotes, w, promoted, args, s₁, s₂, hprom, hmemory⟩
    . left
      exact hsame
    . rcases hmemory with ⟨hcontract, hs₁, hs₂⟩
      have haction := ((exists_promotes_iff hactions).mp hpromotes).1
      right
      right
      exact ⟨w, .promoted hfind haction hcontract hprom hs₁ hs₂, by simp [Reported]⟩
  | recordHits noteIds =>
    right
    left
    exact ⟨noteIds, rfl⟩

theorem Op.exec_cases (h : op.exec svc draw s = .ok (r, t))
    : s.Quiet t ∨ ∃ w, Mutation svc draw s t op w ∧ Reported r := by
  rcases op.exec_effect h with hsame | ⟨noteIds, rfl⟩ | hmut
  . exact .inl hsame.quiet
  . left
    change Transaction.reports (Elf.recordHits noteIds draw) (fun _ => none) s = _ at h
    rcases Transaction.reports_eq_ok.mp h with ⟨response, hok, rfl⟩
    exact recordHits_quiet hok
  . exact .inr hmut

/-! ## What every stored note has -/

variable {a : Step} {prev note : MemoryNote}

/-- What the gates and the columns ensure of a stored row. -/
structure MemoryNote.Sound (note : MemoryNote) : Prop where
  scope : isBlank note.scope = false
  type : isBlank note.type = false
  text : isBlank note.text = false
  expiry : note.expiresAt.map timestamptz = note.expiresAt

def Store.Sound (s : Store) : Prop := ∀ id note, s.notes.find? id = some note → note.Sound

theorem MemoryNote.Sound.of_stored (hscope : isBlank note.scope = false)
    (htype : isBlank note.type = false) (htext : isBlank note.text = false)
    : note.stored.Sound := by
  constructor
  . exact hscope
  . exact htype
  . exact htext
  . simp [stored, Function.comp_def]

theorem MemoryNote.Sound.of_gate
    (h : writegate svc.containsSecrets svc.cfg ⟨note.type, note.scope, note.text⟩ = .ok ())
    : note.stored.Sound := by
  have hgate := writegate_ok h
  apply of_stored
  . exact isBlank_of_allows hgate.2.2.2.2.1
  . exact isBlank_of_isAllowedType hgate.2.2.1
  . exact hgate.1

/-- The step lemma: what a mutation stores is sound. -/
theorem Mutation.sound (h : Mutation svc draw s t op w) (hs : s.Sound) : w.next.stored.Sound := by
  cases h with
  | @added req now note withinBudget text h => exact MemoryNote.Sound.of_gate h.gate
  | @replaced req now note withinBudget text prev h =>
    have hprev := hs prev.noteId prev (s.notes.find?_key h.mem)
    exact MemoryNote.Sound.of_stored hprev.scope hprev.type (writegate_ok h.gate).1
  | extracted hdata h => exact MemoryNote.Sound.of_gate h.gate
  | @updated req prev find active gate writes fields =>
    have hprev := hs _ prev find
    exact MemoryNote.Sound.of_stored hprev.scope hprev.type (writegate_ok gate).1
  | @deleted req prev find writes fields =>
    have hprev := hs _ prev find
    exact MemoryNote.Sound.of_stored hprev.scope hprev.type hprev.text
  | @published req prev granted loads moved writes fields =>
    have hprev := hs _ prev loads.find
    have hscope : isBlank req.scope = false := by
      have hshared := isSharedScope_of_sharedScopeAllowed loads.allowed
      simp only [isSharedScope, Bool.or_eq_true, decide_eq_true_eq] at hshared
      rcases hshared with hscope | hscope
      . rw [hscope]
        decide
      . rw [hscope]
        decide
    exact MemoryNote.Sound.of_stored hscope hprev.type hprev.text
  | @unpublished req prev find active shared writes fields =>
    have hprev := hs _ prev find
    have hscope : isBlank "agent_private" = false := by decide
    exact MemoryNote.Sound.of_stored hscope hprev.type hprev.text
  | @ended req prev status op find ending writes fields =>
    have hprev := hs _ prev find
    exact MemoryNote.Sound.of_stored hprev.scope hprev.type hprev.text
  | restored find action inactive load apply writes fields =>
    have hrestored := applyRestoreSnapshot_cases apply
    exact MemoryNote.Sound.of_stored hrestored.scope_blank hrestored.type_blank
      hrestored.text_blank
  | promoted find action contract h before after => exact MemoryNote.Sound.of_gate h.gate

theorem Store.Quiet.sound (h : s.Quiet t) (hs : s.Sound) : t.Sound := by
  intro id note hfind
  rcases h.row hfind with ⟨row, hrow, heq⟩
  have hsound := hs id row hrow
  rw [heq]
  exact ⟨hsound.scope, hsound.type, hsound.text, hsound.expiry⟩

theorem sound_step (hs : s.Sound) (h : Steps s a t) : t.Sound := by
  rcases h.cases with rfl | ⟨r, hok⟩
  . exact hs
  . rcases Op.exec_cases hok with hquiet | ⟨w, hmut, -⟩
    . exact hquiet.sound hs
    . intro id note hfind
      rw [hmut.writes.notes_eq] at hfind
      split at hfind
      . cases hfind
        exact hmut.sound hs
      . exact hs id note hfind

theorem Store.Sound.reachable (h : Run Steps Store.empty as s) : s.Sound := by
  apply h.invariant (fun s a t hs hstep => sound_step hs hstep)
  intro id note hfind
  cases hfind

end Elf
