import Elf.Service.Lemmas.Op

/-!
This module contains what is counted of the searches that find a note: whatever else is requested, a note
has been hit as often as searches counted it since it was stored.
-/

namespace Elf

variable {svc : ElfService} {draw : Draw} {s t u : Store} {op : Op} {w : NoteWrite} {note : MemoryNote}
  {as : List Step} {a : Step}

/-! ## Rows -/

/-- What of a row no transaction changes, but for searches, which count hits. -/
structure MemoryNote.Follows (row note : MemoryNote) : Prop where
  tenant : row.tenantId = note.tenantId
  agent : row.agentId = note.agentId
  hits : row.hitCount = note.hitCount
  lastHit : row.lastHitAt.map timestamptz = note.lastHitAt.map timestamptz

theorem MemoryNote.Follows.refl (note : MemoryNote) : note.Follows note := ⟨rfl, rfl, rfl, rfl⟩

theorem MemoryNote.Follows.trans {row mid note : MemoryNote} (h : row.Follows mid)
    (h' : mid.Follows note) : row.Follows note where
  tenant := h.tenant.trans h'.tenant
  agent := h.agent.trans h'.agent
  hits := h.hits.trans h'.hits
  lastHit := h.lastHit.trans h'.lastHit

theorem MemoryNote.stored_follows (note : MemoryNote) : note.stored.Follows note where
  tenant := rfl
  agent := rfl
  hits := rfl
  lastHit := by simp [stored, Function.comp_def]

/-- No search has hit the note. -/
def MemoryNote.Unhit (note : MemoryNote) : Prop := note.hitCount = 0 ∧ note.lastHitAt = none

theorem MemoryNote.Follows.unhit {row note : MemoryNote} (h : row.Follows note) (hnote : note.Unhit)
    : row.Unhit := by
  have hlast := h.lastHit
  rw [hnote.2] at hlast
  exact ⟨h.hits.trans hnote.1, Option.map_eq_none_iff.mp hlast⟩

structure Store.KeepsRows (s t : Store) : Prop where
  kept : ∀ id note, s.notes.find? id = some note →
    ∃ row, t.notes.find? id = some row ∧ row.Follows note
  fresh : ∀ id row, s.notes.find? id = none → t.notes.find? id = some row → row.Unhit

theorem Store.KeepsRows.of_notes (h : t.notes = s.notes) : s.KeepsRows t := by
  constructor
  . intro id note hfind
    rw [h]
    exact ⟨note, hfind, .refl note⟩
  . intro id row hnone hfind
    rw [h, hnone] at hfind
    cases hfind

theorem Store.KeepsRows.trans (h : s.KeepsRows t) (h' : t.KeepsRows u) : s.KeepsRows u := by
  constructor
  . intro id note hfind
    rcases h.kept id note hfind with ⟨row, hrow, hfollows⟩
    rcases h'.kept id row hrow with ⟨later, hlater, hfollows'⟩
    exact ⟨later, hlater, hfollows'.trans hfollows⟩
  . intro id row hnone hfind
    cases hmid : t.notes.find? id with
    | none => exact h'.fresh id row hmid hfind
    | some mid =>
      rcases h'.kept id mid hmid with ⟨later, hlater, hfollows⟩
      cases hlater.symm.trans hfind
      exact hfollows.unhit (h.fresh id mid hnone hmid)

theorem Store.KeepsRows.of_start (h : u.KeepsRows t) (hnotes : u.notes = s.notes) : s.KeepsRows t := by
  have hstart : s.KeepsRows u := .of_notes hnotes
  exact hstart.trans h

theorem Store.Writes.keepsRows (h : s.Writes t w)
    (hprev : ∀ prev, w.prev = some prev → w.next.Follows prev) (hnew : w.prev = none → w.next.Unhit)
    : s.KeepsRows t := by
  constructor
  . intro id note hfind
    have hnext := h.notes_eq id
    by_cases hid : w.next.noteId = id
    . rw [if_pos hid] at hnext
      have hnote := h.prev_eq
      rw [hid, hfind] at hnote
      exact ⟨_, hnext, w.next.stored_follows.trans (hprev note hnote.symm)⟩
    . rw [if_neg hid] at hnext
      exact ⟨note, hnext.trans hfind, .refl note⟩
  . intro id row hnone hfind
    have hnext := h.notes_eq id
    by_cases hid : w.next.noteId = id
    . rw [if_pos hid, hfind] at hnext
      have hnote := h.prev_eq
      rw [hid, hnone] at hnote
      rw [Option.some.inj hnext]
      exact w.next.stored_follows.unhit (hnew hnote.symm)
    . rw [if_neg hid, hnone, hfind] at hnext
      cases hnext

theorem promoteProposal_keepsRows {proposal : ConsolidationProposal} {args : PromotionArgs}
    {promoted : Option Uuid} (h : promoteProposal svc draw s proposal args = .ok (promoted, t))
    : s.KeepsRows t := by
  unfold promoteProposal at h
  split at h
  next hintent =>
    simp only [Except.bind_eq_ok, Except.pure_eq_ok, Prod.mk.injEq] at h
    rcases h with ⟨⟨noteId, t⟩, hcreate, rfl, rfl⟩
    rcases createPromotedMemoryNote_cases hcreate hintent with ⟨payload, scope, -, -, hpromoted⟩
    exact hpromoted.writes.keepsRows nofun fun _ => ⟨rfl, rfl⟩
  next hintent =>
    simp only [Except.bind_eq_ok, Except.pure_eq_ok, Prod.mk.injEq] at h
    rcases h with ⟨⟨noteId, t⟩, hupdate, rfl, rfl⟩
    rcases updatePromotedMemoryNote_cases hupdate hintent with ⟨payload, scope, prev, -, -, hpromoted⟩
    have hfollows : (promotedUpdate svc proposal payload scope prev args).Follows prev :=
      ⟨rfl, rfl, rfl, rfl⟩
    apply hpromoted.writes.keepsRows _ nofun
    rintro _ ⟨⟩
    exact hfollows
  all_goals
    cases h
    exact .of_notes rfl

theorem applyConsolidationProposalToMemory_keepsRows {proposal updated : ConsolidationProposal}
    {args : PromotionArgs}
    (h : applyConsolidationProposalToMemory svc draw s proposal args = .ok (updated, t))
    : s.KeepsRows t := by
  simp only [applyConsolidationProposalToMemory, Except.bind_eq_ok] at h
  rcases h with ⟨⟨promoted, s'⟩, hpromote, h⟩
  have hkeeps := promoteProposal_keepsRows hpromote
  cases promoted with
  | none =>
    cases h
    exact hkeeps
  | some noteId =>
    rcases updateConsolidationProposal_eq_ok h with ⟨row, -, -, -, -, -, proposals, rfl⟩
    exact hkeeps.trans (.of_notes rfl)

theorem reviewStep_keepsRows {req : ConsolidationProposalReviewRequest}
    {current updated : ConsolidationProposal} {lastState nextState : ConsolidationReviewState}
    {action : ConsolidationReviewAction} {stepIndex : Nat}
    (h : reviewStep svc draw req s current lastState stepIndex (action, nextState)
      = .ok (updated, t))
    : s.KeepsRows t := by
  simp only [reviewStep, Except.bind_eq_ok, insertReviewEvent, Table.insert_eq_ok,
    Except.pure_eq_ok] at h
  rcases h with ⟨_, -, s₁, ⟨reviews, -, rfl⟩, ⟨moved, s₂⟩, hmoved, h⟩
  rcases updateConsolidationProposal_eq_ok hmoved with
    ⟨row, -, -, -, rfl, -, proposals, rfl⟩
  split at h
  next =>
    have hkeeps := applyConsolidationProposalToMemory_keepsRows h
    exact hkeeps.of_start rfl
  next =>
    rw [Except.pure_eq_ok] at h
    cases h
    exact .of_notes rfl

theorem reviewStepsFrom_keepsRows {req : ConsolidationProposalReviewRequest}
    {updated result : ConsolidationProposal} {lastState : ConsolidationReviewState} {stepIndex : Nat}
    {steps : List ReviewStep}
    (h : reviewStepsFrom svc draw req s updated lastState stepIndex steps = .ok (result, t))
    : s.KeepsRows t := by
  induction steps generalizing s updated lastState stepIndex with
  | nil =>
    cases h
    exact .of_notes rfl
  | cons step steps ih =>
    rcases step with ⟨action, nextState⟩
    simp only [reviewStepsFrom, Except.bind_eq_ok] at h
    rcases h with ⟨⟨proposal, s'⟩, hstep, h⟩
    exact (reviewStep_keepsRows hstep).trans (ih h)

/-- A mutation that is not one by a review follows the row that it replaces. -/
theorem Mutation.follows (h : Mutation svc draw s t op w) (hop : ∀ req, op ≠ .review req)
    {prev : MemoryNote} (hprev : w.prev = some prev) : w.next.Follows prev := by
  cases h with
  | added h => cases hprev
  | extracted hdata h => cases hprev
  | replaced h =>
    cases hprev
    exact ⟨rfl, rfl, rfl, rfl⟩
  | updated find active gate writes fields =>
    cases hprev
    exact ⟨rfl, rfl, rfl, rfl⟩
  | deleted find writes fields =>
    cases hprev
    exact ⟨rfl, rfl, rfl, rfl⟩
  | published loads moved writes fields =>
    cases hprev
    exact ⟨rfl, rfl, rfl, rfl⟩
  | unpublished find active shared writes fields =>
    cases hprev
    exact ⟨rfl, rfl, rfl, rfl⟩
  | ended find ending writes fields =>
    cases hprev
    exact ⟨rfl, rfl, rfl, rfl⟩
  | @restored req prev restored source snapshot find action inactive load apply writes fields =>
    cases hprev
    have hframe := (applyRestoreSnapshot_cases apply).frame
    have hrestored : restored.Follows prev := by
      rw [hframe]
      exact ⟨rfl, rfl, rfl, rfl⟩
    exact ⟨hrestored.tenant, hrestored.agent, hrestored.hits, hrestored.lastHit⟩
  | @promoted req w proposal promoted args s₁ s₂ find action contract h before after =>
    exact absurd rfl (hop req)

theorem Mutation.unhit (h : Mutation svc draw s t op w) (hop : ∀ req, op ≠ .review req)
    (hprev : w.prev = none) : w.next.Unhit := by
  cases h with
  | added h => exact ⟨rfl, rfl⟩
  | extracted hdata h => exact ⟨rfl, rfl⟩
  | promoted find action contract h before after => exact absurd rfl (hop _)
  | _ => cases hprev

theorem Op.exec_keepsRows (h : op.exec svc draw s = .ok (r, t)) (hmut : Mutation svc draw s t op w)
    : s.KeepsRows t := by
  by_cases hreview : ∃ req, op = .review req
  . rcases hreview with ⟨req, rfl⟩
    rcases Transaction.reports_eq_ok.mp h with ⟨updated, hok, -⟩
    simp only [consolidationProposalReview, Except.bind_eq_ok] at hok
    rcases hok with ⟨_, -, existing, -, steps, -, hsteps⟩
    exact reviewStepsFrom_keepsRows hsteps
  . have hop : ∀ req, op ≠ .review req := fun req heq => hreview ⟨req, heq⟩
    exact hmut.writes.keepsRows (fun prev hprev => hmut.follows hop hprev) (hmut.unhit hop)

/-! ## Hits -/

/-- When a step counts a hit of the note, if it does. -/
def Step.hitTime (a : Step) (id : Uuid) : Option Nat :=
  match a.op with
  | .recordHits noteIds => if noteIds.contains id then some (timestamptz (a.draw.clock 0)) else none
  | _ => none

def hitTimes (id : Uuid) (as : List Step) : List Nat := as.filterMap (·.hitTime id)

theorem hitTimes_cons (id : Uuid) (a : Step) (as : List Step)
    : hitTimes id (a :: as) = (a.hitTime id).toList ++ hitTimes id as := by
  unfold hitTimes
  rw [List.filterMap_cons]
  cases a.hitTime id with
  | none => rfl
  | some time => rfl

/-- A row as it is when the other one was hit at these times, the last of them last. -/
structure HitSince (row note : MemoryNote) (times : List Nat) : Prop where
  count : row.hitCount = note.hitCount + times.length
  last : row.lastHitAt.map timestamptz = (times.getLast? <|> note.lastHitAt.map timestamptz)

theorem HitSince.trans {row mid note : MemoryNote} {times later : List Nat}
    (h : HitSince row mid later) (h' : HitSince mid note times) : HitSince row note (times ++ later) where
  count := by rw [h.count, h'.count, List.length_append, Nat.add_assoc]
  last := by simp [h.last, h'.last, List.getLast?_append, Option.or_assoc]

theorem HitSince.of_follows {row : MemoryNote} (h : row.Follows note) : HitSince row note [] where
  count := h.hits
  last := h.lastHit

theorem recordHits_next {noteIds : List Uuid}
    : ((Step.mk svc draw (.recordHits noteIds)).exec.next s).notes
      = s.notes.updateWhere (fun row => noteIds.contains row.noteId) fun row =>
        { row with hitCount := row.hitCount + 1, lastHitAt := some (timestamptz (draw.clock 0)) } := rfl

theorem hitSince_step {id : Uuid} (h : Steps s a t) (hfind : s.notes.find? id = some note)
    : ∃ row, t.notes.find? id = some row ∧ HitSince row note (a.hitTime id).toList := by
  rcases a with ⟨svc, draw, op⟩
  by_cases hop : ∃ noteIds, op = .recordHits noteIds
  . rcases hop with ⟨noteIds, rfl⟩
    have hid : note.noteId = id := Table.key_of_find? hfind
    unfold Steps at h
    rw [← h, recordHits_next, Table.find?_updateWhere, hfind, Option.map_some]
    refine ⟨_, rfl, ?_⟩
    unfold Step.hitTime
    dsimp only
    rw [hid]
    split
    next => exact ⟨rfl, by simp⟩
    next => exact .of_follows (.refl note)
  . have hnone : Step.hitTime ⟨svc, draw, op⟩ id = none := by
      cases op with
      | recordHits noteIds => exact absurd ⟨noteIds, rfl⟩ hop
      | _ => rfl
    rw [hnone]
    rcases h.cases with rfl | ⟨r, hok⟩
    . exact ⟨note, hfind, .of_follows (.refl note)⟩
    rcases op.exec_effect hok with hsame | hhits | ⟨w, hmut, -⟩
    . rw [hsame.1.1]
      exact ⟨note, hfind, .of_follows (.refl note)⟩
    . exact absurd hhits hop
    . rcases (op.exec_keepsRows hok hmut).kept id note hfind with ⟨row, hrow, hfollows⟩
      exact ⟨row, hrow, .of_follows hfollows⟩

theorem hitSince_run {id : Uuid} (h : Run Steps s as t) (hfind : s.notes.find? id = some note)
    : ∃ row, t.notes.find? id = some row ∧ HitSince row note (hitTimes id as) := by
  induction h generalizing note with
  | nil s => exact ⟨note, hfind, .of_follows (.refl note)⟩
  | cons head tail ih =>
    rcases hitSince_step head hfind with ⟨mid, hmid, hstep⟩
    rcases ih hmid with ⟨row, hrow, htail⟩
    refine ⟨row, hrow, ?_⟩
    rw [hitTimes_cons]
    exact htail.trans hstep

/-! ## Since a note was stored -/

/-- Every row was stored with its columns cut down to what they keep. -/
def Store.LastHits (s : Store) : Prop :=
  ∀ note ∈ s.notes, note.lastHitAt.map timestamptz = note.lastHitAt

theorem lastHits_step (hs : s.LastHits) (h : Steps s a t) : t.LastHits := by
  rcases a with ⟨svc, draw, op⟩
  rcases h.cases with rfl | ⟨r, hok⟩
  . exact hs
  rcases op.exec_effect hok with hsame | ⟨noteIds, rfl⟩ | ⟨w, hmut, -⟩
  . intro note hnote
    rw [hsame.1.1] at hnote
    exact hs note hnote
  . unfold Steps at h
    intro note hnote
    rw [← h, recordHits_next, Table.mem_updateWhere] at hnote
    rcases hnote with ⟨row, hrow, rfl⟩
    split
    next => simp
    next => exact hs row hrow
  . intro note hnote
    have hfind := t.notes.find?_key hnote
    rw [hmut.writes.notes_eq] at hfind
    split at hfind
    next =>
      rw [← Option.some.inj hfind]
      simp [MemoryNote.stored, Function.comp_def]
    next => exact hs note (Table.mem_of_find? hfind)

/-- A step stores a note that no search has hit. -/
theorem unhit_of_new {id : Uuid} (h : Steps s a t) (hnew : s.notes.find? id = none)
    (hfind : t.notes.find? id = some note) : note.Unhit := by
  rcases a with ⟨svc, draw, op⟩
  rcases h.cases with rfl | ⟨r, hok⟩
  . rw [hnew] at hfind
    cases hfind
  rcases op.exec_effect hok with hsame | ⟨noteIds, rfl⟩ | ⟨w, hmut, -⟩
  . rw [hsame.1.1, hnew] at hfind
    cases hfind
  . unfold Steps at h
    rw [← h, recordHits_next, Table.find?_updateWhere, hnew] at hfind
    cases hfind
  . exact (op.exec_keepsRows hok hmut).fresh id note hnew hfind

/--
Whatever is requested besides, a note has been hit as often as searches counted it since it was stored, and
was last hit when the last of them counted it.
-/
theorem hits_counted (h : Run Steps Store.empty as s) (hnote : note ∈ s.notes)
    : ∃ before a after u v first, as = before ++ a :: after ∧ Run Steps Store.empty before u
        ∧ u.notes.find? note.noteId = none ∧ Steps u a v ∧ v.notes.find? note.noteId = some first
        ∧ note.hitCount = (hitTimes note.noteId after).length
        ∧ note.lastHitAt = (hitTimes note.noteId after).getLast? := by
  have hstamped : s.LastHits := h.invariant (fun _ _ _ hs hstep => lastHits_step hs hstep) nofun
  have hfind := s.notes.find?_key hnote
  have hstored : ∃ row, s.notes.find? note.noteId = some row := ⟨note, hfind⟩
  rcases h.exists_first (P := fun s => ∃ row, s.notes.find? note.noteId = some row) nofun hstored with
    ⟨before, a, after, u, v, hsplit, hbefore, hunstored, hstep, ⟨first, hfirst⟩, hafter⟩
  have hnone := Option.eq_none_iff_forall_not_mem.mpr fun row hrow => hunstored ⟨row, hrow⟩
  have hunhit := unhit_of_new hstep hnone hfirst
  rcases hitSince_run hafter hfirst with ⟨row, hrow, hsince⟩
  cases hfind.symm.trans hrow
  refine ⟨before, a, after, u, v, first, hsplit, hbefore, hnone, hstep, hfirst, ?_, ?_⟩
  . rw [hsince.count, hunhit.1, Nat.zero_add]
  . rw [← hstamped note hnote, hsince.last, hunhit.2]
    simp

/-- A note is stored, found, moved to the project and found twice more, once beside others. -/
def sampleHits : List Step := [
  sampleAdd 1 "p" "agent_private" (sampleNote none "The key is in the safe."),
  sampleStep 2 (.recordHits [1]),
  sampleStep 3 (.publish ⟨"t", "p", "a", 1, "project_shared"⟩),
  sampleStep 4 (.recordHits [2, 1]),
  sampleStep 5 (.recordHits [1])]

theorem hits_counted_sampleHits
    : ∃ note ∈ (Store.empty.run sampleHits).notes, note.hitCount = 3
      ∧ ∃ after, note.hitCount = (hitTimes note.noteId after).length := by
  have hhits : (Store.empty.run sampleHits).notes.rows.any (·.hitCount = 3) = true := by
    decide +kernel
  rcases List.any_eq_true.mp hhits with ⟨note, hnote, hcount⟩
  rcases hits_counted (run_iff.mpr rfl) hnote with
    ⟨_, _, after, _, _, _, -, -, -, -, -, hafter, -⟩
  exact ⟨note, hnote, of_decide_eq_true hcount, after, hafter⟩

end Elf
