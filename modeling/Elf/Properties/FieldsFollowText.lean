import Elf.Service.Lemmas.Op

/-!
This module contains when the structured fields of a note follow its text: once a step changes the
text, the note's field rows are those that the request with the new text carries.
-/

namespace Elf

open Text

/-- The field rows that the request of a step derives for a note. -/
def Op.derivedRows (draw : Draw) (noteId : Uuid) : Op → List NoteField
  | addNote _ now note _ => note.derivedRows draw noteId now
  | addEvent _ req note now _ =>
    (NoteProcessingData.fromRequestAndNote req note).derivedRows draw noteId now
  | _ => []

def Store.textOf (s : Store) (noteId : Uuid) : Option String :=
  (s.notes.find? noteId).map MemoryNote.text

/-- Where the step changed a text, it left just the field rows of its request. -/
def FieldsFollow (s : Store) (a : Step) (t : Store) : Prop :=
  ∀ noteId, t.textOf noteId ≠ s.textOf noteId
    → noteFields t.fields noteId = a.op.derivedRows a.draw noteId

/--
The steps that do not leave field rows behind. Neither a restore nor the promotion of an update
touches them, so these may only change the text of a note without such rows.
-/
def KeepsFields (s : Store) (a : Step) : Prop :=
  match a.op with
  | .correct req =>
    req.action = .restore → ∀ prev source snapshot, s.notes.find? req.noteId = some prev
      → prev.status ≠ "active"
      → loadRestoreSnapshot s prev.noteId req.restoreVersionId = .ok (source, snapshot)
      → snapshot.get "text" ≠ some (.str prev.text) → noteFields s.fields prev.noteId = []
  | .review req =>
    req.reviewAction = .apply → ∀ proposal prev payload,
      s.proposals.find? req.proposalId = some proposal
      → proposal.applyIntent = .updateDerivedNote → proposal.target s = some prev
      → decodePromotedMemoryPayload proposal = .ok payload → payload.text ≠ prev.text
      → noteFields s.fields prev.noteId = []
  | _ => True

variable {svc : ElfService} {draw : Draw} {s t : Store} {op : Op} {a : Step} {w : NoteWrite}

/-! ## Rows of other notes -/

theorem noteFields_deleteIf_of_ne {c : Prop} [Decidable c] {noteId other : Uuid}
    (hne : noteId ≠ other)
    : noteFields (if c then deleteNoteFields s noteId else s).fields other
      = noteFields s.fields other := by
  split
  . rw [noteFields_deleteNoteFields, if_neg hne]
  . rfl

/-- A mutation leaves the field rows of other notes alone. -/
theorem Mutation.otherFields {other : Uuid} (h : Mutation svc draw s t op w)
    (hne : w.next.noteId ≠ other) : noteFields t.fields other = noteFields s.fields other := by
  cases h with
  | added h => exact noteFields_upsertStructuredIfPresent_of_ne h.fields hne
  | replaced h =>
    rw [noteFields_upsertStructuredIfPresent_of_ne h.fields hne]
    exact noteFields_deleteIf_of_ne hne
  | extracted hdata h => exact h.otherFields other hne
  | updated find active gate writes fields =>
    rw [fields]
    exact noteFields_deleteIf_of_ne hne
  | deleted find writes fields => rw [fields]
  | published loads moved writes fields => rw [fields]
  | unpublished find active shared writes fields => rw [fields]
  | ended find ending writes fields => rw [fields]
  | restored find action inactive load apply writes fields => rw [fields]
  | promoted find action contract h before after => rw [after.2, h.fields, before.2]

/-- Every field row belongs to a stored note. -/
def Store.FieldsOwned (s : Store) : Prop :=
  ∀ noteId, s.notes.find? noteId = none → noteFields s.fields noteId = []

theorem fields_owned_step (hs : s.FieldsOwned) (h : Steps s a t) : t.FieldsOwned := by
  rcases h.cases with rfl | ⟨r, hok⟩
  . exact hs
  . intro noteId hnone
    rcases Op.exec_cases hok with hquiet | ⟨w, hmut, -⟩
    . rw [hquiet.fields]
      apply hs
      have hid := hquiet.notes noteId
      rw [hnone, Option.map_none] at hid
      exact Option.map_eq_none_iff.mp hid.symm
    . rw [hmut.writes.notes_eq] at hnone
      split at hnone
      . cases hnone
      next hne =>
        rw [hmut.otherFields hne]
        exact hs noteId hnone

theorem fields_owned (h : Run Steps Store.empty as s) : s.FieldsOwned := by
  apply h.invariant (fun s a t hs hstep => fields_owned_step hs hstep)
  intro noteId hnone
  rfl

/-! ## Rows of the note that is written -/

theorem Store.Writes.textOf (h : s.Writes t w) (noteId : Uuid)
    : t.textOf noteId = if w.next.noteId = noteId then some w.next.text else s.textOf noteId := by
  unfold Store.textOf
  rw [h.notes_eq]
  split
  . rfl
  . rfl

theorem Store.Writes.textOf_prev (h : s.Writes t w)
    : s.textOf w.next.noteId = w.prev.map MemoryNote.text := by
  unfold Store.textOf
  rw [h.prev_eq]

theorem Store.Quiet.textOf (h : s.Quiet t) (noteId : Uuid) : t.textOf noteId = s.textOf noteId := by
  have htext : MemoryNote.text = MemoryNote.text ∘ MemoryNote.unhit := rfl
  unfold Store.textOf
  rw [htext, ← Option.map_map, h.notes, Option.map_map]

/-- The step follows the text of the note that it writes. -/
def Mutation.Follows (w : NoteWrite) (t : Store) (rows : List NoteField) : Prop :=
  some w.next.text ≠ w.prev.map MemoryNote.text → noteFields t.fields w.next.noteId = rows

theorem Mutation.fieldsFollow_iff (h : Mutation a.svc a.draw s t a.op w)
    : FieldsFollow s a t ↔ Mutation.Follows w t (a.op.derivedRows a.draw w.next.noteId) := by
  have hwrites := h.writes
  constructor
  . intro hfollow hchanged
    apply hfollow
    rw [hwrites.textOf, if_pos rfl, hwrites.textOf_prev]
    exact hchanged
  . intro hfollow noteId hchanged
    rw [hwrites.textOf] at hchanged
    split at hchanged
    next hid =>
      subst hid
      rw [hwrites.textOf_prev] at hchanged
      exact hfollow hchanged
    next => exact absurd rfl hchanged

/-- A new note has the field rows of its request, and so has one whose text `add_note` changed. -/
theorem Mutation.follows_of_keeps (hs : s.FieldsOwned) (h : Mutation svc draw s t op w)
    (hkeep : KeepsFields s ⟨svc, draw, op⟩)
    : Mutation.Follows w t (op.derivedRows draw w.next.noteId) := by
  intro hchanged
  cases h with
  | added h => exact noteFields_upsertStructuredIfPresent h.fields (hs _ h.writes.prev_eq)
  | @replaced req now note withinBudget text prev h =>
    have htext : prev.text ≠ text := fun heq => hchanged (congrArg some heq.symm)
    have hfields := h.fields
    rw [if_pos htext] at hfields
    apply noteFields_upsertStructuredIfPresent hfields
    rw [noteFields_deleteNoteFields, if_pos rfl]
  | extracted hdata h =>
    have hrows := h.fields (hs _ h.writes.prev_eq)
    rw [hdata] at hrows
    exact hrows
  | @updated req prev find active gate writes fields =>
    have htext : prev.text ≠ (req.written svc draw prev).text :=
      fun heq => hchanged (congrArg some heq.symm)
    rw [fields, if_pos htext, noteFields_deleteNoteFields]
    exact if_pos rfl
  | deleted find writes fields => exact absurd rfl hchanged
  | published loads moved writes fields => exact absurd rfl hchanged
  | unpublished find active shared writes fields => exact absurd rfl hchanged
  | ended find ending writes fields => exact absurd rfl hchanged
  | @restored req prev restored source snapshot find action inactive load apply writes fields =>
    have hrestored := applyRestoreSnapshot_cases apply
    have hid : restored.noteId = prev.noteId := by rw [hrestored.frame]
    have htext : restored.text ≠ prev.text := fun heq => hchanged (congrArg some heq)
    have hempty : noteFields s.fields prev.noteId = [] := by
      apply hkeep action prev source snapshot find inactive load
      rw [hrestored.text_get]
      intro heq
      rw [Option.some.injEq, Json.str.injEq] at heq
      exact htext heq
    rw [← hid] at hempty
    rw [fields]
    exact hempty
  | @promoted req w proposal promoted args s₁ s₂ find action contract h before after =>
    have hwrites := writes_of_same before.1 h.writes after.1
    have hrows : noteFields t.fields w.next.noteId = noteFields s.fields w.next.noteId := by
      rw [after.2, h.fields, before.2]
    rcases h.kind with ⟨-, -, hprev, -⟩ | ⟨hintent, -, prev, hprev, htarget, -, hid, -⟩
    . rw [hrows]
      apply hs
      rw [hwrites.prev_eq, hprev]
    . rcases h.payload with ⟨payload, hpayload, htext, -⟩
      rw [decodePromotedMemoryPayload_congr contract] at hpayload
      rw [ConsolidationProposal.target_congr contract before.1.1] at htarget
      rw [ConsolidationProposal.eq_of_unreviewed contract] at hintent
      rw [hrows, hid]
      apply hkeep action proposal prev payload find hintent htarget hpayload
      intro heq
      rw [hprev, htext, heq] at hchanged
      exact hchanged rfl

theorem fields_follow_step (hs : s.FieldsOwned) (hkeep : KeepsFields s a) (h : Steps s a t)
    : FieldsFollow s a t := by
  rcases h.cases with rfl | ⟨r, hok⟩
  . intro noteId hchanged
    exact absurd rfl hchanged
  . rcases Op.exec_cases hok with hquiet | ⟨w, hmut, -⟩
    . intro noteId hchanged
      exact absurd (hquiet.textOf noteId) hchanged
    . rw [hmut.fieldsFollow_iff]
      exact hmut.follows_of_keeps hs hkeep

/-! ## The condition is exact -/

theorem keepsFields_of_correct {req : MemoryCorrectionRequest} {r : MemoryCorrectionResponse}
    (hok : memoryCorrectionApply svc req draw s = .ok (r, t))
    (h : FieldsFollow s ⟨svc, draw, .correct req⟩ t) : KeepsFields s ⟨svc, draw, .correct req⟩ := by
  intro haction prev source snapshot hfind hinactive hload htext
  rcases memoryCorrectionApply_cases hok with ⟨prev', hfind', -, -, hquiet | hended | hrestored⟩
  . rcases hquiet with ⟨hunneeded, -⟩
    rw [haction] at hunneeded
    cases hunneeded with
    | restore hactive =>
      rw [hfind] at hfind'
      cases hfind'
      exact absurd hactive hinactive
  . rcases hended with ⟨status, op, hending, -⟩
    rw [haction] at hending
    cases hending
  . rcases hrestored with
      ⟨source', snapshot', restored, -, -, -, -, hload', happly, hwrites, hfields, -⟩
    rw [hfind] at hfind'
    cases hfind'
    rw [hload] at hload'
    cases hload'
    have hrestored := applyRestoreSnapshot_cases happly
    have hid : restored.noteId = prev.noteId := by rw [hrestored.frame]
    have hempty := h restored.noteId (by
      rw [hwrites.textOf]
      change (if restored.noteId = restored.noteId then some restored.text else _) ≠ _
      rw [if_pos rfl, hid]
      unfold Store.textOf
      rw [s.notes.find?_key (Table.mem_of_find? hfind)]
      intro heq
      apply htext
      rw [hrestored.text_get]
      exact congrArg (Option.map Json.str) heq)
    rw [hid, hfields] at hempty
    exact hempty

theorem keepsFields_of_review {req : ConsolidationProposalReviewRequest}
    {updated : ConsolidationProposal}
    (hok : consolidationProposalReview svc req draw s = .ok (updated, t))
    (h : FieldsFollow s ⟨svc, draw, .review req⟩ t) : KeepsFields s ⟨svc, draw, .review req⟩ := by
  intro haction proposal prev payload hfind hintent htarget hpayload htext
  rcases consolidationProposalReview_cases hok with
    ⟨proposal', events, hfind', -, -, hactions, houtcome⟩
  rw [hfind] at hfind'
  cases hfind'
  have hpromotes := (exists_promotes_iff hactions).mpr ⟨haction, by rw [hintent]; rfl⟩
  rcases houtcome.memory with ⟨hnone, -⟩ | ⟨-, w, promoted, args, s₁, s₂, hprom, hmemory⟩
  . rcases hpromotes with ⟨event, hmem, hpromotes⟩
    rw [hnone event hmem] at hpromotes
    cases hpromotes
  . rcases hmemory with ⟨hcontract, hs₁, hs₂⟩
    have hwrites := writes_of_same hs₁.1 hprom.writes hs₂.1
    have hrows : noteFields t.fields w.next.noteId = noteFields s.fields w.next.noteId := by
      rw [hs₂.2, hprom.fields, hs₁.2]
    rcases hprom.kind with ⟨hcreate, -⟩ | ⟨-, -, prev', hprev, htarget', -, hid, -⟩
    . rw [ConsolidationProposal.eq_of_unreviewed hcontract] at hcreate
      rw [hcreate] at hintent
      cases hintent
    . rw [ConsolidationProposal.target_congr hcontract hs₁.1.1, htarget] at htarget'
      cases htarget'
      rcases hprom.payload with ⟨payload', hpayload', htext', -⟩
      rw [decodePromotedMemoryPayload_congr hcontract, hpayload] at hpayload'
      cases hpayload'
      have hempty := h w.next.noteId (by
        rw [hwrites.textOf, if_pos rfl, hwrites.textOf_prev, hprev, htext']
        intro heq
        exact htext (Option.some.inj heq))
      rw [hrows, hid] at hempty
      exact hempty

/-- A committed step that follows the texts meets the condition. -/
theorem keepsFields_of_follow (hok : a.exec s = .ok (r, t)) (h : FieldsFollow s a t)
    : KeepsFields s a := by
  rcases a with ⟨svc, draw, op⟩
  cases op with
  | correct req =>
    rcases Transaction.reports_eq_ok.mp hok with ⟨response, hok, -⟩
    exact keepsFields_of_correct hok h
  | review req =>
    rcases Transaction.reports_eq_ok.mp hok with ⟨updated, hok, -⟩
    exact keepsFields_of_review hok h
  | addNote req now note withinBudget => trivial
  | addEvent event req note now withinBudget => trivial
  | update req => trivial
  | delete req => trivial
  | publish req => trivial
  | unpublish req => trivial
  | grantUpsert req => trivial
  | grantRevoke req => trivial
  | propose owner proposalId proposal => trivial
  | recordHits noteIds => trivial

/-! ## Runs -/

theorem fields_follow_steps (hs : s.FieldsOwned) (h : s.Meets KeepsFields as)
    : s.AllSteps FieldsFollow as := by
  induction as generalizing s with
  | nil => trivial
  | cons a as ih =>
    constructor
    . exact fields_follow_step hs h.1 rfl
    . apply ih
      . exact fields_owned_step hs rfl
      . exact h.2

theorem keepsFields_steps (h : s.AllSteps FieldsFollow as)
    : s.Meets (fun s a => (∃ out, a.exec s = .ok out) → KeepsFields s a) as := by
  induction as generalizing s with
  | nil => trivial
  | cons a as ih =>
    constructor
    . rintro ⟨⟨r, t⟩, hok⟩
      have hfollow := h.1
      rw [Transaction.next_of_ok hok] at hfollow
      exact keepsFields_of_follow hok hfollow
    . apply ih
      exact h.2

/--
In every run of steps that meet the condition, every step leaves the field rows that its request
derives where it changes a text. Conversely, every committed step of a run that does so meets it.
-/
theorem fields_follow_text (as : List Step)
    : (Store.empty.Meets KeepsFields as → Store.empty.AllSteps FieldsFollow as)
      ∧ (Store.empty.AllSteps FieldsFollow as
        → Store.empty.Meets (fun s a => (∃ out, a.exec s = .ok out) → KeepsFields s a) as) := by
  constructor
  . apply fields_follow_steps
    intro noteId hnone
    rfl
  . exact keepsFields_steps

def sampleFields : StructuredFields := {
  summary := some "Port 22 is closed."
  facts := none
  concepts := none
  entities := none
  relations := none }

/-- A note gets a new text with a summary, is deleted, and is restored with its first text. -/
def restoreFirstText : List Step := [
  sampleAdd 1 "p" "agent_private" (sampleNote (some "ports") "All ports are open."),
  sampleAdd 2 "p" "agent_private"
    { sampleNote (some "ports") "Port 22 is closed." with structured := some sampleFields },
  sampleStep 3 (.delete ⟨"t", "p", "a", 1⟩),
  sampleStep 4 (.correct (sampleCorrection 1 .restore (some 2)))]

theorem fields_follow_text_restoreFirstText
    : Store.empty.AllSteps FieldsFollow (restoreFirstText.take 3) := by
  apply (fields_follow_text (restoreFirstText.take 3)).1
  exact ⟨trivial, trivial, trivial, trivial⟩

theorem not_fields_follow_restoreFirstText
    : ¬ Store.empty.AllSteps FieldsFollow restoreFirstText := by
  rintro ⟨-, -, -, hlast, -⟩
  have hrows := hlast 1 (by decide +kernel)
  revert hrows
  decide +kernel

end Elf
