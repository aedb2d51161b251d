import Elf.Service.Lemmas.MemoryCorrections

/-!
This module contains what one note of an `add_note` request can do to the store.
-/

namespace Elf

open Text

variable {svc : ElfService} {draw : Draw} {s t : Store} {prev : MemoryNote} {ctx : AddNoteContext}
  {note : AddNoteInput}

/-! ## Structured fields -/

section StructuredFields

variable {fields fields' : FieldTable} {fieldId : String → Nat → Uuid} {noteId : Uuid} {now : Nat}

theorem insertFields_rows (h : insertFields fields rows = .ok fields')
    : fields'.rows = fields.rows ++ rows := by
  induction rows generalizing fields with
  | nil =>
    cases h
    simp
  | cons row rows ih =>
    simp only [insertFields, Except.bind_eq_ok, Table.insert_eq_ok] at h
    rcases h with ⟨next, hinsert, h⟩
    rw [ih h, Table.rows_insert? hinsert, List.append_assoc, List.singleton_append]

theorem mem_fieldRows (h : row ∈ fieldRows fieldId noteId kind items now)
    : row.noteId = noteId ∧ row.fieldKind = kind := by
  simp only [fieldRows, List.mem_filterMap] at h
  rcases h with ⟨⟨value, idx⟩, -, hrow⟩
  dsimp only at hrow
  split at hrow
  . cases hrow
  . cases hrow
    exact ⟨rfl, rfl⟩

/-- Replacing a kind that the note has no rows of appends rows to the note's. -/
theorem noteFields_replaceKindIfPresent
    (h : replaceKindIfPresent fields fieldId noteId kind items now = .ok fields')
    (hkind : ∀ row ∈ noteFields fields noteId, row.fieldKind ≠ kind)
    : noteFields fields' noteId
      = noteFields fields noteId ++ fieldRows fieldId noteId kind (items.getD []) now := by
  unfold replaceKindIfPresent at h
  split at h
  next items =>
    unfold noteFields
    rw [insertFields_rows h, List.filter_append, Table.rows_deleteWhere, List.filter_filter]
    congr 1
    . apply List.filter_congr
      intro row hrow
      by_cases hid : row.noteId = noteId
      . have := hkind row (by simp [noteFields, hrow, hid])
        simp [hid, this]
      . simp [hid]
    . dsimp only [Option.getD_some]
      rw [List.filter_eq_self]
      intro row hrow
      simp [(mem_fieldRows hrow).1]
  next =>
    cases h
    simp [fieldRows]

/-- The rows of other notes stay. -/
theorem noteFields_replaceKindIfPresent_of_ne
    (h : replaceKindIfPresent fields fieldId noteId kind items now = .ok fields')
    (hne : noteId ≠ other) : noteFields fields' other = noteFields fields other := by
  unfold replaceKindIfPresent at h
  split at h
  next items =>
    unfold noteFields
    rw [insertFields_rows h, List.filter_append, Table.rows_deleteWhere, List.filter_filter]
    have hnil : (fieldRows fieldId noteId kind items now).filter (·.noteId = other) = [] := by
      rw [List.filter_eq_nil_iff]
      intro row hrow
      simp [(mem_fieldRows hrow).1, hne]
    rw [hnil, List.append_nil]
    apply List.filter_congr
    intro row hrow
    by_cases hid : row.noteId = other
    . have : other ≠ noteId := fun h => hne h.symm
      simp [hid, this]
    . simp [hid]
  next =>
    cases h
    rfl

/-- A note without rows gets the rows of the structured fields. -/
theorem noteFields_upsertStructuredFieldsTx {structured : StructuredFields}
    (h : upsertStructuredFieldsTx fields fieldId noteId structured now = .ok fields')
    (hempty : noteFields fields noteId = [])
    : noteFields fields' noteId = structured.rows fieldId noteId now := by
  simp only [upsertStructuredFieldsTx, Except.bind_eq_ok] at h
  rcases h with ⟨fields₁, hsummary, fields₂, hfact, hconcept⟩
  have hsummary := noteFields_replaceKindIfPresent hsummary (by simp [hempty])
  rw [hempty, List.nil_append] at hsummary
  have hfact := noteFields_replaceKindIfPresent hfact (by
    intro row hrow
    rw [hsummary] at hrow
    rw [(mem_fieldRows hrow).2]
    decide)
  have hconcept := noteFields_replaceKindIfPresent hconcept (by
    intro row hrow
    rw [hfact, hsummary, List.mem_append] at hrow
    rcases hrow with hrow | hrow
    . rw [(mem_fieldRows hrow).2]
      decide
    . rw [(mem_fieldRows hrow).2]
      decide)
  rw [hconcept, hfact, hsummary]
  unfold StructuredFields.rows
  cases structured.summary with
  | none => rfl
  | some summary => rfl

/-- The field rows that a request derives for its note. -/
def AddNoteInput.derivedRows (note : AddNoteInput) (draw : Draw) (noteId : Uuid) (now : Nat)
    : List NoteField :=
  match note.structuredContent with
  | some structured => structured.rows draw.fieldId noteId now
  | none => []

theorem noteFields_upsertStructuredIfPresent
    (h : upsertStructuredIfPresent fields draw note noteId now = .ok fields')
    (hempty : noteFields fields noteId = [])
    : noteFields fields' noteId = note.derivedRows draw noteId now := by
  unfold upsertStructuredIfPresent at h
  unfold AddNoteInput.derivedRows
  cases hcontent : note.structuredContent with
  | some structured =>
    rw [hcontent] at h
    exact noteFields_upsertStructuredFieldsTx h hempty
  | none =>
    rw [hcontent] at h
    cases h
    exact hempty

theorem noteFields_upsertStructuredFieldsTx_of_ne {structured : StructuredFields}
    (h : upsertStructuredFieldsTx fields fieldId noteId structured now = .ok fields')
    (hne : noteId ≠ other) : noteFields fields' other = noteFields fields other := by
  simp only [upsertStructuredFieldsTx, Except.bind_eq_ok] at h
  rcases h with ⟨fields₁, hsummary, fields₂, hfact, hconcept⟩
  rw [noteFields_replaceKindIfPresent_of_ne hconcept hne,
    noteFields_replaceKindIfPresent_of_ne hfact hne,
    noteFields_replaceKindIfPresent_of_ne hsummary hne]

theorem noteFields_upsertStructuredIfPresent_of_ne
    (h : upsertStructuredIfPresent fields draw note noteId now = .ok fields') (hne : noteId ≠ other)
    : noteFields fields' other = noteFields fields other := by
  unfold upsertStructuredIfPresent at h
  split at h
  . exact noteFields_upsertStructuredFieldsTx_of_ne h hne
  . cases h
    rfl

theorem noteFields_deleteNoteFields (s : Store) (noteId other : Uuid)
    : noteFields (deleteNoteFields s noteId).fields other
      = if noteId = other then [] else noteFields s.fields other := by
  unfold noteFields deleteNoteFields
  rw [Table.rows_deleteWhere, List.filter_filter]
  split
  next hid =>
    subst hid
    simp
  next hid =>
    apply List.filter_congr
    intro row hrow
    by_cases hother : row.noteId = other
    . have : other ≠ noteId := fun h => hid h.symm
      simp [hother, this]
    . simp [hother]

end StructuredFields

/-! ## One note of a request -/

theorem applyWritePolicyToNote_eq_ok (h : applyWritePolicyToNote note = .ok note')
    : ∃ text, note' = { note with text } := by
  unfold applyWritePolicyToNote at h
  split at h
  . cases h
    exact ⟨_, rfl⟩
  . cases h
  . cases h

theorem rejectNoteIfStructuredInvalid_op
    (h : rejectNoteIfStructuredInvalid svc note = some result) : result.op = .rejected := by
  unfold rejectNoteIfStructuredInvalid at h
  split at h
  . cases h
  . split at h
    . cases h
    . cases h
      rfl

theorem rejectNoteIfWritegateRejects_op
    (h : rejectNoteIfWritegateRejects svc scope note = some result) : result.op = .rejected := by
  unfold rejectNoteIfWritegateRejects at h
  split at h
  . cases h
  . cases h
    rfl

theorem rejectNoteIfWritegateRejects_eq_none
    (h : rejectNoteIfWritegateRejects svc scope note = none)
    : writegate svc.containsSecrets svc.cfg ⟨note.type, scope, note.text⟩ = .ok () := by
  unfold rejectNoteIfWritegateRejects at h
  split at h
  next hgate => exact hgate
  next => cases h

theorem recordIngestDecision_frame
    (h : recordIngestDecision s decisionId ctx noteType noteKey versionId base result = .ok t)
    : ∃ ingestDecisions, t = { s with ingestDecisions } := by
  simp only [recordIngestDecision, Except.bind_eq_ok, Table.insert_eq_ok, Except.pure_eq_ok] at h
  rcases h with ⟨ingestDecisions, -, rfl⟩
  exact ⟨ingestDecisions, rfl⟩

/-- The note as `add_note` writes it when it updates a stored one. -/
def addNoteUpdated (svc : ElfService) (note : AddNoteInput) (prev : MemoryNote) (now : Nat)
    : MemoryNote :=
  { prev with
    text := note.text
    importance := note.importance
    confidence := note.confidence
    updatedAt := now
    expiresAt := updatedExpiresAt svc note prev now
    sourceRef := note.sourceRef }

theorem handleAddNoteAdd_cases (h : handleAddNoteAdd svc draw s ctx note noteId = .ok (v, t))
    : v = draw.versionId
      ∧ s.Writes t ⟨none, newMemoryNote svc ctx note noteId, .add, .upsert, draw.versionId⟩
      ∧ upsertStructuredIfPresent s.fields draw note noteId ctx.now = .ok t.fields
      ∧ s.SameReviews t := by
  simp only [handleAddNoteAdd, upsertStructuredAndEnqueueOutbox, Except.bind_eq_ok,
    Except.pure_eq_ok, Prod.mk.injEq] at h
  rcases h with ⟨s₁, hgrant, s₂, hnote, s₃, hversion, s₄, ⟨fields, hfields, hjob⟩, -, -, rfl, rfl⟩
  rcases ensureActiveProjectScopeGrant_frame hgrant with ⟨grants, rfl⟩
  have hwrites : s.Writes t ⟨none, newMemoryNote svc ctx note noteId, .add, .upsert, draw.versionId⟩ :=
    writes_of_insert (by rfl) (by rfl) (by rfl) hnote hversion (by rfl) (by rfl)
      (by rfl) hjob rfl rfl rfl
  refine ⟨rfl, hwrites, ?_⟩
  rw [insertMemoryNoteTx_eq_ok] at hnote
  rw [insertVersion_eq_ok] at hversion
  rw [enqueueOutboxTx_eq_ok] at hjob
  rcases hnote with ⟨notes, -, rfl⟩
  rcases hversion with ⟨versions, -, rfl⟩
  rcases hjob with ⟨outbox, -, rfl⟩
  exact ⟨hfields, rfl, rfl⟩

theorem handleAddNoteUpdate_cases
    (h : handleAddNoteUpdate svc draw s note noteId agentId now decision = .ok ((r, v), t))
    : ∃ prev, s.notes.find? noteId = some prev
      ∧ ((noteUpdateIsUnchanged prev note (updatedExpiresAt svc note prev now)
            (requestedTtlDays note) = true
          ∧ r = ⟨some noteId, .none, .ignore, none, none⟩ ∧ v = none ∧ t = s)
        ∨ (noteUpdateIsUnchanged prev note (updatedExpiresAt svc note prev now)
            (requestedTtlDays note) = false
          ∧ r.op = .update ∧ v = some draw.versionId
          ∧ s.Writes t ⟨some prev, addNoteUpdated svc note prev now, .update, .upsert,
            draw.versionId⟩
          ∧ upsertStructuredIfPresent
            (if prev.text ≠ note.text then deleteNoteFields s noteId else s).fields
            draw note noteId now = .ok t.fields
          ∧ s.SameReviews t)) := by
  simp only [handleAddNoteUpdate, Except.bind_eq_ok, Except.ofOption_eq_ok] at h
  rcases h with ⟨prev, hprev, h⟩
  have hid := Table.key_of_find? hprev
  refine ⟨prev, hprev, ?_⟩
  split at h
  next hsame =>
    rw [Except.pure_eq_ok] at h
    cases h
    left
    exact ⟨hsame, rfl, rfl, rfl⟩
  next hchanged =>
    simp only [upsertStructuredAndEnqueueOutbox, Except.bind_eq_ok, Except.pure_eq_ok,
      Prod.mk.injEq] at h
    rcases h with ⟨s₁, hgrant, s₂, hversion, -, -, s₃, ⟨fields, hfields, hjob⟩, ⟨rfl, rfl⟩, rfl⟩
    rcases ensureActiveProjectScopeGrant_frame hgrant with ⟨grants, rfl⟩
    right
    rw [Bool.not_eq_true] at hchanged
    rw [← hid] at hprev hversion
    have hwrites : s.Writes t
        ⟨some prev, addNoteUpdated svc note prev now, .update, .upsert, draw.versionId⟩ :=
      writes_of_statements hprev (by split <;> rfl) (by split <;> rfl) (by split <;> rfl) hversion
        (by rfl) (by rfl) (by rfl) hjob (by rfl) (by rfl) (by rfl)
    refine ⟨hchanged, rfl, rfl, hwrites, ?_⟩
    rw [insertVersion_eq_ok] at hversion
    rw [enqueueOutboxTx_eq_ok] at hjob
    rcases hversion with ⟨versions, -, rfl⟩
    rcases hjob with ⟨outbox, -, rfl⟩
    rw [hid] at hfields
    dsimp only [updateNoteRow] at hfields ⊢
    constructor
    . rw [← hfields]
      split <;> rfl
    . constructor
      all_goals
        dsimp only
        split <;> rfl

/-- A note passes all that is asked of it before it is looked up and written. -/
structure AddNotePasses (svc : ElfService) (ctx : AddNoteContext) (note : AddNoteInput)
    (withinBudget : Bool) : Prop where
  structured : rejectNoteIfStructuredInvalid svc note = none
  gate : writegate svc.containsSecrets svc.cfg ⟨note.type, ctx.scope, note.text⟩ = .ok ()
  budget : withinBudget = true
  policy : shouldDowngrade (selectMemoryPolicyRule svc.cfg note.type ctx.scope) note.confidence
    note.importance = false

/-- The note is turned down before it is looked up. -/
def AddNoteRejects (svc : ElfService) (ctx : AddNoteContext) (note : AddNoteInput) : Prop :=
  ¬ (rejectNoteIfStructuredInvalid svc note = none
    ∧ writegate svc.containsSecrets svc.cfg ⟨note.type, ctx.scope, note.text⟩ = .ok ())

/-- The store has a row that says what the note says, or the note never gets that far. -/
def AddNoteSettled (svc : ElfService) (ctx : AddNoteContext) (note : AddNoteInput)
    (withinBudget : Bool) (s : Store) : Prop :=
  AddNotePasses svc ctx note withinBudget → ∃ row ∈ s.notes,
    (ctx.resolveArgs note).matches row = true ∧ (ctx.resolveArgs note).accepts row = true
      ∧ ((lookupKey note.key).isSome = true
        → noteUpdateIsUnchanged row note (updatedExpiresAt svc note row ctx.now)
          (requestedTtlDays note) = true)

/-- A note of a request was inserted as a new row. -/
structure AddNoteAdded (svc : ElfService) (ctx : AddNoteContext) (note : AddNoteInput)
    (draw : Draw) (s t : Store) : Prop where
  gate : writegate svc.containsSecrets svc.cfg ⟨note.type, ctx.scope, note.text⟩ = .ok ()
  unmatched : ∀ row ∈ s.notes, (ctx.resolveArgs note).matches row = true
    → (ctx.resolveArgs note).accepts row = false
  writes : s.Writes t
    ⟨none, newMemoryNote svc ctx note draw.noteId, .add, .upsert, draw.versionId⟩
  fields : upsertStructuredIfPresent s.fields draw note draw.noteId ctx.now = .ok t.fields
  reviews : s.SameReviews t

/-- A note of a request replaced the content of the row `prev`. -/
structure AddNoteReplaced (svc : ElfService) (ctx : AddNoteContext) (note : AddNoteInput)
    (draw : Draw) (prev : MemoryNote) (s t : Store) : Prop where
  gate : writegate svc.containsSecrets svc.cfg ⟨note.type, ctx.scope, note.text⟩ = .ok ()
  mem : prev ∈ s.notes
  matched : (ctx.resolveArgs note).matches prev = true
  keyed : (lookupKey note.key).isSome = true
  changed : noteUpdateIsUnchanged prev note (updatedExpiresAt svc note prev ctx.now)
    (requestedTtlDays note) = false
  writes : s.Writes t
    ⟨some prev, addNoteUpdated svc note prev ctx.now, .update, .upsert, draw.versionId⟩
  fields : upsertStructuredIfPresent
    (if prev.text ≠ note.text then deleteNoteFields s prev.noteId else s).fields
    draw note prev.noteId ctx.now = .ok t.fields
  reviews : s.SameReviews t

theorem AddNoteAdded.of_ingestDecisions (h : AddNoteAdded svc ctx note draw s t)
    : AddNoteAdded svc ctx note draw s { t with ingestDecisions } := by
  rcases h with ⟨gate, unmatched, ⟨hprev, hnotes, hversions, houtbox⟩, fields, reviews⟩
  exact ⟨gate, unmatched, ⟨hprev, hnotes, hversions, houtbox⟩, fields, reviews⟩

theorem AddNoteReplaced.of_ingestDecisions (h : AddNoteReplaced svc ctx note draw prev s t)
    : AddNoteReplaced svc ctx note draw prev s { t with ingestDecisions } := by
  rcases h with ⟨gate, mem, matched, keyed, changed, ⟨hprev, hnotes, hversions, houtbox⟩, fields,
    reviews⟩
  exact ⟨gate, mem, matched, keyed, changed, ⟨hprev, hnotes, hversions, houtbox⟩, fields, reviews⟩

/-- A decision that the policy lets through was to write the note, and it is not downgraded. -/
theorem resolvePolicyForUpdate_passes {base : MemoryPolicyDecision}
    (h : resolvePolicyForUpdate cfg scope note base = .remember
      ∨ resolvePolicyForUpdate cfg scope note base = .update)
    : (base = .remember ∨ base = .update)
      ∧ shouldDowngrade (selectMemoryPolicyRule cfg note.type scope) note.confidence note.importance
        = false := by
  unfold resolvePolicyForUpdate at h
  split at h
  next hbase =>
    rw [Bool.or_eq_true, decide_eq_true_eq, decide_eq_true_eq] at hbase
    refine ⟨hbase, ?_⟩
    unfold evaluateMemoryPolicy at h
    dsimp only at h
    split at h
    . rcases h with h | h
      . cases h
      . cases h
    next hdown => simpa [hbase] using hdown
  next hbase =>
    rcases h with h | h
    . cases h
    . cases h

/-- The decision on a note that passed the checks, before it is audited. -/
theorem applyPolicyResult_cases {withinBudget : Bool}
    (hstructured : rejectNoteIfStructuredInvalid svc note = none)
    (hgate : writegate svc.containsSecrets svc.cfg ⟨note.type, ctx.scope, note.text⟩ = .ok ())
    (hbudget : withinBudget = true)
    (hdecision : decision = resolvePolicyForUpdate svc.cfg ctx.scope note
      (baseDecisionForUpdate (resolveUpdate s (ctx.resolveArgs note) draw.noteId)))
    (h : applyPolicyResult svc draw s (resolveUpdate s (ctx.resolveArgs note) draw.noteId) ctx note
      decision code = .ok ((r, v), t))
    : (t = s ∧ r.op = .none ∧ AddNoteSettled svc ctx note withinBudget s)
      ∨ (AddNotePasses svc ctx note withinBudget ∧ r.op = .add
        ∧ AddNoteAdded svc ctx note draw s t)
      ∨ ∃ prev, AddNotePasses svc ctx note withinBudget ∧ r.op = .update
        ∧ AddNoteReplaced svc ctx note draw prev s t := by
  unfold applyPolicyResult at h
  split at h
  next hwrite =>
    rw [Bool.or_eq_true, decide_eq_true_eq, decide_eq_true_eq, hdecision] at hwrite
    rcases resolvePolicyForUpdate_passes hwrite with ⟨hbase, hpolicy⟩
    have hpasses : AddNotePasses svc ctx note withinBudget := ⟨hstructured, hgate, hbudget, hpolicy⟩
    rcases resolveUpdate_cases s (ctx.resolveArgs note) draw.noteId with hupdate | hnone | hadd
    . rcases hupdate with ⟨row, hmem, hmatch, hkey, hres⟩
      rw [hres] at h
      rcases handleAddNoteUpdate_cases h with ⟨prev, hprev, hcases⟩
      have hid := Table.key_of_find? hprev
      have hrow : prev = row := by
        rw [s.notes.find?_key hmem] at hprev
        exact (Option.some.inj hprev).symm
      subst hrow
      rcases hcases with hquiet | hwrote
      . left
        refine ⟨hquiet.2.2.2, by rw [hquiet.2.1], ?_⟩
        intro _
        have haccept : (ctx.resolveArgs note).accepts prev = true := by
          unfold ResolveUpdateArgs.accepts
          rw [hkey]
          rfl
        exact ⟨prev, hmem, hmatch, haccept, fun _ => hquiet.1⟩
      . rcases hwrote with ⟨hchanged, hop, -, hwrites, hfields, hreviews⟩
        right
        right
        exact ⟨prev, hpasses, hop, hgate, hmem, hmatch, hkey, hchanged, hwrites, hfields, hreviews⟩
    . rcases hnone with ⟨row, -, -, -, -, hres⟩
      rw [hres] at hbase
      rcases hbase with hbase | hbase
      . cases hbase
      . cases hbase
    . rcases hadd with ⟨hunmatched, hres⟩
      rw [hres] at h
      simp only [Except.bind_eq_ok, Except.pure_eq_ok, Prod.mk.injEq] at h
      rcases h with ⟨⟨versionId, s'⟩, hadd, ⟨rfl, rfl⟩, rfl⟩
      rcases handleAddNoteAdd_cases hadd with ⟨-, hwrites, hfields, hreviews⟩
      right
      left
      exact ⟨hpasses, rfl, hgate, hunmatched, hwrites, hfields, hreviews⟩
  next hignore =>
    cases h
    left
    refine ⟨rfl, rfl, ?_⟩
    intro hpasses
    rw [Bool.or_eq_true, decide_eq_true_eq, decide_eq_true_eq, hdecision] at hignore
    -- The policy does not downgrade the note, so it is ignored as a duplicate.
    rcases resolveUpdate_cases s (ctx.resolveArgs note) draw.noteId with hupdate | hnone | hadd
    . rcases hupdate with ⟨row, -, -, -, hres⟩
      exfalso
      apply hignore
      rw [hres]
      simp [resolvePolicyForUpdate, baseDecisionForUpdate, evaluateMemoryPolicy, hpasses.policy]
    . rcases hnone with ⟨row, hmem, hmatch, hkey, hsource, -⟩
      refine ⟨row, hmem, hmatch, ?_, ?_⟩
      . unfold ResolveUpdateArgs.accepts
        simp [hsource]
      . intro hkeyed
        change (lookupKey note.key).isSome = false at hkey
        rw [hkey] at hkeyed
        cases hkeyed
    . rcases hadd with ⟨-, hres⟩
      exfalso
      apply hignore
      rw [hres]
      simp [resolvePolicyForUpdate, baseDecisionForUpdate, evaluateMemoryPolicy, hpasses.policy]

/-- What becomes of one note of a request, besides the audit of the decision on it. -/
theorem processAddNoteInput_outcome
    (h : processAddNoteInput svc ctx note withinBudget draw s = .ok (r, t))
    : ∃ text, applyWritePolicyToNote note = .ok { note with text }
      ∧ (((∃ ingestDecisions, t = { s with ingestDecisions })
          ∧ ((r.op = .none ∧ ¬ AddNoteRejects svc ctx { note with text })
            ∨ (r.op = .rejected ∧ AddNoteRejects svc ctx { note with text }))
          ∧ AddNoteSettled svc ctx { note with text } withinBudget s)
        ∨ (AddNotePasses svc ctx { note with text } withinBudget ∧ r.op = .add
          ∧ AddNoteAdded svc ctx { note with text } draw s t)
        ∨ ∃ prev, AddNotePasses svc ctx { note with text } withinBudget ∧ r.op = .update
          ∧ AddNoteReplaced svc ctx { note with text } draw prev s t) := by
  simp only [processAddNoteInput, Except.bind_eq_ok] at h
  rcases h with ⟨note', hpolicy, h⟩
  rcases applyWritePolicyToNote_eq_ok hpolicy with ⟨text, rfl⟩
  refine ⟨text, hpolicy, ?_⟩
  split at h
  next result hreject =>
    simp only [Except.bind_eq_ok, Except.pure_eq_ok, Prod.mk.injEq] at h
    rcases h with ⟨s', haudit, rfl, rfl⟩
    simp only [Option.orElse_eq_orElse, Option.orElse_eq_or, Option.or_eq_some_iff] at hreject
    left
    have hrejects : AddNoteRejects svc ctx { note with text } := by
      rintro ⟨hvalid, hgate⟩
      rcases hreject with hstructured | ⟨-, hwritegate⟩
      . rw [hvalid] at hstructured
        cases hstructured
      . unfold rejectNoteIfWritegateRejects at hwritegate
        rw [hgate] at hwritegate
        cases hwritegate
    refine ⟨recordIngestDecision_frame haudit, Or.inr ⟨?_, hrejects⟩, ?_⟩
    . rcases hreject with hstructured | ⟨-, hwritegate⟩
      . exact rejectNoteIfStructuredInvalid_op hstructured
      . exact rejectNoteIfWritegateRejects_op hwritegate
    . intro hpasses
      exact absurd ⟨hpasses.structured, hpasses.gate⟩ hrejects
  next hpass =>
    simp only [Option.orElse_eq_orElse, Option.orElse_eq_or, Option.or_eq_none_iff] at hpass
    have hgate := rejectNoteIfWritegateRejects_eq_none hpass.2
    have hrejects : ¬ AddNoteRejects svc ctx { note with text } := not_not.mpr ⟨hpass.1, hgate⟩
    split at h
    next hbudget =>
      simp only [Except.bind_eq_ok, Except.pure_eq_ok, Prod.mk.injEq] at h
      rcases h with ⟨s', haudit, rfl, rfl⟩
      left
      refine ⟨recordIngestDecision_frame haudit, Or.inl ⟨rfl, hrejects⟩, ?_⟩
      intro hpasses
      rw [hpasses.budget] at hbudget
      cases hbudget
    next hbudget =>
      rw [Bool.not_eq_true, Bool.not_eq_false'] at hbudget
      simp only [Except.bind_eq_ok, Except.pure_eq_ok, Prod.mk.injEq] at h
      rcases h with ⟨⟨⟨result, versionId⟩, s₁⟩, happly, s₂, haudit, rfl, rfl⟩
      rcases recordIngestDecision_frame haudit with ⟨ingestDecisions, rfl⟩
      rcases applyPolicyResult_cases hpass.1 hgate hbudget rfl happly with hquiet | hadd | hreplace
      . rcases hquiet with ⟨rfl, hop, hsettled⟩
        left
        exact ⟨⟨ingestDecisions, rfl⟩, Or.inl ⟨hop, hrejects⟩, hsettled⟩
      . rcases hadd with ⟨hpasses, hop, hadd⟩
        right
        left
        exact ⟨hpasses, hop, hadd.of_ingestDecisions⟩
      . rcases hreplace with ⟨prev, hpasses, hop, hreplace⟩
        right
        right
        exact ⟨prev, hpasses, hop, hreplace.of_ingestDecisions⟩

/-- What one note of a request can do to the store, besides the audit of the decision on it. -/
theorem processAddNoteInput_cases
    (h : processAddNoteInput svc ctx note withinBudget draw s = .ok (r, t))
    : ∃ text, applyWritePolicyToNote note = .ok { note with text }
      ∧ (((∃ ingestDecisions, t = { s with ingestDecisions }) ∧ (r.op = .none ∨ r.op = .rejected))
        ∨ (r.op = .add ∧ AddNoteAdded svc ctx { note with text } draw s t)
        ∨ ∃ prev, r.op = .update ∧ AddNoteReplaced svc ctx { note with text } draw prev s t) := by
  rcases processAddNoteInput_outcome h with ⟨text, hpolicy, hquiet | hadd | hreplace⟩
  . exact ⟨text, hpolicy, Or.inl ⟨hquiet.1, hquiet.2.1.imp And.left And.left⟩⟩
  . exact ⟨text, hpolicy, Or.inr (Or.inl hadd.2)⟩
  . rcases hreplace with ⟨prev, -, hreplace⟩
    exact ⟨text, hpolicy, Or.inr (Or.inr ⟨prev, hreplace⟩)⟩

end Elf
