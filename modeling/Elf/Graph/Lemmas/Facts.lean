import Elf.Graph.Lemmas.Ingestion

/-!
This module contains what a relation does to the facts: it is stored, or found again, and where it is
the current truth it ends the facts before it.
-/

namespace Elf

open Text

variable {text : GraphText} {db db' : GraphDb} {id : Uuid}

abbrev FactTable := Table GraphFact GraphFact.factId

theorem factId_ended (effectiveAt : Int) (fact : GraphFact)
    : { fact with validTo := some effectiveAt }.factId = fact.factId := rfl

/-- End the facts that `toFactId` supersedes. -/
def supersedeFacts (facts : FactTable) (key : FactKey) (toFactId : Uuid) (effectiveAt : Int)
    : FactTable :=
  facts.updateWhere (fun fact => fact.superseded key toFactId effectiveAt)
    (fun fact => { fact with validTo := some effectiveAt }) (factId_ended effectiveAt)

/-- How a fact is stored: an equal one without an end is found again, or it is inserted. -/
inductive Stored (facts : FactTable) (fact : GraphFact) : FactTable → Uuid → Prop where
  | reused {existing : GraphFact} (hmem : existing ∈ facts) (hsame : fact.sameActive existing = true)
    : Stored facts fact facts existing.factId
  | inserted {facts' : FactTable} (hnew : ∀ existing ∈ facts, fact.sameActive existing = false)
    (hinsert : facts.insert? fact = some facts')
    : Stored facts fact facts' fact.factId

theorem upsertFactWithEvidence_cases
    (h : upsertFactWithEvidence fact noteIds db = .ok (factId, db'))
    : fact.validWindow = true ∧ Stored db.facts fact db'.facts factId := by
  unfold upsertFactWithEvidence at h
  rcases Except.bind_eq_ok.mp h with ⟨_, -, h⟩
  rcases Except.bind_eq_ok.mp h with ⟨_, -, h⟩
  rcases Except.bind_eq_ok.mp h with ⟨_, hwindow, h⟩
  have hwindow := Except.rejectIf_eq_ok.mp hwindow
  refine ⟨by simpa using hwindow, ?_⟩
  split at h
  next existing hexisting =>
    cases h
    rw [(attachEvidence_frame ..).1]
    have hmem : existing ∈ db.facts := List.mem_of_find?_eq_some hexisting
    exact .reused hmem (List.find?_some hexisting)
  next hnone =>
    rcases Except.bind_eq_ok.mp h with ⟨facts, hinsert, hpure⟩
    cases hpure
    rw [(attachEvidence_frame { db with facts } ..).1]
    apply Stored.inserted
    . intro existing hexisting
      have := List.find?_eq_none.mp hnone existing hexisting
      simpa using this
    . exact Table.insert_eq_ok.mp hinsert

theorem supersedeConflictingActiveFacts_facts (db : GraphDb) (key : FactKey)
    (toFactId noteId : Uuid) (effectiveAt : Int)
    : (supersedeConflictingActiveFacts db key toFactId noteId effectiveAt).facts
        = supersedeFacts db.facts key toFactId effectiveAt := by
  unfold supersedeConflictingActiveFacts
  exact (recordSupersessions_frame ..).1

theorem mem_supersedeFacts (facts : FactTable) (key : FactKey) (toFactId : Uuid) (effectiveAt : Int)
    (fact : GraphFact)
    : fact ∈ supersedeFacts facts key toFactId effectiveAt
        ↔ ∃ old ∈ facts, fact
          = if old.superseded key toFactId effectiveAt then
              { old with validTo := some effectiveAt }
            else
              old := by
  unfold supersedeFacts
  rw [Table.mem_updateWhere]

theorem superseded_iff (fact : GraphFact) (key : FactKey) (toFactId : Uuid) (effectiveAt : Int)
    : fact.superseded key toFactId effectiveAt = true
        ↔ fact.key = key ∧ fact.validTo = none
          ∧ (∃ start, fact.validFrom = some start ∧ start < effectiveAt)
          ∧ fact.factId ≠ toFactId := by
  unfold GraphFact.superseded
  simp [Option.any_eq_true, and_assoc]

theorem sameActive_iff (fact other : GraphFact)
    : fact.sameActive other = true
        ↔ fact.validTo = none ∧ other.validTo = none ∧ fact.key = other.key
          ∧ fact.objectEntityId = other.objectEntityId ∧ fact.objectValue = other.objectValue
          ∧ fact.validFrom = other.validFrom := by
  unfold GraphFact.sameActive
  simp [and_assoc]

theorem currentTruth_eq_some (h : RelationTarget.currentTruth target req idx relation = some start)
    : target.predicateRow.status = .active ∧ target.predicateRow.cardinality = .single
      ∧ (target.fact req idx relation).validFrom = some (pgTimestamp start)
      ∧ (target.fact req idx relation).validTo = none ∧ start ≤ relationNow req idx := by
  unfold RelationTarget.currentTruth at h
  split at h
  next hcond =>
    rw [Option.filter_eq_some_iff] at h
    rcases h with ⟨hstart, hle⟩
    refine ⟨hcond.1, hcond.2.1, ?_, ?_, by simpa using hle⟩
    . unfold RelationTarget.fact
      simp [hstart]
    . unfold RelationTarget.fact
      simp [hcond.2.2]
  next => cases h

theorem mem_supersedeFacts_of_none {facts : FactTable}
    (h : ∀ fact ∈ facts, fact.superseded key toFactId effectiveAt = false) (fact : GraphFact)
    : fact ∈ supersedeFacts facts key toFactId effectiveAt ↔ fact ∈ facts := by
  rw [mem_supersedeFacts]
  constructor
  . rintro ⟨old, hold, rfl⟩
    rw [h old hold]
    exact hold
  . intro hfact
    refine ⟨fact, hfact, ?_⟩
    rw [h fact hfact]
    rfl

/-- The facts after a relation, and how they came about. -/
structure RelationStored (target : RelationTarget) (req : GraphIngestion) (idx : Nat)
    (relation : StructuredRelation) (facts facts' : FactTable) (stored : FactTable) (factId : Uuid)
    : Prop where
  window : (target.fact req idx relation).validWindow = true
  storing : Stored facts (target.fact req idx relation) stored factId
  result : facts' = match target.currentTruth req idx relation with
    | some start => supersedeFacts stored (target.fact req idx relation).key factId (pgTimestamp start)
    | none => stored

/-- What storing a relation does: its fact is stored, rests on the note, and ends other facts. -/
theorem storeRelation_eq_ok (h : storeRelation req idx relation target db = .ok ((), db'))
    : ∃ factId mid,
        upsertFactWithEvidence (target.fact req idx relation) [req.noteId] db = .ok (factId, mid)
        ∧ db' = match target.currentTruth req idx relation with
          | some start => supersedeConflictingActiveFacts
            (setEvidenceQuoteIfPresent mid factId req.noteId relation.evidenceQuote)
            (target.fact req idx relation).key factId req.noteId (pgTimestamp start)
          | none => setEvidenceQuoteIfPresent mid factId req.noteId relation.evidenceQuote := by
  unfold storeRelation at h
  rcases Except.bind_eq_ok.mp h with ⟨⟨factId, mid⟩, hmid, h⟩
  refine ⟨factId, mid, Except.mapError_eq_ok.mp hmid, ?_⟩
  dsimp only at h
  cases hstart : target.currentTruth req idx relation with
  | some start =>
    rw [hstart] at h
    cases h
    rfl
  | none =>
    rw [hstart] at h
    cases h
    rfl

theorem storeRelation_cases (h : storeRelation req idx relation target db = .ok ((), db'))
    : ∃ stored factId, RelationStored target req idx relation db.facts db'.facts stored factId := by
  rcases storeRelation_eq_ok h with ⟨factId, mid, hmid, hresult⟩
  rcases upsertFactWithEvidence_cases hmid with ⟨hwindow, hstored⟩
  refine ⟨mid.facts, factId, hwindow, hstored, ?_⟩
  have hquote := (setEvidenceQuoteIfPresent_frame mid factId req.noteId relation.evidenceQuote).1
  rw [hresult]
  split
  . rw [supersedeConflictingActiveFacts_facts, hquote]
  . exact hquote

theorem resolveObject_frame (h : resolveObject text req idx object db = .ok (found, db'))
    : db.SameRecords db' ∧ db.SameRegistry db' := by
  unfold resolveObject at h
  split at h
  . rcases Except.bind_eq_ok.mp h with ⟨⟨id, mid⟩, hfirst, hpure⟩
    cases hpure
    exact upsertGraphEntityAndAliases_frame hfirst
  . cases h
    exact ⟨⟨rfl, rfl, rfl⟩, rfl, rfl⟩
  . cases h

theorem resolveRelation_records (h : resolveRelation text req idx relation db = .ok (target, db'))
    : db.SameRecords db' := by
  unfold resolveRelation at h
  rcases Except.bind_eq_ok.mp h with ⟨subject, -, h⟩
  rcases Except.bind_eq_ok.mp h with ⟨predicate, -, h⟩
  rcases Except.bind_eq_ok.mp h with ⟨⟨subjectId, db₁⟩, hdeclare, h⟩
  rcases Except.bind_eq_ok.mp h with ⟨object, -, h⟩
  rcases Except.bind_eq_ok.mp h with ⟨⟨found, db₂⟩, hfound, h⟩
  rcases Except.bind_eq_ok.mp h with ⟨⟨row, db₃⟩, hrow, h⟩
  rcases Except.bind_eq_ok.mp h with ⟨_, -, hpure⟩
  cases hpure
  have hpredicate := (resolveOrRegisterPredicate_frame (Except.mapError_eq_ok.mp hrow)).1
  exact ((upsertGraphEntityAndAliases_frame hdeclare).1.trans (resolveObject_frame hfound).1).trans
    hpredicate

/-- The step relation of the parts of ingestions that are not rolled back. -/
def GraphSteps (text : GraphText) (db : GraphDb) (event : GraphEvent) (db' : GraphDb) : Prop :=
  event.exec text db = .ok ((), db')

theorem graphSteps_relate (h : GraphSteps text db (.relate req idx relation) db')
    : ∃ target db₁ stored factId, resolveRelation text req idx relation db = .ok (target, db₁)
        ∧ RelationStored target req idx relation db.facts db'.facts stored factId := by
  have h : persistRelation text req idx relation db = .ok ((), db') := h
  unfold persistRelation at h
  rcases Except.bind_eq_ok.mp h with ⟨⟨target, mid⟩, htarget, hstore⟩
  rcases storeRelation_cases hstore with ⟨stored, factId, hstored⟩
  rw [(resolveRelation_records htarget).facts] at hstored
  exact ⟨target, mid, stored, factId, htarget, hstored⟩

/-- All that a step can do to the facts. -/
theorem graphSteps_cases (h : GraphSteps text db event db')
    : db'.facts = db.facts
      ∨ ∃ req idx relation target db₁ stored factId, event = .relate req idx relation
        ∧ resolveRelation text req idx relation db = .ok (target, db₁)
        ∧ RelationStored target req idx relation db.facts db'.facts stored factId := by
  cases event with
  | declare req idx entity =>
    left
    unfold GraphSteps GraphEvent.exec at h
    rcases Except.bind_eq_ok.mp h with ⟨⟨id, mid⟩, hdeclare, hpure⟩
    cases hpure
    exact (upsertGraphEntityAndAliases_frame hdeclare).1.facts
  | relate req idx relation =>
    right
    rcases graphSteps_relate h with ⟨target, mid, stored, factId, htarget, hstored⟩
    exact ⟨req, idx, relation, target, mid, stored, factId, rfl, htarget, hstored⟩

/-! ## The events of an ingestion -/

def declareEvents (req : GraphIngestion) (entities : List StructuredEntity) (idx : Nat)
    : List GraphEvent :=
  entities.zipIdx idx |>.map fun (entity, idx) => .declare req idx entity

def relateEvents (req : GraphIngestion) (relations : List StructuredRelation) (idx : Nat)
    : List GraphEvent :=
  relations.zipIdx idx |>.map fun (relation, idx) => .relate req idx relation

def GraphIngestion.events (req : GraphIngestion) : List GraphEvent :=
  declareEvents req (req.structured.entities.getD []) 0
    ++ relateEvents req (req.structured.relations.getD []) 0

theorem persistEntities_events
    (h : persistEntities text req.draw req.tenantId req.projectId req.authority entities idx db
      = .ok ((), db'))
    : Run (GraphSteps text) db (declareEvents req entities idx) db' := by
  induction entities generalizing db idx with
  | nil =>
    cases h
    apply Run.nil
  | cons entity entities ih =>
    unfold persistEntities at h
    rcases Except.bind_eq_ok.mp h with ⟨⟨id, mid⟩, hfirst, hrest⟩
    apply Run.cons
    . exact Except.bind_eq_ok.mpr ⟨(id, mid), hfirst, rfl⟩
    . exact ih hrest

theorem persistRelations_events (h : persistRelations text req relations idx db = .ok ((), db'))
    : Run (GraphSteps text) db (relateEvents req relations idx) db' := by
  induction relations generalizing db idx with
  | nil =>
    cases h
    apply Run.nil
  | cons relation relations ih =>
    unfold persistRelations at h
    rcases Except.bind_eq_ok.mp h with ⟨⟨_, mid⟩, hfirst, hrest⟩
    exact Run.cons hfirst (ih hrest)

theorem persistGraphFieldsTx_events (h : persistGraphFieldsTx text req db = .ok ((), db'))
    : Run (GraphSteps text) db req.events db' := by
  unfold GraphIngestion.events
  unfold persistGraphFieldsTx at h
  split at h
  next hgraph =>
    cases h
    unfold StructuredFields.hasGraphFields at hgraph
    have hentities : req.structured.entities.getD [] = [] := by
      cases hentities : req.structured.entities with
      | none => rfl
      | some entities => simp_all
    have hrelations : req.structured.relations.getD [] = [] := by
      cases hrelations : req.structured.relations with
      | none => rfl
      | some relations => simp_all
    rw [hentities, hrelations]
    apply Run.nil
  next =>
    rcases Except.bind_eq_ok.mp h with ⟨⟨_, mid⟩, hentities, hrelations⟩
    exact (persistEntities_events hentities).append (persistRelations_events hrelations)

end Elf
