import Elf.Graph.Lemmas.Declare

/-!
This module contains an ingestion taken apart: which tables each of its parts leaves alone, and the
declarations and relations that it goes through one after the other.
-/

namespace Elf

open Text

variable {text : GraphText} {db db' : GraphDb} {id : Uuid}

namespace GraphDb

structure SameNames (db db' : GraphDb) : Prop where
  entities : db'.entities = db.entities
  entityAliases : db'.entityAliases = db.entityAliases

structure SameRegistry (db db' : GraphDb) : Prop where
  predicates : db'.predicates = db.predicates
  predicateAliases : db'.predicateAliases = db.predicateAliases

/-- The facts, with what they rest on and what ended them. -/
structure SameRecords (db db' : GraphDb) : Prop where
  facts : db'.facts = db.facts
  evidence : db'.evidence = db.evidence
  supersessions : db'.supersessions = db.supersessions

theorem SameRecords.trans (h : db.SameRecords db') (h' : db'.SameRecords db'')
    : db.SameRecords db'' :=
  ⟨h'.1.trans h.1, h'.2.trans h.2, h'.3.trans h.3⟩

theorem SameNames.trans (h : db.SameNames db') (h' : db'.SameNames db'') : db.SameNames db'' :=
  ⟨h'.1.trans h.1, h'.2.trans h.2⟩

theorem SameRegistry.trans (h : db.SameRegistry db') (h' : db'.SameRegistry db'')
    : db.SameRegistry db'' :=
  ⟨h'.1.trans h.1, h'.2.trans h.2⟩

end GraphDb

/-! ## What the parts leave alone -/

theorem upsertAliases_frame (h : upsertAliases text db id path authority aliases idx = .ok db')
    : db.SameRecords db' ∧ db.SameRegistry db' := by
  induction aliases generalizing db idx with
  | nil =>
    cases h
    exact ⟨⟨rfl, rfl, rfl⟩, rfl, rfl⟩
  | cons surface aliases ih =>
    unfold upsertAliases at h
    rcases Except.bind_eq_ok.mp h with ⟨_, -, hrest⟩
    rcases ih hrest with ⟨hrecords, hregistry⟩
    exact ⟨⟨hrecords.1, hrecords.2, hrecords.3⟩, hregistry.1, hregistry.2⟩

theorem upsertEntity_frame
    (h : upsertEntity text db fresh tenantId projectId canonical kind = .ok (id, db'))
    : db.SameRecords db' ∧ db.SameRegistry db' := by
  unfold upsertEntity at h
  dsimp only at h
  split at h
  . cases h
    exact ⟨⟨rfl, rfl, rfl⟩, rfl, rfl⟩
  . rcases Except.bind_eq_ok.mp h with ⟨entities, -, hpure⟩
    cases hpure
    exact ⟨⟨rfl, rfl, rfl⟩, rfl, rfl⟩

theorem upsertGraphEntityAndAliases_frame
    (h : upsertGraphEntityAndAliases text draw tenantId projectId entity path authority db
      = .ok (id, db'))
    : db.SameRecords db' ∧ db.SameRegistry db' := by
  unfold upsertGraphEntityAndAliases at h
  rcases Except.bind_eq_ok.mp h with ⟨canonical, -, h⟩
  dsimp only at h
  split at h
  . rcases Except.bind_eq_ok.mp h with ⟨_, -, hpure⟩
    cases hpure
    exact ⟨⟨rfl, rfl, rfl⟩, rfl, rfl⟩
  . rcases Except.bind_eq_ok.mp h with ⟨resolved, -, h⟩
    cases resolved with
    | some known =>
      rcases Except.bind_eq_ok.mp h with ⟨_, hmid, h⟩
      cases hmid
      rcases Except.bind_eq_ok.mp h with ⟨db'', haliases, hpure⟩
      cases hpure
      rcases upsertAliases_frame haliases with ⟨hrecords, hregistry⟩
      exact ⟨⟨hrecords.1, hrecords.2, hrecords.3⟩, hregistry.1, hregistry.2⟩
    | none =>
      rcases Except.bind_eq_ok.mp h with ⟨⟨found, mid⟩, hmid, h⟩
      rcases Except.bind_eq_ok.mp h with ⟨db'', haliases, hpure⟩
      cases hpure
      have hfirst := upsertEntity_frame (Except.mapError_eq_ok.mp hmid)
      have hrest := upsertAliases_frame haliases
      exact ⟨hfirst.1.trans hrest.1, hfirst.2.trans hrest.2⟩

theorem resolveOrRegisterPredicate_frame
    (h : resolveOrRegisterPredicate text draw idx tenantId projectId surface db = .ok (row, db'))
    : db.SameRecords db' ∧ db.SameNames db' := by
  unfold resolveOrRegisterPredicate registerPredicate at h
  dsimp only at h
  split at h
  . cases h
  . split at h
    . cases h
      exact ⟨⟨rfl, rfl, rfl⟩, rfl, rfl⟩
    . rcases Except.bind_eq_ok.mp h with ⟨⟨row', mid⟩, hmid, hpure⟩
      cases hpure
      split at hmid
      . cases hmid
        exact ⟨⟨rfl, rfl, rfl⟩, rfl, rfl⟩
      . rcases Except.bind_eq_ok.mp hmid with ⟨predicates, -, hpure⟩
        cases hpure
        exact ⟨⟨rfl, rfl, rfl⟩, rfl, rfl⟩

theorem attachEvidence_frame (db : GraphDb) (factId : Uuid) (noteIds : List Uuid)
    : (attachEvidence db factId noteIds).facts = db.facts
      ∧ db.SameNames (attachEvidence db factId noteIds)
      ∧ db.SameRegistry (attachEvidence db factId noteIds) := by
  induction noteIds generalizing db with
  | nil => exact ⟨rfl, ⟨rfl, rfl⟩, rfl, rfl⟩
  | cons noteId noteIds ih =>
    rcases ih { db with evidence := db.evidence.upsert ⟨factId, noteId, none⟩ fun row => row }
      with ⟨hfacts, hnames, hregistry⟩
    exact ⟨hfacts, ⟨hnames.1, hnames.2⟩, hregistry.1, hregistry.2⟩

theorem recordSupersessions_frame (db : GraphDb) (key : FactKey) (toFactId noteId : Uuid)
    (effectiveAt : Int) (superseded : List Uuid)
    : (recordSupersessions db key toFactId noteId effectiveAt superseded).facts = db.facts
      ∧ db.SameNames (recordSupersessions db key toFactId noteId effectiveAt superseded)
      ∧ db.SameRegistry (recordSupersessions db key toFactId noteId effectiveAt superseded) := by
  induction superseded generalizing db with
  | nil => exact ⟨rfl, ⟨rfl, rfl⟩, rfl, rfl⟩
  | cons fromFactId superseded ih =>
    let row : GraphFactSupersession :=
      ⟨key.tenantId, key.projectId, fromFactId, toFactId, noteId, effectiveAt⟩
    rcases ih { db with supersessions := db.supersessions.upsert row fun row => row }
      with ⟨hfacts, hnames, hregistry⟩
    exact ⟨hfacts, ⟨hnames.1, hnames.2⟩, hregistry.1, hregistry.2⟩

theorem supersedeConflictingActiveFacts_frame (db : GraphDb) (key : FactKey)
    (toFactId noteId : Uuid) (effectiveAt : Int)
    : db.SameNames (supersedeConflictingActiveFacts db key toFactId noteId effectiveAt)
      ∧ db.SameRegistry (supersedeConflictingActiveFacts db key toFactId noteId effectiveAt) := by
  unfold supersedeConflictingActiveFacts
  dsimp only
  rcases recordSupersessions_frame _ key toFactId noteId effectiveAt _
    with ⟨-, hnames, hregistry⟩
  exact ⟨⟨hnames.1, hnames.2⟩, hregistry.1, hregistry.2⟩

theorem upsertFactWithEvidence_frame
    (h : upsertFactWithEvidence fact noteIds db = .ok (factId, db'))
    : db.SameNames db' ∧ db.SameRegistry db' := by
  unfold upsertFactWithEvidence at h
  rcases Except.bind_eq_ok.mp h with ⟨_, -, h⟩
  rcases Except.bind_eq_ok.mp h with ⟨_, -, h⟩
  rcases Except.bind_eq_ok.mp h with ⟨_, -, h⟩
  split at h
  . cases h
    exact (attachEvidence_frame ..).2
  . rcases Except.bind_eq_ok.mp h with ⟨facts, -, hpure⟩
    cases hpure
    rcases attachEvidence_frame { db with facts } fact.factId noteIds
      with ⟨-, hnames, hregistry⟩
    exact ⟨⟨hnames.1, hnames.2⟩, hregistry.1, hregistry.2⟩

theorem setEvidenceQuoteIfPresent_frame (db : GraphDb) (factId noteId : Uuid)
    (quote : Option String)
    : (setEvidenceQuoteIfPresent db factId noteId quote).facts = db.facts
      ∧ db.SameNames (setEvidenceQuoteIfPresent db factId noteId quote)
      ∧ db.SameRegistry (setEvidenceQuoteIfPresent db factId noteId quote) := by
  cases quote with
  | some quote => exact ⟨rfl, ⟨rfl, rfl⟩, rfl, rfl⟩
  | none => exact ⟨rfl, ⟨rfl, rfl⟩, rfl, rfl⟩

theorem storeRelation_frame (h : storeRelation req idx relation target db = .ok ((), db'))
    : db.SameNames db' ∧ db.SameRegistry db' := by
  unfold storeRelation at h
  rcases Except.bind_eq_ok.mp h with ⟨⟨factId, mid⟩, hmid, h⟩
  rcases upsertFactWithEvidence_frame (Except.mapError_eq_ok.mp hmid) with ⟨hnames, hregistry⟩
  rcases setEvidenceQuoteIfPresent_frame mid factId req.noteId relation.evidenceQuote
    with ⟨-, hquote, hquote'⟩
  have hnames := hnames.trans hquote
  have hregistry := hregistry.trans hquote'
  dsimp only at h
  split at h
  next start hstart =>
    cases h
    rcases supersedeConflictingActiveFacts_frame _ (target.fact req idx relation).key factId
      req.noteId (pgTimestamp start) with ⟨hnames', hregistry'⟩
    exact ⟨hnames.trans hnames', hregistry.trans hregistry'⟩
  next =>
    cases h
    exact ⟨hnames, hregistry⟩

/-! ## The declarations of an ingestion -/

/-- The entities that an ingestion names. -/
def GraphIngestion.mentioned (req : GraphIngestion) : List StructuredEntity :=
  req.structured.entities.getD [] ++ (req.structured.relations.getD []).flatMap fun relation =>
    relation.subject.toList ++ (relation.object.bind (·.entity)).toList

/-- One declaration of an ingestion, or a part of it that leaves the names alone. -/
inductive NameStep (text : GraphText) (req : GraphIngestion)
    : GraphDb → Option StructuredEntity → GraphDb → Prop where
  | declare {db db' : GraphDb} {entity : StructuredEntity} {path : String} {id : Uuid}
    (h : upsertGraphEntityAndAliases text req.draw req.tenantId req.projectId entity path
      req.authority db = .ok (id, db'))
    : NameStep text req db (some entity) db'
  | other {db db' : GraphDb} (h : db.SameNames db') : NameStep text req db none db'

theorem persistEntities_names
    (h : persistEntities text req.draw req.tenantId req.projectId req.authority entities idx db
      = .ok ((), db'))
    : Run (NameStep text req) db (entities.map some) db' := by
  induction entities generalizing db idx with
  | nil =>
    cases h
    apply Run.nil
  | cons entity entities ih =>
    unfold persistEntities at h
    rcases Except.bind_eq_ok.mp h with ⟨⟨id, mid⟩, hfirst, hrest⟩
    exact Run.cons (.declare hfirst) (ih hrest)

theorem resolveObject_names (h : resolveObject text req idx object db = .ok (found, db'))
    : ∃ as, Run (NameStep text req) db as db'
      ∧ ∀ entity, some entity ∈ as ↔ object.entity = some entity := by
  unfold resolveObject at h
  split at h
  next entity hentity hvalue =>
    rcases Except.bind_eq_ok.mp h with ⟨⟨id, mid⟩, hfirst, hpure⟩
    cases hpure
    refine ⟨_, Run.single (.declare hfirst), ?_⟩
    intro other
    rw [hentity]
    simp [eq_comm]
  next hentity hvalue =>
    cases h
    refine ⟨[none], Run.single (.other ⟨rfl, rfl⟩), ?_⟩
    rw [hentity]
    simp
  next => cases h

theorem persistRelation_names (h : persistRelation text req idx relation db = .ok ((), db'))
    : ∃ as, Run (NameStep text req) db as db'
      ∧ ∀ entity, some entity ∈ as ↔
        entity ∈ relation.subject.toList ++ (relation.object.bind (·.entity)).toList := by
  unfold persistRelation resolveRelation at h
  rcases Except.bind_eq_ok.mp h with ⟨⟨target, db₄⟩, htarget, hstore⟩
  rcases Except.bind_eq_ok.mp htarget with ⟨subject, hsubject, h⟩
  rcases Except.bind_eq_ok.mp h with ⟨predicate, -, h⟩
  rcases Except.bind_eq_ok.mp h with ⟨⟨subjectId, db₁⟩, hdeclare, h⟩
  rcases Except.bind_eq_ok.mp h with ⟨object, hobject, h⟩
  rcases Except.bind_eq_ok.mp h with ⟨⟨found, db₂⟩, hfound, h⟩
  rcases Except.bind_eq_ok.mp h with ⟨⟨row, db₃⟩, hrow, h⟩
  rcases Except.bind_eq_ok.mp h with ⟨_, -, hpure⟩
  cases hpure
  have hsubject := Except.ofOption_eq_ok.mp hsubject
  have hobject := Except.ofOption_eq_ok.mp hobject
  have hquiet : db₂.SameNames db' :=
    (resolveOrRegisterPredicate_frame (Except.mapError_eq_ok.mp hrow)).2.trans
      (storeRelation_frame hstore).1
  rcases resolveObject_names hfound with ⟨as, hrun, hnamed⟩
  refine ⟨_, Run.cons (.declare hdeclare) (hrun.snoc (.other hquiet)), ?_⟩
  intro entity
  rw [hsubject, hobject]
  simp [hnamed, eq_comm]

theorem persistRelations_names (h : persistRelations text req relations idx db = .ok ((), db'))
    : ∃ as, Run (NameStep text req) db as db'
      ∧ ∀ entity, some entity ∈ as ↔ entity ∈ relations.flatMap fun relation =>
        relation.subject.toList ++ (relation.object.bind (·.entity)).toList := by
  induction relations generalizing db idx with
  | nil =>
    cases h
    exact ⟨[], Run.nil _, by simp⟩
  | cons relation relations ih =>
    unfold persistRelations at h
    rcases Except.bind_eq_ok.mp h with ⟨⟨_, mid⟩, hfirst, hrest⟩
    rcases persistRelation_names hfirst with ⟨as, hrun, hnamed⟩
    rcases ih hrest with ⟨bs, hrun', hnamed'⟩
    refine ⟨as ++ bs, hrun.append hrun', ?_⟩
    intro entity
    rw [List.flatMap_cons, List.mem_append, List.mem_append, hnamed, hnamed']

/-- An ingestion declares the entities that it names, and does nothing else to the names. -/
theorem persistGraphFieldsTx_names (h : persistGraphFieldsTx text req db = .ok ((), db'))
    : ∃ as, Run (NameStep text req) db as db'
      ∧ ∀ entity, some entity ∈ as ↔ entity ∈ req.mentioned := by
  unfold GraphIngestion.mentioned
  unfold persistGraphFieldsTx at h
  split at h
  next hgraph =>
    cases h
    refine ⟨[], Run.nil _, ?_⟩
    unfold StructuredFields.hasGraphFields at hgraph
    intro entity
    cases hentities : req.structured.entities with
    | none =>
      cases hrelations : req.structured.relations with
      | none => simp
      | some relations => simp_all
    | some entities =>
      cases hrelations : req.structured.relations with
      | none => simp_all
      | some relations => simp_all
  next =>
    rcases Except.bind_eq_ok.mp h with ⟨⟨_, mid⟩, hentities, hrelations⟩
    have hrun := persistEntities_names hentities
    rcases persistRelations_names hrelations with ⟨bs, hrun', hnamed⟩
    refine ⟨_, hrun.append hrun', ?_⟩
    intro entity
    rw [List.mem_append, List.mem_append, hnamed]
    simp

end Elf
