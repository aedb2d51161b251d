import Elf.Graph.Lemmas.Ingestion

/-!
This module contains where the texts in the graph tables come from: an ingestion writes the names,
kinds, predicates, values and quotes of its entities and relations, and no others.
-/

namespace Elf

open Text

def GraphEntity.texts (row : GraphEntity) : List String :=
  row.canonical :: row.canonicalNorm :: row.kind.toList

def GraphEntityAlias.texts (row : GraphEntityAlias) : List String :=
  [row.aliasSurface, row.aliasNorm]

def GraphPredicate.texts (row : GraphPredicate) : List String := [row.canonical, row.canonicalNorm]

def GraphPredicateAlias.texts (row : GraphPredicateAlias) : List String :=
  [row.aliasSurface, row.aliasNorm]

def GraphFact.texts (row : GraphFact) : List String := row.predicate :: row.objectValue.toList

/-- The free texts that the graph tables keep. -/
def GraphDb.texts (db : GraphDb) : List String :=
  db.entities.rows.flatMap GraphEntity.texts
    ++ db.entityAliases.rows.flatMap GraphEntityAlias.texts
    ++ db.predicates.rows.flatMap GraphPredicate.texts
    ++ db.predicateAliases.rows.flatMap GraphPredicateAlias.texts
    ++ db.facts.rows.flatMap GraphFact.texts
    ++ db.evidence.rows.flatMap fun row => row.quote.toList

variable (text : GraphText)

/-- A name as it is stored and as it is looked up. -/
def GraphText.nameTexts (name : String) : List String :=
  [trim name, text.normalizeEntityName (trim name)]

/-- The texts that a declaration hands to the graph tables. An identity selects an entity only. -/
def StructuredEntity.texts (entity : StructuredEntity) : List String :=
  match entity.entityId with
  | some _ => []
  | none =>
    (entity.canonical.toList ++ entity.aliases.getD []).flatMap text.nameTexts ++ entity.kind.toList

def StructuredRelation.texts (relation : StructuredRelation) : List String :=
  relation.subject.toList.flatMap (·.texts text)
    ++ relation.predicate.toList.flatMap (fun predicate => predicate :: text.nameTexts predicate)
    ++ relation.object.toList.flatMap (fun object =>
      object.entity.toList.flatMap (·.texts text) ++ object.value.toList)
    ++ relation.evidenceQuote.toList

/-- The texts that an ingestion hands to the graph tables. -/
def StructuredFields.graphTexts (structured : StructuredFields) : List String :=
  (structured.entities.getD []).flatMap (·.texts text)
    ++ (structured.relations.getD []).flatMap (·.texts text)

variable {text : GraphText} {db db' : GraphDb} {id : Uuid} {P : String → Prop}

/-- Every text in the graph tables satisfies `P`. -/
structure GraphDb.AllTexts (P : String → Prop) (db : GraphDb) : Prop where
  entities : ∀ row ∈ db.entities, ∀ x ∈ row.texts, P x
  entityAliases : ∀ row ∈ db.entityAliases, ∀ x ∈ row.texts, P x
  predicates : ∀ row ∈ db.predicates, ∀ x ∈ row.texts, P x
  predicateAliases : ∀ row ∈ db.predicateAliases, ∀ x ∈ row.texts, P x
  facts : ∀ row ∈ db.facts, ∀ x ∈ row.texts, P x
  evidence : ∀ row ∈ db.evidence, ∀ x ∈ row.quote.toList, P x

theorem GraphDb.allTexts_iff : db.AllTexts P ↔ ∀ x ∈ db.texts, P x := by
  unfold texts
  simp only [List.forall_mem_append, List.forall_mem_flatMap]
  constructor
  . rintro ⟨hentities, haliases, hpredicates, hpredicateAliases, hfacts, hevidence⟩
    exact ⟨⟨⟨⟨⟨hentities, haliases⟩, hpredicates⟩, hpredicateAliases⟩, hfacts⟩, hevidence⟩
  . rintro ⟨⟨⟨⟨⟨hentities, haliases⟩, hpredicates⟩, hpredicateAliases⟩, hfacts⟩, hevidence⟩
    exact ⟨hentities, haliases, hpredicates, hpredicateAliases, hfacts, hevidence⟩

/-! ## Names -/

theorem upsertEntity_allTexts
    (h : upsertEntity text db fresh tenantId projectId canonical kind = .ok (id, db'))
    (hdb : db.AllTexts P) (hcanonical : P canonical)
    (hnorm : P (text.normalizeEntityName canonical)) (hkind : ∀ x ∈ kind.toList, P x)
    : db'.AllTexts P := by
  unfold upsertEntity at h
  dsimp only at h
  split at h
  . cases h
    refine { hdb with entities := Table.forall_modify hdb.entities ?_ }
    intro row hrow
    have hold := hdb.entities row hrow
    unfold GraphEntity.texts at hold ⊢
    simp only [List.forall_mem_cons] at hold ⊢
    refine ⟨hcanonical, hold.2.1, ?_⟩
    cases kind with
    | some kind => exact hkind
    | none => exact hold.2.2
  . rcases Except.bind_eq_ok.mp h with ⟨entities, hinsert, hpure⟩
    cases hpure
    refine { hdb with
      entities := Table.forall_insert? (Table.insert_eq_ok.mp hinsert) hdb.entities ?_ }
    unfold GraphEntity.texts
    simp only [List.forall_mem_cons]
    exact ⟨hcanonical, hnorm, hkind⟩

theorem upsertEntityAlias_allTexts (hdb : db.AllTexts P) (hsurface : P surface)
    (hnorm : P (text.normalizeEntityName surface))
    : (upsertEntityAlias text db id surface authority).AllTexts P := by
  refine { hdb with entityAliases := Table.forall_upsert hdb.entityAliases ?_ ?_ }
  . unfold GraphEntityAlias.texts
    simp only [List.forall_mem_cons]
    exact ⟨hsurface, hnorm, by simp⟩
  . intro row hrow
    have hold := hdb.entityAliases row hrow
    unfold GraphEntityAlias.texts at hold ⊢
    simp only [List.forall_mem_cons] at hold ⊢
    exact ⟨hsurface, hold.2⟩

theorem nameTexts_forall {name : String} (h : ∀ x ∈ text.nameTexts name, P x)
    : P (trim name) ∧ P (text.normalizeEntityName (trim name)) := by
  unfold GraphText.nameTexts at h
  simpa using h

theorem upsertAliases_allTexts (h : upsertAliases text db id path authority aliases idx = .ok db')
    (hdb : db.AllTexts P) (haliases : ∀ surface ∈ aliases, ∀ x ∈ text.nameTexts surface, P x)
    : db'.AllTexts P := by
  induction aliases generalizing db idx with
  | nil =>
    cases h
    exact hdb
  | cons surface aliases ih =>
    unfold upsertAliases at h
    rcases Except.bind_eq_ok.mp h with ⟨_, -, hrest⟩
    rw [List.forall_mem_cons] at haliases
    rcases nameTexts_forall haliases.1 with ⟨hsurface, hnorm⟩
    exact ih hrest (upsertEntityAlias_allTexts hdb hsurface hnorm) haliases.2

theorem upsertGraphEntityAndAliases_allTexts
    (h : upsertGraphEntityAndAliases text draw tenantId projectId entity path authority db
      = .ok (id, db'))
    (hdb : db.AllTexts P) (hentity : ∀ x ∈ entity.texts text, P x) : db'.AllTexts P := by
  unfold upsertGraphEntityAndAliases at h
  rcases Except.bind_eq_ok.mp h with ⟨canonical, hcanonical, h⟩
  have hcanonical := Except.ofOption_eq_ok.mp hcanonical
  dsimp only at h
  split at h
  . rcases Except.bind_eq_ok.mp h with ⟨_, -, hpure⟩
    cases hpure
    exact hdb
  next hnone =>
    unfold StructuredEntity.texts at hentity
    rw [hnone, hcanonical] at hentity
    simp only [List.forall_mem_append, List.forall_mem_flatMap, Option.toList_some,
      List.forall_mem_singleton] at hentity
    rcases hentity with ⟨⟨hname, haliases⟩, hkind⟩
    rcases nameTexts_forall hname with ⟨hname, hnorm⟩
    rcases Except.bind_eq_ok.mp h with ⟨resolved, -, h⟩
    cases resolved with
    | some known =>
      rcases Except.bind_eq_ok.mp h with ⟨_, hmid, h⟩
      cases hmid
      rcases Except.bind_eq_ok.mp h with ⟨db'', hupsert, hpure⟩
      cases hpure
      exact upsertAliases_allTexts hupsert (upsertEntityAlias_allTexts hdb hname hnorm) haliases
    | none =>
      rcases Except.bind_eq_ok.mp h with ⟨⟨found, mid⟩, hmid, h⟩
      rcases Except.bind_eq_ok.mp h with ⟨db'', hupsert, hpure⟩
      cases hpure
      have hmid := upsertEntity_allTexts (Except.mapError_eq_ok.mp hmid) hdb hname hnorm hkind
      exact upsertAliases_allTexts hupsert hmid haliases

theorem persistEntities_allTexts
    (h : persistEntities text draw tenantId projectId authority entities idx db = .ok ((), db'))
    (hdb : db.AllTexts P) (hentities : ∀ entity ∈ entities, ∀ x ∈ entity.texts text, P x)
    : db'.AllTexts P := by
  induction entities generalizing db idx with
  | nil =>
    cases h
    exact hdb
  | cons entity entities ih =>
    unfold persistEntities at h
    rcases Except.bind_eq_ok.mp h with ⟨⟨id, mid⟩, hfirst, hrest⟩
    rw [List.forall_mem_cons] at hentities
    exact ih hrest (upsertGraphEntityAndAliases_allTexts hfirst hdb hentities.1) hentities.2

/-! ## Relations -/

theorem registerPredicate_allTexts
    (h : registerPredicate db draw idx tenantId projectId surface aliasNorm = .ok (row, db'))
    (hdb : db.AllTexts P) (hsurface : P surface) (hnorm : P aliasNorm) : db'.AllTexts P := by
  unfold registerPredicate at h
  dsimp only at h
  split at h
  . cases h
    exact hdb
  . rcases Except.bind_eq_ok.mp h with ⟨predicates, hinsert, hpure⟩
    cases hpure
    refine { hdb with
      predicates := Table.forall_insert? (Table.insert_eq_ok.mp hinsert) hdb.predicates ?_ }
    unfold GraphPredicate.texts
    simp only [List.forall_mem_cons]
    exact ⟨hsurface, hnorm, by simp⟩

theorem resolveOrRegisterPredicate_allTexts
    (h : resolveOrRegisterPredicate text draw idx tenantId projectId surface db = .ok (row, db'))
    (hdb : db.AllTexts P) (hsurface : ∀ x ∈ text.nameTexts surface, P x) : db'.AllTexts P := by
  rcases nameTexts_forall hsurface with ⟨hsurface, hnorm⟩
  unfold resolveOrRegisterPredicate at h
  dsimp only at h
  split at h
  . cases h
  . split at h
    . cases h
      exact hdb
    . rcases Except.bind_eq_ok.mp h with ⟨⟨row', mid⟩, hmid, hpure⟩
      cases hpure
      have hmid := registerPredicate_allTexts hmid hdb hsurface hnorm
      refine { hmid with
        predicateAliases := Table.forall_upsert hmid.predicateAliases ?_ hmid.predicateAliases }
      unfold GraphPredicateAlias.texts
      simp only [List.forall_mem_cons]
      exact ⟨hsurface, hnorm, by simp⟩

theorem attachEvidence_allTexts (hdb : db.AllTexts P) (noteIds : List Uuid)
    : (attachEvidence db factId noteIds).AllTexts P := by
  induction noteIds generalizing db with
  | nil => exact hdb
  | cons noteId noteIds ih =>
    apply ih
    exact { hdb with evidence := Table.forall_upsert hdb.evidence (by simp) hdb.evidence }

theorem upsertFactWithEvidence_allTexts
    (h : upsertFactWithEvidence fact noteIds db = .ok (factId, db')) (hdb : db.AllTexts P)
    (hfact : ∀ x ∈ fact.texts, P x) : db'.AllTexts P := by
  unfold upsertFactWithEvidence at h
  rcases Except.bind_eq_ok.mp h with ⟨_, -, h⟩
  rcases Except.bind_eq_ok.mp h with ⟨_, -, h⟩
  rcases Except.bind_eq_ok.mp h with ⟨_, -, h⟩
  split at h
  . cases h
    exact attachEvidence_allTexts hdb noteIds
  . rcases Except.bind_eq_ok.mp h with ⟨facts, hinsert, hpure⟩
    cases hpure
    apply attachEvidence_allTexts
    exact { hdb with
      facts := Table.forall_insert? (Table.insert_eq_ok.mp hinsert) hdb.facts hfact }

theorem setEvidenceQuoteIfPresent_allTexts {quote : Option String} (hdb : db.AllTexts P)
    (hquote : ∀ x ∈ quote.toList, P x)
    : (setEvidenceQuoteIfPresent db factId noteId quote).AllTexts P := by
  cases quote with
  | some quote => exact { hdb with evidence := Table.forall_modify hdb.evidence fun _ _ => hquote }
  | none => exact hdb

theorem recordSupersessions_allTexts (hdb : db.AllTexts P) (superseded : List Uuid)
    : (recordSupersessions db key toFactId noteId effectiveAt superseded).AllTexts P := by
  induction superseded generalizing db with
  | nil => exact hdb
  | cons fromFactId superseded ih =>
    apply ih
    exact { hdb with }

theorem supersedeConflictingActiveFacts_allTexts (hdb : db.AllTexts P)
    : (supersedeConflictingActiveFacts db key toFactId noteId effectiveAt).AllTexts P := by
  apply recordSupersessions_allTexts
  exact { hdb with facts := Table.forall_updateWhere hdb.facts (by exact hdb.facts) }

theorem resolveObject_allTexts (h : resolveObject text req idx object db = .ok (found, db'))
    (hdb : db.AllTexts P) (hentity : ∀ entity ∈ object.entity.toList, ∀ x ∈ entity.texts text, P x)
    : db'.AllTexts P ∧ (found.2 = none ∨ found.2 = object.value) := by
  unfold resolveObject at h
  split at h
  next entity hsome hvalue =>
    rcases Except.bind_eq_ok.mp h with ⟨⟨id, mid⟩, hfirst, hpure⟩
    cases hpure
    rw [hsome, Option.toList_some, List.forall_mem_singleton] at hentity
    exact ⟨upsertGraphEntityAndAliases_allTexts hfirst hdb hentity, .inl rfl⟩
  next hvalue =>
    cases h
    exact ⟨hdb, .inr hvalue.symm⟩
  next => cases h

theorem persistRelation_allTexts (h : persistRelation text req idx relation db = .ok ((), db'))
    (hdb : db.AllTexts P) (hrelation : ∀ x ∈ relation.texts text, P x) : db'.AllTexts P := by
  unfold persistRelation resolveRelation at h
  rcases Except.bind_eq_ok.mp h with ⟨⟨target, db₄⟩, htarget, hstore⟩
  rcases Except.bind_eq_ok.mp htarget with ⟨subject, hsubject, h⟩
  rcases Except.bind_eq_ok.mp h with ⟨predicate, hpredicate, h⟩
  rcases Except.bind_eq_ok.mp h with ⟨⟨subjectId, db₁⟩, hdeclare, h⟩
  rcases Except.bind_eq_ok.mp h with ⟨object, hobject, h⟩
  rcases Except.bind_eq_ok.mp h with ⟨⟨found, db₂⟩, hfound, h⟩
  rcases Except.bind_eq_ok.mp h with ⟨⟨row, db₃⟩, hrow, h⟩
  rcases Except.bind_eq_ok.mp h with ⟨_, -, hpure⟩
  cases hpure
  unfold StructuredRelation.texts at hrelation
  rw [Except.ofOption_eq_ok.mp hsubject, Except.ofOption_eq_ok.mp hpredicate,
    Except.ofOption_eq_ok.mp hobject] at hrelation
  simp only [List.forall_mem_append, List.forall_mem_flatMap, Option.toList_some,
    List.forall_mem_singleton, List.forall_mem_cons] at hrelation
  rcases hrelation with ⟨⟨⟨hsubject, hpredicate, hnames⟩, hentity, hvalue⟩, hquote⟩
  have hdb₁ := upsertGraphEntityAndAliases_allTexts hdeclare hdb hsubject
  rcases resolveObject_allTexts hfound hdb₁ hentity with ⟨hdb₂, hfoundValue⟩
  have hdb₃ := resolveOrRegisterPredicate_allTexts (Except.mapError_eq_ok.mp hrow) hdb₂ hnames
  have hfact : ∀ x ∈ (RelationTarget.fact ⟨subjectId, found.1, found.2, predicate, row⟩ req idx
      relation).texts, P x := by
    unfold GraphFact.texts RelationTarget.fact
    simp only [List.forall_mem_cons]
    refine ⟨hpredicate, ?_⟩
    rcases hfoundValue with hnone | hsame
    . rw [hnone]
      simp
    . rw [hsame]
      exact hvalue
  unfold storeRelation at hstore
  rcases Except.bind_eq_ok.mp hstore with ⟨⟨factId, mid⟩, hmid, hstore⟩
  have hmid := upsertFactWithEvidence_allTexts (Except.mapError_eq_ok.mp hmid) hdb₃ hfact
  have hquoted : (setEvidenceQuoteIfPresent mid factId req.noteId relation.evidenceQuote).AllTexts P :=
    setEvidenceQuoteIfPresent_allTexts hmid hquote
  dsimp only at hstore
  split at hstore
  . cases hstore
    exact supersedeConflictingActiveFacts_allTexts hquoted
  . cases hstore
    exact hquoted

theorem persistRelations_allTexts (h : persistRelations text req relations idx db = .ok ((), db'))
    (hdb : db.AllTexts P) (hrelations : ∀ relation ∈ relations, ∀ x ∈ relation.texts text, P x)
    : db'.AllTexts P := by
  induction relations generalizing db idx with
  | nil =>
    cases h
    exact hdb
  | cons relation relations ih =>
    unfold persistRelations at h
    rcases Except.bind_eq_ok.mp h with ⟨⟨_, mid⟩, hfirst, hrest⟩
    rw [List.forall_mem_cons] at hrelations
    exact ih hrest (persistRelation_allTexts hfirst hdb hrelations.1) hrelations.2

/-! ## Ingestions -/

theorem persistGraphFieldsTx_allTexts (h : persistGraphFieldsTx text req db = .ok ((), db'))
    (hdb : db.AllTexts P) (hreq : ∀ x ∈ req.structured.graphTexts text, P x) : db'.AllTexts P := by
  unfold StructuredFields.graphTexts at hreq
  simp only [List.forall_mem_append, List.forall_mem_flatMap] at hreq
  unfold persistGraphFieldsTx at h
  split at h
  . cases h
    exact hdb
  . rcases Except.bind_eq_ok.mp h with ⟨⟨_, mid⟩, hentities, hrelations⟩
    have hmid := persistEntities_allTexts hentities hdb hreq.1
    exact persistRelations_allTexts hrelations hmid hreq.2

/-- An ingestion adds no text to the graph tables that its structured fields do not hand to them. -/
theorem Ingests.texts (h : Ingests text db req db') (hx : x ∈ db'.texts)
    : x ∈ db.texts ∨ x ∈ req.structured.graphTexts text := by
  let P := fun x => x ∈ db.texts ∨ x ∈ req.structured.graphTexts text
  have hdb : db.AllTexts P := GraphDb.allTexts_iff.mpr fun x hx => .inl hx
  suffices hdb' : db'.AllTexts P from GraphDb.allTexts_iff.mp hdb' x hx
  unfold Ingests at h
  rcases Transaction.next_cases (persistGraphFieldsTx text req) db with ⟨_, hok⟩ | ⟨err, -, hnext⟩
  . rw [h] at hok
    exact persistGraphFieldsTx_allTexts hok hdb fun x hx => .inr hx
  . rw [← h, hnext]
    exact hdb

end Elf
