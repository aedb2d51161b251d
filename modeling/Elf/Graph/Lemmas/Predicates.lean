import Elf.Graph.Predicates
import Elf.Graph.Lemmas.Facts

/-!
This module contains which rows of the predicate registry an operation reads and which it writes: it
reads the rows of the scopes that its context sees, and writes those of one scope.
-/

namespace Elf

open Text

variable {text : GraphText} {db db' : GraphDb} {id : Uuid}

namespace GraphDb

/-- An alias belongs to a predicate of its own scope. -/
def RegistrySound (db : GraphDb) : Prop :=
  ∀ row ∈ db.predicateAliases, ∃ predicate, db.predicates.find? row.predicateId = some predicate
    ∧ predicate.scopeKey = row.scopeKey

/-- The rows of the scopes are the same. -/
structure SameScopes (scopes : String → Bool) (db db' : GraphDb) : Prop where
  predicates : db'.predicates.rows.filter (fun row => scopes row.scopeKey)
    = db.predicates.rows.filter fun row => scopes row.scopeKey
  predicateAliases : db'.predicateAliases.rows.filter (fun row => scopes row.scopeKey)
    = db.predicateAliases.rows.filter fun row => scopes row.scopeKey

/-- Only rows of the scope `scopeKey` are written. -/
structure Within (scopeKey : String) (db db' : GraphDb) : Prop where
  same : ∀ scopes : String → Bool, scopes scopeKey = false → db.SameScopes scopes db'
  sound : db.RegistrySound → db'.RegistrySound

theorem SameScopes.refl (scopes : String → Bool) (db : GraphDb) : db.SameScopes scopes db :=
  ⟨rfl, rfl⟩

theorem SameScopes.trans (h : SameScopes scopes db₁ db₂) (h' : SameScopes scopes db₂ db₃)
    : SameScopes scopes db₁ db₃ :=
  ⟨h'.1.trans h.1, h'.2.trans h.2⟩

theorem Within.trans (h : Within scopeKey db₁ db₂) (h' : Within scopeKey db₂ db₃)
    : Within scopeKey db₁ db₃ where
  same scopes hscopes := (h.same scopes hscopes).trans (h'.same scopes hscopes)
  sound hdb := h'.sound (h.sound hdb)

theorem SameRegistry.within (h : db.SameRegistry db') (scopeKey : String)
    : db.Within scopeKey db' where
  same scopes _ := ⟨by rw [h.predicates], by rw [h.predicateAliases]⟩
  sound hdb := by
    unfold RegistrySound
    rw [h.predicates, h.predicateAliases]
    exact hdb

end GraphDb

/-! ## Writes -/

theorem predicate_insert_within {predicates : Table GraphPredicate GraphPredicate.predicateId}
    (hinsert : db.predicates.insert? row = some predicates)
    : db.Within row.scopeKey { db with predicates } where
  same scopes hscopes := ⟨Table.filter_insert? hinsert hscopes, rfl⟩
  sound hdb := by
    intro aliasRow halias
    rcases hdb aliasRow halias with ⟨predicate, hfind, hscope⟩
    refine ⟨predicate, ?_, hscope⟩
    dsimp only
    rw [Table.find?_insert? hinsert]
    split
    next hid =>
      have hfresh := Table.insert?_fresh hinsert
      rw [hid, hfind] at hfresh
      cases hfresh
    next => exact hfind

theorem alias_upsert_within (db : GraphDb) (row : GraphPredicateAlias) (f : GraphPredicateAlias → GraphPredicateAlias)
    (hf : ∀ row, (f row).ref = row.ref) (hf' : ∀ row, (f row).predicateId = row.predicateId)
    (hpredicate : ∃ predicate, db.predicates.find? row.predicateId = some predicate
      ∧ predicate.scopeKey = row.scopeKey)
    : db.Within row.scopeKey { db with predicateAliases := db.predicateAliases.upsert row f hf } where
  same scopes hscopes := by
    refine ⟨rfl, ?_⟩
    apply Table.filter_upsert
    . exact hscopes
    . intro other _ href
      have hscope : other.scopeKey = row.scopeKey := congrArg Prod.fst href
      have hscope' : (f other).scopeKey = row.scopeKey :=
        (congrArg Prod.fst (hf other)).trans hscope
      rw [hscope, hscope']
      exact ⟨hscopes, hscopes⟩
  sound hdb := by
    intro other hother
    have hfind := (db.predicateAliases.upsert row f hf).find?_key hother
    rw [Table.find?_upsert] at hfind
    split at hfind
    next href =>
      cases hold : db.predicateAliases.find? other.ref with
      | none =>
        rw [hold] at hfind
        cases hfind
        exact hpredicate
      | some old =>
        rw [hold] at hfind
        cases hfind
        rcases hdb old (Table.mem_of_find? hold) with ⟨predicate, hpredicate, hscope⟩
        refine ⟨predicate, ?_, hscope.trans (congrArg Prod.fst (hf old)).symm⟩
        rw [← hf' old] at hpredicate
        exact hpredicate
    next => exact hdb other (Table.mem_of_find? hfind)

theorem predicate_modify_within (hfind : db.predicates.find? predicateId = some row)
    (f : GraphPredicate → GraphPredicate) (hf : ∀ row, (f row).predicateId = row.predicateId)
    (hf' : ∀ row, (f row).scopeKey = row.scopeKey)
    : db.Within row.scopeKey { db with predicates := db.predicates.modify predicateId f hf } where
  same scopes hscopes := by
    refine ⟨?_, rfl⟩
    apply Table.filter_modify _ _ _ hf
    intro other hother hid
    have hother := db.predicates.find?_key hother
    rw [hid, hfind] at hother
    cases hother
    rw [hf']
    exact ⟨hscopes, hscopes⟩
  sound hdb := by
    intro aliasRow halias
    rcases hdb aliasRow halias with ⟨predicate, hpredicate, hscope⟩
    dsimp only
    rw [Table.find?_modify, hpredicate]
    split
    . exact ⟨f predicate, rfl, (hf' predicate).trans hscope⟩
    . exact ⟨predicate, rfl, hscope⟩

theorem resolveOrRegisterPredicate_within
    (h : resolveOrRegisterPredicate text draw idx tenantId projectId surface db = .ok (row, db'))
    : db.Within (predicateScopeKeyTenantProject tenantId projectId) db' := by
  unfold resolveOrRegisterPredicate registerPredicate at h
  dsimp only at h
  split at h
  . cases h
  . split at h
    . cases h
      exact GraphDb.SameRegistry.within ⟨rfl, rfl⟩ _
    . rcases Except.bind_eq_ok.mp h with ⟨⟨row', mid⟩, hmid, hpure⟩
      cases hpure
      split at hmid
      next existing hexisting =>
        cases hmid
        have hmem : row' ∈ db.predicates := List.mem_of_find?_eq_some hexisting
        have hsome := List.find?_some hexisting
        simp only [Bool.and_eq_true, decide_eq_true_eq] at hsome
        exact alias_upsert_within db ⟨_, row'.predicateId,
          predicateScopeKeyTenantProject tenantId projectId, _, _, _⟩ _ _ (fun _ => rfl)
          ⟨row', db.predicates.find?_key hmem, hsome.1⟩
      next hnone =>
        rcases Except.bind_eq_ok.mp hmid with ⟨predicates, hinsert, hpure⟩
        cases hpure
        have hinsert := Table.insert_eq_ok.mp hinsert
        apply (predicate_insert_within hinsert).trans
        exact alias_upsert_within { db with predicates } ⟨_, draw.predicateId idx,
          predicateScopeKeyTenantProject tenantId projectId, _, _, _⟩ _ _ (fun _ => rfl)
          ⟨_, by rw [Table.find?_insert? hinsert, if_pos rfl], rfl⟩

theorem addPredicateAlias_within (hfind : db.predicates.find? predicateId = some row)
    (h : addPredicateAlias text draw predicateId surface db = .ok ((), db'))
    : db.Within row.scopeKey db' := by
  unfold addPredicateAlias at h
  dsimp only at h
  rcases Except.bind_eq_ok.mp h with ⟨_, -, h⟩
  rcases Except.bind_eq_ok.mp h with ⟨_, -, h⟩
  rcases Except.bind_eq_ok.mp h with ⟨predicate, hpredicate, h⟩
  rcases Except.bind_eq_ok.mp h with ⟨_, -, hpure⟩
  have hpredicate := Except.ofOption_eq_ok.mp hpredicate
  rw [hfind] at hpredicate
  cases hpredicate
  cases hpure
  exact alias_upsert_within db ⟨_, predicateId, row.scopeKey, _, _, _⟩ _ _ (fun _ => rfl)
    ⟨row, hfind, rfl⟩

theorem updatePredicateGuarded_within (hfind : db.predicates.find? predicateId = some row)
    (h : updatePredicateGuarded predicateId expectedStatus expectedCardinality status cardinality
      dbNow db = .ok (updated, db'))
    : db.Within row.scopeKey db' := by
  unfold updatePredicateGuarded at h
  rcases Except.bind_eq_ok.mp h with ⟨_, -, h⟩
  rcases Except.bind_eq_ok.mp h with ⟨existing, -, h⟩
  rcases Except.bind_eq_ok.mp h with ⟨_, -, hpure⟩
  cases hpure
  exact predicate_modify_within hfind (fun row => { row with
      status := status.getD row.status
      cardinality := cardinality.getD row.cardinality
      updatedAt := dbNow }) (fun _ => rfl) fun _ => rfl

theorem resolveRelation_within (h : resolveRelation text req idx relation db = .ok (target, db'))
    : db.Within (predicateScopeKeyTenantProject req.tenantId req.projectId) db' := by
  unfold resolveRelation at h
  rcases Except.bind_eq_ok.mp h with ⟨subject, -, h⟩
  rcases Except.bind_eq_ok.mp h with ⟨predicate, -, h⟩
  rcases Except.bind_eq_ok.mp h with ⟨⟨subjectId, db₁⟩, hdeclare, h⟩
  rcases Except.bind_eq_ok.mp h with ⟨object, -, h⟩
  rcases Except.bind_eq_ok.mp h with ⟨⟨found, db₂⟩, hfound, h⟩
  rcases Except.bind_eq_ok.mp h with ⟨⟨row, db₃⟩, hrow, h⟩
  rcases Except.bind_eq_ok.mp h with ⟨_, -, hpure⟩
  cases hpure
  apply ((upsertGraphEntityAndAliases_frame hdeclare).2.within _).trans
  apply ((resolveObject_frame hfound).2.within _).trans
  exact resolveOrRegisterPredicate_within (Except.mapError_eq_ok.mp hrow)

theorem graphEvent_within (h : GraphSteps text db event db')
    (hevent : ∀ req idx relation, event = .relate req idx relation →
      predicateScopeKeyTenantProject req.tenantId req.projectId = scopeKey)
    : db.Within scopeKey db' := by
  unfold GraphSteps GraphEvent.exec at h
  split at h
  . rcases Except.bind_eq_ok.mp h with ⟨⟨entityId, mid⟩, hdeclare, hpure⟩
    cases hpure
    exact (upsertGraphEntityAndAliases_frame hdeclare).2.within scopeKey
  next req idx relation =>
    unfold persistRelation at h
    rcases Except.bind_eq_ok.mp h with ⟨⟨target, mid⟩, htarget, hstore⟩
    have hwithin := resolveRelation_within htarget
    rw [hevent req idx relation rfl] at hwithin
    exact hwithin.trans ((storeRelation_frame hstore).2.within scopeKey)

theorem mem_events_relate (req : GraphIngestion)
    (h : GraphEvent.relate req' idx relation ∈ req.events) : req' = req := by
  unfold GraphIngestion.events declareEvents relateEvents at h
  rcases List.mem_append.mp h with h | h
  . rcases List.mem_map.mp h with ⟨_, -, heq⟩
    cases heq
  . rcases List.mem_map.mp h with ⟨_, -, heq⟩
    cases heq
    rfl

theorem events_within (h : Run (GraphSteps text) db events db')
    (hevents : ∀ req idx relation, GraphEvent.relate req idx relation ∈ events →
      predicateScopeKeyTenantProject req.tenantId req.projectId = scopeKey)
    : db.Within scopeKey db' := by
  induction h with
  | nil db => exact GraphDb.SameRegistry.within ⟨rfl, rfl⟩ scopeKey
  | cons head tail ih =>
    apply (graphEvent_within head _).trans (ih _)
    . intro req idx relation heq
      exact hevents req idx relation (by simp [heq])
    . intro req idx relation hmem
      exact hevents req idx relation (by simp [hmem])

theorem persistGraphFieldsTx_within (h : persistGraphFieldsTx text req db = .ok ((), db'))
    : db.Within (predicateScopeKeyTenantProject req.tenantId req.projectId) db' := by
  apply events_within (persistGraphFieldsTx_events h)
  intro req' idx relation hmem
  rw [mem_events_relate req hmem]

/-! ## Reads -/

theorem GraphDb.SameScopes.mem_predicates (h : db.SameScopes scopes db') (row : GraphPredicate)
    (hrow : scopes row.scopeKey = true) : row ∈ db'.predicates ↔ row ∈ db.predicates := by
  have hmem : row ∈ db'.predicates.rows.filter (fun row => scopes row.scopeKey)
      ↔ row ∈ db.predicates.rows.filter fun row => scopes row.scopeKey := by
    rw [h.predicates]
  simp only [List.mem_filter, hrow, and_true] at hmem
  exact hmem

theorem GraphDb.SameScopes.mem_predicateAliases (h : db.SameScopes scopes db')
    (row : GraphPredicateAlias) (hrow : scopes row.scopeKey = true)
    : row ∈ db'.predicateAliases ↔ row ∈ db.predicateAliases := by
  have hmem : row ∈ db'.predicateAliases.rows.filter (fun row => scopes row.scopeKey)
      ↔ row ∈ db.predicateAliases.rows.filter fun row => scopes row.scopeKey := by
    rw [h.predicateAliases]
  simp only [List.mem_filter, hrow, and_true] at hmem
  exact hmem

/-- The predicate under an identifier, where its scope is one of those. -/
theorem GraphDb.SameScopes.find_predicate (h : db.SameScopes scopes db') (predicateId : Uuid)
    : (db'.predicates.find? predicateId).filter (fun row => scopes row.scopeKey)
        = (db.predicates.find? predicateId).filter fun row => scopes row.scopeKey := by
  ext row
  simp only [Option.filter_eq_some_iff, Table.find?_eq_some_iff]
  constructor
  . rintro ⟨⟨hmem, hid⟩, hrow⟩
    exact ⟨⟨(h.mem_predicates row hrow).mp hmem, hid⟩, hrow⟩
  . rintro ⟨⟨hmem, hid⟩, hrow⟩
    exact ⟨⟨(h.mem_predicates row hrow).mpr hmem, hid⟩, hrow⟩

theorem GraphDb.SameScopes.find_alias (h : db.SameScopes scopes db') (scopeKey norm : String)
    (hscope : scopes scopeKey = true)
    : db'.predicateAliases.find? (scopeKey, norm) = db.predicateAliases.find? (scopeKey, norm) := by
  ext row
  simp only [Table.find?_eq_some_iff]
  constructor
  . rintro ⟨hmem, href⟩
    have hrow : row.scopeKey = scopeKey := congrArg Prod.fst href
    refine ⟨(h.mem_predicateAliases row ?_).mp hmem, href⟩
    rw [hrow, hscope]
  . rintro ⟨hmem, href⟩
    have hrow : row.scopeKey = scopeKey := congrArg Prod.fst href
    refine ⟨(h.mem_predicateAliases row ?_).mpr hmem, href⟩
    rw [hrow, hscope]

theorem findPredicate_eq {norm : String} (hdb : db.RegistrySound) (scopes : String → Bool)
    (hscope : scopes scopeKey = true)
    : db.findPredicate scopeKey norm = (db.predicateAliases.find? (scopeKey, norm)).bind fun row =>
        (db.predicates.find? row.predicateId).filter fun row => scopes row.scopeKey := by
  unfold GraphDb.findPredicate
  cases hrow : db.predicateAliases.find? (scopeKey, norm) with
  | none => rfl
  | some row =>
    rcases hdb row (Table.mem_of_find? hrow) with ⟨predicate, hpredicate, hsame⟩
    have hkey : row.scopeKey = scopeKey := congrArg Prod.fst (Table.key_of_find? hrow)
    have hfilter : (some predicate).filter (fun row => scopes row.scopeKey) = some predicate := by
      rw [Option.filter_eq_some_iff, hsame, hkey]
      exact ⟨rfl, hscope⟩
    rw [Option.bind_some, Option.bind_some, hpredicate, hfilter]

theorem GraphDb.SameScopes.findPredicateIn (h : db.SameScopes scopes db') (hdb : db.RegistrySound)
    (hdb' : db'.RegistrySound) (scopeKeys : List String)
    (hscopes : ∀ scopeKey ∈ scopeKeys, scopes scopeKey = true) (norm : String)
    : db'.findPredicateIn scopeKeys norm = db.findPredicateIn scopeKeys norm := by
  unfold GraphDb.findPredicateIn
  induction scopeKeys with
  | nil => rfl
  | cons scopeKey scopeKeys ih =>
    have hscope := hscopes scopeKey List.mem_cons_self
    rw [List.findSome?_cons, List.findSome?_cons, findPredicate_eq hdb' scopes hscope,
      findPredicate_eq hdb scopes hscope, h.find_alias scopeKey norm hscope,
      ih fun other hother => hscopes other (List.mem_cons_of_mem scopeKey hother)]
    simp only [h.find_predicate]

end Elf
