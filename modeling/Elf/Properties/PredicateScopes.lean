import Elf.Graph.Lemmas.Predicates

/-!
This module contains how far what is done to predicates in one tenant and project shows in another
one. A scope key puts a colon between tenant and project, so that identifiers with colons in them can
share a key.
-/

namespace Elf

open Text

variable {text : GraphText} {security : SecurityConfig} {db db' : GraphDb}

/-! ## Scope keys -/

/-- The second tenant and project split at an earlier or later colon of the same key. -/
def SplitsAt (tenantId projectId tenantId' projectId' : String) : Prop :=
  ∃ between, tenantId' = tenantId ++ ":" ++ between ∧ projectId = between ++ ":" ++ projectId'

/-- Two pairs of tenant and project that are written as the same key. -/
def SameKey (tenantId projectId tenantId' projectId' : String) : Prop :=
  (tenantId = tenantId' ∧ projectId = projectId')
    ∨ SplitsAt tenantId projectId tenantId' projectId'
    ∨ SplitsAt tenantId' projectId' tenantId projectId

theorem append_colon_eq_iff (a b c d : List Char)
    : a ++ ':' :: b = c ++ ':' :: d
        ↔ (a = c ∧ b = d) ∨ (∃ w, c = a ++ ':' :: w ∧ b = w ++ ':' :: d)
          ∨ ∃ w, a = c ++ ':' :: w ∧ d = w ++ ':' :: b := by
  rw [List.append_eq_append_iff]
  constructor
  . rintro (⟨w, rfl, hw⟩ | ⟨w, rfl, hw⟩)
    . cases w with
      | nil =>
        simp only [List.nil_append, List.cons.injEq, true_and] at hw
        exact .inl ⟨by simp, hw⟩
      | cons x w =>
        simp only [List.cons_append, List.cons.injEq] at hw
        rcases hw with ⟨rfl, hw⟩
        exact .inr (.inl ⟨w, rfl, hw⟩)
    . cases w with
      | nil =>
        simp only [List.nil_append, List.cons.injEq, true_and] at hw
        exact .inl ⟨by simp, hw.symm⟩
      | cons x w =>
        simp only [List.cons_append, List.cons.injEq] at hw
        rcases hw with ⟨rfl, hw⟩
        exact .inr (.inr ⟨w, rfl, hw⟩)
  . rintro (⟨rfl, rfl⟩ | ⟨w, rfl, rfl⟩ | ⟨w, rfl, rfl⟩)
    . exact .inl ⟨[], by simp, rfl⟩
    . exact .inl ⟨':' :: w, rfl, rfl⟩
    . exact .inr ⟨':' :: w, rfl, rfl⟩

theorem splitsAt_iff (t p u q : String)
    : SplitsAt t p u q ↔ ∃ w, u.toList = t.toList ++ ':' :: w ∧ p.toList = w ++ ':' :: q.toList := by
  unfold SplitsAt
  constructor
  . rintro ⟨between, rfl, rfl⟩
    exact ⟨between.toList, by simp, by simp⟩
  . rintro ⟨w, hu, hp⟩
    refine ⟨String.ofList w, ?_, ?_⟩
    . apply String.ext
      simp [hu]
    . apply String.ext
      simp [hp]

theorem scopeKey_eq_iff (t p u q : String)
    : predicateScopeKeyTenantProject t p = predicateScopeKeyTenantProject u q ↔ SameKey t p u q := by
  unfold SameKey predicateScopeKeyTenantProject
  rw [splitsAt_iff, splitsAt_iff, ← String.toList_inj, ← String.toList_inj, ← String.toList_inj]
  simp only [String.toList_append]
  have hcolon : ":".toList = [':'] := rfl
  simp only [hcolon, List.append_assoc, List.cons_append, List.nil_append]
  exact append_colon_eq_iff ..

/-- The key of a project is the one of a tenant named `__project__`. -/
theorem scopeKeyProject_eq (projectId : String)
    : predicateScopeKeyProject projectId = predicateScopeKeyTenantProject "__project__" projectId := by
  unfold predicateScopeKeyProject predicateScopeKeyTenantProject graphPredicateScopeProjectPrefix
  rfl

theorem scopeKey_ne_global (tenantId projectId : String)
    : predicateScopeKeyTenantProject tenantId projectId ≠ graphPredicateScopeGlobal := by
  intro h
  have hcolon : ':' ∈ (predicateScopeKeyTenantProject tenantId projectId).toList := by
    unfold predicateScopeKeyTenantProject
    simp
  rw [h] at hcolon
  revert hcolon
  decide

/-- What is done in the first tenant and project shows in the second. -/
def ScopesClash (tenantId projectId tenantId' projectId' : String) : Prop :=
  SameKey tenantId projectId tenantId' projectId'
    ∨ SameKey tenantId projectId "__project__" projectId'

theorem mem_predicateScopeKeys (t p u q : String)
    : predicateScopeKeyTenantProject t p ∈ predicateScopeKeys u q ↔ ScopesClash t p u q := by
  unfold predicateScopeKeys ScopesClash
  rw [scopeKeyProject_eq]
  simp [scopeKey_eq_iff, scopeKey_ne_global]

/-! ## What a tenant and project sees -/

/-- Predicates resolve, are listed and are accessed as before. -/
structure Unaffected (text : GraphText) (tenantId projectId : String) (db db' : GraphDb) : Prop where
  resolve : ∀ surface, resolvePredicateNoRegister text db' tenantId projectId surface
    = resolvePredicateNoRegister text db tenantId projectId surface
  register : ∀ draw idx surface, db.predicates.find? (draw.predicateId idx) = none →
    db'.predicates.find? (draw.predicateId idx) = none →
    (resolveOrRegisterPredicate text draw idx tenantId projectId surface db').map Prod.fst
      = (resolveOrRegisterPredicate text draw idx tenantId projectId surface db).map Prod.fst
  list : ∀ scope, adminGraphPredicatesList db' ⟨tenantId, projectId, scope⟩
    = adminGraphPredicatesList db ⟨tenantId, projectId, scope⟩
  access : ∀ predicateId access allowGlobalMutation,
    loadPredicateInContext db' tenantId projectId predicateId access allowGlobalMutation
      = loadPredicateInContext db tenantId projectId predicateId access allowGlobalMutation
  listAliases : ∀ predicateId, adminGraphPredicateAliasesList db' ⟨tenantId, projectId, predicateId⟩
    = adminGraphPredicateAliasesList db ⟨tenantId, projectId, predicateId⟩

/-- The scopes that a tenant and project sees. -/
def visibleScope (tenantId projectId : String) (scopeKey : String) : Bool :=
  (predicateScopeKeys tenantId projectId).contains scopeKey

theorem loadPredicateInContext_eq (db : GraphDb) (tenantId projectId : String) (predicateId : Uuid)
    (access : PredicateAccess) (allowGlobalMutation : Bool)
    : loadPredicateInContext db tenantId projectId predicateId access allowGlobalMutation
        = (do
          let predicate ← Except.ofOption (predicateNotFound predicateId).toError
            ((db.predicates.find? predicateId).filter fun row =>
              visibleScope tenantId projectId row.scopeKey)
          Except.rejectIf (access = .mutate && predicate.scopeKey = graphPredicateScopeGlobal
              && !allowGlobalMutation)
            (.scopeDenied "Super-admin token required to modify global graph predicates.")
          return predicate) := by
  unfold loadPredicateInContext getPredicateById
  cases hfind : db.predicates.find? predicateId with
  | none => rfl
  | some predicate =>
    have hvisible : visibleScope tenantId projectId predicate.scopeKey
        = ((predicate.scopeKey = predicateScopeKeyTenantProject tenantId projectId
          || predicate.scopeKey = predicateScopeKeyProject projectId)
          || predicate.scopeKey = graphPredicateScopeGlobal) := by
      unfold visibleScope predicateScopeKeys
      simp [Bool.or_assoc]
    dsimp only [Except.ofOption]
    rw [Option.filter_some, hvisible]
    by_cases hcontext : (predicate.scopeKey = predicateScopeKeyTenantProject tenantId projectId
        || predicate.scopeKey = predicateScopeKeyProject projectId : Bool) = true
    . simp [hcontext, Except.rejectIf, bind, Except.bind]
    . by_cases hglobal : predicate.scopeKey = graphPredicateScopeGlobal
      . simp [hglobal, Except.rejectIf, bind, Except.bind]
      . simp only [Bool.not_eq_true] at hcontext
        simp [hcontext, hglobal, Except.rejectIf, bind, Except.bind]

theorem visibleScope_iff (tenantId projectId scopeKey : String)
    : visibleScope tenantId projectId scopeKey = true
        ↔ scopeKey ∈ predicateScopeKeys tenantId projectId := by
  unfold visibleScope
  exact List.contains_iff_mem

theorem GraphDb.SameScopes.findPredicateIn_eq
    (h : db.SameScopes (visibleScope tenantId projectId) db') (hdb : db.RegistrySound)
    (hdb' : db'.RegistrySound) (norm : String)
    : db'.findPredicateIn (predicateScopeKeys tenantId projectId) norm
        = db.findPredicateIn (predicateScopeKeys tenantId projectId) norm := by
  apply h.findPredicateIn hdb hdb'
  intro scopeKey hkey
  exact (visibleScope_iff ..).mpr hkey

theorem GraphDb.SameScopes.find_canonical
    (h : db.SameScopes (visibleScope tenantId projectId) db') (norm : String)
    : (db'.predicates.rows.find? fun row =>
          row.scopeKey = predicateScopeKeyTenantProject tenantId projectId
            && row.canonicalNorm = norm)
        = db.predicates.rows.find? fun row =>
            row.scopeKey = predicateScopeKeyTenantProject tenantId projectId
              && row.canonicalNorm = norm := by
  have hvisible (rows : List GraphPredicate) : (rows.find? fun row =>
        row.scopeKey = predicateScopeKeyTenantProject tenantId projectId
          && row.canonicalNorm = norm)
      = (rows.filter fun row => visibleScope tenantId projectId row.scopeKey).find? fun row =>
        row.scopeKey = predicateScopeKeyTenantProject tenantId projectId
          && row.canonicalNorm = norm := by
    rw [List.find?_filter]
    congr 1
    funext row
    by_cases hkey : row.scopeKey = predicateScopeKeyTenantProject tenantId projectId
    . have hmem : visibleScope tenantId projectId row.scopeKey = true := by
        rw [visibleScope_iff, hkey]
        exact List.mem_cons_self
      simp [hmem]
    . simp [hkey]
  rw [hvisible, h.predicates, ← hvisible]

theorem GraphDb.SameScopes.resolveOrRegister
    (h : db.SameScopes (visibleScope tenantId projectId) db') (hdb : db.RegistrySound)
    (hdb' : db'.RegistrySound) (hfresh : db.predicates.find? (draw.predicateId idx) = none)
    (hfresh' : db'.predicates.find? (draw.predicateId idx) = none) (surface : String)
    : (resolveOrRegisterPredicate text draw idx tenantId projectId surface db').map Prod.fst
        = (resolveOrRegisterPredicate text draw idx tenantId projectId surface db).map
          Prod.fst := by
  unfold resolveOrRegisterPredicate registerPredicate
  dsimp only
  rw [h.findPredicateIn_eq hdb hdb', h.find_canonical]
  split
  . rfl
  . split
    . rfl
    . split
      . rfl
      . rcases db.predicates.insert_exists ⟨draw.predicateId idx, _, _, _, _, _, _, _, _, _⟩ hfresh
          duplicateRow with ⟨predicates, hinsert⟩
        rcases db'.predicates.insert_exists ⟨draw.predicateId idx, _, _, _, _, _, _, _, _, _⟩ hfresh'
          duplicateRow with ⟨predicates', hinsert'⟩
        rw [hinsert, hinsert']
        rfl

theorem GraphDb.SameScopes.listPredicatesByScopeKeys
    (h : db.SameScopes (visibleScope tenantId projectId) db') (scopeKeys : List String)
    (hscopes : ∀ scopeKey ∈ scopeKeys, scopeKey ∈ predicateScopeKeys tenantId projectId)
    : listPredicatesByScopeKeys db' scopeKeys = listPredicatesByScopeKeys db scopeKeys := by
  unfold Elf.listPredicatesByScopeKeys
  have hvisible (rows : List GraphPredicate) : (rows.filter fun row => scopeKeys.contains row.scopeKey)
      = (rows.filter fun row => visibleScope tenantId projectId row.scopeKey).filter fun row =>
        scopeKeys.contains row.scopeKey := by
    rw [List.filter_filter]
    congr 1
    funext row
    by_cases hkey : row.scopeKey ∈ scopeKeys
    . rw [(visibleScope_iff ..).mpr (hscopes _ hkey), Bool.and_true]
    . have hcontains : scopeKeys.contains row.scopeKey = false := by simpa using hkey
      rw [hcontains, Bool.false_and]
  rw [hvisible, hvisible db.predicates.rows, h.predicates]

theorem graphPredicateScopeKeys_visible (scope : AdminGraphPredicateScope)
    (hkey : scopeKey ∈ graphPredicateScopeKeys tenantId projectId scope)
    : scopeKey ∈ predicateScopeKeys tenantId projectId := by
  unfold predicateScopeKeys
  cases scope with
  | tenantProject => simp_all [graphPredicateScopeKeys]
  | project => simp_all [graphPredicateScopeKeys]
  | global => simp_all [graphPredicateScopeKeys]
  | all => exact hkey

theorem GraphDb.SameScopes.loadPredicateInContext
    (h : db.SameScopes (visibleScope tenantId projectId) db') (predicateId : Uuid)
    (access : PredicateAccess) (allowGlobalMutation : Bool)
    : loadPredicateInContext db' tenantId projectId predicateId access allowGlobalMutation
        = loadPredicateInContext db tenantId projectId predicateId access allowGlobalMutation := by
  rw [loadPredicateInContext_eq, loadPredicateInContext_eq, h.find_predicate]

theorem listPredicateAliases_eq (hdb : db.RegistrySound)
    (hload : loadPredicateInContext db tenantId projectId predicateId access allow = .ok row)
    : listPredicateAliases db predicateId
        = ((db.predicateAliases.rows.filter fun row =>
            visibleScope tenantId projectId row.scopeKey).filter fun row =>
              row.predicateId = predicateId).insertionSort fun a b => (a.cmp b).isLE := by
  rw [loadPredicateInContext_eq] at hload
  rcases Except.bind_eq_ok.mp hload with ⟨predicate, hpredicate, -⟩
  have hpredicate := Except.ofOption_eq_ok.mp hpredicate
  rw [Option.filter_eq_some_iff] at hpredicate
  unfold listPredicateAliases
  rw [List.filter_filter]
  congr 1
  apply List.filter_congr
  intro aliasRow hmem
  by_cases hid : aliasRow.predicateId = predicateId
  . rcases hdb aliasRow hmem with ⟨owner, howner, hscope⟩
    rw [hid, hpredicate.1] at howner
    cases howner
    simp [hid, ← hscope, hpredicate.2]
  . simp [hid]

theorem GraphDb.SameScopes.unaffected (h : db.SameScopes (visibleScope tenantId projectId) db')
    (hdb : db.RegistrySound) (hdb' : db'.RegistrySound)
    : Unaffected text tenantId projectId db db' where
  resolve surface := by
    unfold resolvePredicateNoRegister
    dsimp only
    rw [h.findPredicateIn_eq hdb hdb']
  register draw idx surface hfresh hfresh' := h.resolveOrRegister hdb hdb' hfresh hfresh' surface
  list scope := by
    unfold adminGraphPredicatesList
    congr 1
    funext parsed
    rw [h.listPredicatesByScopeKeys _ fun _ hkey => graphPredicateScopeKeys_visible parsed hkey]
  access := h.loadPredicateInContext
  listAliases predicateId := by
    unfold adminGraphPredicateAliasesList
    dsimp only
    rw [h.loadPredicateInContext]
    cases hload : Elf.loadPredicateInContext db tenantId projectId predicateId .read false with
    | error err => rfl
    | ok row =>
      have hload' := hload
      rw [← h.loadPredicateInContext] at hload'
      have hsame : listPredicateAliases db' predicateId = listPredicateAliases db predicateId := by
        rw [listPredicateAliases_eq hdb hload, listPredicateAliases_eq hdb' hload',
          h.predicateAliases]
      show Except.ok _ = Except.ok _
      rw [hsame]

/-! ## What is done in a tenant and project -/

inductive PredicateOp where
  | create (draw : GraphDraw) (idx : Nat) (tenantId projectId surface : String)
  | ingest (req : GraphIngestion)
  | aliasAdd (draw : GraphDraw) (req : AdminGraphPredicateAliasAddRequest)
  | patch (dbNow : Nat) (req : AdminGraphPredicatePatchRequest)

namespace PredicateOp

/-- The tenant and the project of the request. -/
def context : PredicateOp → String × String
  | .create _ _ tenantId projectId _ => (tenantId, projectId)
  | .ingest req => (req.tenantId, req.projectId)
  | .aliasAdd _ req => (req.tenantId, req.projectId)
  | .patch _ req => (req.tenantId, req.projectId)

/-- The predicate that the request edits. -/
def edited : PredicateOp → Option Uuid
  | .create .. => none
  | .ingest _ => none
  | .aliasAdd _ req => some req.predicateId
  | .patch _ req => some req.predicateId

variable (text security)

/-- The registry after a request. One that fails leaves it as it was. -/
def exec (db : GraphDb) : PredicateOp → GraphDb
  | .create draw idx tenantId projectId surface =>
    (resolveOrRegisterPredicate text draw idx tenantId projectId surface).next db
  | .ingest req => (persistGraphFieldsTx text req).next db
  | .aliasAdd draw req => (adminGraphPredicateAliasAdd text security draw req).next db
  | .patch dbNow req => (adminGraphPredicatePatch security dbNow req).next db

/--
The request is one of the tenant and project, on a predicate of its own: the predicates of a whole
project and the global ones are there to be seen by others.
-/
def Own (tenantId projectId : String) (db : GraphDb) (op : PredicateOp) : Prop :=
  op.context = (tenantId, projectId) ∧ ∀ predicateId ∈ op.edited, ∀ row,
    db.predicates.find? predicateId = some row →
      row.scopeKey = predicateScopeKeyTenantProject tenantId projectId

def Step (db : GraphDb) (op : PredicateOp) (db' : GraphDb) : Prop := op.exec text security db = db'

end PredicateOp

theorem loadPredicateInContext_find
    (h : loadPredicateInContext db tenantId projectId predicateId access allow = .ok row)
    : db.predicates.find? predicateId = some row := by
  unfold loadPredicateInContext getPredicateById at h
  rcases Except.bind_eq_ok.mp h with ⟨found, hfound, h⟩
  rcases Except.bind_eq_ok.mp h with ⟨_, -, h⟩
  rcases Except.bind_eq_ok.mp h with ⟨_, -, hpure⟩
  cases hpure
  exact Except.ofOption_eq_ok.mp hfound

theorem aliasAdd_within (h : adminGraphPredicateAliasAdd text security draw req db = .ok (rows, db'))
    (hown : PredicateOp.Own tenantId projectId db (.aliasAdd draw req))
    : db.Within (predicateScopeKeyTenantProject tenantId projectId) db' := by
  unfold adminGraphPredicateAliasAdd at h
  rcases Except.bind_eq_ok.mp h with ⟨_, -, h⟩
  rcases Except.bind_eq_ok.mp h with ⟨row, hload, h⟩
  rcases Except.bind_eq_ok.mp h with ⟨_, -, h⟩
  rcases Except.bind_eq_ok.mp h with ⟨⟨_, mid⟩, hadd, hpure⟩
  cases hpure
  have hfind := loadPredicateInContext_find hload
  rw [← hown.2 req.predicateId rfl row hfind]
  exact addPredicateAlias_within hfind (Except.mapError_eq_ok.mp hadd)

theorem patch_within (h : adminGraphPredicatePatch security dbNow req db = .ok (row, db'))
    (hown : PredicateOp.Own tenantId projectId db (.patch dbNow req))
    : db.Within (predicateScopeKeyTenantProject tenantId projectId) db' := by
  unfold adminGraphPredicatePatch at h
  rcases Except.bind_eq_ok.mp h with ⟨_, -, h⟩
  rcases Except.bind_eq_ok.mp h with ⟨_, -, h⟩
  rcases Except.bind_eq_ok.mp h with ⟨_, -, h⟩
  rcases Except.bind_eq_ok.mp h with ⟨existing, hload, h⟩
  rcases Except.bind_eq_ok.mp h with ⟨_, -, h⟩
  rcases Except.bind_eq_ok.mp h with ⟨_, -, h⟩
  rcases Except.bind_eq_ok.mp h with ⟨_, -, hupdate⟩
  have hfind := loadPredicateInContext_find hload
  rw [← hown.2 req.predicateId rfl existing hfind]
  exact updatePredicateGuarded_within hfind (Except.mapError_eq_ok.mp hupdate)

theorem Transaction.next_within {tx : Transaction ε GraphDb α}
    (h : ∀ a db', tx db = .ok (a, db') → db.Within scopeKey db')
    : db.Within scopeKey (tx.next db) := by
  rcases tx.next_cases db with ⟨a, hok⟩ | ⟨_, -, hsame⟩
  . exact h a _ hok
  . rw [hsame]
    exact GraphDb.SameRegistry.within ⟨rfl, rfl⟩ scopeKey

/-- A request on what is a tenant and project's own writes rows of its scope only. -/
theorem PredicateOp.exec_within (op : PredicateOp) (hown : op.Own tenantId projectId db)
    : db.Within (predicateScopeKeyTenantProject tenantId projectId) (op.exec text security db) := by
  unfold PredicateOp.exec
  cases op with
  | create draw idx tenantId' projectId' surface =>
    cases hown.1
    exact Transaction.next_within fun _ _ h => resolveOrRegisterPredicate_within h
  | ingest req =>
    cases hown.1
    exact Transaction.next_within fun _ _ h => persistGraphFieldsTx_within h
  | aliasAdd draw req => exact Transaction.next_within fun _ _ h => aliasAdd_within h hown
  | patch dbNow req => exact Transaction.next_within fun _ _ h => patch_within h hown

theorem PredicateOp.run_within
    (h : Run (Run.Guarded (PredicateOp.Own tenantId projectId) (PredicateOp.Step text security))
      db ops db')
    : db.Within (predicateScopeKeyTenantProject tenantId projectId) db' := by
  apply h.relation (R := GraphDb.Within (predicateScopeKeyTenantProject tenantId projectId))
  . intro db
    exact GraphDb.SameRegistry.within ⟨rfl, rfl⟩ _
  . intro db₁ db₂ db₃
    exact GraphDb.Within.trans
  . intro db op db' hstep
    rw [← hstep.2]
    exact op.exec_within hstep.1

/-! ## Isolation -/

theorem unaffected_of_run (hclash : ¬ScopesClash tenantId projectId tenantId' projectId')
    (hdb : db.RegistrySound)
    (h : Run (Run.Guarded (PredicateOp.Own tenantId projectId) (PredicateOp.Step text security))
      db ops db')
    : Unaffected text tenantId' projectId' db db' := by
  have hwithin := PredicateOp.run_within h
  apply (hwithin.same (visibleScope tenantId' projectId') ?_).unaffected hdb (hwithin.sound hdb)
  rw [← Bool.not_eq_true, visibleScope_iff, mem_predicateScopeKeys]
  exact hclash

/-- The row that the surface `x` is registered as where nothing was. -/
def createdPredicate (text : GraphText) (draw : GraphDraw) (tenantId projectId : String)
    : GraphPredicate :=
  ⟨draw.predicateId 0, predicateScopeKeyTenantProject tenantId projectId, some tenantId,
    some projectId, trim "x", text.normalizePredicateName (trim "x"), .multi, .pending, draw.dbNow,
    draw.dbNow⟩

theorem create_rows (text : GraphText) (security : SecurityConfig) (draw : GraphDraw)
    (tenantId projectId : String)
    : let db := PredicateOp.exec text security .empty (.create draw 0 tenantId projectId "x")
      db.predicates.rows = [createdPredicate text draw tenantId projectId]
        ∧ db.predicateAliases.rows = [⟨draw.predicateAliasId 0, draw.predicateId 0,
          predicateScopeKeyTenantProject tenantId projectId, trim "x",
          text.normalizePredicateName (trim "x"), draw.dbNow⟩] := by
  exact ⟨rfl, rfl⟩

/-- What is registered where nothing was is found by all who see its scope. -/
theorem create_resolves (text : GraphText) (draw : GraphDraw)
    (hsees : predicateScopeKeyTenantProject tenantId projectId
      ∈ predicateScopeKeys tenantId' projectId')
    : resolvePredicateNoRegister text (PredicateOp.exec text security .empty
        (.create draw 0 tenantId projectId "x")) tenantId' projectId' "x" ≠ .ok none := by
  have htrim : trim "x" ≠ "" := by decide
  rcases create_rows text security draw tenantId projectId with ⟨hpredicates, haliases⟩
  unfold resolvePredicateNoRegister
  dsimp only
  rw [if_neg htrim]
  intro hresolve
  have hnone := Except.ok.inj hresolve
  unfold GraphDb.findPredicateIn at hnone
  rw [List.findSome?_eq_none_iff] at hnone
  have hnone := hnone _ hsees
  unfold GraphDb.findPredicate Table.find? at hnone
  rw [haliases, hpredicates] at hnone
  simp [GraphPredicateAlias.ref, createdPredicate] at hnone

theorem empty_registrySound : GraphDb.empty.RegistrySound := by
  intro row hrow
  cases hrow

theorem clash_shows (text : GraphText) (security : SecurityConfig)
    (hclash : ScopesClash tenantId projectId tenantId' projectId')
    : ∃ ops db', Run (Run.Guarded (PredicateOp.Own tenantId projectId)
        (PredicateOp.Step text security)) .empty ops db'
      ∧ ¬Unaffected text tenantId' projectId' .empty db' := by
  let draw : GraphDraw := ⟨fun _ => 0, fun _ => 0, fun _ => 0, fun _ => 0, 0⟩
  let op : PredicateOp := .create draw 0 tenantId projectId "x"
  refine ⟨[op], op.exec text security .empty, Run.single ⟨⟨rfl, ?_⟩, rfl⟩, ?_⟩
  . intro predicateId hedited
    cases hedited
  . intro hsame
    apply create_resolves text draw ((mem_predicateScopeKeys ..).mpr hclash)
    . rw [hsame.resolve "x"]
      rfl

/--
The keys of two tenants and projects differ, and the one of a tenant and project is no other kind of
key, as far as the identifiers do not split at a colon in two ways. That is when what is done in one
does not show in the other.
-/
theorem predicate_scopes (text : GraphText) (security : SecurityConfig)
    (tenantId projectId tenantId' projectId' : String)
    : (predicateScopeKeyTenantProject tenantId projectId
          = predicateScopeKeyTenantProject tenantId' projectId'
        ↔ SameKey tenantId projectId tenantId' projectId')
      ∧ (predicateScopeKeyTenantProject tenantId projectId = predicateScopeKeyProject projectId'
        ↔ SameKey tenantId projectId "__project__" projectId')
      ∧ predicateScopeKeyTenantProject tenantId projectId ≠ graphPredicateScopeGlobal
      ∧ ((∀ db ops db', db.RegistrySound →
          Run (Run.Guarded (PredicateOp.Own tenantId projectId) (PredicateOp.Step text security))
            db ops db' → Unaffected text tenantId' projectId' db db')
        ↔ ¬ScopesClash tenantId projectId tenantId' projectId') := by
  refine ⟨scopeKey_eq_iff .., ?_, scopeKey_ne_global tenantId projectId, ?_⟩
  . rw [scopeKeyProject_eq]
    exact scopeKey_eq_iff ..
  . constructor
    . intro hisolated hclash
      rcases clash_shows text security hclash with ⟨ops, db', hrun, hshows⟩
      exact hshows (hisolated _ ops db' empty_registrySound hrun)
    . intro hclash db ops db' hdb hrun
      exact unaffected_of_run hclash hdb hrun

/-- The tenant `a:b` with the project `c`, and the tenant `a` with the project `b:c`. -/
theorem not_isolated_colon
    : ("a:b", "c") ≠ ("a", "b:c")
      ∧ predicateScopeKeyTenantProject "a:b" "c" = predicateScopeKeyTenantProject "a" "b:c"
      ∧ resolvePredicateNoRegister asciiText .empty "a" "b:c" "knows" = .ok none
      ∧ resolvePredicateNoRegister asciiText
          (PredicateOp.exec asciiText ⟨"off", []⟩ .empty
            (.create (sampleIngestion 1 .caller [] []).draw 0 "a:b" "c" "knows"))
          "a" "b:c" "knows" ≠ .ok none := by
  decide +kernel

end Elf
