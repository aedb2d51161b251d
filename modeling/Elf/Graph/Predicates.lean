import Elf.Graph.Models
import Mathlib.Data.List.Sort

/-!
This module contains the predicate registry: the scopes in which a predicate is looked up, and how
predicates and their aliases are registered, listed and changed. It also contains the requests of
administrators on the registry: to list predicates and their aliases, to add an alias and to change a
predicate. A request sees the predicates of its tenant and project, of its project and the global ones.
-/

namespace Elf

open Text

variable (text : GraphText)

def graphPredicateScopeGlobal : String := "__global__"

def graphPredicateScopeProjectPrefix : String := "__project__:"

def predicateScopeKeyTenantProject (tenantId projectId : String) : String :=
  tenantId ++ ":" ++ projectId

def predicateScopeKeyProject (projectId : String) : String :=
  graphPredicateScopeProjectPrefix ++ projectId

/-- The scopes that a predicate is looked up in, in this order. -/
def predicateScopeKeys (tenantId projectId : String) : List String :=
  [predicateScopeKeyTenantProject tenantId projectId, predicateScopeKeyProject projectId,
    graphPredicateScopeGlobal]

namespace GraphDb

def findPredicate (db : GraphDb) (scopeKey aliasNorm : String) : Option GraphPredicate :=
  (db.predicateAliases.find? (scopeKey, aliasNorm)).bind fun row => db.predicates.find? row.predicateId

def findPredicateIn (db : GraphDb) (scopeKeys : List String) (aliasNorm : String)
    : Option GraphPredicate :=
  scopeKeys.findSome? fun scopeKey => db.findPredicate scopeKey aliasNorm

end GraphDb

def predicateRequired : StorageError :=
  .invalidArgument "graph predicate is required; predicate_surface must not be empty"

/-- The row that a surface is registered as, unless its scope has one of that name. -/
def registerPredicate (db : GraphDb) (draw : GraphDraw) (idx : Nat)
    (tenantId projectId surface aliasNorm : String)
    : Except StorageError (GraphPredicate × GraphDb) :=
  let scopeKey := predicateScopeKeyTenantProject tenantId projectId
  match db.predicates.rows.find? fun row =>
      row.scopeKey = scopeKey && row.canonicalNorm = aliasNorm with
  | some existing => .ok (existing, db)
  | none => do
    let row : GraphPredicate := {
      predicateId := draw.predicateId idx
      scopeKey
      tenantId := some tenantId
      projectId := some projectId
      canonical := surface
      canonicalNorm := aliasNorm
      cardinality := .multi
      status := .pending
      createdAt := draw.dbNow
      updatedAt := draw.dbNow }
    let predicates ← db.predicates.insert row duplicateRow
    return (row, { db with predicates })

def resolveOrRegisterPredicate (draw : GraphDraw) (idx : Nat)
    (tenantId projectId predicateSurface : String)
    : Transaction StorageError GraphDb GraphPredicate := fun db =>
  let surface := trim predicateSurface
  if surface = "" then
    .error predicateRequired
  else
    let aliasNorm := text.normalizePredicateName surface
    match db.findPredicateIn (predicateScopeKeys tenantId projectId) aliasNorm with
    | some row => .ok (row, db)
    | none => do
      let (row, db) ← registerPredicate db draw idx tenantId projectId surface aliasNorm
      -- ON CONFLICT DO NOTHING
      let aliasRow : GraphPredicateAlias := ⟨draw.predicateAliasId idx, row.predicateId,
        predicateScopeKeyTenantProject tenantId projectId, surface, aliasNorm, draw.dbNow⟩
      let predicateAliases := db.predicateAliases.upsert aliasRow fun row => row
      return (row, { db with predicateAliases })

def resolvePredicateNoRegister (db : GraphDb) (tenantId projectId predicateSurface : String)
    : Except StorageError (Option GraphPredicate) :=
  let surface := trim predicateSurface
  if surface = "" then
    .error predicateRequired
  else
    .ok (db.findPredicateIn (predicateScopeKeys tenantId projectId)
      (text.normalizePredicateName surface))

def predicateNotFound (predicateId : Uuid) : StorageError :=
  .notFound ("graph predicate not found; predicate_id=" ++ predicateId.toString)

def addPredicateAlias (draw : GraphDraw) (predicateId : Uuid) (surface : String)
    : Transaction StorageError GraphDb Unit := fun db => do
  let surface := trim surface
  let aliasNorm := text.normalizePredicateName surface
  Except.rejectIf (surface == "")
    (.invalidArgument "graph predicate alias is required; alias must not be empty")
  Except.rejectIf (aliasNorm == "")
    (.invalidArgument "graph predicate alias is required; alias_norm must not be empty")
  let predicate ← Except.ofOption (predicateNotFound predicateId) (db.predicates.find? predicateId)
  let row : GraphPredicateAlias := ⟨draw.predicateAliasId 0, predicateId, predicate.scopeKey, surface,
    aliasNorm, draw.dbNow⟩
  -- The row of another predicate is left alone, so that no row is affected.
  Except.rejectIf ((db.predicateAliases.find? row.ref).any fun row => row.predicateId ≠ predicateId)
    (.conflict ("graph predicate alias already bound; scope_key=" ++ predicate.scopeKey
      ++ " alias_norm=" ++ aliasNorm))
  let predicateAliases := db.predicateAliases.upsert row fun row =>
    { row with aliasSurface := surface }
  return ((), { db with predicateAliases })

def GraphPredicateAlias.cmp (a b : GraphPredicateAlias) : Ordering :=
  (compare a.createdAt b.createdAt).then
    ((compare a.aliasNorm b.aliasNorm).then (compare a.aliasSurface b.aliasSurface))

def listPredicateAliases (db : GraphDb) (predicateId : Uuid) : List GraphPredicateAlias :=
  (db.predicateAliases.rows.filter fun row => row.predicateId = predicateId).insertionSort
    fun a b => (a.cmp b).isLE

def GraphPredicate.cmp (a b : GraphPredicate) : Ordering :=
  (compare a.scopeKey b.scopeKey).then (compare a.canonicalNorm b.canonicalNorm)

def listPredicatesByScopeKeys (db : GraphDb) (scopeKeys : List String) : List GraphPredicate :=
  (db.predicates.rows.filter fun row => scopeKeys.contains row.scopeKey).insertionSort
    fun a b => (a.cmp b).isLE

def getPredicateById (db : GraphDb) (predicateId : Uuid) : Option GraphPredicate :=
  db.predicates.find? predicateId

def PredicateStatus.asStr : PredicateStatus → String
  | .pending => "pending"
  | .active => "active"
  | .deprecated => "deprecated"

def PredicateCardinality.asStr : PredicateCardinality → String
  | .single => "single"
  | .multi => "multi"

def updatePredicateGuarded (predicateId : Uuid) (expectedStatus : PredicateStatus)
    (expectedCardinality : PredicateCardinality) (status : Option PredicateStatus)
    (cardinality : Option PredicateCardinality) (dbNow : Nat)
    : Transaction StorageError GraphDb GraphPredicate := fun db => do
  Except.rejectIf (expectedStatus = .deprecated)
    (.conflict ("graph predicate is deprecated and cannot be modified; predicate_id="
      ++ predicateId.toString))
  let existing ← Except.ofOption (predicateNotFound predicateId) (db.predicates.find? predicateId)
  Except.rejectIf (existing.status ≠ expectedStatus || existing.cardinality ≠ expectedCardinality)
    (.conflict ("graph predicate update conflict; predicate_id=" ++ predicateId.toString
      ++ " expected_status=" ++ expectedStatus.asStr
      ++ " expected_cardinality=" ++ expectedCardinality.asStr))
  let update (row : GraphPredicate) : GraphPredicate :=
    { row with
      status := status.getD row.status
      cardinality := cardinality.getD row.cardinality
      updatedAt := dbNow }
  return (update existing, { db with predicates := db.predicates.modify predicateId update })

end Elf

/-! ## Requests of administrators -/

namespace Elf

open Text

variable (text : GraphText)

inductive SecurityAuthRole where
  | user
  | admin
  | superAdmin
deriving DecidableEq

structure SecurityAuthKey where
  tokenId : String
  role : SecurityAuthRole

structure SecurityConfig where
  authMode : String
  authKeys : List SecurityAuthKey

def isSuperAdminTokenId (security : SecurityConfig) (tokenId : Option String) : Bool :=
  if trim security.authMode ≠ "static_keys" then
    false
  else
    match (tokenId.map trim).filter fun value => value ≠ "" with
    | none => false
    | some tokenId =>
      security.authKeys.any fun key => key.tokenId = tokenId && key.role = .superAdmin

inductive AdminGraphPredicateScope where
  | tenantProject
  | project
  | global
  | all
deriving DecidableEq

def AdminGraphPredicateScope.parse (raw : String) : Option AdminGraphPredicateScope :=
  match trim raw with
  | "tenant_project" => some .tenantProject
  | "project" => some .project
  | "global" => some .global
  | "all" => some .all
  | _ => none

def graphPredicateScopeKeys (tenantId projectId : String) : AdminGraphPredicateScope → List String
  | .tenantProject => [predicateScopeKeyTenantProject tenantId projectId]
  | .project => [predicateScopeKeyProject projectId]
  | .global => [graphPredicateScopeGlobal]
  | .all => predicateScopeKeys tenantId projectId

inductive PredicateAccess where
  | read
  | mutate
deriving DecidableEq

def loadPredicateInContext (db : GraphDb) (tenantId projectId : String) (predicateId : Uuid)
    (access : PredicateAccess) (allowGlobalMutation : Bool) : Except Error GraphPredicate := do
  let predicate ← Except.ofOption (predicateNotFound predicateId).toError
    (getPredicateById db predicateId)
  let isInContext := predicate.scopeKey = predicateScopeKeyTenantProject tenantId projectId
    || predicate.scopeKey = predicateScopeKeyProject projectId
  let isGlobal := predicate.scopeKey = graphPredicateScopeGlobal
  Except.rejectIf (!isInContext && !isGlobal) (predicateNotFound predicateId).toError
  Except.rejectIf (access = .mutate && isGlobal && !allowGlobalMutation)
    (.scopeDenied "Super-admin token required to modify global graph predicates.")
  return predicate

structure AdminGraphPredicatesListRequest where
  tenantId : String
  projectId : String
  scope : Option String

def adminGraphPredicatesList (db : GraphDb) (req : AdminGraphPredicatesListRequest)
    : Except Error (List GraphPredicate) := do
  let scope ← Except.ofOption
    (Error.invalidRequest "scope must be one of tenant_project|project|global|all")
    (AdminGraphPredicateScope.parse (req.scope.getD "all"))
  return listPredicatesByScopeKeys db (graphPredicateScopeKeys req.tenantId req.projectId scope)

structure AdminGraphPredicateAliasesListRequest where
  tenantId : String
  projectId : String
  predicateId : Uuid

def adminGraphPredicateAliasesList (db : GraphDb) (req : AdminGraphPredicateAliasesListRequest)
    : Except Error (List GraphPredicateAlias) := do
  let _ ← loadPredicateInContext db req.tenantId req.projectId req.predicateId .read false
  return listPredicateAliases db req.predicateId

def predicateDeprecated : Error :=
  .conflict "graph predicate is deprecated and cannot be modified."

structure AdminGraphPredicateAliasAddRequest where
  tenantId : String
  projectId : String
  tokenId : Option String
  predicateId : Uuid
  aliasSurface : String

def adminGraphPredicateAliasAdd (security : SecurityConfig) (draw : GraphDraw)
    (req : AdminGraphPredicateAliasAddRequest)
    : Transaction Error GraphDb (List GraphPredicateAlias) := fun db => do
  let surface := trim req.aliasSurface
  Except.rejectIf (surface == "") (.invalidRequest "alias must be non-empty.")
  let predicate ← loadPredicateInContext db req.tenantId req.projectId req.predicateId .mutate
    (isSuperAdminTokenId security req.tokenId)
  Except.rejectIf (predicate.status = .deprecated) predicateDeprecated
  let (_, db) ← (addPredicateAlias text draw req.predicateId surface db).mapError
    StorageError.toError
  return (listPredicateAliases db req.predicateId, db)

def PredicateStatus.parse : String → Option PredicateStatus
  | "pending" => some .pending
  | "active" => some .active
  | "deprecated" => some .deprecated
  | _ => none

def PredicateCardinality.parse : String → Option PredicateCardinality
  | "single" => some .single
  | "multi" => some .multi
  | _ => none

def predicateStatusTransitionAllowed : PredicateStatus → PredicateStatus → Bool
  | .pending, .active => true
  | .pending, .deprecated => true
  | .active, .deprecated => true
  | _, _ => false

def resolveNewStatus (status : Option String) (oldStatus : PredicateStatus)
    : Except Error (Option PredicateStatus) :=
  match status with
  | none => .ok none
  | some raw => do
    let new ← Except.ofOption
      (Error.invalidRequest "status must be one of pending|active|deprecated.")
      (PredicateStatus.parse raw)
    Except.rejectIf (new ≠ oldStatus && !predicateStatusTransitionAllowed oldStatus new)
      (.conflict ("Invalid graph predicate status transition; from=" ++ oldStatus.asStr ++ " to="
        ++ raw ++ "."))
    return some new

def resolveNewCardinality (cardinality : Option String)
    : Except Error (Option PredicateCardinality) :=
  match cardinality with
  | none => .ok none
  | some raw => do
    let new ← Except.ofOption (Error.invalidRequest "cardinality must be one of single|multi.")
      (PredicateCardinality.parse raw)
    return some new

structure AdminGraphPredicatePatchRequest where
  tenantId : String
  projectId : String
  tokenId : Option String
  predicateId : Uuid
  status : Option String
  cardinality : Option String

def adminGraphPredicatePatch (security : SecurityConfig) (dbNow : Nat)
    (req : AdminGraphPredicatePatchRequest) : Transaction Error GraphDb GraphPredicate := fun db => do
  Except.rejectIf (req.status.isNone && req.cardinality.isNone)
    (.invalidRequest "At least one of status or cardinality is required.")
  let status := req.status.map trim
  Except.rejectIf (status = some "") (.invalidRequest "status must be non-empty.")
  let cardinality := req.cardinality.map trim
  Except.rejectIf (cardinality = some "") (.invalidRequest "cardinality must be non-empty.")
  let existing ← loadPredicateInContext db req.tenantId req.projectId req.predicateId .mutate
    (isSuperAdminTokenId security req.tokenId)
  Except.rejectIf (existing.status = .deprecated) predicateDeprecated
  let newStatus ← resolveNewStatus status existing.status
  let newCardinality ← resolveNewCardinality cardinality
  (updatePredicateGuarded req.predicateId existing.status existing.cardinality newStatus
    newCardinality dbNow db).mapError StorageError.toError

end Elf
