import Elf.Graph.Models
import Mathlib.Data.List.Sort
import Elf.Graph.Predicates
import Elf.Lib.Run

/-!
This module contains how the names of entities are looked up and written, and how the graph fields of a
note are ingested: its entities, then its relations one after the other, all in the transaction of the
note. A canonical name belongs to one entity of the project. An alias says who declared it: one that a
caller declared stands for its entity, one that was extracted is a hint.
-/

namespace Elf

open Text

variable (text : GraphText)

namespace GraphDb

def findCanonical (db : GraphDb) (tenantId projectId norm : String) : Option GraphEntity :=
  db.entities.rows.find? fun row =>
    row.tenantId = tenantId && row.projectId = projectId && row.canonicalNorm = norm

/-- The entities of a project that a caller gave an alias. -/
def callerMatches (db : GraphDb) (tenantId projectId norm : String) : List GraphEntity :=
  db.entityAliases.rows.filterMap fun row =>
    if row.aliasNorm = norm && row.authority = .caller then
      (db.entities.find? row.entityId).filter fun entity =>
        entity.tenantId = tenantId && entity.projectId = projectId
    else
      none

end GraphDb

def resolveEntityByCanonical (db : GraphDb) (tenantId projectId canonical : String)
    : Option GraphEntity :=
  db.findCanonical tenantId projectId (text.normalizeEntityName canonical)

def entityAmbiguous (surface norm : String) (candidates : List GraphEntity) : StorageError :=
  .conflict ("graph entity surface is ambiguous; entity_surface=" ++ surface ++ " alias_norm=" ++ norm
    ++ " candidates=[" ++ ", ".intercalate (candidates.map (·.entityId.toString)) ++ "]")

def resolveEntityBySurface (db : GraphDb) (tenantId projectId entitySurface : String)
    : Except StorageError (Option GraphEntity) :=
  let surface := trim entitySurface
  let norm := text.normalizeEntityName surface
  if surface = "" then
    .error (.invalidArgument "graph entity is required; entity_surface must not be empty")
  else
    match resolveEntityByCanonical text db tenantId projectId surface with
    | some entity => .ok (some entity)
    | none =>
      match db.callerMatches tenantId projectId norm with
      | [] => .ok none
      | [entity] => .ok (some entity)
      | candidates => .error (entityAmbiguous surface norm candidates)

def upsertEntity (db : GraphDb) (entityId : Uuid) (tenantId projectId canonical : String)
    (kind : Option String) : Except StorageError (Uuid × GraphDb) :=
  let canonicalNorm := text.normalizeEntityName canonical
  match db.findCanonical tenantId projectId canonicalNorm with
  | some existing =>
    .ok (existing.entityId, { db with entities := db.entities.modify existing.entityId fun row =>
      { row with canonical, kind := kind <|> row.kind } })
  | none => do
    let entities ← db.entities.insert
      ⟨entityId, tenantId, projectId, canonical, canonicalNorm, kind⟩ duplicateRow
    return (entityId, { db with entities })

def upsertEntityAlias (db : GraphDb) (entityId : Uuid) (surface : String)
    (authority : AliasAuthority) : GraphDb :=
  let row : GraphEntityAlias :=
    ⟨entityId, surface, text.normalizeEntityName surface, authority⟩
  { db with entityAliases := db.entityAliases.upsert row fun row =>
    { row with
      aliasSurface := surface
      authority := if row.authority = .caller then .caller else authority } }

/-- Who says that the names of an ingestion belong together. -/
inductive EntityIdentityAuthority where
  | caller
  | extracted
deriving DecidableEq

def EntityIdentityAuthority.aliasAuthority : EntityIdentityAuthority → AliasAuthority
  | .caller => .caller
  | .extracted => .extracted

/-- The names that select an entity, in the order in which they are looked up. -/
def StructuredEntity.surfaces (entity : StructuredEntity) (canonical : String)
    : EntityIdentityAuthority → List String
  | .caller => ((canonical :: entity.aliases.getD []).insertionSort (· ≤ ·)).dedup
  | .extracted => [canonical]

def resolveSurface (db : GraphDb) (tenantId projectId surface : String)
    : EntityIdentityAuthority → Except Error (Option GraphEntity)
  | .caller =>
    (resolveEntityBySurface text db tenantId projectId surface).mapError StorageError.toError
  | .extracted => .ok (resolveEntityByCanonical text db tenantId projectId surface)

/-- The one entity that the surfaces lead to. -/
def resolveSurfaces (db : GraphDb) (tenantId projectId contextPath : String)
    (authority : EntityIdentityAuthority) (surfaces : List String) (resolved : Option Uuid)
    : Except Error (Option Uuid) :=
  match surfaces with
  | [] => .ok resolved
  | surface :: surfaces => do
    match ← resolveSurface text db tenantId projectId surface authority with
    | none => resolveSurfaces db tenantId projectId contextPath authority surfaces resolved
    | some existing =>
      Except.rejectIf (resolved.any fun id => id ≠ existing.entityId) (Error.invalidRequest
        (contextPath ++ ": declared entity surfaces have conflicting identities."))
      resolveSurfaces db tenantId projectId contextPath authority surfaces (some existing.entityId)

def upsertAliases (db : GraphDb) (entityId : Uuid) (contextPath : String)
    (authority : EntityIdentityAuthority) (aliases : List String) (idx : Nat)
    : Except Error GraphDb :=
  match aliases with
  | [] => .ok db
  | surface :: aliases => do
    Except.rejectIf (trim surface == "") (Error.invalidRequest
      (contextPath ++ ".aliases[" ++ toString idx ++ "] must not be empty."))
    upsertAliases (upsertEntityAlias text db entityId (trim surface) authority.aliasAuthority)
      entityId contextPath authority aliases (idx + 1)

def upsertGraphEntityAndAliases (draw : GraphDraw) (tenantId projectId : String)
    (entity : StructuredEntity) (contextPath : String) (authority : EntityIdentityAuthority)
    : Transaction Error GraphDb Uuid := fun db => do
  let canonical ← Except.ofOption (Error.invalidRequest (contextPath ++ ".canonical is required."))
    entity.canonical
  let canonical := trim canonical
  match entity.entityId with
  | some id =>
    -- An explicit identity selects a node; it does not rewrite its names or aliases.
    Except.rejectIf (!db.entities.rows.any fun row =>
        row.tenantId = tenantId && row.projectId = projectId && row.entityId = id)
      (Error.notFound "Caller entity identity not found in this project.")
    return (id, db)
  | none =>
    let resolved ← resolveSurfaces text db tenantId projectId contextPath authority
      (entity.surfaces canonical authority) none
    let (entityId, db) ← match resolved with
      | some id => .ok (id, upsertEntityAlias text db id canonical authority.aliasAuthority)
      | none => (upsertEntity text db (draw.entityId contextPath) tenantId projectId canonical
          entity.kind).mapError StorageError.toError
    let db ← upsertAliases text db entityId contextPath authority (entity.aliases.getD []) 0
    return (entityId, db)

def persistEntities (draw : GraphDraw) (tenantId projectId : String)
    (authority : EntityIdentityAuthority) (entities : List StructuredEntity) (idx : Nat)
    : Transaction Error GraphDb Unit := fun db =>
  match entities with
  | [] => .ok ((), db)
  | entity :: entities => do
    let (_, db) ← upsertGraphEntityAndAliases text draw tenantId projectId entity
      ("structured.entities[" ++ toString idx ++ "]") authority db
    persistEntities draw tenantId projectId authority entities (idx + 1) db

end Elf

/-! ## Graph fields of a note -/

namespace Elf

variable (text : GraphText)

/-- An ingestion of the graph fields of one note. -/
structure GraphIngestion where
  draw : GraphDraw
  tenantId : String
  projectId : String
  agentId : String
  scope : String
  noteId : Uuid
  structured : StructuredFields
  now : Nat
  authority : EntityIdentityAuthority

/-- What a relation stands for once its names are resolved. -/
structure RelationTarget where
  subjectEntityId : Uuid
  objectEntityId : Option Uuid
  objectValue : Option String
  predicate : String
  predicateRow : GraphPredicate

def relationPath (idx : Nat) : String := "structured.relations[" ++ toString idx ++ "]"

def resolveObject (req : GraphIngestion) (idx : Nat) (object : StructuredRelationObject)
    : Transaction Error GraphDb (Option Uuid × Option String) := fun db =>
  match object.entity, object.value with
  | some entity, none => do
    let (id, db) ← upsertGraphEntityAndAliases text req.draw req.tenantId req.projectId entity
      (relationPath idx ++ ".object.entity") req.authority db
    return ((some id, none), db)
  | none, some value => .ok ((none, some value), db)
  | _, _ => .error (.invalidRequest
      (relationPath idx ++ ".object must provide exactly one of entity or value."))

def rejectDeprecatedPredicate (status : PredicateStatus) (relationPath : String)
    : Except Error Unit :=
  Except.rejectIf (status = .deprecated)
    (.invalidRequest (relationPath ++ ".predicate is deprecated and cannot be used."))

/-- An error of the storage layer that keeps its text only. -/
def storageText (err : StorageError) : Error := .storage err.toString

def resolveRelation (req : GraphIngestion) (idx : Nat) (relation : StructuredRelation)
    : Transaction Error GraphDb RelationTarget := fun db => do
  let subject ← Except.ofOption (Error.invalidRequest (relationPath idx ++ ".subject is required."))
    relation.subject
  let predicate ← Except.ofOption
    (Error.invalidRequest (relationPath idx ++ ".predicate is required.")) relation.predicate
  let (subjectEntityId, db) ← upsertGraphEntityAndAliases text req.draw req.tenantId req.projectId
    subject (relationPath idx ++ ".subject") req.authority db
  let object ← Except.ofOption (Error.invalidRequest (relationPath idx ++ ".object is required."))
    relation.object
  let (object, db) ← resolveObject text req idx object db
  let (predicateRow, db) ← (resolveOrRegisterPredicate text req.draw idx req.tenantId req.projectId
    predicate db).mapError storageText
  rejectDeprecatedPredicate predicateRow.status (relationPath idx)
  return (⟨subjectEntityId, object.1, object.2, predicate, predicateRow⟩, db)

/-- The fact that a relation is stored as, unless it is stored already. -/
def RelationTarget.fact (target : RelationTarget) (req : GraphIngestion) (idx : Nat)
    (relation : StructuredRelation) : GraphFact := {
  factId := req.draw.factId idx
  tenantId := req.tenantId
  projectId := req.projectId
  agentId := req.agentId
  scope := req.scope
  subjectEntityId := target.subjectEntityId
  predicate := target.predicate
  predicateId := target.predicateRow.predicateId
  objectEntityId := target.objectEntityId
  objectValue := target.objectValue
  validFrom := relation.validFrom.map pgTimestamp
  validTo := relation.validTo.map pgTimestamp }

def relationNow (req : GraphIngestion) (idx : Nat) : Int := req.now + 1000 * idx

/-- The start of a relation that is the current truth. -/
def RelationTarget.currentTruth (target : RelationTarget) (req : GraphIngestion) (idx : Nat)
    (relation : StructuredRelation) : Option Int :=
  if target.predicateRow.status = .active ∧ target.predicateRow.cardinality = .single
      ∧ relation.validTo = none then
    relation.validFrom.filter fun start => start ≤ relationNow req idx
  else
    none

def storeRelation (req : GraphIngestion) (idx : Nat) (relation : StructuredRelation)
    (target : RelationTarget) : Transaction Error GraphDb Unit := fun db => do
  let fact := target.fact req idx relation
  let (factId, db) ← (upsertFactWithEvidence fact [req.noteId] db).mapError storageText
  let db := setEvidenceQuoteIfPresent db factId req.noteId relation.evidenceQuote
  match target.currentTruth req idx relation with
  | some start =>
    return ((), supersedeConflictingActiveFacts db fact.key factId req.noteId (pgTimestamp start))
  | none => return ((), db)

def persistRelation (req : GraphIngestion) (idx : Nat) (relation : StructuredRelation)
    : Transaction Error GraphDb Unit := fun db => do
  let (target, db) ← resolveRelation text req idx relation db
  storeRelation req idx relation target db

def persistRelations (req : GraphIngestion) (relations : List StructuredRelation) (idx : Nat)
    : Transaction Error GraphDb Unit := fun db =>
  match relations with
  | [] => .ok ((), db)
  | relation :: relations => do
    let (_, db) ← persistRelation text req idx relation db
    persistRelations req relations (idx + 1) db

def persistGraphFieldsTx (req : GraphIngestion) : Transaction Error GraphDb Unit := fun db =>
  if !req.structured.hasGraphFields then
    .ok ((), db)
  else do
    let (_, db) ← persistEntities text req.draw req.tenantId req.projectId req.authority
      (req.structured.entities.getD []) 0 db
    persistRelations text req (req.structured.relations.getD []) 0 db

/-- The step relation of ingestions. One that fails is rolled back. -/
def Ingests (text : GraphText) (db : GraphDb) (req : GraphIngestion) (db' : GraphDb) : Prop :=
  (persistGraphFieldsTx text req).next db = db'

/-- One name or relation of an ingestion. -/
inductive GraphEvent where
  | declare (req : GraphIngestion) (idx : Nat) (entity : StructuredEntity)
  | relate (req : GraphIngestion) (idx : Nat) (relation : StructuredRelation)

def GraphEvent.exec : GraphEvent → Transaction Error GraphDb Unit
  | .declare req idx entity => fun db => do
    let (_, db) ← upsertGraphEntityAndAliases text req.draw req.tenantId req.projectId entity
      ("structured.entities[" ++ toString idx ++ "]") req.authority db
    return ((), db)
  | .relate req idx relation => persistRelation text req idx relation

/-! ## Ingestions on given inputs -/

/-- Lower case as far as the ASCII letters go. -/
def asciiText : GraphText := ⟨fun s => String.ofList (s.toList.map Char.toLower)⟩

/-- The `n`th ingestion of the project `p`. -/
def sampleIngestion (n : Nat) (authority : EntityIdentityAuthority)
    (entities : List StructuredEntity) (relations : List StructuredRelation) : GraphIngestion := {
  draw := {
    entityId := fun path => 1000 * n + path.length
    predicateId := fun idx => 1000 * n + idx
    predicateAliasId := fun idx => 1000 * n + idx
    factId := fun idx => 1000 * n + idx
    dbNow := 1000000 * n }
  tenantId := "t"
  projectId := "p"
  agentId := "a"
  scope := "agent_private"
  noteId := n
  structured := ⟨none, none, none, some entities, some relations⟩
  now := 1000000 * n
  authority }

def sampleEntity (canonical : String) (aliases : List String) : StructuredEntity :=
  ⟨none, some canonical, none, some aliases⟩

end Elf
