import Elf.Service.StructuredFields
import Elf.Lib.Sql

/-!
This module contains the tables of the graph memory: the entities of a project with the names they
go by, the predicates of a scope with theirs, and the facts with the notes they rest on. When facts
are written, a fact that is stored already is found again, and a fact that is the current truth ends
the ones it supersedes. What a fact is at a time is worked out in several places.
-/

namespace Elf

/-- What a `timestamptz` column keeps of a time, which may be one before the year 2000. -/
def pgTimestamp (t : Int) : Int := t.tdiv 1000 * 1000

inductive AliasAuthority where
  | unknown
  | extracted
  | caller
deriving DecidableEq

structure GraphEntity where
  entityId : Uuid
  tenantId : String
  projectId : String
  canonical : String
  canonicalNorm : String
  kind : Option String
deriving DecidableEq

structure GraphEntityAlias where
  entityId : Uuid
  aliasSurface : String
  aliasNorm : String
  authority : AliasAuthority
deriving DecidableEq

/-- The unique index of the aliases. -/
def GraphEntityAlias.ref (row : GraphEntityAlias) : Uuid × String := (row.entityId, row.aliasNorm)

inductive PredicateCardinality where
  | single
  | multi
deriving DecidableEq

inductive PredicateStatus where
  | pending
  | active
  | deprecated
deriving DecidableEq

structure GraphPredicate where
  predicateId : Uuid
  scopeKey : String
  tenantId : Option String
  projectId : Option String
  canonical : String
  canonicalNorm : String
  cardinality : PredicateCardinality
  status : PredicateStatus
  createdAt : Nat
  updatedAt : Nat
deriving DecidableEq

structure GraphPredicateAlias where
  aliasId : Uuid
  predicateId : Uuid
  scopeKey : String
  aliasSurface : String
  aliasNorm : String
  createdAt : Nat
deriving DecidableEq

/-- The unique index of the predicate aliases. -/
def GraphPredicateAlias.ref (row : GraphPredicateAlias) : String × String :=
  (row.scopeKey, row.aliasNorm)

structure GraphFact where
  factId : Uuid
  tenantId : String
  projectId : String
  agentId : String
  scope : String
  subjectEntityId : Uuid
  predicate : String
  predicateId : Uuid
  objectEntityId : Option Uuid
  objectValue : Option String
  validFrom : Option Int
  validTo : Option Int
deriving DecidableEq

structure GraphFactEvidence where
  factId : Uuid
  noteId : Uuid
  quote : Option String
deriving DecidableEq

def GraphFactEvidence.ref (row : GraphFactEvidence) : Uuid × Uuid := (row.factId, row.noteId)

structure GraphFactSupersession where
  tenantId : String
  projectId : String
  fromFactId : Uuid
  toFactId : Uuid
  noteId : Uuid
  effectiveAt : Int
deriving DecidableEq

def GraphFactSupersession.ref (row : GraphFactSupersession) : Uuid × Uuid × Uuid :=
  (row.fromFactId, row.toFactId, row.noteId)

@[ext]
structure GraphDb where
  entities : Table GraphEntity GraphEntity.entityId
  entityAliases : Table GraphEntityAlias GraphEntityAlias.ref
  predicates : Table GraphPredicate GraphPredicate.predicateId
  predicateAliases : Table GraphPredicateAlias GraphPredicateAlias.ref
  facts : Table GraphFact GraphFact.factId
  evidence : Table GraphFactEvidence GraphFactEvidence.ref
  supersessions : Table GraphFactSupersession GraphFactSupersession.ref
deriving DecidableEq

def GraphDb.empty : GraphDb := ⟨.empty, .empty, .empty, .empty, .empty, .empty, .empty⟩

/-- The errors of the storage layer. -/
inductive StorageError where
  | invalidArgument (message : String)
  | notFound (message : String)
  | conflict (message : String)
  | sqlx (message : String)
deriving DecidableEq

def StorageError.toString : StorageError → String
  | .invalidArgument message => "Invalid argument: " ++ message
  | .notFound message => "Not found: " ++ message
  | .conflict message => "Conflict: " ++ message
  | .sqlx message => message

/-- The error that a request answers with. -/
def StorageError.toError : StorageError → Error
  | .invalidArgument message => .invalidRequest message
  | .notFound message => .notFound message
  | .conflict message => .conflict message
  | .sqlx message => .storage message

def duplicateRow : StorageError := .sqlx "duplicate key value violates unique constraint"

/-- What the graph memory takes from outside: how letters are put into lower case. -/
structure GraphText where
  toLowercase : String → String

def GraphText.normalizeEntityName (text : GraphText) (input : String) : String :=
  text.toLowercase (Text.collapseWhitespace input)

def GraphText.normalizePredicateName (text : GraphText) (input : String) : String :=
  text.normalizeEntityName input

/-- What one ingestion draws: the identifiers it generates and the time of its transaction. -/
structure GraphDraw where
  entityId : String → Uuid
  predicateId : Nat → Uuid
  predicateAliasId : Nat → Uuid
  factId : Nat → Uuid
  dbNow : Nat

/-! ## Writing facts -/

/-- What the facts that exclude one another have in common. -/
structure FactKey where
  tenantId : String
  projectId : String
  agentId : String
  scope : String
  subjectEntityId : Uuid
  predicateId : Uuid
deriving DecidableEq

def GraphFact.key (fact : GraphFact) : FactKey :=
  ⟨fact.tenantId, fact.projectId, fact.agentId, fact.scope, fact.subjectEntityId, fact.predicateId⟩

/-- The time at which a fact ends comes after the one at which it starts. -/
def GraphFact.validWindow (fact : GraphFact) : Bool :=
  match fact.validFrom, fact.validTo with
  | some validFrom, some validTo => decide (validFrom < validTo)
  | _, _ => true

/-- The unique indexes of the facts that have no end. -/
def GraphFact.sameActive (fact other : GraphFact) : Bool :=
  fact.validTo.isNone && other.validTo.isNone && fact.key = other.key
    && fact.objectEntityId = other.objectEntityId && fact.objectValue = other.objectValue
    && fact.validFrom = other.validFrom

def evidenceRequired : StorageError :=
  .invalidArgument "graph fact evidence is required; evidence_note_ids must not be empty"

def objectRequired : StorageError :=
  .invalidArgument "graph fact must provide exactly one of object_entity_id and object_value"

def validWindowViolated : StorageError :=
  .sqlx "new row for relation graph_facts violates check constraint graph_facts_valid_window"

def attachEvidence (db : GraphDb) (factId : Uuid) (evidenceNoteIds : List Uuid) : GraphDb :=
  match evidenceNoteIds with
  | [] => db
  | noteId :: noteIds =>
    let row : GraphFactEvidence := ⟨factId, noteId, none⟩
    let evidence := db.evidence.upsert row fun row => row
    attachEvidence { db with evidence } factId noteIds

def upsertFactWithEvidence (fact : GraphFact) (evidenceNoteIds : List Uuid)
    : Transaction StorageError GraphDb Uuid := fun db => do
  Except.rejectIf evidenceNoteIds.isEmpty evidenceRequired
  Except.rejectIf (fact.objectEntityId.isSome == fact.objectValue.isSome) objectRequired
  Except.rejectIf (!fact.validWindow) validWindowViolated
  match db.facts.rows.find? fact.sameActive with
  | some existing =>
    -- ON CONFLICT DO UPDATE SET updated_at = graph_facts.updated_at
    return (existing.factId, attachEvidence db existing.factId evidenceNoteIds)
  | none =>
    let facts ← db.facts.insert fact duplicateRow
    return (fact.factId, attachEvidence { db with facts } fact.factId evidenceNoteIds)

def setEvidenceQuote (db : GraphDb) (factId noteId : Uuid) (quote : String) : GraphDb :=
  { db with evidence := db.evidence.modify (factId, noteId) fun row =>
    { row with quote := some quote } }

def setEvidenceQuoteIfPresent (db : GraphDb) (factId noteId : Uuid) (quote : Option String)
    : GraphDb :=
  match quote with
  | some quote => setEvidenceQuote db factId noteId quote
  | none => db

/-- The facts that `effectiveAt` ends for the sake of `toFactId`. -/
def GraphFact.superseded (fact : GraphFact) (key : FactKey) (toFactId : Uuid) (effectiveAt : Int)
    : Bool :=
  fact.key = key && fact.validTo.isNone && fact.validFrom.any (fun start => start < effectiveAt)
    && fact.factId ≠ toFactId

def recordSupersessions (db : GraphDb) (key : FactKey) (toFactId noteId : Uuid) (effectiveAt : Int)
    (superseded : List Uuid) : GraphDb :=
  match superseded with
  | [] => db
  | fromFactId :: superseded =>
    let row : GraphFactSupersession :=
      ⟨key.tenantId, key.projectId, fromFactId, toFactId, noteId, effectiveAt⟩
    let supersessions := db.supersessions.upsert row fun row => row
    recordSupersessions { db with supersessions } key toFactId noteId effectiveAt superseded

def supersedeConflictingActiveFacts (db : GraphDb) (key : FactKey) (toFactId noteId : Uuid)
    (effectiveAt : Int) : GraphDb :=
  let superseded := (db.facts.rows.filter fun fact => fact.superseded key toFactId effectiveAt).map
    GraphFact.factId
  let facts := db.facts.updateWhere (fun fact => fact.superseded key toFactId effectiveAt) fun fact =>
    { fact with validTo := some effectiveAt }
  recordSupersessions { db with facts } key toFactId noteId effectiveAt superseded

end Elf

/-! ## The status of a fact at a time -/

namespace Elf

inductive RelationTemporalStatus where
  | current
  | historical
  | future
  | unknown
deriving DecidableEq

def relationTemporalStatus (validFrom validTo : Option Int) (readAt : Int)
    : RelationTemporalStatus :=
  if validFrom.any fun start => start > readAt then
    .future
  else if validTo.any fun stop => stop ≤ readAt then
    .historical
  else if validFrom.isNone then
    .unknown
  else
    .current

namespace GraphFact

variable (fact : GraphFact) (readAt : Int)

def temporalStatus : RelationTemporalStatus :=
  relationTemporalStatus fact.validFrom fact.validTo readAt

/-! ## Conditions of the queries -/

/-- `valid_from <= readAt` -/
def startsBy : Ternary := Ternary.compare (fun start t => start ≤ t) fact.validFrom (some readAt)

/-- `valid_to IS NULL OR valid_to > readAt` -/
def endsAfter : Ternary :=
  (Ternary.isNull fact.validTo).or
    (Ternary.compare (fun stop t => stop > t) fact.validTo (some readAt))

/-- `valid_from IS NULL OR valid_from <= readAt` -/
def notFuture : Ternary := (Ternary.isNull fact.validFrom).or (fact.startsBy readAt)

/-- The column `is_current` of the relation context of a search. -/
def isCurrent : Bool := ((fact.startsBy readAt).and (fact.endsAfter readAt)).coalesceFalse

/-- The facts that the relation context of a search looks at. -/
def inRelationContext : Bool := (fact.notFuture readAt).selects

/-- The facts that a graph query looks at. -/
def inQueryWindow : Bool := ((fact.notFuture readAt).and (fact.endsAfter readAt)).selects

/-- The status that a graph query answers for the fact, if the fact is in its window. -/
def graphQueryStatus : Option RelationTemporalStatus :=
  if fact.inQueryWindow readAt then some (fact.temporalStatus readAt) else none

/-! ## Current facts -/

/-- The fact has started, and it has not ended. -/
def CurrentAt : Prop :=
  (∃ start ∈ fact.validFrom, start ≤ readAt) ∧ ∀ stop ∈ fact.validTo, readAt < stop

instance : Decidable (fact.CurrentAt readAt) :=
  inferInstanceAs (Decidable (_ ∧ _))

theorem selects_startsBy
    : (fact.startsBy readAt).selects = true ↔ ∃ start ∈ fact.validFrom, start ≤ readAt := by
  simp [startsBy, Option.any_eq_true]

theorem selects_endsAfter
    : (fact.endsAfter readAt).selects = true ↔ ∀ stop ∈ fact.validTo, readAt < stop := by
  unfold endsAfter
  rw [Ternary.selects_or, Ternary.selects_isNull, Ternary.selects_compare_some]
  cases fact.validTo <;> simp

theorem selects_notFuture
    : (fact.notFuture readAt).selects = true
        ↔ fact.validFrom = none ∨ ∃ start ∈ fact.validFrom, start ≤ readAt := by
  unfold notFuture
  rw [Ternary.selects_or, Ternary.selects_isNull, Bool.or_eq_true, selects_startsBy]
  simp

theorem isCurrent_iff : fact.isCurrent readAt = true ↔ fact.CurrentAt readAt := by
  unfold isCurrent
  rw [Ternary.coalesceFalse_eq, Ternary.selects_and, Bool.and_eq_true, selects_startsBy,
    selects_endsAfter]
  exact Iff.rfl

theorem temporalStatus_eq_current
    : fact.temporalStatus readAt = .current ↔ fact.CurrentAt readAt := by
  unfold temporalStatus relationTemporalStatus CurrentAt
  cases fact.validFrom with
  | none => cases fact.validTo <;> simp; split <;> simp
  | some start =>
    cases fact.validTo with
    | none => simp
    | some stop =>
      simp only [Option.any_some, decide_eq_true_eq, Option.isNone_some, Option.mem_some_iff,
        exists_eq_left', forall_eq', Bool.false_eq_true, ↓reduceIte]
      split_ifs <;> simp <;> omega

theorem temporalStatus_eq_unknown
    : fact.temporalStatus readAt = .unknown
        ↔ fact.validFrom = none ∧ ∀ stop ∈ fact.validTo, readAt < stop := by
  unfold temporalStatus relationTemporalStatus
  cases fact.validFrom with
  | none => cases fact.validTo <;> simp
  | some start =>
    simp only [Option.isNone_some, Bool.false_eq_true, ↓reduceIte]
    split_ifs <;> simp

/-- The window of a query holds what is current, and the candidates without a known start. -/
theorem inQueryWindow_iff
    : fact.inQueryWindow readAt = true
        ↔ fact.CurrentAt readAt ∨ fact.temporalStatus readAt = .unknown := by
  unfold inQueryWindow
  rw [Ternary.selects_and, Bool.and_eq_true, selects_notFuture, selects_endsAfter,
    temporalStatus_eq_unknown]
  unfold CurrentAt
  rw [← or_and_right]
  exact and_congr_left fun _ => or_comm

theorem graphQueryStatus_eq_current
    : fact.graphQueryStatus readAt = some .current ↔ fact.CurrentAt readAt := by
  unfold graphQueryStatus
  split
  next => rw [Option.some.injEq, temporalStatus_eq_current]
  next h =>
    rw [inQueryWindow_iff] at h
    simp only [reduceCtorEq, false_iff]
    exact fun hcurrent => h (.inl hcurrent)

/-- The relation context leaves out only facts that have not started. -/
theorem inRelationContext_eq_false
    : fact.inRelationContext readAt = false ↔ fact.temporalStatus readAt = .future := by
  unfold inRelationContext
  rw [← Bool.not_eq_true, selects_notFuture]
  unfold temporalStatus relationTemporalStatus
  cases fact.validFrom with
  | none => cases fact.validTo <;> simp; split <;> simp
  | some start =>
    simp only [Option.any_some, decide_eq_true_eq, Option.isNone_some, Bool.false_eq_true,
      ↓reduceIte]
    split_ifs <;> simp <;> omega

end GraphFact

end Elf
