import Elf.Docs.Excerpts
import Elf.Graph.Ingestion
import Elf.Graph.Predicates
import Elf.Graph.Models
import Elf.Lib.Sorting
import Elf.Lib.Passes
import Elf.Search.Candidates

/-!
This module contains the report on one entity of the graph: the facts about it that a reader may
see, each with its status and markers, the counters over them and the map of their objects.
-/

namespace Elf

open Sorting Text

/-! ## Requests -/

inductive GraphQueryEntityRef where
  | entityId (entityId : Uuid)
  | surface (surface : String)
deriving DecidableEq

inductive GraphQueryPredicateRef where
  | predicateId (predicateId : Uuid)
  | surface (surface : String)
deriving DecidableEq

structure GraphReportRequest where
  tenantId : String
  projectId : String
  agentId : String
  readProfile : String
  subject : GraphQueryEntityRef
  predicate : Option GraphQueryPredicateRef
  scopes : Option (List String)
  asOf : Option Int
  limit : Option Nat
  explain : Option Bool

structure PreparedGraphReport where
  tenantId : String
  projectId : String
  agentId : String
  readProfile : String
  subject : GraphQueryEntityRef
  predicate : Option GraphQueryPredicateRef
  requestedScopes : List String
  asOf : Int
  limit : Nat
  explain : Bool
deriving DecidableEq

def defaultGraphReportLimit : Nat := 100

def maxGraphReportLimit : Nat := 500

def graphReportEvidenceLimit : Nat := 24

def elfGraphReportSchemaV1 : String := "elf.graph_report/v1"

def normalizeRequiredField (value field : String) : Except Error String := do
  let trimmed := trim value
  Except.rejectIf (trimmed == "") (.invalidRequest (field ++ " is required."))
  return trimmed

def normalizeScope (scope : String) : Except Error String := do
  let scope := trim scope
  Except.rejectIf (scope == "") (.invalidRequest "scopes entries must be non-empty strings.")
  return scope

def normalizeScopes (scopes : Option (List String)) : Except Error (List String) := do
  let normalized ← (scopes.getD []).mapM normalizeScope
  return normalized.eraseDups

def normalizeSubject : GraphQueryEntityRef → Except Error GraphQueryEntityRef
  | .entityId entityId => .ok (.entityId entityId)
  | .surface surface => do
    let surface ← normalizeRequiredField surface "subject.surface"
    return .surface surface

def normalizePredicate
    : Option GraphQueryPredicateRef → Except Error (Option GraphQueryPredicateRef)
  | some (.predicateId predicateId) => .ok (some (.predicateId predicateId))
  | some (.surface surface) => do
    let surface ← normalizeRequiredField surface "predicate.surface"
    return some (.surface surface)
  | none => .ok none

def validateGraphReportRequest (nowUtc : Int) (req : GraphReportRequest)
    : Except Error PreparedGraphReport := do
  let tenantId ← normalizeRequiredField req.tenantId "tenant_id"
  let projectId ← normalizeRequiredField req.projectId "project_id"
  let agentId ← normalizeRequiredField req.agentId "agent_id"
  let readProfile ← normalizeRequiredField req.readProfile "read_profile"
  let subject ← normalizeSubject req.subject
  let predicate ← normalizePredicate req.predicate
  let requestedScopes ← normalizeScopes req.scopes
  let limit := req.limit.getD defaultGraphReportLimit
  Except.rejectIf (!(1 ≤ limit && limit ≤ maxGraphReportLimit)) (.invalidRequest
    ("limit must be between 1 and " ++ toString maxGraphReportLimit ++ "."))
  return {
    tenantId
    projectId
    agentId
    readProfile
    subject
    predicate
    requestedScopes
    asOf := req.asOf.getD nowUtc
    limit
    explain := req.explain.getD false }

/-! ## Resolution -/

/-- The database as far as the readbacks of the graph look at it. -/
structure GraphReadDb where
  memory : Store
  graph : GraphDb
  /-- The column `created_at` of a fact. -/
  factCreatedAt : Uuid → Nat
  /-- The column `created_at` of a row of evidence. -/
  evidenceCreatedAt : Uuid × Uuid → Nat

variable (text : GraphText) (db : GraphReadDb)

def resolveEffectiveScopes (allowedScopes requestedScopes : List String)
    : Except Error (List String) := do
  let allowed := (allowedScopes.map trim).filter (· ≠ "")
  Except.rejectIf allowed.isEmpty (.invalidRequest "read_profile resolves to no readable scopes.")
  if requestedScopes.isEmpty then
    return allowed.eraseDups
  else
    let effective ← requestedScopes.mapM fun requestedScope => do
      Except.rejectIf (!allowed.contains requestedScope) (.invalidRequest
        ("scope is not readable under read_profile: " ++ requestedScope))
      return requestedScope
    return effective.eraseDups

def resolveSubject (tenantId projectId : String) : GraphQueryEntityRef → Except Error GraphEntity
  | .entityId entityId =>
    Except.ofOption
      (.notFound ("graph entity not found for subject entity_id=" ++ entityId.toString))
      ((db.graph.entities.find? entityId).filter fun row =>
        row.tenantId = tenantId && row.projectId = projectId)
  | .surface surface => do
    let row ← (resolveEntityBySurface text db.graph tenantId projectId surface).mapError
      StorageError.toError
    Except.ofOption (.notFound ("graph entity not found for subject surface=" ++ surface)) row

def resolvePredicate (tenantId projectId : String)
    : Option GraphQueryPredicateRef → Except Error (Option GraphPredicate)
  | some (.predicateId predicateId) => do
    let row ← Except.ofOption
      (.notFound ("graph predicate not found; predicate_id=" ++ predicateId.toString))
      (getPredicateById db.graph predicateId)
    return some row
  | some (.surface surface) => do
    let row ← (resolvePredicateNoRegister text db.graph tenantId projectId surface).mapError
      StorageError.toError
    let row ← Except.ofOption (.notFound ("graph predicate not found for surface=" ++ surface)) row
    return some row
  | none => .ok none

/-! ## Rows -/

structure GraphReportRowsFetchParams where
  tenantId : String
  projectId : String
  subjectEntityId : Uuid
  scopes : List String
  actor : String
  sharedScopeKeys : List String
  predicateId : Option Uuid
deriving DecidableEq

structure GraphReportFactRow where
  factId : Uuid
  scope : String
  actor : String
  predicate : String
  predicateId : Option Uuid
  predicateStatus : Option String
  predicateCardinality : Option String
  objectEntityId : Option Uuid
  objectCanonical : Option String
  objectKind : Option String
  objectValue : Option String
  observedAt : Nat
  validFrom : Option Int
  validTo : Option Int
  evidenceNoteIds : List Uuid
  supersededByFactIds : List Uuid
  supersedesFactIds : List Uuid
deriving DecidableEq

namespace GraphReportRowsFetchParams

variable (params : GraphReportRowsFetchParams) (now : Nat)

/-- The conditions on the owner and the scope of a fact, or of a note that it rests on. -/
def reads (agentId scope : String) : Bool :=
  params.scopes.contains scope
    && ((scope = "agent_private" && agentId = params.actor)
      || (scope ≠ "agent_private"
        && (agentId = params.actor || params.sharedScopeKeys.contains (scope ++ ":" ++ agentId))))

def readsEvidence (fact : GraphFact) (note : MemoryNote) : Bool :=
  note.tenantId = fact.tenantId && note.projectId = fact.projectId && note.status = "active"
    && !note.expired now && params.reads note.agentId note.scope

/-- The evidence of a fact whose notes the reader may read. -/
def evidence (fact : GraphFact) : List GraphFactEvidence :=
  db.graph.evidence.rows.filter fun row => row.factId = fact.factId
    && (db.memory.notes.find? row.noteId).any (params.readsEvidence now fact)

/-- The facts that the query of the report looks at. -/
def selects (fact : GraphFact) : Bool :=
  fact.tenantId = params.tenantId
    && (fact.projectId = params.projectId
      || (fact.projectId = orgProjectId && fact.scope = "org_shared"))
    && fact.subjectEntityId = params.subjectEntityId
    && params.predicateId.all (fun predicateId => fact.predicateId = predicateId)
    && params.reads fact.agentId fact.scope
    && !(params.evidence db now fact).isEmpty

def evidenceNoteIds (fact : GraphFact) : List Uuid :=
  ((sortBy (compareLex (compareOn fun row => db.evidenceCreatedAt row.ref)
    (compareOn GraphFactEvidence.noteId)) (params.evidence db now fact)).take
      graphReportEvidenceLimit).map GraphFactEvidence.noteId

end GraphReportRowsFetchParams

namespace GraphReadDb

def supersededBy (factId : Uuid) : List Uuid :=
  (sortBy (compareLex (compareOn GraphFactSupersession.effectiveAt)
    (compareOn GraphFactSupersession.toFactId))
    (db.graph.supersessions.rows.filter fun row => row.fromFactId = factId)).map
      GraphFactSupersession.toFactId

def supersedes (factId : Uuid) : List Uuid :=
  (sortBy (compareLex (compareOn GraphFactSupersession.effectiveAt)
    (compareOn GraphFactSupersession.fromFactId))
    (db.graph.supersessions.rows.filter fun row => row.toFactId = factId)).map
      GraphFactSupersession.fromFactId

/-- The entity that is the object of a fact, if it belongs to the project of the fact. -/
def objectEntity (fact : GraphFact) : Option GraphEntity :=
  (fact.objectEntityId.bind db.graph.entities.find?).filter fun entity =>
    entity.tenantId = fact.tenantId && entity.projectId = fact.projectId

end GraphReadDb

def GraphReportRowsFetchParams.factRow (params : GraphReportRowsFetchParams) (now : Nat)
    (fact : GraphFact) : GraphReportFactRow :=
  let predicate := db.graph.predicates.find? fact.predicateId
  let object := db.objectEntity fact
  { factId := fact.factId
    scope := fact.scope
    actor := fact.agentId
    predicate := fact.predicate
    predicateId := some fact.predicateId
    predicateStatus := predicate.map fun row => row.status.asStr
    predicateCardinality := predicate.map fun row => row.cardinality.asStr
    objectEntityId := fact.objectEntityId
    objectCanonical := object.map GraphEntity.canonical
    objectKind := object.bind GraphEntity.kind
    objectValue := fact.objectValue
    observedAt := db.factCreatedAt fact.factId
    validFrom := fact.validFrom
    validTo := fact.validTo
    evidenceNoteIds := params.evidenceNoteIds db now fact
    supersededByFactIds := db.supersededBy fact.factId
    supersedesFactIds := db.supersedes fact.factId }

/-- `valid_from DESC NULLS LAST` -/
def validFromCmp : Option Int → Option Int → Ordering
  | some a, some b => compare b a
  | some _, none => .lt
  | none, some _ => .gt
  | none, none => .eq

def GraphFact.reportCmp (a b : GraphFact) : Ordering :=
  (validFromCmp a.validFrom b.validFrom).then (compare a.factId b.factId)

/-- The rows of the report without a limit. -/
def reportRows (params : GraphReportRowsFetchParams) (now : Nat) : List GraphReportFactRow :=
  (sortBy GraphFact.reportCmp (db.graph.facts.rows.filter (params.selects db now))).map
    (params.factRow db now)

def fetchGraphReportRows (params : GraphReportRowsFetchParams) (now limitPlusOne : Nat)
    : List GraphReportFactRow :=
  (reportRows db params now).take limitPlusOne

/-! ## Facts -/

structure GraphQueryObjectEntity where
  entityId : Uuid
  canonical : String
  kind : Option String
deriving DecidableEq

structure GraphQueryObject where
  entity : Option GraphQueryObjectEntity
  value : Option String
deriving DecidableEq

structure GraphReportResponseFact where
  factId : Uuid
  scope : String
  actor : String
  predicate : String
  predicateId : Option Uuid
  predicateStatus : Option String
  predicateCardinality : Option String
  observedAt : Nat
  validFrom : Option Int
  validTo : Option Int
  temporalStatus : RelationTemporalStatus
  object : GraphQueryObject
  evidenceNoteIds : List Uuid
  supersededByFactIds : List Uuid
  supersedesFactIds : List Uuid
  statusMarkers : List String
deriving DecidableEq

def truncateReportRows (rows : List GraphReportFactRow) (limit : Nat)
    : List GraphReportFactRow × Bool :=
  if rows.length > limit then (rows.take limit, true) else (rows, false)

namespace GraphReportFactRow

variable (row : GraphReportFactRow) (asOf : Int)

def predicateGroupKey : String :=
  match row.predicateId with
  | some id => id.toString
  | none => "surface:" ++ row.predicate

def temporalStatus : RelationTemporalStatus := relationTemporalStatus row.validFrom row.validTo asOf

/-- The rows that are counted for their predicate. -/
def currentSingle : Bool :=
  row.predicateCardinality = some "single" && row.temporalStatus asOf = .current

def graphObject : GraphQueryObject :=
  match row.objectEntityId with
  | some entityId => ⟨some ⟨entityId, row.objectCanonical.getD "", row.objectKind⟩, none⟩
  | none => ⟨none, row.objectValue⟩

def reportStatusMarkers (temporalStatus : RelationTemporalStatus) (ambiguous : Bool)
    : List String :=
  [if row.evidenceNoteIds.isEmpty then "unsupported" else "sourced"]
    ++ (if row.predicateStatus ≠ some "active" then ["inferred"] else [])
    ++ (if temporalStatus = .historical then ["stale"] else [])
    ++ (if !row.supersededByFactIds.isEmpty then ["superseded"] else [])
    ++ (if ambiguous then ["ambiguous"] else [])

end GraphReportFactRow

def currentSinglePredicateCounts (rows : List GraphReportFactRow) (asOf : Int)
    : List (String × Nat) :=
  Tally.tally ((rows.filter fun row => row.currentSingle asOf).map
    GraphReportFactRow.predicateGroupKey)

def GraphReportFactRow.reportFact (row : GraphReportFactRow) (asOf : Int)
    (currentSingleCounts : List (String × Nat)) : GraphReportResponseFact :=
  let temporalStatus := row.temporalStatus asOf
  let ambiguous := temporalStatus = .current && row.predicateCardinality = some "single"
    && Tally.get currentSingleCounts row.predicateGroupKey > 1
  { factId := row.factId
    scope := row.scope
    actor := row.actor
    predicate := row.predicate
    predicateId := row.predicateId
    predicateStatus := row.predicateStatus
    predicateCardinality := row.predicateCardinality
    observedAt := row.observedAt
    validFrom := row.validFrom
    validTo := row.validTo
    temporalStatus
    object := row.graphObject
    evidenceNoteIds := row.evidenceNoteIds
    supersededByFactIds := row.supersededByFactIds
    supersedesFactIds := row.supersedesFactIds
    statusMarkers := row.reportStatusMarkers temporalStatus ambiguous }

def buildReportFacts (rows : List GraphReportFactRow) (asOf : Int) : List GraphReportResponseFact :=
  let rows := rows.filter fun row => !row.evidenceNoteIds.isEmpty
  let currentSingleCounts := currentSinglePredicateCounts rows asOf
  rows.map fun row => row.reportFact asOf currentSingleCounts

structure GraphReportSummary where
  factCount : Nat
  currentCount : Nat
  historicalCount : Nat
  futureCount : Nat
  unknownCount : Nat
  sourcedCount : Nat
  inferredCount : Nat
  ambiguousCount : Nat
  staleCount : Nat
  supersededCount : Nat
  evidenceLinkCount : Nat
deriving DecidableEq

def summarizeReportFacts (facts : List GraphReportResponseFact) : GraphReportSummary :=
  let withStatus (status : RelationTemporalStatus) :=
    facts.countP fun fact => fact.temporalStatus = status
  let withMarker (marker : String) := facts.countP fun fact => fact.statusMarkers.contains marker
  { factCount := facts.length
    currentCount := withStatus .current
    historicalCount := withStatus .historical
    futureCount := withStatus .future
    unknownCount := withStatus .unknown
    sourcedCount := facts.countP fun fact => !fact.evidenceNoteIds.isEmpty
    inferredCount := withMarker "inferred"
    ambiguousCount := withMarker "ambiguous"
    staleCount := withMarker "stale"
    supersededCount := withMarker "superseded"
    evidenceLinkCount := (facts.map fun fact => fact.evidenceNoteIds.length).sum }

/-! ## Topic map -/

structure GraphTopicNode where
  nodeId : String
  label : String
  nodeType : String
  kind : Option String
deriving DecidableEq

structure GraphTopicEdge where
  factId : Uuid
  sourceNodeId : String
  targetNodeId : String
  predicate : String
  temporalStatus : RelationTemporalStatus
  statusMarkers : List String
  evidenceNoteIds : List Uuid
deriving DecidableEq

structure GraphTopicMap where
  nodes : List GraphTopicNode
  edges : List GraphTopicEdge
deriving DecidableEq

def entityNodeId (entityId : Uuid) : String := "entity:" ++ entityId.toString

/-- The node of the object of a fact. -/
def GraphQueryObject.node (object : GraphQueryObject) : GraphTopicNode :=
  match object.entity with
  | some entity => ⟨entityNodeId entity.entityId, entity.canonical, "entity", entity.kind⟩
  | none => ⟨"value:" ++ object.value.getD "", object.value.getD "", "value", none⟩

/-- The node is added unless there is one with its identifier. -/
def orInsertNode (nodes : List GraphTopicNode) (node : GraphTopicNode) : List GraphTopicNode :=
  if nodes.any fun other => other.nodeId = node.nodeId then nodes else nodes ++ [node]

def buildTopicMap (subject : GraphEntity) (facts : List GraphReportResponseFact) : GraphTopicMap :=
  let subjectNodeId := entityNodeId subject.entityId
  let subjectNode : GraphTopicNode := ⟨subjectNodeId, subject.canonical, "subject", subject.kind⟩
  let nodes := (facts.map fun fact => fact.object.node).foldl orInsertNode [subjectNode]
  { nodes := sortBy (compareOn GraphTopicNode.nodeId) nodes
    edges := facts.map fun fact => {
      factId := fact.factId
      sourceNodeId := subjectNodeId
      targetNodeId := fact.object.node.nodeId
      predicate := fact.predicate
      temporalStatus := fact.temporalStatus
      statusMarkers := fact.statusMarkers
      evidenceNoteIds := fact.evidenceNoteIds } }

/-! ## Report -/

structure GraphReportEntity where
  entityId : Uuid
  canonical : String
  kind : Option String
deriving DecidableEq

structure GraphReportPredicate where
  predicateId : Uuid
  canonical : String
deriving DecidableEq

structure GraphReportExplain where
  schema : String
  asOf : Int
  requestedLimit : Nat
  allowedScopes : List String
  effectiveScopes : List String
  queriedRows : Nat
  returnedRows : Nat
  truncated : Bool
deriving DecidableEq

structure GraphReportResponse where
  schema : String
  asOf : Int
  subject : GraphReportEntity
  predicate : Option GraphReportPredicate
  scopes : List String
  summary : GraphReportSummary
  topicMap : GraphTopicMap
  facts : List GraphReportResponseFact
  explain : Option GraphReportExplain
deriving DecidableEq

/-- The clocks that a report reads: that of the service, and that of the database. -/
structure GraphReportClock where
  nowUtc : Int
  dbNow : Nat

variable (svc : ReadService) (clock : GraphReportClock)

/-- What a report looks for, once its request is resolved. -/
structure ResolvedGraphReport where
  prepared : PreparedGraphReport
  allowedScopes : List String
  subject : GraphEntity
  predicate : Option GraphPredicate
  params : GraphReportRowsFetchParams
deriving DecidableEq

def resolveGraphReport (req : GraphReportRequest) : Except Error ResolvedGraphReport := do
  let prepared ← validateGraphReportRequest clock.nowUtc req
  let allowedScopes ← resolveReadProfileScopes svc prepared.readProfile
  let effectiveScopes ← resolveEffectiveScopes allowedScopes prepared.requestedScopes
  let orgSharedAllowed := allowedScopes.any fun scope => trim scope = "org_shared"
  let subject ← resolveSubject text db prepared.tenantId prepared.projectId prepared.subject
  let predicate ← resolvePredicate text db prepared.tenantId prepared.projectId prepared.predicate
  let sharedGrants := loadSharedReadGrantsWithOrgShared db.memory prepared.tenantId
    prepared.projectId prepared.agentId orgSharedAllowed
  let params : GraphReportRowsFetchParams := {
    tenantId := prepared.tenantId
    projectId := prepared.projectId
    subjectEntityId := subject.entityId
    scopes := effectiveScopes
    actor := prepared.agentId
    sharedScopeKeys := sharedGrants.map SharedSpaceGrantKey.keyString
    predicateId := predicate.map GraphPredicate.predicateId }
  return { prepared, allowedScopes, subject, predicate, params }

def ResolvedGraphReport.report (resolved : ResolvedGraphReport) : GraphReportResponse :=
  let prepared := resolved.prepared
  let rows := fetchGraphReportRows db resolved.params clock.dbNow (prepared.limit + 1)
  let queriedRows := rows.length
  let (rows, truncated) := truncateReportRows rows prepared.limit
  let facts := buildReportFacts rows prepared.asOf
  { schema := elfGraphReportSchemaV1
    asOf := prepared.asOf
    subject := ⟨resolved.subject.entityId, resolved.subject.canonical, resolved.subject.kind⟩
    predicate := resolved.predicate.map fun row => ⟨row.predicateId, row.canonical⟩
    scopes := resolved.params.scopes
    summary := summarizeReportFacts facts
    topicMap := buildTopicMap resolved.subject facts
    facts
    explain :=
      if prepared.explain then
        some {
          schema := elfGraphReportSchemaV1
          asOf := prepared.asOf
          requestedLimit := prepared.limit
          allowedScopes := resolved.allowedScopes
          effectiveScopes := resolved.params.scopes
          queriedRows
          returnedRows := facts.length
          truncated }
      else
        none }

def graphReport (req : GraphReportRequest) : Except Error GraphReportResponse := do
  let resolved ← resolveGraphReport text db svc clock req
  return resolved.report db clock

end Elf
