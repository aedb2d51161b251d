import Elf.Lib.Rows
import Elf.Worker.TraceJobs
import Mathlib.Data.Prod.Lex
import Mathlib.Order.WithBot

/-!
This module contains how traces are read: a trace with its items, the stages of its search, what is
known of one item, the bundle of all of these, and the list of recent traces.
-/

namespace Elf

open Except OrderBy

/-! ## Responses -/

structure SearchTrace where
  traceId : Uuid
  tenantId : String
  projectId : String
  agentId : String
  readProfile : String
  query : String
  expansionMode : String
  expandedQueries : List String
  allowedScopes : List String
  candidateCount : Nat
  topK : Nat
  configSnapshot : Json
  createdAt : Nat
  traceVersion : Int

/-- An item, with its explanation as it is read. -/
structure SearchExplainItem (E : Type) where
  resultHandle : Uuid
  noteId : Uuid
  chunkId : Option Uuid
  rank : Nat
  explain : E

structure SearchTrajectoryStageItem where
  itemId : Option Uuid
  noteId : Option Uuid
  chunkId : Option Uuid
  metrics : Json
deriving DecidableEq

structure SearchTrajectoryStage where
  stageOrder : Nat
  stageName : String
  stagePayload : Json
  items : List SearchTrajectoryStageItem

structure SearchTrajectorySummaryStage where
  stageOrder : Nat
  stageName : String
  itemCount : Nat
  stats : Json

structure SearchTrajectorySummary where
  schema : String
  stages : List SearchTrajectorySummaryStage

structure TraceGetRequest where
  tenantId : String
  projectId : String
  agentId : String
  traceId : Uuid

structure TraceGetResponse (E : Type) where
  trace : SearchTrace
  items : List (SearchExplainItem E)
  trajectorySummary : Option SearchTrajectorySummary

/-! ## Reading rows -/

/-- How the values that a trace keeps as JSON are read, and what is said of those that are not of their
    type. -/
structure TraceReader (E C : Type) where
  explain : Json → Option E
  candidate : Json → Option C
  decodeError : String → Json → String

variable {E C : Type} (reader : TraceReader E C)

def decodeJson {α : Type} (read : Json → Option α) (value : Json) (label : String) : Except Error α :=
  ofOption (.storage ("Invalid " ++ label ++ " value: " ++ reader.decodeError label value))
    (read value)

/-- `n as u32`, for an integer of 32 bits. -/
def i32AsU32 (n : Int) : Nat := (n % 4294967296).toNat

def SearchTraceRow.searchTrace (row : SearchTraceRow) : Except Error SearchTrace := do
  let expandedQueries ← decodeJson reader (readList Json.asStr) row.expandedQueries "expanded_queries"
  let allowedScopes ← decodeJson reader (readList Json.asStr) row.allowedScopes "allowed_scopes"
  return {
    traceId := row.traceId
    tenantId := row.tenantId
    projectId := row.projectId
    agentId := row.agentId
    readProfile := row.readProfile
    query := row.query
    expansionMode := row.expansionMode
    expandedQueries
    allowedScopes
    candidateCount := i32AsU32 row.candidateCount
    topK := i32AsU32 row.topK
    configSnapshot := row.configSnapshot
    createdAt := row.createdAt
    traceVersion := row.traceVersion }

def SearchTraceItemRow.explainItem (row : SearchTraceItemRow) : Except Error (SearchExplainItem E) := do
  let explain ← decodeJson reader reader.explain row.explain "explain"
  return {
    resultHandle := row.itemId
    noteId := row.noteId
    chunkId := row.chunkId
    rank := i32AsU32 row.rank
    explain }

/-! ## Trajectories -/

/-- `NULLS LAST` -/
def nullsLast (id : Option Uuid) : WithTop Nat := id

structure TrajectoryRow where
  stage : SearchTraceStageRow
  item : Option SearchTraceStageItemRow

def TrajectoryRow.order (row : TrajectoryRow) : Int ×ₗ WithTop Nat ×ₗ WithTop Nat :=
  toLex (row.stage.stageOrder,
    toLex (nullsLast (row.item.bind (·.itemId)), nullsLast (row.item.bind (·.noteId))))

/-- The stages of a trace, each with its items that satisfy a condition, or with none. -/
def TraceDb.trajectoryRows (db : TraceDb) (traceId : Uuid) (p : SearchTraceStageItemRow → Bool)
    : List TrajectoryRow :=
  let joined := (db.stages.rows.filter (·.traceId = traceId)).flatMap fun stage =>
    match db.stageItems.rows.filter fun item => item.stageId = stage.stageId && p item with
    | [] => [⟨stage, none⟩]
    | items => items.map fun item => ⟨stage, some item⟩
  orderBy TrajectoryRow.order joined

def SearchTraceStageItemRow.stageItem (row : SearchTraceStageItemRow) : SearchTrajectoryStageItem where
  itemId := row.itemId
  noteId := row.noteId
  chunkId := row.chunkId
  metrics := row.metrics

def SearchTrajectoryStage.addRow (stage : SearchTrajectoryStage) (row : TrajectoryRow)
    : SearchTrajectoryStage :=
  { stage with items := stage.items ++ (row.item.map SearchTraceStageItemRow.stageItem).toList }

def loadTraceTrajectoryStages (db : TraceDb) (traceId : Uuid) : List SearchTrajectoryStage :=
  let rows := db.trajectoryRows traceId fun _ => true
  let stages := Grouping.groupBy (fun row : TrajectoryRow => row.stage.stageId)
    (fun row => ⟨i32AsU32 row.stage.stageOrder, row.stage.stageName, row.stage.stagePayload, []⟩)
    SearchTrajectoryStage.addRow rows
  stages.map Prod.snd

def searchRetrievalTrajectorySchemaV1 : String := "search_retrieval_trajectory/v1"

def buildTrajectorySummaryFromStages (stages : List SearchTrajectoryStage) : SearchTrajectorySummary where
  schema := searchRetrievalTrajectorySchemaV1
  stages := stages.map fun stage => {
    stageOrder := stage.stageOrder
    stageName := stage.stageName
    itemCount := stage.items.length
    stats := (stage.stagePayload.get "stats").getD (.obj []) }

def loadTraceTrajectorySummary (db : TraceDb) (traceId : Uuid) : Option SearchTrajectorySummary :=
  let stages := loadTraceTrajectoryStages db traceId
  if stages.isEmpty then none else some (buildTrajectorySummaryFromStages stages)

/-! ## Traces -/

def checkTraceRequest (tenantId projectId agentId : String) : Except Error Unit := do
  rejectIf agentId.isEmpty (.invalidRequest "agent_id is required.")
  rejectIf (tenantId.isEmpty || projectId.isEmpty)
    (.invalidRequest "tenant_id and project_id are required.")

def traceGet (db : TraceDb) (req : TraceGetRequest) : Except Error (TraceGetResponse E) := do
  let tenantId := Text.trim req.tenantId
  let projectId := Text.trim req.projectId
  checkTraceRequest tenantId projectId (Text.trim req.agentId)
  let row ← ofOption (.invalidRequest "Unknown trace_id.") (db.traces.rows.find? fun row =>
    row.traceId = req.traceId && row.tenantId = tenantId && row.projectId = projectId)
  let trace ← row.searchTrace reader
  let itemRows := orderBy SearchTraceItemRow.rank (db.items.rows.filter (·.traceId = req.traceId))
  let items ← itemRows.mapM (SearchTraceItemRow.explainItem reader)
  return { trace, items, trajectorySummary := loadTraceTrajectorySummary db req.traceId }

structure SearchTrajectoryResponse where
  trace : SearchTrace
  trajectory : SearchTrajectorySummary
  stages : List SearchTrajectoryStage

def traceTrajectoryGet (db : TraceDb) (req : TraceGetRequest) : Except Error SearchTrajectoryResponse := do
  let base ← traceGet reader db req
  let stages := loadTraceTrajectoryStages db req.traceId
  return { trace := base.trace, trajectory := buildTrajectorySummaryFromStages stages, stages }

/-! ## Bundles -/

inductive TraceBundleMode where
  | bounded
  | full
deriving DecidableEq

structure TraceBundleGetRequest where
  base : TraceGetRequest
  mode : TraceBundleMode
  stageItemsLimit : Option Nat
  candidatesLimit : Option Nat

structure TraceBundleResponse (E C : Type) where
  schema : String
  generatedAt : Nat
  trace : SearchTrace
  items : List (SearchExplainItem E)
  trajectorySummary : Option SearchTrajectorySummary
  stages : List SearchTrajectoryStage
  candidates : Option (List C)

def traceBundleSchemaV1 : String := "elf.trace_bundle/v1"

def defaultBoundedStageItemsLimit : Nat := 64

def defaultFullStageItemsLimit : Nat := 256

def defaultBoundedCandidatesLimit : Nat := 0

def defaultFullCandidatesLimit : Nat := 200

def maxTraceBundleItemsLimit : Nat := 256

def maxTraceBundleCandidatesLimit : Nat := 1000

def TraceBundleGetRequest.stageItems (req : TraceBundleGetRequest) : Nat :=
  let default := match req.mode with
    | .bounded => defaultBoundedStageItemsLimit
    | .full => defaultFullStageItemsLimit
  min (req.stageItemsLimit.getD default) maxTraceBundleItemsLimit

def TraceBundleGetRequest.candidates (req : TraceBundleGetRequest) : Nat :=
  let default := match req.mode with
    | .bounded => defaultBoundedCandidatesLimit
    | .full => defaultFullCandidatesLimit
  min (req.candidatesLimit.getD default) maxTraceBundleCandidatesLimit

def SearchTraceCandidateRow.order (row : SearchTraceCandidateRow) : Int ×ₗ Nat :=
  toLex (row.retrievalRank, row.candidateId)

def TraceDb.bundleCandidates (db : TraceDb) (traceId : Uuid) (limit : Nat)
    : Except Error (Option (List C)) := do
  if limit = 0 then
    return none
  else
    let rows := orderBy SearchTraceCandidateRow.order (db.candidates.rows.filter (·.traceId = traceId))
    let candidates ← (rows.take limit).mapM fun row =>
      decodeJson reader reader.candidate row.candidateSnapshot "candidate_snapshot"
    return if candidates.isEmpty then none else some candidates

def traceBundleGet (now : Nat) (db : TraceDb) (req : TraceBundleGetRequest)
    : Except Error (TraceBundleResponse E C) := do
  checkTraceRequest (Text.trim req.base.tenantId) (Text.trim req.base.projectId)
    (Text.trim req.base.agentId)
  let base ← traceGet reader db { req.base with
    tenantId := Text.trim req.base.tenantId
    projectId := Text.trim req.base.projectId
    agentId := Text.trim req.base.agentId }
  let stages := (loadTraceTrajectoryStages db req.base.traceId).map fun stage =>
    { stage with items := stage.items.take req.stageItems }
  let candidates ← db.bundleCandidates reader req.base.traceId req.candidates
  return {
    schema := traceBundleSchemaV1
    generatedAt := now
    trace := base.trace
    items := base.items
    trajectorySummary := base.trajectorySummary
    stages
    candidates }

/-! ## Items -/

structure SearchExplainTrajectoryMatch where
  kind : String
  itemId : Option Uuid
  noteId : Option Uuid
  chunkId : Option Uuid
deriving DecidableEq

structure SearchExplainTrajectoryStage where
  stageOrder : Nat
  stageName : String
  stagePayload : Json
  metrics : Json
  matchInfo : Option SearchExplainTrajectoryMatch

structure SearchExplainTrajectory where
  schema : String
  stages : List SearchExplainTrajectoryStage

/-- What a stage says of an item, or else of its note, and of its chunk if it has one. -/
def SearchTraceStageItemRow.concerns (itemId noteId : Uuid) (chunkId : Option Uuid)
    (row : SearchTraceStageItemRow) : Bool :=
  row.itemId = some itemId
    || row.itemId.isNone && row.noteId = some noteId && (chunkId.isNone || row.chunkId = chunkId)

def SearchTraceStageItemRow.matchInfo (traceItemChunkId : Option Uuid) (row : SearchTraceStageItemRow)
    : SearchExplainTrajectoryMatch where
  kind :=
    if row.itemId.isSome then "item_id" else if traceItemChunkId.isSome then "note_chunk" else "note"
  itemId := row.itemId
  noteId := row.noteId
  chunkId := row.chunkId

/-- What the last of the rows of a stage says replaces what those before it say. -/
def SearchExplainTrajectoryStage.addRow (traceItemChunkId : Option Uuid)
    (stage : SearchExplainTrajectoryStage) (row : TrajectoryRow) : SearchExplainTrajectoryStage :=
  match row.item with
  | none => stage
  | some item =>
    { stage with matchInfo := some (item.matchInfo traceItemChunkId), metrics := item.metrics }

def loadItemTrajectory (db : TraceDb) (traceId itemId noteId : Uuid) (traceItemChunkId : Option Uuid)
    : Option SearchExplainTrajectory :=
  let rows := db.trajectoryRows traceId
    (SearchTraceStageItemRow.concerns itemId noteId traceItemChunkId)
  if rows.isEmpty then
    none
  else
    let stages := Grouping.groupBy (fun row : TrajectoryRow => i32AsU32 row.stage.stageOrder)
      (fun row => {
        stageOrder := i32AsU32 row.stage.stageOrder
        stageName := row.stage.stageName
        stagePayload := row.stage.stagePayload
        metrics := .obj []
        matchInfo := none })
      (SearchExplainTrajectoryStage.addRow traceItemChunkId) rows
    some { schema := searchRetrievalTrajectorySchemaV1, stages := stages.map Prod.snd }

structure SearchExplainRequest where
  tenantId : String
  projectId : String
  resultHandle : Uuid

structure SearchExplainResponse (E : Type) where
  trace : SearchTrace
  item : SearchExplainItem E
  trajectory : Option SearchExplainTrajectory

def searchExplain (db : TraceDb) (req : SearchExplainRequest) : Except Error (SearchExplainResponse E) := do
  let tenantId := Text.trim req.tenantId
  let projectId := Text.trim req.projectId
  rejectIf (tenantId.isEmpty || projectId.isEmpty)
    (.invalidRequest "tenant_id and project_id are required.")
  let unknown := .invalidRequest "Unknown result_handle or trace not yet persisted."
  let itemRow ← ofOption unknown (db.items.find? req.resultHandle)
  let row ← ofOption unknown (db.traces.rows.find? fun row =>
    row.traceId = itemRow.traceId && row.tenantId = tenantId && row.projectId = projectId)
  let trace ← row.searchTrace reader
  let item ← itemRow.explainItem reader
  let trajectory := loadItemTrajectory db row.traceId itemRow.itemId itemRow.noteId itemRow.chunkId
  return { trace, item, trajectory }

/-! ## Recent traces -/

structure TraceRecentCursor where
  createdAt : Nat
  traceId : Uuid
deriving DecidableEq

structure TraceRecentListRequest where
  tenantId : String
  projectId : String
  agentId : String
  limit : Option Nat
  cursorCreatedAt : Option Nat
  cursorTraceId : Option Uuid
  agentIdFilter : Option String
  readProfile : Option String
  createdAfter : Option Nat
  createdBefore : Option Nat

structure RecentTraceHeader where
  traceId : Uuid
  tenantId : String
  projectId : String
  agentId : String
  readProfile : String
  query : String
  createdAt : Nat
deriving DecidableEq

structure TraceRecentListResponse where
  schema : String
  traces : List RecentTraceHeader
  nextCursor : Option TraceRecentCursor
deriving DecidableEq

def recentTracesSchemaV1 : String := "elf.recent_traces/v1"

def maxRecentTracesLimit : Nat := 200

def defaultRecentTracesLimit : Nat := 50

def SearchTraceRow.recentHeader (row : SearchTraceRow) : RecentTraceHeader where
  traceId := row.traceId
  tenantId := row.tenantId
  projectId := row.projectId
  agentId := row.agentId
  readProfile := row.readProfile
  query := row.query
  createdAt := row.createdAt

def TraceRecentListRequest.selects (req : TraceRecentListRequest) (row : SearchTraceRow) : Bool :=
  row.tenantId = Text.trim req.tenantId && row.projectId = Text.trim req.projectId
    && (req.agentIdFilter.map Text.trim).all (row.agentId = ·)
    && (req.readProfile.map Text.trim).all (row.readProfile = ·)
    && req.createdAfter.all (timestamptz · < row.createdAt)
    && req.createdBefore.all (row.createdAt < timestamptz ·)

/-- `(created_at, trace_id)` -/
def SearchTraceRow.recency (row : SearchTraceRow) : Nat ×ₗ Nat := toLex (row.createdAt, row.traceId)

def TraceRecentListRequest.cursor (req : TraceRecentListRequest) : Option (Nat ×ₗ Nat) := do
  let createdAt ← req.cursorCreatedAt
  let traceId ← req.cursorTraceId
  return toLex (timestamptz createdAt, traceId)

def TraceRecentListRequest.limitOrDefault (req : TraceRecentListRequest) : Nat :=
  req.limit.getD defaultRecentTracesLimit

def TraceRecentListRequest.check (req : TraceRecentListRequest) : Except Error Unit := do
  rejectIf (req.cursorCreatedAt.isSome != req.cursorTraceId.isSome)
    (.invalidRequest "cursor_created_at and cursor_trace_id must be both set or both omitted.")
  checkTraceRequest (Text.trim req.tenantId) (Text.trim req.projectId) (Text.trim req.agentId)
  rejectIf (req.limitOrDefault = 0 || req.limitOrDefault > maxRecentTracesLimit)
    (.invalidRequest ("limit must be between 1 and " ++ toString maxRecentTracesLimit ++ "."))
  rejectIf (req.createdAfter.any fun after => req.createdBefore.any (after ≥ ·))
    (.invalidRequest "created_after must be before created_before.")

def traceRecentList (db : TraceDb) (req : TraceRecentListRequest)
    : Except Error TraceRecentListResponse := do
  req.check
  let limit := req.limitOrDefault
  let fetchLimit := min (limit + 1) (maxRecentTracesLimit + 1)
  let selected := db.traces.rows.filter fun row =>
    req.selects row && req.cursor.all (row.recency < ·)
  let rows := (orderBy (fun row => OrderDual.toDual row.recency) selected).take fetchLimit
  let nextCursor := if rows.length > limit then
      rows[limit - 1]?.map fun row => { createdAt := row.createdAt, traceId := row.traceId }
    else none
  return {
    schema := recentTracesSchemaV1
    traces := (rows.take limit).map SearchTraceRow.recentHeader
    nextCursor }

end Elf
