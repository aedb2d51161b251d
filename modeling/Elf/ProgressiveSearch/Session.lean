import Elf.Evidence.Sources
import Elf.Knowledge.Sections
import Elf.Search.TraceSnapshot

/-!
This module contains the sessions of the progressive search: what a search found is stored under an
identifier, and the requests that follow it up load the session and extend its time to live.
-/

namespace Elf

open Text

/-! ## Items -/

structure SearchSessionItemRecord where
  rank : Nat
  noteId : Uuid
  chunkId : Uuid
  finalScore : F32
  updatedAt : Nat
  expiresAt : Option Nat
  type : String
  key : Option String
  scope : String
  importance : F32
  confidence : F32
  summary : String
deriving DecidableEq

structure SearchIndexItem where
  noteId : Uuid
  type : String
  key : Option String
  scope : String
  importance : F32
  confidence : F32
  updatedAt : Nat
  expiresAt : Option Nat
  finalScore : F32
  summary : String
  isPreview : Bool
deriving DecidableEq

namespace SearchSessionItemRecord

def toIndexItem (item : SearchSessionItemRecord) : SearchIndexItem := {
  isPreview := true
  noteId := item.noteId
  type := item.type
  key := item.key
  scope := item.scope
  importance := item.importance
  confidence := item.confidence
  updatedAt := item.updatedAt
  expiresAt := item.expiresAt
  finalScore := item.finalScore
  summary := item.summary }

variable (rfc : Rfc3339)

/-- The fields of an object in the order of their keys. -/
def entries (item : SearchSessionItemRecord) (updatedAt : String) (expiresAt : Json)
    : List (String × Json) :=
  [ ("chunk_id", uuidJson item.chunkId),
    ("confidence", scoreJson item.confidence),
    ("expires_at", expiresAt),
    ("final_score", scoreJson item.finalScore),
    ("importance", scoreJson item.importance),
    ("key", .ofOption .str item.key),
    ("note_id", uuidJson item.noteId),
    ("rank", .num item.rank),
    ("scope", .str item.scope),
    ("summary", .str item.summary),
    ("type", .str item.type),
    ("updated_at", .str updatedAt)]

/-- `serde_json::to_value`, which fails on a time that has no RFC 3339 text. -/
def toJson (item : SearchSessionItemRecord) : Option Json := do
  let updatedAt ← rfc.format item.updatedAt
  let expiresAt ← timeOptionJson rfc item.expiresAt
  return .obj (item.entries updatedAt expiresAt)

/-- `serde_json::from_value`, where it succeeds. -/
def ofJson (value : Json) : Option SearchSessionItemRecord := do
  let rank ← readField readU32 value "rank"
  let noteId ← readField readUuid value "note_id"
  let chunkId ← readField readUuid value "chunk_id"
  let finalScore ← readField readF32 value "final_score"
  let updatedAt ← readField (readTime rfc) value "updated_at"
  let expiresAt ← readField (readTimeOption rfc) value "expires_at"
  let type ← readField Json.asStr value "type"
  let key ← readOptional Json.asStr value "key"
  let scope ← readField Json.asStr value "scope"
  let importance ← readField readF32 value "importance"
  let confidence ← readField readF32 value "confidence"
  let summary ← readField Json.asStr value "summary"
  return {
    rank, noteId, chunkId, finalScore, updatedAt, expiresAt, type, key, scope, importance,
    confidence, summary }

end SearchSessionItemRecord

def sessionItemsJson (rfc : Rfc3339) (items : List SearchSessionItemRecord) : Option Json :=
  (items.mapM (SearchSessionItemRecord.toJson rfc)).map .arr

def readSessionItems (rfc : Rfc3339) (value : Json) : Option (List SearchSessionItemRecord) :=
  value.asArr.bind fun items => items.mapM (SearchSessionItemRecord.ofJson rfc)

/-! ## Sessions -/

inductive SearchSessionizePath where
  | quick
  | planned
deriving DecidableEq

inductive SearchSessionMode where
  | quickFind
  | plannedSearch
deriving DecidableEq

namespace SearchSessionMode

def asStr : SearchSessionMode → String
  | quickFind => "quick_find"
  | plannedSearch => "planned_search"

def fromStr : String → Except Error SearchSessionMode
  | "quick_find" => .ok quickFind
  | "planned_search" => .ok plannedSearch
  | value => .error (.storage ("Unknown search session mode: " ++ value))

def ofPath : SearchSessionizePath → SearchSessionMode
  | .quick => quickFind
  | .planned => plannedSearch

end SearchSessionMode

/-- A row of `search_sessions`. -/
structure SearchSessionRow where
  searchSessionId : Uuid
  traceId : Uuid
  tenantId : String
  projectId : String
  agentId : String
  readProfile : String
  query : String
  mode : String
  trajectorySummary : Option Json
  queryPlan : Option Json
  items : Json
  createdAt : Nat
  expiresAt : Nat
deriving DecidableEq

/-- A session as it is loaded. Of its plan and its summary matters that they can be read. -/
structure SearchSession where
  searchSessionId : Uuid
  traceId : Uuid
  tenantId : String
  projectId : String
  agentId : String
  readProfile : String
  query : String
  mode : SearchSessionMode
  trajectorySummary : Option Json
  queryPlan : Option Json
  items : List SearchSessionItemRecord
  createdAt : Nat
  expiresAt : Nat

/-- A row of `memory_hits`. -/
structure MemoryHit where
  hitId : Uuid
  noteId : Uuid
  chunkId : Uuid
  queryHash : String
  rank : Nat
  finalScore : F32
  ts : Nat
deriving DecidableEq

structure SearchDb where
  memory : Store
  sessions : Table SearchSessionRow SearchSessionRow.searchSessionId
  hits : Table MemoryHit MemoryHit.hitId
deriving DecidableEq

def SearchDb.empty : SearchDb := ⟨.empty, .empty, .empty⟩

/-- The service as far as it keeps sessions. -/
structure SearchService where
  read : ReadService
  rfc : Rfc3339
  topK : Nat
  previewMaxChars : Nat
  hashQuery : String → String
  /-- Why items with a time that has no RFC 3339 text cannot be written. -/
  encodeError : List SearchSessionItemRecord → String
  /-- Why a value is not a list of items. -/
  itemsError : Json → String
  /-- Why a value is not a query plan, if it is none. -/
  queryPlanError : Json → Option String
  /-- Why a value is not a summary of a trajectory, if it is none. -/
  trajectorySummaryError : Json → Option String

/-- What one request draws from outside: the clock and the identifiers it generates. -/
structure SearchDraw where
  now : Nat
  searchSessionId : Uuid
  /-- By the place of the hit among the hits. -/
  hitId : Nat → Uuid

variable (svc : SearchService)

def resolveReadScopes (profile : String) : Except Error (List String) :=
  resolveReadProfileScopes svc.read profile

def sessionSlidingTtlHours : Nat := 6
def sessionAbsoluteTtlHours : Nat := 24

def hours (n : Nat) : Nat := 3600000000000 * n

/-! ## Storing -/

structure SearchRequest where
  tenantId : String
  projectId : String
  agentId : String
  readProfile : String
  query : String
  topK : Option Nat

/-- What a search finds in the index. -/
structure RawSearch where
  traceId : Uuid
  items : List (SearchItem F32)
  trajectorySummary : Option Json
  queryPlan : Option Json

def validateSearchRequestInputs (tenantId projectId agentId query : String) : Except Error Unit := do
  Except.rejectIf (tenantId == "" || projectId == "" || agentId == "")
    (.invalidRequest "tenant_id, project_id, and agent_id are required.")
  Except.rejectIf (!isValidText query) (.invalidText "$.query")

/-- A raw search, which checks its request before it looks at the index. -/
def searchRaw (req : SearchRequest) (found : Except Error RawSearch) : Except Error RawSearch := do
  validateSearchRequestInputs (trim req.tenantId) (trim req.projectId) (trim req.agentId) req.query
  let _ ← resolveReadScopes svc req.readProfile
  found

def buildSummary (raw : String) (maxChars : Nat) : String :=
  truncateChars (normalizeWhitespace raw) maxChars

def sessionItem (fields : FieldTable) (item : SearchItem F32) (idx : Nat)
    : SearchSessionItemRecord := {
  -- `idx as u32 + 1`
  rank := (idx % 4294967296 + 1) % 4294967296
  noteId := item.noteId
  chunkId := item.chunkId
  finalScore := item.finalScore
  updatedAt := item.updatedAt
  expiresAt := item.expiresAt
  type := item.type
  key := item.key
  scope := item.scope
  importance := item.importance
  confidence := item.confidence
  summary := ((fetchStructuredFields fields item.noteId).bind StructuredFields.summary).getD
    (buildSummary item.snippet svc.previewMaxChars) }

def sessionItems (fields : FieldTable) (items : List (SearchItem F32))
    : List SearchSessionItemRecord :=
  items.zipIdx.map fun (item, idx) => sessionItem svc fields item idx

structure SearchSessionizedOutput where
  traceId : Uuid
  searchSessionId : Uuid
  expiresAt : Nat
  items : List SearchIndexItem
  total : Nat
  hasMore : Bool
  trajectorySummary : Option Json
  queryPlan : Option Json

def storeSearchSession (row : SearchSessionRow) (db : SearchDb) : Except Error SearchDb := do
  let sessions ← db.sessions.insert { row with
    tenantId := trim row.tenantId
    projectId := trim row.projectId
    agentId := trim row.agentId
    createdAt := timestamptz row.createdAt
    expiresAt := timestamptz row.expiresAt } duplicateKey
  return { db with sessions }

def searchSessionized (req : SearchRequest) (path : SearchSessionizePath)
    (found : Except Error RawSearch) (draw : SearchDraw)
    : Transaction Error SearchDb SearchSessionizedOutput := fun db => do
  let topK := max (req.topK.getD svc.topK) 1
  let raw ← searchRaw svc req found
  let queryPlan := if path = .planned then raw.queryPlan else none
  let expiresAt := draw.now + hours sessionSlidingTtlHours
  let items := sessionItems svc db.memory.fields raw.items
  let itemsJson ← Except.ofOption
    (.storage ("Failed to encode search session items: " ++ svc.encodeError items))
    (sessionItemsJson svc.rfc items)
  let db ← storeSearchSession {
    searchSessionId := draw.searchSessionId
    traceId := raw.traceId
    tenantId := req.tenantId
    projectId := req.projectId
    agentId := req.agentId
    readProfile := req.readProfile
    query := req.query
    mode := (SearchSessionMode.ofPath path).asStr
    trajectorySummary := raw.trajectorySummary
    queryPlan
    items := itemsJson
    createdAt := draw.now
    expiresAt } db
  let responseItems := (items.take topK).map SearchSessionItemRecord.toIndexItem
  return ({
    traceId := raw.traceId
    searchSessionId := draw.searchSessionId
    expiresAt
    items := responseItems
    total := items.length
    hasMore := decide (responseItems.length < items.length)
    trajectorySummary := raw.trajectorySummary
    queryPlan }, db)

/-! ## Loading -/

def rejectUndecoded (column : String) (error : Json → Option String) (value : Option Json)
    : Except Error Unit :=
  match value.bind error with
  | some err => .error (.storage ("Failed to decode search session " ++ column ++ ": " ++ err))
  | none => .ok ()

def loadSearchSession (db : SearchDb) (searchSessionId : Uuid) (now : Nat)
    : Except Error SearchSession := do
  let row ← Except.ofOption (.invalidRequest "Unknown search_session_id.")
    (db.sessions.find? searchSessionId)
  Except.rejectIf (row.expiresAt ≤ now) (.invalidRequest "Search session expired.")
  let items ← Except.ofOption
    (.storage ("Failed to decode search session items: " ++ svc.itemsError row.items))
    (readSessionItems svc.rfc row.items)
  let mode ← SearchSessionMode.fromStr row.mode
  rejectUndecoded "query_plan" svc.queryPlanError row.queryPlan
  rejectUndecoded "trajectory summary" svc.trajectorySummaryError row.trajectorySummary
  return {
    searchSessionId := row.searchSessionId
    traceId := row.traceId
    tenantId := row.tenantId
    projectId := row.projectId
    agentId := row.agentId
    readProfile := row.readProfile
    query := row.query
    mode
    trajectorySummary := row.trajectorySummary
    queryPlan := row.queryPlan
    items
    createdAt := row.createdAt
    expiresAt := row.expiresAt }

def validateSearchSessionAccess (session : SearchSession) (tenantId projectId agentId : String)
    : Except Error Unit :=
  Except.rejectIf (session.tenantId ≠ tenantId || session.projectId ≠ projectId
    || session.agentId ≠ agentId) (.invalidRequest "Unknown search_session_id.")

/-- What every follow-up request begins with. -/
def followUpSession (db : SearchDb) (tenantId projectId agentId : String) (searchSessionId : Uuid)
    (now : Nat) : Except Error SearchSession := do
  let tenantId := trim tenantId
  let projectId := trim projectId
  let agentId := trim agentId
  Except.rejectIf (tenantId == "" || projectId == "" || agentId == "")
    (.invalidRequest "tenant_id, project_id, and agent_id are required.")
  let session ← loadSearchSession svc db searchSessionId now
  validateSearchSessionAccess session tenantId projectId agentId
  return session

/-- The time until which a session that is used lasts, but for what it lasts already. -/
def touchedExpiresAt (session : SearchSession) (now : Nat) : Nat :=
  let absoluteExpiresAt := session.createdAt + hours sessionAbsoluteTtlHours
  let slidingExpiresAt := now + hours sessionSlidingTtlHours
  if slidingExpiresAt < absoluteExpiresAt then slidingExpiresAt else absoluteExpiresAt

/-- The time at which the session ends once it is touched, and the tables with that time. -/
def touchSearchSession (session : SearchSession) (now : Nat) (db : SearchDb) : Nat × SearchDb :=
  let touched := touchedExpiresAt session now
  if touched ≤ session.expiresAt then
    (session.expiresAt, db)
  else
    (touched, { db with
      sessions := db.sessions.updateWhere (fun row =>
          row.searchSessionId = session.searchSessionId && row.expiresAt < timestamptz touched)
        fun row => { row with expiresAt := timestamptz touched } })

structure SearchSessionGetRequest where
  tenantId : String
  projectId : String
  agentId : String
  searchSessionId : Uuid
  topK : Option Nat
  touch : Option Bool

structure SearchSessionGetResponse where
  traceId : Uuid
  searchSessionId : Uuid
  expiresAt : Nat
  items : List SearchIndexItem
  total : Nat
  hasMore : Bool
  mode : SearchSessionMode
  queryPlan : Option Json
  trajectorySummary : Option Json

def searchSessionGet (req : SearchSessionGetRequest) (now : Nat) (db : SearchDb)
    : Except Error SearchSessionGetResponse × SearchDb :=
  match followUpSession svc db req.tenantId req.projectId req.agentId req.searchSessionId now with
  | .error err => (.error err, db)
  | .ok session =>
    let touched :=
      if req.touch.getD true then touchSearchSession session now db else (session.expiresAt, db)
    let items := (session.items.take (max (req.topK.getD svc.topK) 1)).map
      SearchSessionItemRecord.toIndexItem
    (.ok {
      traceId := session.traceId
      searchSessionId := session.searchSessionId
      expiresAt := touched.1
      items
      total := session.items.length
      hasMore := decide (items.length < session.items.length)
      mode := session.mode
      queryPlan := session.queryPlan
      trajectorySummary := session.trajectorySummary }, touched.2)

end Elf
