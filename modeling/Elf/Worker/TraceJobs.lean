import Elf.Lib.Run
import Elf.Search.TracePayload
import Elf.Worker.Helpers

/-!
This module contains the traces of searches as they are stored: a search writes its trace itself or
enqueues it for the workers, who store it, and what has expired is purged. The steps of searches and
workers are taken in any order, and a worker may stop at any point.
-/

namespace Elf

/-! ## Tables -/

/-- A row of `search_traces`. -/
structure SearchTraceRow where
  traceId : Uuid
  tenantId : String
  projectId : String
  agentId : String
  readProfile : String
  query : String
  expansionMode : String
  expandedQueries : Json
  allowedScopes : Json
  candidateCount : Int
  topK : Int
  configSnapshot : Json
  traceVersion : Int
  createdAt : Nat
  expiresAt : Nat
deriving DecidableEq

/-- A row of `search_trace_items`. -/
structure SearchTraceItemRow where
  itemId : Uuid
  traceId : Uuid
  noteId : Uuid
  chunkId : Option Uuid
  rank : Int
  finalScore : F32
  explain : Json
deriving DecidableEq

/-- A row of `search_trace_candidates`. -/
structure SearchTraceCandidateRow where
  candidateId : Uuid
  traceId : Uuid
  noteId : Uuid
  chunkId : Uuid
  chunkIndex : Int
  snippet : String
  candidateSnapshot : Json
  retrievalRank : Int
  rerankScore : F32
  noteScope : String
  noteImportance : F32
  noteUpdatedAt : Nat
  noteHitCount : Int
  noteLastHitAt : Option Nat
  createdAt : Nat
  expiresAt : Nat
deriving DecidableEq

/-- A row of `search_trace_stages`. -/
structure SearchTraceStageRow where
  stageId : Uuid
  traceId : Uuid
  stageOrder : Int
  stageName : String
  stagePayload : Json
  createdAt : Nat
deriving DecidableEq

/-- A row of `search_trace_stage_items`. -/
structure SearchTraceStageItemRow where
  id : Uuid
  stageId : Uuid
  itemId : Option Uuid
  noteId : Option Uuid
  chunkId : Option Uuid
  metrics : Json
deriving DecidableEq

/-- A row of `search_trace_outbox`. -/
structure TraceOutboxEntry where
  outboxId : Uuid
  traceId : Uuid
  status : OutboxStatus
  attempts : Nat
  availableAt : Nat
  payload : Json
  createdAt : Nat
  updatedAt : Nat
deriving DecidableEq

abbrev TraceOutbox := Table TraceOutboxEntry TraceOutboxEntry.outboxId

structure TraceDb where
  traces : Table SearchTraceRow SearchTraceRow.traceId
  items : Table SearchTraceItemRow SearchTraceItemRow.itemId
  candidates : Table SearchTraceCandidateRow SearchTraceCandidateRow.candidateId
  stages : Table SearchTraceStageRow SearchTraceStageRow.stageId
  stageItems : Table SearchTraceStageItemRow SearchTraceStageItemRow.id
  outbox : TraceOutbox

def TraceDb.empty : TraceDb := ⟨.empty, .empty, .empty, .empty, .empty, .empty⟩

/-! ## Rows -/

/-- `n as i32`, for a number of 32 bits. -/
def u32AsI32 (n : Nat) : Int := if n < 2147483648 then n else n - 4294967296

def TraceRecord.row (trace : TraceRecord) : SearchTraceRow where
  traceId := trace.traceId
  tenantId := trace.tenantId
  projectId := trace.projectId
  agentId := trace.agentId
  readProfile := trace.readProfile
  query := trace.query
  expansionMode := trace.expansionMode
  expandedQueries := stringsJson trace.expandedQueries
  allowedScopes := stringsJson trace.allowedScopes
  candidateCount := u32AsI32 trace.candidateCount
  topK := u32AsI32 trace.topK
  configSnapshot := trace.configSnapshot
  traceVersion := trace.traceVersion
  createdAt := timestamptz trace.createdAt
  expiresAt := timestamptz trace.expiresAt

def TraceItemEntry.row (traceId : Uuid) (item : TraceItemEntry) : SearchTraceItemRow where
  itemId := item.itemId
  traceId
  noteId := item.noteId
  chunkId := item.chunkId
  rank := u32AsI32 item.rank
  finalScore := item.finalScore
  explain := item.explain

def TraceCandidateEntry.row (traceId : Uuid) (entry : TraceCandidateEntry)
    : SearchTraceCandidateRow where
  candidateId := entry.candidateId
  traceId
  noteId := entry.record.noteId
  chunkId := entry.record.chunkId
  chunkIndex := entry.record.chunkIndex
  snippet := entry.record.snippet
  candidateSnapshot := entry.record.candidateSnapshot
  retrievalRank := u32AsI32 entry.record.retrievalRank
  rerankScore := entry.record.rerankScore
  noteScope := entry.record.noteScope
  noteImportance := entry.record.noteImportance
  noteUpdatedAt := timestamptz entry.record.noteUpdatedAt
  noteHitCount := entry.record.noteHitCount
  noteLastHitAt := entry.record.noteLastHitAt.map timestamptz
  createdAt := timestamptz entry.createdAt
  expiresAt := timestamptz entry.expiresAt

def TraceTrajectoryStageRecord.row (traceId : Uuid) (stage : TraceTrajectoryStageRecord)
    : SearchTraceStageRow where
  stageId := stage.stageId
  traceId
  stageOrder := u32AsI32 stage.stageOrder
  stageName := stage.stageName
  stagePayload := stage.stagePayload
  createdAt := timestamptz stage.createdAt

def TraceTrajectoryStageItemRecord.row (stageId : Uuid) (item : TraceTrajectoryStageItemRecord)
    : SearchTraceStageItemRow where
  id := item.id
  stageId
  itemId := item.itemId
  noteId := item.noteId
  chunkId := item.chunkId
  metrics := item.metrics

def stageItemRows (stages : List TraceTrajectoryStageRecord) : List SearchTraceStageItemRow :=
  stages.flatMap fun stage => stage.items.map (TraceTrajectoryStageItemRecord.row stage.stageId)

/-! ## Statements -/

def insertTraceTx (db : TraceDb) (trace : TraceRecord) : TraceDb :=
  { db with traces := db.traces.insertNew trace.row }

def insertTraceItemsTx (db : TraceDb) (traceId : Uuid) (items : List TraceItemEntry) : TraceDb :=
  { db with items := db.items.insertAllNew (items.map (TraceItemEntry.row traceId)) }

def insertTraceStagesTx (db : TraceDb) (traceId : Uuid) (stages : List TraceTrajectoryStageRecord)
    : TraceDb :=
  { db with
    stages := db.stages.insertAllNew (stages.map (TraceTrajectoryStageRecord.row traceId))
    stageItems := db.stageItems.insertAllNew (stageItemRows stages) }

def insertTraceCandidatesTx (db : TraceDb) (traceId : Uuid) (candidates : List TraceCandidateEntry)
    : TraceDb :=
  { db with
    candidates := db.candidates.insertAllNew (candidates.map (TraceCandidateEntry.row traceId)) }

/-- What the search and the worker store of a payload, in one transaction. -/
def persistTrace (db : TraceDb) (payload : TracePayload) : TraceDb :=
  let db := insertTraceTx db payload.trace
  let db := insertTraceItemsTx db payload.trace.traceId payload.items
  let db := insertTraceStagesTx db payload.trace.traceId payload.stages
  insertTraceCandidatesTx db payload.trace.traceId payload.candidates

/-! ## Searches -/

def persistTraceInline (db : TraceDb) (payload : TracePayload) : TraceDb := persistTrace db payload

variable (serde : TimeSerde)

def enqueueTrace (db : TraceDb) (outboxId : Uuid) (now : Nat) (payload : TracePayload)
    : Option TraceDb := do
  let payloadJson ← payload.toJson serde
  let outbox ← db.outbox.insert? {
    outboxId
    traceId := payload.trace.traceId
    status := .pending
    attempts := 0
    availableAt := timestamptz now
    payload := payloadJson
    createdAt := timestamptz now
    updatedAt := timestamptz now }
  return { db with outbox }

/-- A trace that cannot be enqueued is lost, which the search only logs. -/
def writeTracePayload (writeMode : String) (outboxId : Uuid) (now : Nat) (payload : TracePayload)
    (db : TraceDb) : TraceDb :=
  if (Text.trim writeMode).toLower = "inline" then
    persistTraceInline db payload
  else
    (enqueueTrace serde db outboxId now payload).getD db

/-! ## Workers -/

structure TraceOutboxJob where
  outboxId : Uuid
  traceId : Uuid
  payload : Json
  attempts : Nat

def traceOutboxLeaseSeconds : Nat := 30

def TraceOutboxEntry.due (job : TraceOutboxEntry) (now : Nat) : Bool :=
  [OutboxStatus.pending, .failed].contains job.status && job.availableAt ≤ timestamptz now

/-- The claim of a job, where `SKIP LOCKED` leaves out the ones that are `locked`. -/
def claimNextTraceOutboxJob (outbox : TraceOutbox) (now leaseSeconds : Nat) (locked : List Uuid)
    : Option (TraceOutboxJob × TraceOutbox) := do
  let job ← outbox.earliest (fun job => job.due now && !locked.contains job.outboxId)
    TraceOutboxEntry.availableAt
  let outbox := outbox.modify job.outboxId fun job => { job with
    availableAt := timestamptz (now + seconds leaseSeconds)
    updatedAt := timestamptz now }
  return (⟨job.outboxId, job.traceId, job.payload, job.attempts⟩, outbox)

def markTraceOutboxDone (outbox : TraceOutbox) (outboxId : Uuid) (now : Nat) : TraceOutbox :=
  outbox.modify outboxId fun job => { job with status := .done, updatedAt := timestamptz now }

def markTraceOutboxFailed (outbox : TraceOutbox) (outboxId : Uuid) (attempts availableAt now : Nat)
    : TraceOutbox :=
  outbox.modify outboxId fun job => { job with
    status := .failed
    attempts
    availableAt := timestamptz availableAt
    updatedAt := timestamptz now }

def markTraceFailed (outbox : TraceOutbox) (job : TraceOutboxJob) (now : Nat) : TraceOutbox :=
  let attempts := nextAttempts job.attempts
  markTraceOutboxFailed outbox job.outboxId attempts (now + backoffForAttempt attempts) now

def handleTraceJob (db : TraceDb) (job : TraceOutboxJob) : Except WorkerError TraceDb := do
  let payload ← Except.ofOption (.message "The payload is not that of a trace.")
    (TracePayload.ofJson serde job.payload)
  return persistTrace db payload

/-! ## Purges -/

def purgeExpiredTraceCandidates (db : TraceDb) (now : Nat) : TraceDb :=
  { db with candidates := db.candidates.deleteWhere (·.expiresAt ≤ timestamptz now) }

/-- The rows that refer to a deleted one are deleted with it. -/
def purgeExpiredTraces (db : TraceDb) (now : Nat) : TraceDb :=
  let expired := (db.traces.rows.filter (·.expiresAt ≤ timestamptz now)).map SearchTraceRow.traceId
  let expiredStages :=
    (db.stages.rows.filter fun row => expired.contains row.traceId).map SearchTraceStageRow.stageId
  { db with
    traces := db.traces.deleteWhere (·.expiresAt ≤ timestamptz now)
    items := db.items.deleteWhere fun row => expired.contains row.traceId
    candidates := db.candidates.deleteWhere fun row => expired.contains row.traceId
    stages := db.stages.deleteWhere fun row => expired.contains row.traceId
    stageItems := db.stageItems.deleteWhere fun row => expiredStages.contains row.stageId }

/-! ## Steps -/

inductive TracePhase where
  | claimed
  | handled (result : Except WorkerError Unit)

structure TraceAttempt where
  job : TraceOutboxJob
  phase : TracePhase

def TraceAttempt.outboxId (attempt : TraceAttempt) : Uuid := attempt.job.outboxId

/-- The tables, and what the workers are doing. -/
structure TraceStore where
  db : TraceDb
  attempts : Attempts TraceAttempt

def TraceStore.empty : TraceStore := ⟨.empty, fun _ => none⟩

inductive TraceAction where
  | search (writeMode : String) (outboxId : Uuid) (now : Nat) (payload : TracePayload)
  | claim (worker now : Nat) (locked : List Uuid)
  | persist (worker : Nat)
  /-- The handler fails, or the answer to its commit is lost. -/
  | fail (worker : Nat) (err : WorkerError)
  | settle (worker now : Nat)
  /-- The worker stops, and its lease expires. -/
  | crash (worker : Nat)
  | purgeTraceCandidates (now : Nat)
  | purgeTraces (now : Nat)

namespace TraceStore

variable (s : TraceStore)

def claim (worker now : Nat) (locked : List Uuid) : Option TraceStore := do
  guard (s.attempts worker).isNone
  let (job, outbox) ← claimNextTraceOutboxJob s.db.outbox now traceOutboxLeaseSeconds locked
  let db := { s.db with outbox }
  return { db, attempts := s.attempts.set worker (some ⟨job, .claimed⟩) }

def persist (worker : Nat) : Option TraceStore :=
  match s.attempts worker with
  | some ⟨job, .claimed⟩ =>
    match handleTraceJob serde s.db job with
    | .ok db => some { db, attempts := s.attempts.set worker (some ⟨job, .handled (.ok ())⟩) }
    | .error err =>
      some { s with attempts := s.attempts.set worker (some ⟨job, .handled (.error err)⟩) }
  | _ => none

def fail (worker : Nat) (err : WorkerError) : Option TraceStore := do
  let attempt ← s.attempts worker
  let attempts := s.attempts.set worker (some { attempt with phase := .handled (.error err) })
  return { s with attempts }

def settle (worker now : Nat) : Option TraceStore :=
  match s.attempts worker with
  | some ⟨job, .handled result⟩ =>
    let outbox := match result with
      | .ok () => markTraceOutboxDone s.db.outbox job.outboxId now
      | .error _ => markTraceFailed s.db.outbox job now
    let db := { s.db with outbox }
    some { db, attempts := s.attempts.set worker none }
  | _ => none

def step : TraceAction → Option TraceStore
  | .search writeMode outboxId now payload =>
    some { s with db := writeTracePayload serde writeMode outboxId now payload s.db }
  | .claim worker now locked => s.claim worker now locked
  | .persist worker => s.persist serde worker
  | .fail worker err => s.fail worker err
  | .settle worker now => s.settle worker now
  | .crash worker => some { s with attempts := s.attempts.set worker none }
  | .purgeTraceCandidates now => some { s with db := purgeExpiredTraceCandidates s.db now }
  | .purgeTraces now => some { s with db := purgeExpiredTraces s.db now }

end TraceStore

def TraceSteps (s : TraceStore) (a : TraceAction) (t : TraceStore) : Prop :=
  s.step serde a = some t

end Elf
