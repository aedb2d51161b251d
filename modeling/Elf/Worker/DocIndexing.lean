import Elf.Docs.Service
import Elf.Worker.Helpers

/-!
This module contains the index of the documents: the jobs of the document outbox, the points that the
workers write, and the steps that requests and workers take in any order.
-/

namespace Elf

/-! ## Outbox -/

abbrev DocOutbox := Table DocIndexingOutboxEntry DocIndexingOutboxEntry.outboxId

def DocIndexingOutboxEntry.due (job : DocIndexingOutboxEntry) (now : Nat) : Bool :=
  [DocOutboxStatus.pending, .failed, .claimed].contains job.status && job.availableAt ≤ timestamptz now

/-- The claim of a job, where `SKIP LOCKED` leaves out the ones that are `locked`. -/
def claimNextDocIndexingOutboxJob (outbox : DocOutbox) (now leaseSeconds : Nat) (locked : List Uuid)
    : Option (DocIndexingOutboxEntry × DocOutbox) := do
  let job ← outbox.earliest (fun job => job.due now && !locked.contains job.outboxId)
    DocIndexingOutboxEntry.availableAt
  let leaseUntil := now + seconds leaseSeconds
  let outbox := outbox.modify job.outboxId fun job => { job with
    status := .claimed
    availableAt := timestamptz leaseUntil
    updatedAt := timestamptz now }
  return ({ job with availableAt := leaseUntil, updatedAt := now }, outbox)

def markDocIndexingOutboxDone (outbox : DocOutbox) (outboxId : Uuid) (now : Nat) : DocOutbox :=
  outbox.modify outboxId fun job => { job with status := .done, updatedAt := timestamptz now }

def markDocIndexingOutboxFailed (outbox : DocOutbox) (outboxId : Uuid) (attempts availableAt now : Nat)
    : DocOutbox :=
  outbox.modify outboxId fun job => { job with
    status := .failed
    attempts
    availableAt := timestamptz availableAt
    updatedAt := timestamptz now }

def markDocFailed (outbox : DocOutbox) (job : DocIndexingOutboxEntry) (now : Nat) : DocOutbox :=
  let attempts := nextAttempts job.attempts
  markDocIndexingOutboxFailed outbox job.outboxId attempts (now + backoffForAttempt attempts) now

/-! ## Points -/

/-- What a worker reads of a chunk and of its document. -/
structure DocChunkIndexRow where
  docId : Uuid
  tenantId : String
  projectId : String
  agentId : String
  scope : String
  docType : String
  status : String
  createdAt : Nat
  updatedAt : Nat
  contentHash : String
  sourceRef : Json
  chunkId : Uuid
  chunkIndex : Nat
  startOffset : Nat
  endOffset : Nat
  chunkText : String
  chunkHash : String
deriving DecidableEq

def fetchDocChunkIndexRow (db : DocStore) (chunkId : Uuid) : Option DocChunkIndexRow := do
  let c ← db.chunks.find? chunkId
  let d ← db.documents.find? c.docId
  return {
    docId := d.docId
    tenantId := d.tenantId
    projectId := d.projectId
    agentId := d.agentId
    scope := d.scope
    docType := d.docType
    status := d.status
    createdAt := d.createdAt
    updatedAt := d.updatedAt
    contentHash := d.contentHash
    sourceRef := d.sourceRef
    chunkId := c.chunkId
    chunkIndex := c.chunkIndex
    startOffset := c.startOffset
    endOffset := c.endOffset
    chunkText := c.chunkText
    chunkHash := c.chunkHash }

/-- A point of the collection, with its payload. -/
structure DocPoint where
  docId : Uuid
  chunkId : Uuid
  chunkIndex : Nat
  startOffset : Nat
  endOffset : Nat
  tenantId : String
  projectId : String
  agentId : String
  scope : String
  docType : String
  status : String
  updatedAt : String
  docTs : String
  threadId : Option String
  domain : Option String
  repo : Option String
  embeddingVersion : String
  contentHash : String
  chunkHash : String
  dense : List F32
  bm25 : String
deriving DecidableEq

variable (svc : DocsService)

/-- The time, the thread, the domain and the repository of a source reference. -/
def projectDocRefFields (sourceRef : Json) (fallbackTimestamp : Nat) (docType : String)
    : String × Option String × Option String × Option String :=
  let string (key : String) := (sourceRef.get key).bind Json.asStr
  let sourceRefField (key : String) := (string key).filter fun value => value ≠ ""
  let docTs := ((string "ts").filter svc.isRfc3339).or ((string "doc_ts").filter svc.isRfc3339)
  (docTs.getD (svc.formatTimestamp fallbackTimestamp),
    if docType = "chat" then sourceRefField "thread_id" else none,
    if docType = "search" then sourceRefField "domain" else none,
    if docType = "dev" then sourceRefField "repo" else none)

/-- The point that is upserted for a chunk. -/
def docChunkPoint (row : DocChunkIndexRow) (embeddingVersion : String) (vec : List F32) : DocPoint :=
  let (docTs, threadId, domain, repo) :=
    projectDocRefFields svc row.sourceRef row.createdAt row.docType
  {
    docId := row.docId
    chunkId := row.chunkId
    chunkIndex := row.chunkIndex
    startOffset := row.startOffset
    endOffset := row.endOffset
    tenantId := row.tenantId
    projectId := row.projectId
    agentId := row.agentId
    scope := row.scope
    docType := row.docType
    status := row.status
    updatedAt := svc.formatTimestamp row.updatedAt
    docTs
    threadId
    domain
    repo
    embeddingVersion
    contentHash := row.contentHash
    chunkHash := row.chunkHash
    dense := vec
    bm25 := row.chunkText }

/-! ## Handlers -/

/-- How far a worker is with its job. -/
inductive DocPhase where
  | claimed
  | fetched (row : DocChunkIndexRow)
  | embedded (row : DocChunkIndexRow) (vector : List F32)
  | handled (result : Except WorkerError Unit)

structure DocAttempt where
  job : DocIndexingOutboxEntry
  phase : DocPhase

def DocAttempt.outboxId (attempt : DocAttempt) : Uuid := attempt.job.outboxId

def DocAttempt.failed (attempt : DocAttempt) (err : WorkerError) : DocAttempt :=
  { attempt with phase := .handled (.error err) }

/-- The first part of an upsert: the row of the chunk. -/
def DocAttempt.fetch (attempt : DocAttempt) (db : DocStore) : DocAttempt :=
  match fetchDocChunkIndexRow db attempt.job.chunkId with
  | none => { attempt with phase := .handled (.ok ()) }
  | some row =>
    if row.status.toLower ≠ "active" then
      { attempt with phase := .handled (.ok ()) }
    else
      { attempt with phase := .fetched row }

/-- The vector of the chunk, from what the embedding provider returned. -/
def docVector (vectorDim : Nat) (vectors : Except String (List (List F32)))
    : Except WorkerError (List F32) := do
  let vectors ← vectors.mapError WorkerError.message
  let vector ← Except.ofOption (.validation "Embedding provider returned no vectors.") vectors.head?
  validateVectorDim vector vectorDim
  return vector

def insertDocChunkEmbedding (db : DocStore) (chunkId : Uuid) (embeddingVersion : String)
    (vec : List F32) : DocStore :=
  let embeddings := db.embeddings.replace ⟨chunkId, embeddingVersion, vec.length, vec⟩
  { db with embeddings }

/-! ## Steps -/

/-- The tables, the points of the collection, and what the workers are doing. -/
structure DocIndex where
  store : DocStore
  points : Table DocPoint DocPoint.chunkId
  attempts : Attempts DocAttempt

def DocIndex.empty : DocIndex := ⟨.empty, .empty, fun _ => none⟩

inductive DocIndexAction where
  | request (draw : DocsDraw) (op : DocOp)
  | claim (worker now : Nat) (locked : List Uuid)
  | fetch (worker : Nat)
  | embed (worker : Nat) (vectors : Except String (List (List F32)))
  | write (worker : Nat)
  /-- A call of the handler fails, or its answer is lost after it had its effect. -/
  | fail (worker : Nat) (err : WorkerError)
  | settle (worker now : Nat)
  /-- The worker stops, and its lease expires. -/
  | crash (worker : Nat)

namespace DocIndex

variable (vectorDim : Nat) (s : DocIndex)

def claim (worker now : Nat) (locked : List Uuid) : Option DocIndex := do
  guard (s.attempts worker).isNone
  let (job, outbox) ← claimNextDocIndexingOutboxJob s.store.outbox now claimLeaseSeconds locked
  let store := { s.store with outbox }
  return { s with store, attempts := s.attempts.set worker (some ⟨job, .claimed⟩) }

def fetch (worker : Nat) : Option DocIndex :=
  match s.attempts worker with
  | some ⟨job, .claimed⟩ =>
    match job.op with
    | .upsert =>
      some { s with attempts := s.attempts.set worker (some (DocAttempt.fetch ⟨job, .claimed⟩ s.store)) }
    | .delete => none
  | _ => none

def embed (worker : Nat) (vectors : Except String (List (List F32))) : Option DocIndex :=
  match s.attempts worker with
  | some ⟨job, .fetched row⟩ =>
    match docVector vectorDim vectors with
    | .ok vector =>
      let store := insertDocChunkEmbedding s.store row.chunkId job.embeddingVersion vector
      some { s with store, attempts := s.attempts.set worker (some ⟨job, .embedded row vector⟩) }
    | .error err =>
      some { s with attempts := s.attempts.set worker (some ⟨job, .handled (.error err)⟩) }
  | _ => none

/-- The write of a handler to the collection. -/
def write (worker : Nat) : Option DocIndex :=
  match s.attempts worker with
  | some ⟨job, .claimed⟩ =>
    match job.op with
    | .upsert => none
    | .delete =>
      let points := s.points.deleteWhere fun point => point.chunkId = job.chunkId
      some { s with points, attempts := s.attempts.set worker (some ⟨job, .handled (.ok ())⟩) }
  | some ⟨job, .embedded row vector⟩ =>
    let points := s.points.replace (docChunkPoint svc row job.embeddingVersion vector)
    some { s with points, attempts := s.attempts.set worker (some ⟨job, .handled (.ok ())⟩) }
  | _ => none

def fail (worker : Nat) (err : WorkerError) : Option DocIndex := do
  let attempt ← s.attempts worker
  return { s with attempts := s.attempts.set worker (some (attempt.failed err)) }

def settle (worker now : Nat) : Option DocIndex :=
  match s.attempts worker with
  | some ⟨job, .handled result⟩ =>
    let outbox := match result with
      | .ok () => markDocIndexingOutboxDone s.store.outbox job.outboxId now
      | .error _ => markDocFailed s.store.outbox job now
    let store := { s.store with outbox }
    some { s with store, attempts := s.attempts.set worker none }
  | _ => none

def step : DocIndexAction → Option DocIndex
  | .request draw op => some { s with store := op.exec svc draw s.store }
  | .claim worker now locked => s.claim worker now locked
  | .fetch worker => s.fetch worker
  | .embed worker vectors => s.embed vectorDim worker vectors
  | .write worker => s.write svc worker
  | .fail worker err => s.fail worker err
  | .settle worker now => s.settle worker now
  | .crash worker => some { s with attempts := s.attempts.set worker none }

end DocIndex

def DocIndexSteps (vectorDim : Nat) (s : DocIndex) (a : DocIndexAction) (s' : DocIndex) : Prop :=
  s.step svc vectorDim a = some s'

end Elf
