import Elf.Service.Op
import Elf.Worker.Chunking

/-!
This module contains the index of the notes: the jobs of the outbox, the chunks and the points that the
workers write, and the steps that requests and workers take in any order. It also contains the rebuild
of the index: the rows that it selects, the points that it makes of them, and its steps among those of
requests and workers.
-/

namespace Elf

/-! ## Outbox -/

abbrev NoteOutbox := Table IndexingOutboxEntry IndexingOutboxEntry.outboxId

def IndexingOutboxEntry.due (job : IndexingOutboxEntry) (now : Nat) : Bool :=
  [OutboxStatus.pending, .failed].contains job.status && job.availableAt ≤ timestamptz now

/-- The claim of a job, where `SKIP LOCKED` leaves out the ones that are `locked`. -/
def claimNextIndexingOutboxJob (outbox : NoteOutbox) (now leaseSeconds : Nat) (locked : List Uuid)
    : Option (IndexingOutboxEntry × NoteOutbox) := do
  let job ← outbox.earliest (fun job => job.due now && !locked.contains job.outboxId)
    IndexingOutboxEntry.availableAt
  let leaseUntil := now + seconds leaseSeconds
  -- A claim leaves the status alone: only the lease keeps others from the job.
  let outbox := outbox.modify job.outboxId fun job => { job with
    availableAt := timestamptz leaseUntil
    updatedAt := timestamptz now }
  return ({ job with availableAt := leaseUntil, updatedAt := now }, outbox)

def markIndexingOutboxDone (outbox : NoteOutbox) (outboxId : Uuid) (now : Nat) : NoteOutbox :=
  outbox.modify outboxId fun job => { job with status := .done, updatedAt := timestamptz now }

def markIndexingOutboxFailed (outbox : NoteOutbox) (outboxId : Uuid) (attempts availableAt now : Nat)
    : NoteOutbox :=
  outbox.modify outboxId fun job => { job with
    status := .failed
    attempts
    availableAt := timestamptz availableAt
    updatedAt := timestamptz now }

def markFailed (outbox : NoteOutbox) (job : IndexingOutboxEntry) (now : Nat) : NoteOutbox :=
  let attempts := nextAttempts job.attempts
  markIndexingOutboxFailed outbox job.outboxId attempts (now + backoffForAttempt attempts) now

/-! ## Chunks and points -/

/-- A row of `memory_note_chunks`. -/
structure NoteChunk where
  chunkId : Uuid
  noteId : Uuid
  chunkIndex : Int
  startOffset : Int
  endOffset : Int
  text : String
  embeddingVersion : String
deriving DecidableEq

/-- A row of `note_chunk_embeddings`. -/
structure NoteChunkEmbedding where
  chunkId : Uuid
  embeddingVersion : String
  embeddingDim : Nat
  vec : List F32
deriving DecidableEq

def NoteChunkEmbedding.ref (row : NoteChunkEmbedding) : Uuid × String :=
  (row.chunkId, row.embeddingVersion)

abbrev NoteChunks := Table NoteChunk NoteChunk.chunkId
abbrev NoteChunkEmbeddings := Table NoteChunkEmbedding NoteChunkEmbedding.ref
abbrev NotePoints := Table ChunkPoint ChunkPoint.id

def ChunkRecord.row (record : ChunkRecord) (noteId : Uuid) (embeddingVersion : String) : NoteChunk :=
  ⟨record.chunkId, noteId, record.chunkIndex, record.startOffset, record.endOffset, record.text,
    embeddingVersion⟩

def deleteNoteChunks (chunks : NoteChunks) (noteId : Uuid) : NoteChunks :=
  chunks.deleteWhere fun row => row.noteId = noteId

/-- `ON CONFLICT (chunk_id) DO UPDATE` -/
def insertNoteChunk (chunks : NoteChunks) (row : NoteChunk) : NoteChunks :=
  chunks.upsert row fun existing => { existing with
    text := row.text
    startOffset := row.startOffset
    endOffset := row.endOffset }

def insertNoteChunks (chunks : NoteChunks) : List NoteChunk → NoteChunks
  | [] => chunks
  | row :: rows => insertNoteChunks (insertNoteChunk chunks row) rows

def insertNoteChunkEmbeddings (embeddings : NoteChunkEmbeddings) (embeddingVersion : String)
    (vectors : List (ChunkRecord × List F32)) : NoteChunkEmbeddings :=
  embeddings.replaceAll (vectors.map fun (record, vec) =>
    ⟨record.chunkId, embeddingVersion, vec.length, vec⟩)

/-- The embeddings once the chunks of a note are deleted: `ON DELETE CASCADE`. -/
def cascadeNoteChunks (embeddings : NoteChunkEmbeddings) (chunks : NoteChunks) (noteId : Uuid)
    : NoteChunkEmbeddings :=
  embeddings.deleteWhere fun row =>
    (chunks.find? row.chunkId).any fun chunk => chunk.noteId = noteId

/-- Whether a point is one of a note. -/
def ChunkPoint.matches (point : ChunkPoint) (noteId : Uuid) : Bool :=
  point.payload.get "note_id" = some (uuidJson noteId)

def deleteNotePoints (points : NotePoints) (noteId : Uuid) : NotePoints :=
  points.deleteWhere fun point => point.matches noteId

def chunkPoints (note : MemoryNote) (embeddingVersion : String)
    (vectors : List (ChunkRecord × List F32)) : List ChunkPoint :=
  vectors.map fun (record, vec) => buildChunkPoint note embeddingVersion record vec

/-! ## Handlers -/

def noteIsActive (note : MemoryNote) (now : Nat) : Bool :=
  note.status.toLower = "active" && !note.expired now

/-- How far a worker is with its job. -/
inductive NotePhase where
  | claimed
  | fetched (note : MemoryNote)
  | embedded (note : MemoryNote) (vectors : List (ChunkRecord × List F32))
  | stored (note : MemoryNote) (vectors : List (ChunkRecord × List F32))
  | cleared (note : MemoryNote) (vectors : List (ChunkRecord × List F32))
  | handled (result : Except WorkerError Unit)

structure NoteAttempt where
  job : IndexingOutboxEntry
  phase : NotePhase

def NoteAttempt.outboxId (attempt : NoteAttempt) : Uuid := attempt.job.outboxId

/-- What an upsert goes on with once it read the note. -/
def fetchedPhase (store : Store) (noteId : Uuid) (now : Nat) : NotePhase :=
  match store.notes.find? noteId with
  | none => .handled (.ok ())
  | some note => if noteIsActive note now then .fetched note else .handled (.ok ())

def validateVectorDims (vectorDim : Nat) : List (List F32) → Except WorkerError Unit
  | [] => .ok ()
  | vector :: vectors => do
    validateVectorDim vector vectorDim
    validateVectorDims vectorDim vectors

variable (ix : NoteIndexer)

/-- The records of a note with their vectors, from what the embedding provider returned. -/
def embedNote (store : Store) (note : MemoryNote) (vectors : Except String (List (List F32)))
    : Except WorkerError (List (ChunkRecord × List F32)) := do
  let fieldCount := store.fields.rows.countP fun field => field.noteId = note.noteId
  let records ← noteRecords ix note.noteId note.text
  let vectors ← vectors.mapError WorkerError.message
  Except.rejectIf (vectors.length ≠ records.length + fieldCount) (.validation
    ("Embedding provider returned " ++ toString vectors.length ++ " vectors for "
      ++ toString (records.length + fieldCount) ++ " items."))
  validateVectorDims ix.vectorDim vectors
  return records.zip vectors

/-! ## Steps -/

/--
The tables, the points of the collection, and what the workers are doing. `latest` is the latest time at
which a worker looked at the expiry of a note.
-/
structure NoteIndex where
  store : Store
  chunks : NoteChunks
  embeddings : NoteChunkEmbeddings
  points : NotePoints
  attempts : Attempts NoteAttempt
  latest : Nat

def NoteIndex.empty : NoteIndex := ⟨.empty, .empty, .empty, .empty, fun _ => none, 0⟩

inductive NoteIndexAction where
  | request (a : Step)
  | claim (worker now : Nat) (locked : List Uuid)
  | fetch (worker now : Nat)
  | embed (worker : Nat) (vectors : Except String (List (List F32)))
  /-- The transaction that replaces the chunks of the note. -/
  | store (worker : Nat)
  /-- The points of the note are deleted. -/
  | clear (worker : Nat)
  | upsert (worker : Nat)
  /-- A call of the handler fails, or its answer is lost after it had its effect. -/
  | fail (worker : Nat) (err : WorkerError)
  | settle (worker now : Nat)
  /-- The worker stops, and its lease expires. -/
  | crash (worker : Nat)

namespace NoteIndex

variable (s : NoteIndex)

/-- A transaction of the service. The identifier that it draws has 128 bits. -/
def request (a : Step) : Option NoteIndex := do
  guard (a.draw.noteId < 2 ^ 128)
  return { s with store := a.exec.next s.store }

def claim (worker now : Nat) (locked : List Uuid) : Option NoteIndex := do
  guard (s.attempts worker).isNone
  let (job, outbox) ← claimNextIndexingOutboxJob s.store.outbox now claimLeaseSeconds locked
  let store := { s.store with outbox }
  return { s with store, attempts := s.attempts.set worker (some ⟨job, .claimed⟩) }

def fetch (worker now : Nat) : Option NoteIndex :=
  match s.attempts worker with
  | some ⟨job, .claimed⟩ =>
    match job.op with
    | .upsert =>
      some { s with
        attempts := s.attempts.set worker (some ⟨job, fetchedPhase s.store job.noteId now⟩)
        latest := max s.latest now }
    | .delete => none
  | _ => none

def embed (worker : Nat) (vectors : Except String (List (List F32))) : Option NoteIndex :=
  match s.attempts worker with
  | some ⟨job, .fetched note⟩ =>
    match embedNote ix s.store note vectors with
    | .ok vectors => some { s with attempts := s.attempts.set worker (some ⟨job, .embedded note vectors⟩) }
    | .error err =>
      some { s with attempts := s.attempts.set worker (some ⟨job, .handled (.error err)⟩) }
  | _ => none

def storeChunks (worker : Nat) : Option NoteIndex :=
  match s.attempts worker with
  | some ⟨job, .embedded note vectors⟩ =>
    let rows := vectors.map fun (record, _) => record.row note.noteId job.embeddingVersion
    some { s with
      chunks := insertNoteChunks (deleteNoteChunks s.chunks note.noteId) rows
      embeddings := insertNoteChunkEmbeddings (cascadeNoteChunks s.embeddings s.chunks note.noteId)
        job.embeddingVersion vectors
      attempts := s.attempts.set worker (some ⟨job, .stored note vectors⟩) }
  | _ => none

def clear (worker : Nat) : Option NoteIndex :=
  match s.attempts worker with
  | some ⟨job, .claimed⟩ =>
    match job.op with
    | .upsert => none
    | .delete =>
      some { s with
        points := deleteNotePoints s.points job.noteId
        attempts := s.attempts.set worker (some ⟨job, .handled (.ok ())⟩) }
  | some ⟨job, .stored note vectors⟩ =>
    some { s with
      points := deleteNotePoints s.points note.noteId
      attempts := s.attempts.set worker (some ⟨job, .cleared note vectors⟩) }
  | _ => none

def upsert (worker : Nat) : Option NoteIndex :=
  match s.attempts worker with
  | some ⟨job, .cleared note vectors⟩ =>
    some { s with
      points := s.points.replaceAll (chunkPoints note job.embeddingVersion vectors)
      attempts := s.attempts.set worker (some ⟨job, .handled (.ok ())⟩) }
  | _ => none

def fail (worker : Nat) (err : WorkerError) : Option NoteIndex := do
  let attempt ← s.attempts worker
  return { s with attempts := s.attempts.set worker (some ⟨attempt.job, .handled (.error err)⟩) }

def settle (worker now : Nat) : Option NoteIndex :=
  match s.attempts worker with
  | some ⟨job, .handled result⟩ =>
    let outbox := match result with
      | .ok () => markIndexingOutboxDone s.store.outbox job.outboxId now
      | .error _ => markFailed s.store.outbox job now
    let store := { s.store with outbox }
    some { s with store, attempts := s.attempts.set worker none }
  | _ => none

def step : NoteIndexAction → Option NoteIndex
  | .request a => s.request a
  | .claim worker now locked => s.claim worker now locked
  | .fetch worker now => s.fetch worker now
  | .embed worker vectors => s.embed ix worker vectors
  | .store worker => s.storeChunks worker
  | .clear worker => s.clear worker
  | .upsert worker => s.upsert worker
  | .fail worker err => s.fail worker err
  | .settle worker now => s.settle worker now
  | .crash worker => some { s with attempts := s.attempts.set worker none }

end NoteIndex

def NoteIndexSteps (s : NoteIndex) (a : NoteIndexAction) (s' : NoteIndex) : Prop :=
  s.step ix a = some s'

end Elf

/-! ## The rebuild -/

namespace Elf

structure RebuildReport where
  rebuiltCount : Nat
  missingVectorCount : Nat
  errorCount : Nat
deriving DecidableEq

structure RebuildRow where
  chunk : NoteChunk
  note : MemoryNote
  vec : Option (List F32)
deriving DecidableEq

/-- The chunks of active notes with their vectors. -/
def rebuildRows (s : NoteIndex) (now : Nat) : List RebuildRow :=
  s.chunks.rows.filterMap fun chunk => do
    let note ← s.store.notes.find? chunk.noteId
    guard (note.status = "active" ∧ note.expired now = false)
    let embedding := s.embeddings.find? (chunk.chunkId, chunk.embeddingVersion)
    return ⟨chunk, note, embedding.map NoteChunkEmbedding.vec⟩

def RebuildRow.record (row : RebuildRow) : ChunkRecord :=
  ⟨row.chunk.chunkId, row.chunk.chunkIndex, row.chunk.startOffset, row.chunk.endOffset, row.chunk.text⟩

def RebuildRow.point (row : RebuildRow) (vec : List F32) : ChunkPoint :=
  ⟨row.chunk.chunkId, chunkPayload row.note row.chunk.embeddingVersion row.record, vec, row.chunk.text⟩

/-- How the call that upserts a point ends. -/
inductive PointAnswer where
  | ok
  /-- The point is written and the call fails nevertheless. -/
  | lost
  | failed
deriving DecidableEq

structure Rebuild where
  rows : List RebuildRow
  report : RebuildReport

/-- The note index beside a rebuild, if there is one. -/
structure RebuiltIndex where
  index : NoteIndex
  rebuild : Option Rebuild

def RebuiltIndex.empty : RebuiltIndex := ⟨.empty, none⟩

inductive RebuildAction where
  | index (a : NoteIndexAction)
  | select (now : Nat)
  /-- The rows come in any order. -/
  | row (idx : Nat) (answer : PointAnswer)
  /-- A time that has no format ends the rebuild. -/
  | abort

/-- Parameters: the vector of its text, and the dimension of the collection. -/
structure Rebuilder where
  ix : NoteIndexer
  parsePgVector : List F32 → Except Error (List F32)

variable (rb : Rebuilder)

/-- The vector that a row is rebuilt with, where there is one. -/
def RebuildRow.usable (row : RebuildRow) : Option (List F32) := do
  let vecText ← row.vec
  let vec ← (rb.parsePgVector vecText).toOption
  guard (vec.length = rb.ix.vectorDim)
  return vec

def RebuildReport.skip (report : RebuildReport) (row : RebuildRow) : RebuildReport :=
  if row.vec.isNone then
    { report with missingVectorCount := report.missingVectorCount + 1 }
  else
    { report with errorCount := report.errorCount + 1 }

def RebuildReport.answered (report : RebuildReport) : PointAnswer → RebuildReport
  | .ok => { report with rebuiltCount := report.rebuiltCount + 1 }
  | .lost | .failed => { report with errorCount := report.errorCount + 1 }

namespace RebuiltIndex

variable (s : RebuiltIndex)

def select (now : Nat) : Option RebuiltIndex := do
  guard (s.rebuild.all fun rebuild => rebuild.rows.isEmpty)
  return { s with rebuild := some ⟨rebuildRows s.index now, ⟨0, 0, 0⟩⟩ }

def row (idx : Nat) (answer : PointAnswer) : Option RebuiltIndex := do
  let rebuild ← s.rebuild
  let row ← rebuild.rows[idx]?
  let rows := rebuild.rows.eraseIdx idx
  match row.usable rb with
  | none => return { s with rebuild := some ⟨rows, rebuild.report.skip row⟩ }
  | some vec =>
    let points := match answer with
      | .ok | .lost => s.index.points.replace (row.point vec)
      | .failed => s.index.points
    return {
      index := { s.index with points }
      rebuild := some ⟨rows, rebuild.report.answered answer⟩ }

def step : RebuildAction → Option RebuiltIndex
  | .index a => (s.index.step rb.ix a).map fun index => { s with index }
  | .select now => s.select now
  | .row idx answer => s.row rb idx answer
  | .abort => some { s with rebuild := none }

end RebuiltIndex

def RebuildSteps (s : RebuiltIndex) (a : RebuildAction) (s' : RebuiltIndex) : Prop :=
  s.step rb a = some s'

end Elf
