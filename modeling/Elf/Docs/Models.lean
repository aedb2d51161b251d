import Elf.Service.Access

/-!
This module contains the tables of the source library: the documents, the chunks that their contents
are split into, the vectors of the chunks and the jobs of the document index.
-/

namespace Elf

inductive DocType where
  | knowledge
  | chat
  | search
  | dev
deriving DecidableEq

namespace DocType

def asStr : DocType → String
  | .knowledge => "knowledge"
  | .chat => "chat"
  | .search => "search"
  | .dev => "dev"

def parse (rawDocType : String) : Except Error DocType :=
  match rawDocType with
  | "knowledge" => .ok .knowledge
  | "chat" => .ok .chat
  | "search" => .ok .search
  | "dev" => .ok .dev
  | _ => .error (.invalidRequest "doc_type must be one of: knowledge, chat, search, dev.")

theorem asStr_inj {a b : DocType} (h : a.asStr = b.asStr) : a = b := by
  revert h
  cases a <;> cases b <;> decide

end DocType

/-- A row of `doc_documents`. -/
structure DocDocument where
  docId : Uuid
  tenantId : String
  projectId : String
  agentId : String
  scope : String
  docType : String
  status : String
  title : Option String
  sourceRef : Json
  content : String
  contentBytes : Nat
  contentHash : String
  createdAt : Nat
  updatedAt : Nat
deriving DecidableEq

/-- A row of `doc_chunks`. -/
structure DocChunk where
  chunkId : Uuid
  docId : Uuid
  chunkIndex : Nat
  startOffset : Nat
  endOffset : Nat
  chunkText : String
  chunkHash : String
  createdAt : Nat
deriving DecidableEq

/-- A row of `doc_chunk_embeddings`. -/
structure DocChunkEmbedding where
  chunkId : Uuid
  embeddingVersion : String
  embeddingDim : Nat
  vec : List F32
deriving DecidableEq

def DocChunkEmbedding.ref (row : DocChunkEmbedding) : Uuid × String :=
  (row.chunkId, row.embeddingVersion)

inductive DocOutboxStatus where
  | pending
  | claimed
  | done
  | failed
deriving DecidableEq

/-- A row of `doc_indexing_outbox`. -/
structure DocIndexingOutboxEntry where
  outboxId : Uuid
  docId : Uuid
  chunkId : Uuid
  op : OutboxOp
  embeddingVersion : String
  status : DocOutboxStatus
  attempts : Nat
  availableAt : Nat
  createdAt : Nat
  updatedAt : Nat
deriving DecidableEq

/-- The tables of the source library, and those of the notes beside them. -/
@[ext]
structure DocStore where
  memory : Store
  documents : Table DocDocument DocDocument.docId
  chunks : Table DocChunk DocChunk.chunkId
  embeddings : Table DocChunkEmbedding DocChunkEmbedding.ref
  outbox : Table DocIndexingOutboxEntry DocIndexingOutboxEntry.outboxId
deriving DecidableEq

def DocStore.empty : DocStore := ⟨.empty, .empty, .empty, .empty, .empty⟩

/-- What a request on documents draws: readings of the clock and the identifiers it generates. -/
structure DocsDraw where
  now : Nat
  /-- The time of the transaction. -/
  dbNow : Nat
  outboxId : Nat → Uuid
  grantId : Uuid

/-- The namespaces of identifiers that are derived from a name. -/
inductive UuidNamespace where
  | oid
  | url

/-- The byte offsets at which the tokens of a text start and end. -/
abbrev Tokenizer := String → Except String (List (Nat × Nat))

/--
The service: its configuration, and what it calls that is not modelled further. The identifiers are
the version 5 ones.
-/
structure DocsService where
  cfg : Config
  tokenizerRepo : String
  loadTokenizer : String → Except String Tokenizer
  containsSecrets : String → Bool
  isRfc3339 : String → Bool
  formatTimestamp : Nat → String
  blake3 : String → String
  uuidV5 : UuidNamespace → String → Uuid

/-! ## Statements -/

def immutableDocument : Error :=
  .conflict "Source document identity cannot overwrite immutable content or ownership."

/-- What the conflict clause of a document compares. -/
def DocDocument.sameSource (doc excluded : DocDocument) : Bool :=
  doc.content = excluded.content && doc.contentHash = excluded.contentHash
    && doc.contentBytes = excluded.contentBytes && doc.tenantId = excluded.tenantId
    && doc.projectId = excluded.projectId && doc.agentId = excluded.agentId
    && doc.scope = excluded.scope && doc.docType = excluded.docType

/-- The row as the columns keep it. -/
def DocDocument.stored (doc : DocDocument) : DocDocument :=
  { doc with createdAt := timestamptz doc.createdAt, updatedAt := timestamptz doc.updatedAt }

/-- The row after `ON CONFLICT (doc_id) DO UPDATE`. -/
def DocDocument.replacedBy (row excluded : DocDocument) : DocDocument :=
  { row with
    status := excluded.status
    title := excluded.title
    sourceRef := excluded.sourceRef
    updatedAt := timestamptz excluded.updatedAt }

def insertDocDocument (db : DocStore) (doc : DocDocument) : Except Error DocStore :=
  match db.documents.find? doc.docId with
  | none => do
    let documents ← db.documents.insert doc.stored duplicateKey
    return { db with documents }
  | some existing =>
    if existing.sameSource doc then
      let documents := db.documents.modify doc.docId fun row => row.replacedBy doc
      .ok { db with documents }
    else
      .error immutableDocument

def immutableChunk : Error :=
  .conflict "Source chunk identity cannot overwrite immutable content or offsets."

/-- What the conflict clause of a chunk compares. -/
def DocChunk.sameSpan (chunk excluded : DocChunk) : Bool :=
  chunk.docId = excluded.docId && chunk.chunkIndex = excluded.chunkIndex
    && chunk.startOffset = excluded.startOffset && chunk.endOffset = excluded.endOffset
    && chunk.chunkText = excluded.chunkText && chunk.chunkHash = excluded.chunkHash

/-- The row as the columns keep it. -/
def DocChunk.stored (chunk : DocChunk) : DocChunk :=
  { chunk with createdAt := timestamptz chunk.createdAt }

def insertDocChunk (db : DocStore) (chunk : DocChunk) : Except Error DocStore :=
  match db.chunks.find? chunk.chunkId with
  | none => do
    let chunks ← db.chunks.insert chunk.stored duplicateKey
    return { db with chunks }
  | some existing =>
    -- ON CONFLICT (chunk_id) DO UPDATE SET chunk_id = EXCLUDED.chunk_id
    if existing.sameSpan chunk then .ok db else .error immutableChunk

def listDocChunks (db : DocStore) (docId : Uuid) : List DocChunk :=
  (db.chunks.rows.filter fun chunk => chunk.docId = docId).insertionSort
    fun a b => a.chunkIndex ≤ b.chunkIndex

def enqueueDocOutbox (db : DocStore) (draw : DocsDraw) (idx : Nat) (docId chunkId : Uuid)
    (op : OutboxOp) (embeddingVersion : String) : Except Error DocStore := do
  let entry : DocIndexingOutboxEntry := {
    outboxId := draw.outboxId idx
    docId
    chunkId
    op
    embeddingVersion
    status := .pending
    attempts := 0
    availableAt := timestamptz draw.dbNow
    createdAt := timestamptz draw.dbNow
    updatedAt := timestamptz draw.dbNow }
  let outbox ← db.outbox.insert entry duplicateKey
  return { db with outbox }

def DocDocument.deleted (row : DocDocument) (sourceRef : Json) (now : Nat) : DocDocument :=
  { row with status := "deleted", sourceRef, updatedAt := timestamptz now }

def markDocDeleted (db : DocStore) (tenantId : String) (docId : Uuid) (sourceRef : Json) (now : Nat)
    : DocStore :=
  let documents := db.documents.updateWhere
    (fun row => row.tenantId = tenantId && row.docId = docId) fun row => row.deleted sourceRef now
  { db with documents }

end Elf
