import Elf.Docs.SourceCapture
import Elf.Lib.Run

/-!
This module contains how a document is stored and deleted: its content is split into chunks, and the
document, its chunks and a job for each of them are written in one transaction.
-/

namespace Elf

open Text

variable (svc : DocsService)

/-! ## Chunks -/

structure DocChunkingProfile where
  maxTokens : Nat
  overlapTokens : Nat
  maxChunks : Nat

def resolveDocChunkingProfile : DocType → DocChunkingProfile
  | .chat | .search => ⟨1024, 128, defaultMaxChunksPerDoc⟩
  | .knowledge | .dev => ⟨2048, 256, defaultMaxChunksPerDoc⟩

def loadDocTokenizer : Except Error Tokenizer := do
  let tokenizerRepo := trim svc.tokenizerRepo
  Except.rejectIf (tokenizerRepo == "")
    (.invalidRequest "chunking.tokenizer_repo must be set.")
  (svc.loadTokenizer tokenizerRepo).mapError fun err =>
    .invalidRequest ("failed to load tokenizer: " ++ err)

/-- `text.get(start..stop)` -/
def sliceBytes (text : String) (start stop : Nat) : Option String :=
  if stop < start then
    none
  else
    match splitAtByte text.toList start with
    | some (_, rest) => (splitAtByte rest (stop - start)).map fun (slice, _) => String.ofList slice
    | none => none

def invalidBoundary : Error :=
  .invalidRequest "computed chunk offset is invalid UTF-8 boundary."

/-- The chunk of the tokens from `startToken` up to `endToken`. -/
def tokenChunk (text : String) (offsets : List (Nat × Nat)) (startToken endToken : Nat)
    : Except Error ByteChunk := do
  let startOffset := (offsets.getD startToken (0, 0)).1
  let endOffset := (offsets.getD (endToken - 1) (0, 0)).2
  let text ← Except.ofOption invalidBoundary (sliceBytes text startOffset endOffset)
  return ⟨startOffset, endOffset, text⟩

-- Each pass starts at a later token than the one before, so that there are no more passes than tokens.
def splitTokensFrom (text : String) (profile : DocChunkingProfile) (offsets : List (Nat × Nat))
    (passes startToken chunkCount : Nat) : Except Error (List ByteChunk) :=
  match passes with
  | 0 => .ok []
  | passes + 1 => do
    let endToken := min (startToken + profile.maxTokens) offsets.length
    let chunk ← tokenChunk text offsets startToken endToken
    if offsets.length ≤ endToken then
      return [chunk]
    else
      Except.rejectIf (profile.maxChunks ≤ chunkCount + 1)
        (.invalidRequest "doc exceeds max_chunks_per_doc.")
      let chunks ← splitTokensFrom text profile offsets passes (endToken - profile.overlapTokens)
        (chunkCount + 1)
      return chunk :: chunks

def splitTokensByOffsets (text : String) (profile : DocChunkingProfile) (tokenizer : Tokenizer)
    : Except Error (List ByteChunk) := do
  Except.rejectIf (profile.maxTokens == 0)
    (.invalidRequest "max_tokens must be greater than zero.")
  Except.rejectIf (profile.maxTokens ≤ profile.overlapTokens)
    (.invalidRequest "overlap_tokens must be less than max_tokens.")
  let offsets ← (tokenizer text).mapError fun err =>
    Error.invalidRequest ("failed to tokenize content: " ++ err)
  splitTokensFrom text profile offsets offsets.length 0 0

/-! ## Put -/

structure DocsPutResponse where
  docId : Uuid
  sourceCapture : DocsSourceCaptureSummary
  chunkCount : Nat
  contentBytes : Nat
  contentHash : String
  writePolicyAudit : Option WritePolicyAudit

def DocsPutRequest.effectiveProjectId (req : DocsPutRequest) : String :=
  if trim req.scope = "org_shared" then orgProjectId else req.projectId

def DocsPutRequest.docIdFor (req : DocsPutRequest) (docType : DocType) (content : String) : Uuid :=
  sourceRecordIdFor svc req.tenantId req.effectiveProjectId req.agentId req.scope docType
    req.sourceRef (svc.blake3 content)

/-- What a request is stored as. -/
structure DocsPutRows where
  document : DocDocument
  chunks : List DocChunk
  sourceCapture : DocsSourceCaptureSummary
  writePolicyAudit : Option WritePolicyAudit

/-- What comes before the transaction of a request. -/
def prepareDocsPut (req : DocsPutRequest) (now : Nat) : Except Error DocsPutRows := do
  let ⟨docType, content, writePolicyAudit⟩ ← validateDocsPut svc req
  let tokenizer ← loadDocTokenizer svc
  let contentHash := svc.blake3 content
  let docId := req.docIdFor svc docType content
  let chunks ← splitTokensByOffsets content (resolveDocChunkingProfile docType) tokenizer
  let chunkRows := buildDocChunkRows svc docId chunks now
  let sourceCapture := buildSourceCaptureSummary svc {
    docId
    sourceRef := req.sourceRef
    docType
    scope := req.scope
    actorAgentId := req.agentId
    title := req.title
    contentHash
    rawContentHash := svc.blake3 req.content
    now
    chunks := chunkRows
    writePolicyAudit }
  let document : DocDocument := {
    docId
    tenantId := req.tenantId
    projectId := req.effectiveProjectId
    agentId := req.agentId
    scope := req.scope
    docType := docType.asStr
    status := "active"
    title := req.title
    sourceRef := normalizeSourceRefForCapture req.sourceRef sourceCapture
    content
    contentBytes := content.utf8ByteSize
    contentHash
    createdAt := now
    updatedAt := now }
  return ⟨document, chunkRows, sourceCapture, writePolicyAudit⟩

/-- The chunks of a document, each with a job to index it. -/
def insertDocChunks (db : DocStore) (draw : DocsDraw) (idx : Nat)
    : List DocChunk → Except Error DocStore
  | [] => .ok db
  | chunk :: chunks => do
    let db ← insertDocChunk db chunk
    let db ← enqueueDocOutbox db draw idx chunk.docId chunk.chunkId .upsert svc.cfg.embeddingVersion
    insertDocChunks db draw (idx + 1) chunks

def grantDocScope (db : DocStore) (draw : DocsDraw) (doc : DocDocument) : Except Error DocStore :=
  if trim doc.scope ≠ "agent_private" then do
    let memory ← ensureActiveProjectScopeGrant db.memory draw.grantId doc.tenantId doc.projectId
      doc.scope doc.agentId draw.now
    return { db with memory }
  else
    .ok db

def docsPut (draw : DocsDraw) (req : DocsPutRequest) : Transaction Error DocStore DocsPutResponse :=
  fun db => do
    let rows ← prepareDocsPut svc req draw.now
    let db ← insertDocDocument db rows.document
    let db ← insertDocChunks svc db draw 0 rows.chunks
    let db ← grantDocScope db draw rows.document
    return ({
      docId := rows.document.docId
      sourceCapture := rows.sourceCapture
      chunkCount := rows.chunks.length
      contentBytes := rows.document.contentBytes
      contentHash := rows.document.contentHash
      writePolicyAudit := rows.writePolicyAudit }, db)

/-! ## Delete -/

structure DocsDeleteRequest where
  tenantId : String
  projectId : String
  agentId : String
  docId : Uuid

structure DocsDeleteResponse where
  docId : Uuid
  op : NoteOp
  chunkDeleteCount : Nat

def docNotFound : Error := .notFound "Doc not found."

/-- The row that a request may delete. -/
def loadDocForDelete (db : DocStore) (tenantId projectId agentId : String) (docId : Uuid)
    : Except Error DocDocument := do
  let row ← Except.ofOption docNotFound ((db.documents.find? docId).filter fun row =>
    row.tenantId = tenantId
      && (row.projectId = projectId || (row.projectId = orgProjectId && row.scope = "org_shared")))
  Except.rejectIf (row.agentId ≠ agentId) docNotFound
  Except.rejectIf (!svc.cfg.scopes.allowed.contains row.scope
      || !svc.cfg.scopes.writeAllowed.allows row.scope)
    (.scopeDenied "Scope is not allowed.")
  return row

def enqueueDocDeletes (db : DocStore) (draw : DocsDraw) (idx : Nat)
    : List DocChunk → Except Error DocStore
  | [] => .ok db
  | chunk :: chunks => do
    let db ← enqueueDocOutbox db draw idx chunk.docId chunk.chunkId .delete svc.cfg.embeddingVersion
    enqueueDocDeletes db draw (idx + 1) chunks

def docsDelete (draw : DocsDraw) (req : DocsDeleteRequest)
    : Transaction Error DocStore DocsDeleteResponse := fun db => do
  let tenantId := trim req.tenantId
  let projectId := trim req.projectId
  let agentId := trim req.agentId
  Except.rejectIf (tenantId == "" || projectId == "" || agentId == "")
    (.invalidRequest "tenant_id, project_id, and agent_id are required.")
  let row ← loadDocForDelete svc db tenantId projectId agentId req.docId
  if row.status = "deleted" then
    return (⟨row.docId, .none, 0⟩, db)
  else
    let chunks := listDocChunks db row.docId
    let sourceRef ← sourceRefWithDeletedLifecycle svc row.sourceRef agentId draw.now
    let db ← enqueueDocDeletes svc (markDocDeleted db tenantId row.docId sourceRef draw.now) draw 0
      chunks
    return (⟨row.docId, .delete, chunks.length⟩, db)

/-! ## Runs -/

inductive DocOp where
  | put (req : DocsPutRequest)
  | delete (req : DocsDeleteRequest)

/-- The store after a request. One that fails leaves it as it was. -/
def DocOp.exec (draw : DocsDraw) (db : DocStore) : DocOp → DocStore
  | .put req => (docsPut svc draw req).next db
  | .delete req => (docsDelete svc draw req).next db

/-- The step relation of the requests, each with what it draws. -/
def DocSteps (db : DocStore) (a : DocsDraw × DocOp) (db' : DocStore) : Prop :=
  a.2.exec svc a.1 db = db'

/-! ## Runs on given inputs -/

/-- A service whose tokenizer makes one token of every text. -/
def sampleDocsService : DocsService := {
  cfg := {
    scopes := {
      allowed := ["agent_private", "project_shared", "org_shared"]
      writeAllowed := ⟨true, true, true⟩ }
    ttlDays := ⟨0, 0, 0, 0, 0, 0⟩
    policyRules := []
    ingestMaxBytes := 65536
    embeddingVersion := "embed/v1" }
  tokenizerRepo := "r"
  loadTokenizer := fun _ => .ok fun text => .ok [(0, text.utf8ByteSize)]
  containsSecrets := fun _ => false
  isRfc3339 := fun _ => true
  formatTimestamp := fun _ => "2026-01-01T00:00:00Z"
  blake3 := fun text => text
  uuidV5 := fun _ name => Text.codeNumber name.toList }

theorem sampleDocsService_uuidV5_injective (ns : UuidNamespace)
    : Function.Injective (sampleDocsService.uuidV5 ns) := by
  intro a b h
  exact String.toList_injective (Text.codeNumber_inj h)

/-- What the `n`th request draws. -/
def sampleDocsDraw (n : Nat) : DocsDraw :=
  ⟨1000000000 * n, 1000000000 * n, fun idx => 1000 * n + idx, n⟩

/-- A put of the discussion of a change to a repository. -/
def sampleDocsPut (prNumber : ℤ) : DocsPutRequest := {
  tenantId := "t"
  projectId := "p"
  agentId := "a"
  scope := "agent_private"
  docType := none
  title := none
  writePolicy := none
  sourceRef := .obj [("doc_type", .str "dev"), ("pr_number", intJson prNumber), ("repo", .str "elf"),
    ("schema", .str "doc_source_ref/v1"), ("ts", .str "2026-01-01T00:00:00Z")]
  content := "All ports are open." }

def sampleDocsPutStep (n : Nat) (prNumber : ℤ) : DocsDraw × DocOp :=
  (sampleDocsDraw n, .put (sampleDocsPut prNumber))

end Elf
