import Elf.Docs.Validation
import Elf.Lib.JsonText
import Elf.Service.History

/-!
This module contains the identifiers that are derived from a document, the rows of its chunks and the
source reference that it is stored with.
-/

namespace Elf

open Text

variable (svc : DocsService)

/-! ## Identity -/

def sourceRefString (sourceRef : Json) (key : String) : Option String :=
  ((sourceRef.get key).bind Json.asStr).filter fun value => trim value ≠ ""

def sourceRefI64 (sourceRef : Json) (key : String) : Option ℤ :=
  (sourceRef.get key).bind Json.asI64

def intJson (n : ℤ) : Json := .num n

def sourceIdentityValue (sourceRef : Json) (docType : DocType) : Json :=
  let string (key : String) : Json := .ofOption .str (sourceRefString sourceRef key)
  let number (key : String) : Json := .ofOption intJson (sourceRefI64 sourceRef key)
  match sourceRefString sourceRef "canonical_uri" with
  | some canonicalUri => .arr [.str "canonical_uri", .str canonicalUri]
  | none =>
    match docType with
    | .chat => .arr [.str "chat", string "thread_id", string "message_id", string "role", string "ts"]
    | .search => .arr [.str "search", string "url", string "domain", string "query", string "ts"]
    | .dev => .arr [.str "dev", string "repo", string "path", string "commit_sha",
        number "pr_number", number "issue_number"]
    | .knowledge => .arr [.str "knowledge", string "uri", string "ts"]

/-- The name that the identifier of a document is derived from. -/
def sourceRecordName (tenantId projectId agentId scope : String) (docType : DocType)
    (sourceRef : Json) (contentHash : String) : Json :=
  .arr [.str "elf-doc-source-record/v1", .str tenantId, .str projectId, .str agentId, .str scope,
    .str docType.asStr, sourceIdentityValue sourceRef docType, .str contentHash]

def sourceRecordIdFor (tenantId projectId agentId scope : String) (docType : DocType)
    (sourceRef : Json) (contentHash : String) : Uuid :=
  svc.uuidV5 .url (String.ofList
    (sourceRecordName tenantId projectId agentId scope docType sourceRef contentHash).compact)

def docChunkIdFor (docId : Uuid) (chunkIndex : Nat) : Uuid :=
  svc.uuidV5 .oid ("elf-doc-chunk/v1:" ++ docId.toString ++ ":" ++ toString chunkIndex)

def sourceSpanId (contentHash : String) (start stop : Nat) (spanKind : String) : Uuid :=
  svc.uuidV5 .oid (String.ofList (Json.arr [.str "elf-doc-source-span/v1", .str contentHash,
    .num start, .num stop, .str spanKind]).compact)

/-! ## Origin -/

def sourceType (sourceRef : Json) (docType : DocType) : String :=
  (sourceRefString sourceRef "source_kind").getD docType.asStr

def devOrigin (sourceRef : Json) : String :=
  let repo := (sourceRefString sourceRef "repo").getD "unknown"
  let path := (sourceRefString sourceRef "path").getD ""
  let revision :=
    (((sourceRefString sourceRef "commit_sha").map fun commit => "@" ++ commit).or
      (((sourceRefI64 sourceRef "pr_number").map fun pr => "#pr-" ++ toString pr).or
        ((sourceRefI64 sourceRef "issue_number").map fun issue => "#issue-" ++ toString issue))).getD
      ""
  if path = "" then "repo:" ++ repo ++ revision else "repo:" ++ repo ++ "/" ++ path ++ revision

def sourceOrigin (sourceRef : Json) (docType : DocType) : String :=
  match (sourceRefString sourceRef "canonical_uri").or ((sourceRefString sourceRef "url").or
      (sourceRefString sourceRef "uri")) with
  | some origin => origin
  | none =>
    match docType with
    | .chat =>
      let thread := "thread:" ++ (sourceRefString sourceRef "thread_id").getD "unknown"
      match sourceRefString sourceRef "message_id" with
      | some messageId => thread ++ "#" ++ messageId
      | none => thread
    | .search => "search:" ++ (sourceRefString sourceRef "domain").getD "unknown"
    | .dev => devOrigin sourceRef
    | .knowledge => "knowledge:" ++ (sourceRefString sourceRef "ts").getD "unknown"

/-! ## Chunks -/

structure ByteChunk where
  startOffset : Nat
  endOffset : Nat
  text : String
deriving DecidableEq

def buildDocChunkRowsFrom (docId : Uuid) (now : Nat) (idx : Nat) : List ByteChunk → List DocChunk
  | [] => []
  | chunk :: chunks => {
      chunkId := docChunkIdFor svc docId idx
      docId
      chunkIndex := idx
      startOffset := chunk.startOffset
      endOffset := chunk.endOffset
      chunkText := chunk.text
      chunkHash := svc.blake3 chunk.text
      createdAt := now } :: buildDocChunkRowsFrom docId now (idx + 1) chunks

def buildDocChunkRows (docId : Uuid) (chunks : List ByteChunk) (now : Nat) : List DocChunk :=
  buildDocChunkRowsFrom svc docId now 0 chunks

/-! ## Capture -/

structure DocsSourceLifecycle where
  schema : String
  status : String
  freshness : String
  actorAgentId : String
  ts : String
  reasonCode : String
  deletedAt : Option String
  tombstoneRef : Option Json

/-- The entries of an object but for those that are left out. -/
def entriesJson (entries : List (String × Option Json)) : Json :=
  .obj (entries.filterMap fun (key, value) => value.map fun value => (key, value))

def DocsSourceLifecycle.toJson (lifecycle : DocsSourceLifecycle) : Json :=
  entriesJson [
    ("actor_agent_id", some (.str lifecycle.actorAgentId)),
    ("deleted_at", lifecycle.deletedAt.map .str),
    ("freshness", some (.str lifecycle.freshness)),
    ("reason_code", some (.str lifecycle.reasonCode)),
    ("schema", some (.str lifecycle.schema)),
    ("status", some (.str lifecycle.status)),
    ("tombstone_ref", lifecycle.tombstoneRef),
    ("ts", some (.str lifecycle.ts))]

def docSourceSpanSchemaV1 : String := "doc_source_span/v1"

structure DocsSourceSpanRef where
  spanId : Uuid
  chunkId : Option Uuid
  status : String
  reasonCode : Option String
  startOffset : Nat
  endOffset : Nat
  contentHash : String
  chunkHash : Option String

def DocsSourceSpanRef.toJson (span : DocsSourceSpanRef) : Json :=
  entriesJson [
    ("chunk_hash", span.chunkHash.map .str),
    ("chunk_id", span.chunkId.map uuidJson),
    ("content_hash", some (.str span.contentHash)),
    ("end_offset", some (.num span.endOffset)),
    ("reason_code", span.reasonCode.map .str),
    ("schema", some (.str docSourceSpanSchemaV1)),
    ("span_id", some (uuidJson span.spanId)),
    ("start_offset", some (.num span.startOffset)),
    ("status", some (.str span.status))]

def policySpanRef (contentHash : String) (span : WriteSpan) (status reasonCode : String)
    : DocsSourceSpanRef := {
  spanId := sourceSpanId svc contentHash span.start span.stop reasonCode
  chunkId := none
  status
  reasonCode := some reasonCode
  startOffset := span.start
  endOffset := span.stop
  contentHash
  chunkHash := none }

def sourcePolicySpans (rawContentHash : String) : Option WritePolicyAudit → List DocsSourceSpanRef
  | none => []
  | some audit =>
    (audit.exclusions.map fun span =>
      policySpanRef svc rawContentHash span "excluded" "WRITE_POLICY_EXCLUSION")
    ++ audit.redactions.map fun redaction =>
      policySpanRef svc rawContentHash redaction.1 "redacted" "WRITE_POLICY_REDACTION"

structure DocsSourceCaptureSummary where
  schema : String
  sourceRecordId : Uuid
  lifecycle : DocsSourceLifecycle
  origin : String
  capturedAt : String
  contentHash : String
  visibilityScope : String
  title : Option String
  sourceType : String
  sourceSpans : List DocsSourceSpanRef
  policySpans : List DocsSourceSpanRef

structure SourceCaptureSummaryInput where
  docId : Uuid
  sourceRef : Json
  docType : DocType
  scope : String
  actorAgentId : String
  title : Option String
  contentHash : String
  rawContentHash : String
  now : Nat
  chunks : List DocChunk
  writePolicyAudit : Option WritePolicyAudit

def buildSourceCaptureSummary (input : SourceCaptureSummaryInput) : DocsSourceCaptureSummary :=
  let capturedAt := ((input.sourceRef.get "captured_at").bind Json.asStr).getD
    (svc.formatTimestamp input.now)
  {
    schema := "doc_source_capture/v1"
    sourceRecordId := input.docId
    lifecycle := {
      schema := "elf.source_lifecycle/v1"
      status := "active"
      freshness := "current"
      actorAgentId := input.actorAgentId
      ts := capturedAt
      reasonCode := "SOURCE_CAPTURED"
      deletedAt := none
      tombstoneRef := none }
    origin := sourceOrigin input.sourceRef input.docType
    capturedAt
    contentHash := input.contentHash
    visibilityScope := input.scope
    title := input.title
    sourceType := sourceType input.sourceRef input.docType
    sourceSpans := input.chunks.map fun chunk => {
      spanId := sourceSpanId svc input.contentHash chunk.startOffset chunk.endOffset "captured"
      chunkId := some chunk.chunkId
      status := "captured"
      reasonCode := none
      startOffset := chunk.startOffset
      endOffset := chunk.endOffset
      contentHash := input.contentHash
      chunkHash := some chunk.chunkHash }
    policySpans := sourcePolicySpans svc input.rawContentHash input.writePolicyAudit }

def spansJson (spans : List DocsSourceSpanRef) : Json := .arr (spans.map DocsSourceSpanRef.toJson)

/-- Set a field unless it has a value. -/
def setIfAbsent (sourceRef : Json) (key : String) (value : Option Json) : Json :=
  match value with
  | some value => if (sourceRef.get key).isSome then sourceRef else sourceRef.set key value
  | none => sourceRef

def normalizeSourceRefForCapture (sourceRef : Json) (sourceCapture : DocsSourceCaptureSummary)
    : Json :=
  let sourceRef := sourceRef.set "source_record_id" (uuidJson sourceCapture.sourceRecordId)
  let sourceRef := sourceRef.set "lifecycle" sourceCapture.lifecycle.toJson
  let sourceRef := sourceRef.set "origin" (.str sourceCapture.origin)
  let sourceRef := sourceRef.set "captured_at" (.str sourceCapture.capturedAt)
  let sourceRef := sourceRef.set "content_hash" (.str sourceCapture.contentHash)
  let sourceRef := sourceRef.set "visibility_scope" (.str sourceCapture.visibilityScope)
  let sourceRef := setIfAbsent sourceRef "title" (sourceCapture.title.map .str)
  let sourceRef := sourceRef.set "source_type" (.str sourceCapture.sourceType)
  let sourceRef := sourceRef.set "source_spans" (spansJson sourceCapture.sourceSpans)
  if sourceCapture.policySpans.isEmpty then
    sourceRef
  else
    sourceRef.set "policy_spans" (spansJson sourceCapture.policySpans)

def sourceRefWithDeletedLifecycle (sourceRef : Json) (actorAgentId : String) (now : Nat)
    : Except Error Json := do
  let ts := svc.formatTimestamp now
  let tombstoneRef : Json := .obj [
    ("actor_agent_id", .str actorAgentId),
    ("reason_code", .str "SOURCE_LIBRARY_DELETE"),
    ("schema", .str "elf.source_tombstone/v1"),
    ("ts", .str ts)]
  let lifecycle : DocsSourceLifecycle := {
    schema := "elf.source_lifecycle/v1"
    status := "deleted"
    freshness := "tombstoned"
    actorAgentId
    ts
    reasonCode := "SOURCE_LIBRARY_DELETE"
    deletedAt := some ts
    tombstoneRef := some tombstoneRef }
  Except.rejectIf (!sourceRef.isObject) (.invalidRequest "source_ref must be a JSON object.")
  return sourceRef.set "lifecycle" lifecycle.toJson

end Elf
