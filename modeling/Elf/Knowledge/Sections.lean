import Elf.Docs.Service
import Elf.Knowledge.Sources

/-!
This module contains the snapshots of the sources of a page, which are what a page cites of a source
and the line that it shows for it, and the sections of a page: one for each kind of source that the
page cites, with what it cites, and what the sections cover of the sources.
-/

namespace Elf

open Sorting Text

/-- The service as far as it derives pages. -/
structure KnowledgeService where
  docs : DocsService
  /-- The hash of the text of a value. -/
  hashJson : SpelledJson → String
  /-- How a number is spelled once it went through a `jsonb` column. -/
  jsonb : JsonNumber → JsonNumber

variable (svc : KnowledgeService)

/-- The hash of a value that is read from the database. -/
def KnowledgeService.hashStored (value : Json) : String := svc.hashJson (.ofJson value)

/-! ## Texts -/

def normalizeWhitespaceFrom (prevSpace : Bool) : List Char → List Char
  | [] => []
  | ch :: chars =>
    if isWhitespace ch then
      if prevSpace then
        normalizeWhitespaceFrom true chars
      else
        ' ' :: normalizeWhitespaceFrom true chars
    else
      ch :: normalizeWhitespaceFrom false chars

def normalizeWhitespace (raw : String) : String :=
  trim (String.ofList (normalizeWhitespaceFrom false raw.toList))

def truncateChars (raw : String) (maxChars : Nat) : String :=
  let truncationMarker := "..."
  if raw.length ≤ maxChars then
    raw
  else if maxChars ≤ truncationMarker.length then
    String.ofList (truncationMarker.toList.take maxChars)
  else
    String.ofList (raw.toList.take (maxChars - truncationMarker.length)) ++ truncationMarker

def notePrefix (row : KnowledgeNoteSource) : String :=
  match row.key with
  | some key => "[" ++ row.noteType ++ ":" ++ key ++ "] "
  | none => "[" ++ row.noteType ++ "] "

def sourceExcerpt (text : String) : String := truncateChars (normalizeWhitespace text) 240

/-! ## Snapshots -/

structure SourceSnapshot where
  kind : KnowledgeSourceKind
  id : Uuid
  status : Option String
  updatedAt : Option Nat
  contentHash : Option String
  snapshot : Json
  citationMetadata : Json
  line : String
deriving DecidableEq

def untitledDocument (title : Option String) : String := title.getD "Untitled source document"

def docSourceSnapshot (row : KnowledgeDocSource) : SourceSnapshot := {
  kind := .doc
  id := row.docId
  status := some row.status
  updatedAt := some row.updatedAt
  contentHash := some row.contentHash
  snapshot := .obj [
    ("agent_id", .str row.agentId),
    ("content_bytes", .num row.contentBytes),
    ("content_hash", .str row.contentHash),
    ("created_at", timeJson row.createdAt),
    ("doc_id", uuidJson row.docId),
    ("doc_type", .str row.docType),
    ("kind", .str "doc"),
    ("scope", .str row.scope),
    ("source_ref", row.sourceRef),
    ("status", .str row.status),
    ("title", .ofOption .str row.title),
    ("updated_at", timeJson row.updatedAt)]
  citationMetadata := .obj [("section_role", .str "source_document")]
  line := "[doc:" ++ row.docType ++ "] " ++ untitledDocument row.title ++ ": "
    ++ sourceExcerpt row.content }

def docChunkSourceSnapshot (row : KnowledgeDocChunkSource) : SourceSnapshot :=
  let spanId := sourceSpanId svc.docs row.docContentHash row.startOffset
    (max row.endOffset row.startOffset) "captured"
  let sourceSpan : Json := .obj [
    ("chunk_hash", .str row.chunkHash),
    ("chunk_id", uuidJson row.chunkId),
    ("content_hash", .str row.docContentHash),
    ("end_offset", .num row.endOffset),
    ("reason_code", .null),
    ("schema", .str "doc_source_span/v1"),
    ("span_id", uuidJson spanId),
    ("start_offset", .num row.startOffset),
    ("status", .str "captured")]
  { kind := .docChunk
    id := row.chunkId
    status := some row.status
    updatedAt := some row.docUpdatedAt
    contentHash := some row.chunkHash
    snapshot := .obj [
      ("agent_id", .str row.agentId),
      ("chunk_created_at", timeJson row.chunkCreatedAt),
      ("chunk_hash", .str row.chunkHash),
      ("chunk_id", uuidJson row.chunkId),
      ("chunk_index", .num row.chunkIndex),
      ("doc_content_hash", .str row.docContentHash),
      ("doc_id", uuidJson row.docId),
      ("doc_type", .str row.docType),
      ("doc_updated_at", timeJson row.docUpdatedAt),
      ("end_offset", .num row.endOffset),
      ("kind", .str "doc_chunk"),
      ("scope", .str row.scope),
      ("source_ref", row.sourceRef),
      ("source_span", sourceSpan),
      ("start_offset", .num row.startOffset),
      ("status", .str row.status),
      ("title", .ofOption .str row.title)]
    citationMetadata := .obj [
      ("doc_id", uuidJson row.docId),
      ("end_offset", .num row.endOffset),
      ("section_role", .str "source_span"),
      ("span_id", uuidJson spanId),
      ("start_offset", .num row.startOffset)]
    line := "[doc_chunk:" ++ toString row.chunkIndex ++ ":" ++ toString row.startOffset ++ "-"
      ++ toString row.endOffset ++ "] " ++ untitledDocument row.title ++ ": "
      ++ sourceExcerpt row.chunkText }

def noteSourceSnapshot (row : KnowledgeNoteSource) : SourceSnapshot :=
  let contentHash := svc.docs.blake3 row.text
  { kind := .note
    id := row.noteId
    status := some row.status
    updatedAt := some row.updatedAt
    contentHash := some contentHash
    snapshot := .obj [
      ("agent_id", .str row.agentId),
      ("confidence", scoreJson row.confidence),
      ("content_hash", .str contentHash),
      ("created_at", timeJson row.createdAt),
      ("embedding_version", .str row.embeddingVersion),
      ("expires_at", .ofOption timeJson row.expiresAt),
      ("importance", scoreJson row.importance),
      ("key", .ofOption .str row.key),
      ("kind", .str "note"),
      ("note_id", uuidJson row.noteId),
      ("scope", .str row.scope),
      ("source_ref", row.sourceRef),
      ("status", .str row.status),
      ("type", .str row.noteType),
      ("updated_at", timeJson row.updatedAt)]
    citationMetadata := .obj [("section_role", .str "source_note")]
    line := notePrefix row ++ row.text }

def eventSourceSnapshot (row : KnowledgeEventSource) : SourceSnapshot :=
  let contentHash := svc.hashStored row.details
  { kind := .event
    id := row.decisionId
    status := some row.policyDecision
    updatedAt := some row.ts
    contentHash := some contentHash
    snapshot := .obj [
      ("agent_id", .str row.agentId),
      ("decision_id", uuidJson row.decisionId),
      ("details_hash", .str contentHash),
      ("kind", .str "event"),
      ("note_id", .ofOption uuidJson row.noteId),
      ("note_key", .ofOption .str row.noteKey),
      ("note_op", .str row.noteOp),
      ("note_type", .str row.noteType),
      ("pipeline", .str row.pipeline),
      ("policy_decision", .str row.policyDecision),
      ("reason_code", .ofOption .str row.reasonCode),
      ("scope", .str row.scope),
      ("ts", timeJson row.ts)]
    citationMetadata := .obj [("section_role", .str "event_audit")]
    line := "add_event audit " ++ row.noteOp ++ " " ++ row.policyDecision ++ " for " ++ row.noteType
      ++ ((row.noteKey.map fun key => " key " ++ key).getD "") }

def relationSourceSnapshot (row : KnowledgeRelationSource) : SourceSnapshot :=
  let object := (row.objectEntity.or row.objectValue).getD ""
  let temporalStatus := if row.validTo.isSome then "historical" else "current"
  let line := row.subject ++ " " ++ row.predicate ++ " " ++ object ++ " (" ++ temporalStatus ++ ")."
  let contentHash := svc.docs.blake3 line
  { kind := .relation
    id := row.factId
    status := some temporalStatus
    updatedAt := some row.updatedAt
    contentHash := some contentHash
    snapshot := .obj [
      ("agent_id", .str row.agentId),
      ("content_hash", .str contentHash),
      ("evidence_notes", row.evidenceNotes),
      ("fact_id", uuidJson row.factId),
      ("kind", .str "relation"),
      ("object", .obj [
        ("entity", .ofOption .str row.objectEntity),
        ("kind", .ofOption .str row.objectKind),
        ("value", .ofOption .str row.objectValue)]),
      ("predicate", .str row.predicate),
      ("scope", .str row.scope),
      ("subject", .obj [
        ("canonical", .str row.subject),
        ("kind", .ofOption .str row.subjectKind)]),
      ("updated_at", timeJson row.updatedAt),
      ("valid_from", .ofOption intJson row.validFrom),
      ("valid_to", .ofOption intJson row.validTo)]
    citationMetadata := .obj [("section_role", .str "relation_fact")]
    line }

def sanitizeProposalSnapshot (sourceSnapshot : Json) : Json :=
  if !sourceSnapshot.isObject then
    .obj [
      ("kind", .str "proposal"),
      ("sanitized", .bool true),
      ("source_visibility", .str "proposal_metadata_only")]
  else
    let nestedSourceCount :=
      (((sourceSnapshot.get "source_refs").bind Json.asArr).map List.length).getD 0
    let sanitized : Json := ["kind", "proposal_id", "run_id", "agent_id", "proposal_kind",
        "apply_intent", "review_state", "confidence", "proposed_payload_hash",
        "updated_at"].foldl (fun sanitized key =>
      match sourceSnapshot.get key with
      | some value => sanitized.set key value
      | none => sanitized) (.obj [])
    (((sanitized.set "sanitized" (.bool true)).set "source_visibility"
      (.str "proposal_metadata_only")).set "omitted_fields" (.arr (["source_refs",
        "source_snapshot", "lineage", "diff", "unsupported_claim_flags", "contradiction_markers",
        "staleness_markers", "target_ref"].map .str))).set "nested_source_ref_count"
      (.num nestedSourceCount)

def proposalSourceSnapshot (row : KnowledgeProposalSource) : SourceSnapshot :=
  let contentHash := svc.hashStored (.obj [
    ("diff", row.diff),
    ("proposed_payload", row.proposedPayload),
    ("review_state", .str row.reviewState)])
  { kind := .proposal
    id := row.proposalId
    status := some row.reviewState
    updatedAt := some row.updatedAt
    contentHash := some contentHash
    snapshot := sanitizeProposalSnapshot (.obj [
      ("agent_id", .str row.agentId),
      ("apply_intent", .str row.applyIntent),
      ("confidence", scoreJson row.confidence),
      ("diff", row.diff),
      ("kind", .str "proposal"),
      ("lineage", row.lineage),
      ("proposal_id", uuidJson row.proposalId),
      ("proposal_kind", .str row.proposalKind),
      ("proposed_payload_hash", .str contentHash),
      ("review_state", .str row.reviewState),
      ("run_id", uuidJson row.runId),
      ("source_refs", row.sourceRefs),
      ("source_snapshot", row.sourceSnapshot),
      ("target_ref", row.targetRef),
      ("unsupported_claim_flags", row.unsupportedClaimFlags),
      ("updated_at", timeJson row.updatedAt)])
    citationMetadata := .obj [("section_role", .str "reviewed_proposal")]
    line := "Applied proposal " ++ row.proposalKind }

/-! ## Sources -/

/-- The order on the name of the kind and the identifier. -/
def snapshotOrder : SourceSnapshot → SourceSnapshot → Ordering :=
  compareLex (compareOn fun source => source.kind.asStr) (compareOn SourceSnapshot.id)

def sourceSnapshots (rows : SourceRows) : List SourceSnapshot :=
  sortBy snapshotOrder (rows.docs.map docSourceSnapshot
    ++ rows.docChunks.map (docChunkSourceSnapshot svc)
    ++ rows.notes.map (noteSourceSnapshot svc)
    ++ rows.events.map (eventSourceSnapshot svc)
    ++ rows.relations.map (relationSourceSnapshot svc)
    ++ rows.proposals.map (proposalSourceSnapshot svc))

/-- What `kind:source_id` is the text of. -/
def currentKey (kind : String) (sourceId : Uuid) : String × Uuid := (kind, sourceId)

def sourceKey (source : SourceSnapshot) : String × Uuid := currentKey source.kind.asStr source.id

/-- A service that hashes nothing. -/
def sampleKnowledgeService : KnowledgeService := {
  docs := sampleDocsService
  hashJson := fun _ => ""
  jsonb := id }

/-! ## Sections -/

/-- What one rebuild or one lint draws from outside: the clock and the identifiers it generates. -/
structure KnowledgeDraw where
  now : Nat
  clock : SourceClock
  pageId : Uuid
  /-- By the place of the section on the page. -/
  sectionId : Nat → Uuid
  /-- By the place of the source among the sources. -/
  refId : Nat → Uuid
  findingId : Nat → Uuid

structure DraftSection where
  sectionId : Uuid
  sectionKey : String
  heading : String
  role : String
  content : String
  ordinal : Nat
  sourceIndexes : List Nat
  unsupportedReason : Option String
  contentHash : String
  citations : Json

/-- The section that shows the sources of one kind. -/
structure SectionSpec where
  kind : KnowledgeSourceKind
  sectionKey : String
  heading : String
  role : String

def sectionSpecs : List SectionSpec := [
  ⟨.doc, "source-documents", "Source Documents", "source_documents"⟩,
  ⟨.docChunk, "source-spans", "Source Spans", "source_spans"⟩,
  ⟨.note, "source-notes", "Source Notes", "current_truth"⟩,
  ⟨.event, "event-audits", "Event Audits", "history"⟩,
  ⟨.relation, "relations", "Relations", "relations"⟩,
  ⟨.proposal, "reviewed-proposals", "Reviewed Proposals", "proposals"⟩]

def sourceIndexes (sources : List SourceSnapshot) (kind : KnowledgeSourceKind) : List Nat :=
  (sources.zipIdx.filter fun item => item.1.kind = kind).map Prod.snd

/-- The sources that a section cites, which are known by their places. -/
def sourcesAt (sources : List SourceSnapshot) (indexes : List Nat) : List SourceSnapshot :=
  indexes.filterMap fun index => sources[index]?

def sectionContent (sources : List SourceSnapshot) (indexes : List Nat) : String :=
  "\n".intercalate ((sourcesAt sources indexes).map fun source => "- " ++ source.line)

def pushSection (draw : KnowledgeDraw) (sources : List SourceSnapshot) (sections : List DraftSection)
    (spec : SectionSpec) : List DraftSection :=
  let indexes := sourceIndexes sources spec.kind
  if indexes.isEmpty then
    sections
  else
    sections ++ [{
      sectionId := draw.sectionId sections.length
      sectionKey := spec.sectionKey
      heading := spec.heading
      role := spec.role
      content := sectionContent sources indexes
      -- i32::try_from
      ordinal := min sections.length (2 ^ 31 - 1)
      sourceIndexes := indexes
      unsupportedReason := none
      contentHash := ""
      citations := .arr [] }]

def buildSections (draw : KnowledgeDraw) (sources : List SourceSnapshot)
    : Except Error (List DraftSection) :=
  let sections := sectionSpecs.foldl (pushSection draw sources) []
  if sections.isEmpty then
    .error (.invalidRequest "knowledge page rebuild did not produce any cited sections")
  else
    .ok sections

/-! ## Citations -/

def sourceCitationValue (source : SourceSnapshot) : Json :=
  .obj [
    ("citation_metadata", source.citationMetadata),
    ("source_content_hash", .ofOption .str source.contentHash),
    ("source_id", uuidJson source.id),
    ("source_kind", .str source.kind.asStr),
    ("source_snapshot", source.snapshot),
    ("source_status", .ofOption .str source.status),
    ("source_updated_at", .ofOption timeJson source.updatedAt)]

def citationsValue (draft : DraftSection) (sources : List SourceSnapshot) : Json :=
  .arr ((sourcesAt sources draft.sourceIndexes).map sourceCitationValue)

def sourceSnapshotValue (sources : List SourceSnapshot) : Json :=
  .obj [
    ("schema", .str "elf.knowledge_page/v1"),
    ("sources", .arr (sources.map sourceCitationValue))]

def sectionHashPayload (draft : DraftSection) : Json :=
  .obj [
    ("citations", draft.citations),
    ("content", .str draft.content),
    ("heading", .str draft.heading),
    ("role", .str draft.role),
    ("section_key", .str draft.sectionKey),
    ("unsupported_reason", .ofOption .str draft.unsupportedReason)]

/-- The section with its citations and its hash. -/
def DraftSection.cite (sources : List SourceSnapshot) (draft : DraftSection) : DraftSection :=
  let cited := { draft with citations := citationsValue draft sources }
  { cited with contentHash := svc.hashStored (sectionHashPayload cited) }

/-! ## Coverage -/

/-- The kinds in the order of their names. -/
def knowledgeSourceKinds : List KnowledgeSourceKind := [.doc, .docChunk, .event, .note, .proposal, .relation]

def sourceCounts (sources : List SourceSnapshot) : Json :=
  .obj (knowledgeSourceKinds.filterMap fun kind =>
    let count := sources.countP fun source => source.kind = kind
    if count = 0 then none else some (kind.asStr, .num count))

def sourceCoverageValue (pageKind : KnowledgePageKind) (pageKey : String)
    (sections : List DraftSection) (sources : List SourceSnapshot) : Json :=
  let cited := (sections.flatMap DraftSection.sourceIndexes).dedup
  .obj [
    ("cited_source_count", .num cited.length),
    ("coverage_complete", .bool (cited.length = sources.length)),
    ("page_key", .str pageKey),
    ("page_kind", .str pageKind.asStr),
    ("schema", .str "elf.knowledge_page.source_coverage/v1"),
    ("section_count", .num sections.length),
    ("source_count", .num sources.length),
    ("source_counts", sourceCounts sources),
    ("unsupported_section_count",
      .num (sections.countP fun draft => draft.unsupportedReason.isSome))]

def coverageComplete (coverage : Json) : Bool :=
  let count (field : String) := ((coverage.get field).bind Json.asU64).getD 0
  coverage.get "coverage_complete" = some (.bool true)
    && count "source_count" = count "cited_source_count"

end Elf
