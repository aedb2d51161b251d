import Elf.Knowledge.Lint
import Elf.Service.Review

/-!
This module contains the rebuild of a page: from the identifiers of its sources to the row of the
page, its sections and the references to the sources. A page that was built is rebuilt from the
references and the metadata that are stored with it.
-/

namespace Elf

open Except

variable (svc : KnowledgeService) (db : SourceDb)

structure KnowledgePageRebuildRequest where
  tenantId : String
  projectId : String
  agentId : String
  pageKind : KnowledgePageKind
  pageKey : String
  title : Option String
  docIds : List Uuid
  docChunkIds : List Uuid
  noteIds : List Uuid
  eventIds : List Uuid
  relationIds : List Uuid
  proposalIds : List Uuid
  providerMetadata : SpelledJson

/-! ## Sources -/

namespace SourceIds

def validateNonEmpty (ids : SourceIds) : Except Error Unit :=
  rejectIf (ids.docIds.isEmpty && ids.docChunkIds.isEmpty && ids.noteIds.isEmpty
      && ids.eventIds.isEmpty && ids.relationIds.isEmpty && ids.proposalIds.isEmpty)
    (.invalidRequest "at least one source id is required for a knowledge page rebuild")

/-- The identifiers of a request before they are checked. -/
def requested (req : KnowledgePageRebuildRequest) : SourceIds := {
  docIds := sortedUnique req.docIds
  docChunkIds := sortedUnique req.docChunkIds
  noteIds := sortedUnique req.noteIds
  eventIds := sortedUnique req.eventIds
  relationIds := sortedUnique req.relationIds
  proposalIds := sortedUnique req.proposalIds }

def fromRequest (req : KnowledgePageRebuildRequest) : Except Error SourceIds := do
  (requested req).validateNonEmpty
  return requested req

def requireCounts (ids : SourceIds) (rows : SourceRows) : Except Error Unit :=
  rejectIf (rows.docs.length ≠ ids.docIds.length || rows.docChunks.length ≠ ids.docChunkIds.length
      || rows.notes.length ≠ ids.noteIds.length || rows.events.length ≠ ids.eventIds.length
      || rows.relations.length ≠ ids.relationIds.length
      || rows.proposals.length ≠ ids.proposalIds.length)
    (.invalidRequest ("all requested knowledge page sources must exist, source rows must be active "
      ++ "and readable, and proposals must be applied"))

end SourceIds

/-- Who the sources of a rebuild are fetched for. -/
def rebuildReader (req : KnowledgePageRebuildRequest) : SourceReader :=
  let allowedScopes := svc.docs.cfg.scopes.allowed
  ⟨req.tenantId, req.projectId, some req.agentId, allowedScopes,
    loadSharedReadGrantsWithOrgShared db.docs.memory req.tenantId req.projectId req.agentId
      (allowedScopes.contains "org_shared")⟩

def resolveSources (clock : SourceClock) (req : KnowledgePageRebuildRequest) (ids : SourceIds)
    : Except Error (List SourceSnapshot) := do
  let rows := resolveExistingSourceRows db (rebuildReader svc db req) clock ids
  ids.requireCounts rows
  return sourceSnapshots svc rows

/-! ## Metadata -/

def titleKind : KnowledgePageKind → String
  | .project => "Project"
  | .entity => "Entity"
  | .concept => "Concept"
  | .issue => "Issue"
  | .decision => "Decision"
  | .author => "Author"
  | .timeline => "Timeline"

def generatedTitle (pageKind : KnowledgePageKind) (pageKey : String) : String :=
  titleKind pageKind ++ " Knowledge Page: " ++ pageKey

def llmDerived (providerMetadata : SpelledJson) : Bool :=
  ((providerMetadata.get "llm_derived").bind SpelledJson.asBool).getD false

def rebuildMetadata (sourceHash : String) (req : KnowledgePageRebuildRequest)
    : BaseRebuildMetadata := {
  sourceSnapshotHash := sourceHash
  deterministic := !llmDerived req.providerMetadata
  providerMetadata := req.providerMetadata
  generatedBy := {
    actorAgentId := req.agentId
    mode :=
      if llmDerived req.providerMetadata then "provider_metadata_declared_llm"
      else "deterministic_service"
    sourceInputCounts := [
      ("doc", req.docIds.length),
      ("doc_chunk", req.docChunkIds.length),
      ("note", req.noteIds.length),
      ("event", req.eventIds.length),
      ("relation", req.relationIds.length),
      ("proposal", req.proposalIds.length)] }
  allowedVariance :=
    if llmDerived req.providerMetadata then
      ["LLM-derived page text may vary; provider metadata records the nondeterministic input path."]
    else
      [] }

/-- The metadata without what is generated anew by every rebuild. -/
def contentHashRebuildMetadata (metadata : BaseRebuildMetadata) : SpelledJson :=
  .obj [
    ("allowed_variance", .arr (metadata.allowedVariance.map .str)),
    ("deterministic", .bool metadata.deterministic),
    ("provider_metadata", metadata.providerMetadata),
    ("schema", .str "elf.knowledge_page.rebuild/v1"),
    ("source_snapshot_hash", .str metadata.sourceSnapshotHash)]

def pageContentHash (title : String) (sections : List DraftSection) (sourceCoverage : Json)
    (metadata : BaseRebuildMetadata) : String :=
  svc.hashJson (.obj [
    ("rebuild_metadata", contentHashRebuildMetadata metadata),
    ("sections", .ofJson (.arr (sections.map sectionHashPayload))),
    ("source_coverage", .ofJson sourceCoverage),
    ("title", .str title)])

def versionIdentityValue (req : KnowledgePageRebuildRequest) (sourceHash contentHash : String)
    (sections : List DraftSection) : VersionIdentity := {
  pageKind := req.pageKind.asStr
  pageKey := req.pageKey
  sourceSnapshotHash := sourceHash
  contentHash
  sectionHashes := sections.map fun draft => (draft.sectionKey, draft.contentHash) }

/-! ## Diff -/

def versionDiffSummary (titleChanged sourceChanged contentChanged : Bool)
    (added removed changed : Nat) : String :=
  if !titleChanged && !sourceChanged && !contentChanged && added = 0 && removed = 0
      && changed = 0 then
    "No page-level or section-level changes from the previous rebuild."
  else
    "Previous rebuild diff: title_changed=" ++ toString titleChanged ++ ", source_changed="
      ++ toString sourceChanged ++ ", content_changed=" ++ toString contentChanged
      ++ ", sections added=" ++ toString added ++ ", removed=" ++ toString removed ++ ", changed="
      ++ toString changed ++ "."

/-- The keys of the sections, in their order. -/
def sectionKeys (keys : List String) : List String := keys.dedup.insertionSort (· ≤ ·)

def sectionUnchanged (previousSections : List KnowledgePageSection) (sections : List DraftSection)
    (key : String) : Bool :=
  -- of the sections of a key, the maps keep the last
  match previousSections.reverse.find? (·.sectionKey = key),
      sections.reverse.find? (·.sectionKey = key) with
  | some previous, some draft =>
    previous.contentHash = draft.contentHash && previous.heading = draft.heading
      && previous.role = draft.role && previous.unsupportedReason = draft.unsupportedReason
  | _, _ => false

def versionDiff (previous : KnowledgePage) (previousSections : List KnowledgePageSection)
    (title sourceHash contentHash : String) (sections : List DraftSection) : VersionDiff :=
  let previousKeys := sectionKeys (previousSections.map (·.sectionKey))
  let newKeys := sectionKeys (sections.map (·.sectionKey))
  let added := newKeys.filter fun key => !previousKeys.contains key
  let removed := previousKeys.filter fun key => !newKeys.contains key
  let common := previousKeys.filter fun key => newKeys.contains key
  let changed := common.filter fun key => !sectionUnchanged previousSections sections key
  let titleChanged : Bool := previous.title ≠ title
  let sourceChanged : Bool := previous.rebuildSourceHash ≠ sourceHash
  let contentChanged : Bool := previous.contentHash ≠ contentHash
  { previousPageId := previous.pageId
    previousContentHash := previous.contentHash
    newContentHash := contentHash
    previousSourceHash := previous.rebuildSourceHash
    newSourceHash := sourceHash
    titleChanged
    sourceChanged
    contentChanged
    addedSectionKeys := added
    removedSectionKeys := removed
    changedSectionKeys := changed
    unchangedSectionKeys := common.filter fun key => sectionUnchanged previousSections sections key
    summary := versionDiffSummary titleChanged sourceChanged contentChanged added.length
      removed.length changed.length }

/-! ## Rows -/

def DraftSection.row (draft : DraftSection) (pageId : Uuid) (now : Nat) : KnowledgePageSection := {
  sectionId := draft.sectionId
  pageId
  sectionKey := draft.sectionKey
  heading := draft.heading
  role := draft.role
  content := draft.content
  ordinal := draft.ordinal
  citations := draft.citations
  unsupportedReason := draft.unsupportedReason
  contentHash := draft.contentHash
  createdAt := timestamptz now
  updatedAt := timestamptz now }

-- The time of the source was read from the database, which keeps it as it is.
def SourceSnapshot.row (source : SourceSnapshot) (refId pageId sectionId : Uuid) (now : Nat)
    : KnowledgePageSourceRef := {
  refId
  pageId
  sectionId := some sectionId
  sourceKind := source.kind.asStr
  sourceId := source.id
  sourceStatus := source.status
  sourceUpdatedAt := source.updatedAt
  sourceContentHash := source.contentHash
  sourceSnapshot := source.snapshot
  citationMetadata := source.citationMetadata
  createdAt := timestamptz now }

def unknownSource : Error := .invalidRequest "knowledge page section referenced an unknown source"

def insertSourceRef (draw : KnowledgeDraw) (pageId sectionId : Uuid) (sources : List SourceSnapshot)
    (kdb : KnowledgeDb) (index : Nat) : Except Error KnowledgeDb := do
  let source ← ofOption unknownSource sources[index]?
  insertKnowledgePageSourceRef kdb (source.row (draw.refId index) pageId sectionId draw.now)

def insertSection (draw : KnowledgeDraw) (pageId : Uuid) (sources : List SourceSnapshot)
    (kdb : KnowledgeDb) (draft : DraftSection) : Except Error KnowledgeDb := do
  let kdb ← insertKnowledgePageSection kdb (draft.row pageId draw.now)
  draft.sourceIndexes.foldlM (insertSourceRef draw pageId draft.sectionId sources) kdb

def replacePageChildren (draw : KnowledgeDraw) (pageId : Uuid) (sections : List DraftSection)
    (sources : List SourceSnapshot) (lint : List LintDraft) (kdb : KnowledgeDb)
    : Except Error KnowledgeDb := do
  let kdb ← sections.foldlM (insertSection draw pageId sources) (deleteKnowledgePageChildren kdb pageId)
  insertLintFindings kdb draw pageId lint

/-! ## Response -/

structure KnowledgePageSectionResponse where
  row : KnowledgePageSection
  citationCount : Nat
  sourceRefCount : Nat
  coverageComplete : Bool
  sourceBacklinks : List KnowledgePageSourceRef

structure KnowledgePageResponse where
  page : KnowledgePage
  sections : List KnowledgePageSectionResponse
  sourceRefs : List KnowledgePageSourceRef
  lintFindings : List KnowledgePageLintFinding

def sectionResponse (row : KnowledgePageSection) (sourceRefs : List KnowledgePageSourceRef)
    : KnowledgePageSectionResponse := {
  row
  citationCount := citationCount row.citations
  sourceRefCount := sourceRefs.length
  coverageComplete := 0 < citationCount row.citations && 0 < sourceRefs.length
  sourceBacklinks := sourceRefs }

def knowledgePageResponse (kdb : KnowledgeDb) (page : KnowledgePage) : KnowledgePageResponse :=
  let sourceRefs := listKnowledgePageSourceRefs kdb page.pageId
  { page
    sections := (listKnowledgePageSections kdb page.pageId).map fun row =>
      sectionResponse row (sourceRefsOf sourceRefs row.sectionId)
    sourceRefs
    lintFindings := listKnowledgePageLintFindings kdb page.pageId }

/-! ## Rebuild -/

/-- The row that a rebuild writes. -/
def rebuiltPage (draw : KnowledgeDraw) (req : KnowledgePageRebuildRequest)
    (previous : Option KnowledgePage) (previousSections : List KnowledgePageSection)
    (sources : List SourceSnapshot) (sections : List DraftSection) : KnowledgePage :=
  let title := req.title.getD (generatedTitle req.pageKind req.pageKey)
  let sourceSnapshot := sourceSnapshotValue sources
  let sourceHash := svc.hashStored sourceSnapshot
  let sourceCoverage := sourceCoverageValue req.pageKind req.pageKey sections sources
  let metadata := rebuildMetadata sourceHash req
  let contentHash := pageContentHash svc title sections sourceCoverage metadata
  { pageId := draw.pageId
    tenantId := req.tenantId
    projectId := req.projectId
    pageKind := req.pageKind.asStr
    pageKey := req.pageKey
    title
    contractSchema := "elf.knowledge_page/v1"
    status := "active"
    rebuildSourceHash := sourceHash
    contentHash
    sourceCoverage
    sourceSnapshot
    rebuildMetadata := { metadata with
      previousVersionDiff := previous.map fun page =>
        versionDiff page previousSections title sourceHash contentHash sections
      versionIdentity := versionIdentityValue req sourceHash contentHash sections }
    createdAt := draw.now
    updatedAt := draw.now
    rebuiltAt := draw.now }

def knowledgePageRebuild (draw : KnowledgeDraw) (req : KnowledgePageRebuildRequest)
    (kdb : KnowledgeDb) : Except Error (KnowledgePageResponse × KnowledgeDb) := do
  validateContext req.tenantId req.projectId req.agentId
  validateNonEmpty "page_key" req.pageKey
  rejectIf (!req.providerMetadata.isObject)
    (.invalidRequest "provider_metadata must be a JSON object.")
  let ids ← SourceIds.fromRequest req
  let previous :=
    getKnowledgePageByKey kdb req.tenantId req.projectId req.pageKind.asStr req.pageKey
  let previousSections :=
    match previous with
    | some page => listKnowledgePageSections kdb page.pageId
    | none => []
  let sources ← resolveSources svc db draw.clock req ids
  let drafts ← buildSections draw sources
  let lint := lintUnsupportedSections drafts
  let sections := drafts.map (DraftSection.cite svc sources)
  let (page, kdb) ← upsertKnowledgePage kdb svc.jsonb
    (rebuiltPage svc draw req previous previousSections sources sections)
  let kdb ← replacePageChildren draw page.pageId sections sources lint kdb
  return (knowledgePageResponse kdb page, kdb)

def rebuildRequestFromPage (agentId : String) (page : KnowledgePage)
    (sourceRefs : List KnowledgePageSourceRef) : Except Error KnowledgePageRebuildRequest := do
  let ids ← SourceIds.fromSourceRefs sourceRefs
  let pageKind ← ofOption (.invalidRequest "stored knowledge page kind is invalid")
    (KnowledgePageKind.parse page.pageKind)
  let providerMetadata := page.rebuildMetadata.providerMetadata
  return {
    tenantId := page.tenantId
    projectId := page.projectId
    agentId
    pageKind
    pageKey := page.pageKey
    title := some page.title
    docIds := ids.docIds
    docChunkIds := ids.docChunkIds
    noteIds := ids.noteIds
    eventIds := ids.eventIds
    relationIds := ids.relationIds
    proposalIds := ids.proposalIds
    providerMetadata := if providerMetadata.isObject then providerMetadata else .obj [] }

/-! ## Steps -/

inductive KnowledgeOp where
  | rebuild (req : KnowledgePageRebuildRequest)
  | lint (req : KnowledgePageLintRequest)

/-- One request on the pages, with the sources as they are when it is made. -/
structure KnowledgeStep where
  sources : SourceDb
  draw : KnowledgeDraw
  op : KnowledgeOp

def KnowledgeStep.next (a : KnowledgeStep) (kdb : KnowledgeDb) : KnowledgeDb :=
  match a.op with
  | .rebuild req => Transaction.next (knowledgePageRebuild svc a.sources a.draw req) kdb
  | .lint req => Transaction.next (knowledgePageLint svc a.sources a.draw req) kdb

/-- The step relation of the pages. -/
def KnowledgeSteps (kdb : KnowledgeDb) (a : KnowledgeStep) (kdb' : KnowledgeDb) : Prop :=
  a.next svc kdb = kdb'

end Elf
