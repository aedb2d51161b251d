import Elf.Knowledge.Sections

/-!
This module contains the lint of a page: what it finds of the sources that the page cites, compared
with their current rows, and of its sections.
-/

namespace Elf

open Except

structure LintDraft where
  sectionId : Option Uuid
  findingType : String
  severity : String
  sourceKind : Option KnowledgeSourceKind
  sourceId : Option Uuid
  message : String
  details : Json
deriving DecidableEq

def repairGuidanceForFindingType : String → String
  | "stale_source_ref" =>
    "Inspect the stale or missing source, then rebuild the page from current authoritative sources."
  | "unsupported_claim" =>
    "Replace the unsupported section content with source-backed text or rebuild from cited sources."
  | "missing_citation" =>
    "Rebuild the page section with explicit citations or mark the section unsupported with a reason."
  | "missing_source_ref" =>
    "Rebuild the page so each section citation is normalized into knowledge_page_source_refs."
  | "low_source_coverage" =>
    "Rebuild with all intended sources or remove uncited material before relying on this page."
  | _ => "Inspect the finding and rebuild the page after source review."

def withRepairGuidance (details : Json) (sectionKey guidance : String) : Json :=
  let object := if details.isObject then details else .obj []
  (object.set "section_key" (.str sectionKey)).set "repair_guidance" (.str guidance)

/-! ## Sections -/

def lintUnsupportedSections (sections : List DraftSection) : List LintDraft :=
  sections.filterMap fun draft => draft.unsupportedReason.map fun reason => {
    sectionId := some draft.sectionId
    findingType := "unsupported_claim"
    severity := "warning"
    sourceKind := none
    sourceId := none
    message := "Knowledge page section has unsupported content: " ++ reason
    details := .obj [
      ("repair_guidance", .str (repairGuidanceForFindingType "unsupported_claim")),
      ("section_key", .str draft.sectionKey),
      ("unsupported_reason", .str reason)] }

def sectionFinding (row : KnowledgePageSection) (findingType severity message : String)
    (details : Json) : LintDraft := {
  sectionId := some row.sectionId
  findingType
  severity
  sourceKind := none
  sourceId := none
  message
  details := withRepairGuidance details row.sectionKey (repairGuidanceForFindingType findingType) }

def citationCount (citations : Json) : Nat := ((citations.asArr).map List.length).getD 0

/-- The references of one section. -/
def sourceRefsOf (sourceRefs : List KnowledgePageSourceRef) (sectionId : Uuid)
    : List KnowledgePageSourceRef :=
  sourceRefs.filter fun sourceRef => sourceRef.sectionId = some sectionId

def lintOneSection (sourceRefs : List KnowledgePageSourceRef) (row : KnowledgePageSection)
    : List LintDraft :=
  let citations := citationCount row.citations
  let refs := (sourceRefsOf sourceRefs row.sectionId).length
  let unsupported :=
    match row.unsupportedReason with
    | some reason => [sectionFinding row "unsupported_claim" "warning"
        "Knowledge page section contains unsupported content." (.obj [
          ("citation_count", .num citations),
          ("source_ref_count", .num refs),
          ("unsupported_reason", .str reason)])]
    | none => []
  let missingCitation :=
    if citations = 0 && row.unsupportedReason.isNone then
      [sectionFinding row "missing_citation" "error" "Knowledge page section has no citations."
        (.obj [("source_ref_count", .num refs)])]
    else
      []
  let missingSourceRef :=
    if refs = 0 && row.unsupportedReason.isNone then
      [sectionFinding row "missing_source_ref" "error"
        "Knowledge page section has no normalized source backlinks."
        (.obj [("citation_count", .num citations)])]
    else
      []
  unsupported ++ missingCitation ++ missingSourceRef

def lowSourceCoverageFinding (page : KnowledgePage) : LintDraft := {
  sectionId := none
  findingType := "low_source_coverage"
  severity := "warning"
  sourceKind := none
  sourceId := none
  message := "Knowledge page source coverage is incomplete."
  details := .obj [
    ("repair_guidance", .str (repairGuidanceForFindingType "low_source_coverage")),
    ("source_coverage", page.sourceCoverage)] }

def lintPageSections (page : KnowledgePage) (sections : List KnowledgePageSection)
    (sourceRefs : List KnowledgePageSourceRef) : List LintDraft :=
  sections.flatMap (lintOneSection sourceRefs)
    ++ if coverageComplete page.sourceCoverage then [] else [lowSourceCoverageFinding page]

/-! ## Sources -/

def missingSourceFinding (sourceRef : KnowledgePageSourceRef) : LintDraft := {
  sectionId := sourceRef.sectionId
  findingType := "stale_source_ref"
  severity := "error"
  sourceKind := KnowledgeSourceKind.parse sourceRef.sourceKind
  sourceId := some sourceRef.sourceId
  message := "Knowledge page source reference no longer resolves."
  details := .obj [
    ("repair_guidance", .str (repairGuidanceForFindingType "stale_source_ref")),
    ("source_id", uuidJson sourceRef.sourceId),
    ("source_kind", .str sourceRef.sourceKind)] }

/-- The fields that tell whether a source changed. -/
def freshnessJson (status : Option String) (updatedAt : Option Nat) (contentHash : Option String)
    : Json :=
  .obj [
    ("content_hash", .ofOption .str contentHash),
    ("status", .ofOption .str status),
    ("updated_at", .ofOption timeJson updatedAt)]

def staleSourceFinding (sourceRef : KnowledgePageSourceRef) (current : SourceSnapshot)
    : LintDraft := {
  sectionId := sourceRef.sectionId
  findingType := "stale_source_ref"
  severity := "warning"
  sourceKind := some current.kind
  sourceId := some current.id
  message := "Knowledge page source reference snapshot is stale."
  details := .obj [
    ("current", freshnessJson current.status current.updatedAt current.contentHash),
    ("repair_guidance", .str (repairGuidanceForFindingType "stale_source_ref")),
    ("stored", freshnessJson sourceRef.sourceStatus sourceRef.sourceUpdatedAt
      sourceRef.sourceContentHash)] }

def sourceChanged (sourceRef : KnowledgePageSourceRef) (current : SourceSnapshot) : Bool :=
  sourceRef.sourceStatus ≠ current.status || sourceRef.sourceUpdatedAt ≠ current.updatedAt
    || sourceRef.sourceContentHash ≠ current.contentHash

variable (svc : KnowledgeService) (db : SourceDb)

/-- The page reads its sources without an agent and without grants. -/
def pageReader (page : KnowledgePage) : SourceReader :=
  ⟨page.tenantId, page.projectId, none, svc.docs.cfg.scopes.allowed, []⟩

/-- The current sources by their keys, of which the last of a key is kept. -/
def currentSource (sources : List SourceSnapshot) (key : String × Uuid) : Option SourceSnapshot :=
  sources.reverse.find? fun source => sourceKey source = key

def resolveCurrentSourceMap (clock : SourceClock) (page : KnowledgePage) (ids : SourceIds)
    : Except Error (List SourceSnapshot) :=
  match KnowledgePageKind.parse page.pageKind with
  | none => .error (.invalidRequest "stored knowledge page kind is invalid")
  | some _ => .ok (sourceSnapshots svc (resolveExistingSourceRows db (pageReader svc page) clock ids))

def lintSourceRef (current : List SourceSnapshot) (sourceRef : KnowledgePageSourceRef)
    : Option LintDraft :=
  match currentSource current (currentKey sourceRef.sourceKind sourceRef.sourceId) with
  | none => some (missingSourceFinding sourceRef)
  | some snapshot =>
    if sourceChanged sourceRef snapshot then some (staleSourceFinding sourceRef snapshot) else none

def lintSourceRefs (clock : SourceClock) (page : KnowledgePage)
    (sourceRefs : List KnowledgePageSourceRef) : Except Error (List LintDraft) := do
  let ids ← SourceIds.fromSourceRefs sourceRefs
  let current ← resolveCurrentSourceMap svc db clock page ids
  return sourceRefs.filterMap (lintSourceRef current)

/-! ## Lint -/

structure KnowledgePageLintRequest where
  tenantId : String
  projectId : String
  pageId : Uuid

/-- The row of a finding. -/
def LintDraft.row (finding : LintDraft) (findingId pageId : Uuid) (now : Nat)
    : KnowledgePageLintFinding := {
  findingId
  pageId
  sectionId := finding.sectionId
  findingType := finding.findingType
  severity := finding.severity
  sourceKind := finding.sourceKind.map KnowledgeSourceKind.asStr
  sourceId := finding.sourceId
  message := finding.message
  details := finding.details
  createdAt := timestamptz now }

def insertLintFindings (kdb : KnowledgeDb) (draw : KnowledgeDraw) (pageId : Uuid)
    (findings : List LintDraft) : Except Error KnowledgeDb :=
  findings.zipIdx.foldlM (fun kdb item => insertKnowledgePageLintFinding kdb
    (item.1.row (draw.findingId item.2) pageId draw.now)) kdb

structure KnowledgePageLintResponse where
  pageId : Uuid
  findings : List KnowledgePageLintFinding

def knowledgePageLint (draw : KnowledgeDraw) (req : KnowledgePageLintRequest) (kdb : KnowledgeDb)
    : Except Error (KnowledgePageLintResponse × KnowledgeDb) := do
  let page ← ofOption (.notFound "knowledge page not found")
    (getKnowledgePage kdb req.tenantId req.projectId req.pageId)
  let sourceRefs := listKnowledgePageSourceRefs kdb page.pageId
  let sections := listKnowledgePageSections kdb page.pageId
  let findings ← lintSourceRefs svc db draw.clock page sourceRefs
  let findings := findings ++ lintPageSections page sections sourceRefs
  let kdb ← insertLintFindings (deleteKnowledgePageLintFindings kdb page.pageId) draw page.pageId
    findings
  return (⟨page.pageId, listKnowledgePageLintFindings kdb page.pageId⟩, kdb)

end Elf
