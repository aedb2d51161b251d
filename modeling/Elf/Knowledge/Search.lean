import Elf.ContextPack.Routing
import Elf.Docs.Excerpts
import Elf.Knowledge.Rebuild
import Elf.Lib.Sql
import Elf.Lib.Scan

/-!
This module contains the search of the pages: the sections that match a query, as far as the reader
may see every source that they cite, with a snippet of the content.
-/

namespace Elf

open Sorting Text

/-! ## Snippets -/

def snippetForQuery (content query : String) (maxChars : Nat) : String :=
  let normalized := normalizeWhitespace content
  let query := trim query
  if query = "" then
    truncateChars normalized maxChars
  else
    -- the ASCII lower case of a character takes as many bytes as the character
    match Occurrence.find (toAsciiLowercase query).toList (toAsciiLowercase normalized).toList with
    | none => truncateChars normalized maxChars
    | some beforeChars =>
      let start := beforeChars - 40
      let snippet := String.ofList ((normalized.toList.drop start).take maxChars)
      let snippet := if 0 < start then "..." ++ snippet else snippet
      if start + snippet.length < normalized.length then snippet ++ "..." else snippet

/-! ## Sources -/

def spanIsNonRecallable (span : Json) : Bool := (span.get "status").bind Json.asStr ≠ some "captured"

def policySpansAreNonRecallable : Option Json → Bool
  | some (.arr spans) => !spans.isEmpty
  | some .null => false
  | none => false
  | some _ => true

def sourceSpansAreNonRecallable : Option Json → Bool
  | some (.arr spans) => spans.any spanIsNonRecallable
  | some .null => false
  | none => false
  | some _ => true

mutual

def hasNonRecallableSpan : Json → Bool
  | .obj entries =>
    policySpansAreNonRecallable (entries.lookup "policy_spans")
      || (entries.lookup "source_span").any spanIsNonRecallable
      || sourceSpansAreNonRecallable (entries.lookup "source_spans")
      || anyEntryNonRecallable entries
  | .arr items => anyItemNonRecallable items
  | _ => false

def anyItemNonRecallable : List Json → Bool
  | [] => false
  | item :: items => hasNonRecallableSpan item || anyItemNonRecallable items

def anyEntryNonRecallable : List (String × Json) → Bool
  | [] => false
  | (_, value) :: entries => hasNonRecallableSpan value || anyEntryNonRecallable entries

end

def recallableStatuses : List String :=
  ["active", "remember", "update", "current", "historical", "applied"]

def recallableSourceRef (sourceRef : KnowledgePageSourceRef) : Bool :=
  match sourceRef.sourceStatus with
  | none => false
  | some status =>
    recallableStatuses.contains (trim status) && !hasNonRecallableSpan sourceRef.sourceSnapshot

def recallableSourceRefs (sourceRefs : List KnowledgePageSourceRef)
    (currentSourceKeys : List (String × Uuid)) : Bool :=
  !sourceRefs.isEmpty && sourceRefs.all fun sourceRef =>
    currentSourceKeys.contains (currentKey sourceRef.sourceKind sourceRef.sourceId)
      && recallableSourceRef sourceRef

/-! ## Items -/

def searchSourceRefResponse (sourceRef : KnowledgePageSourceRef) : KnowledgePageSourceRef :=
  if sourceRef.sourceKind = KnowledgeSourceKind.proposal.asStr then
    { sourceRef with sourceSnapshot := sanitizeProposalSnapshot sourceRef.sourceSnapshot }
  else
    sourceRef

def sanitizeSearchCitation (citation : Json) : Json :=
  let isProposal : Bool := (citation.get "source_kind").bind Json.asStr
    = some KnowledgeSourceKind.proposal.asStr
  match citation.get "source_snapshot" with
  | some sourceSnapshot =>
    if isProposal then
      citation.set "source_snapshot" (sanitizeProposalSnapshot sourceSnapshot)
    else
      citation
  | none => citation

def sanitizeSearchCitations : Json → Json
  | .arr citations => .arr (citations.map sanitizeSearchCitation)
  | citations => citations

/-- A section with its page, as the search reads them. -/
structure KnowledgePageSearchRow where
  pageId : Uuid
  pageKind : String
  pageKey : String
  title : String
  status : String
  sourceCoverage : Json
  rebuildMetadata : RebuildMetadata
  pageUpdatedAt : Nat
  rebuiltAt : Nat
  sectionId : Uuid
  sectionKey : String
  heading : String
  role : String
  content : String
  ordinal : Nat
  citations : Json
  unsupportedReason : Option String
  lintErrorCount : Nat
  lintWarningCount : Nat
  lintInfoCount : Nat
  sectionSourceRefCount : Nat

structure KnowledgePageLintSummary where
  errorCount : Nat
  warningCount : Nat
  infoCount : Nat
  hasErrors : Bool
  hasWarnings : Bool

structure KnowledgePageSearchItem where
  resultKind : String
  pageId : Uuid
  pageKind : String
  pageKey : String
  title : String
  status : String
  sectionId : Uuid
  sectionKey : String
  heading : String
  role : String
  snippet : String
  citations : Json
  citationCount : Nat
  sourceRefCount : Nat
  sourceRefs : List KnowledgePageSourceRef
  sourceCoverage : Json
  rebuildMetadata : RebuildMetadata
  previousVersionDiff : Option VersionDiff
  lintSummary : KnowledgePageLintSummary
  trustState : String
  derivedNotice : String
  repairGuidance : Option String
  updatedAt : Nat
  rebuiltAt : Nat

structure KnowledgePageSearchResponse where
  items : List KnowledgePageSearchItem

def searchSnippetChars : Nat := 280

def searchTrustState (lint : KnowledgePageLintSummary) (coverageComplete : Bool)
    (row : KnowledgePageSearchRow) : String :=
  if lint.hasErrors then
    "derived_error"
  else if lint.hasWarnings || row.unsupportedReason.isSome then
    "derived_warning"
  else if !coverageComplete || row.sectionSourceRefCount = 0 then
    "derived_low_coverage"
  else
    "derived_clean"

def searchRepairGuidance : String → Option String
  | "derived_error" => some
    "Run knowledge page lint, inspect stale or missing source refs, then rebuild the page from current authoritative sources."
  | "derived_warning" => some
    "Inspect unsupported or stale findings before using this derived snippet; rebuild after source review."
  | "derived_low_coverage" => some
    "Rebuild with complete citations or add source-backed sections before relying on this page."
  | _ => none

def KnowledgePageSearchRow.lintSummary (row : KnowledgePageSearchRow) : KnowledgePageLintSummary := {
  errorCount := row.lintErrorCount
  warningCount := row.lintWarningCount
  infoCount := row.lintInfoCount
  hasErrors := 0 < row.lintErrorCount
  hasWarnings := 0 < row.lintWarningCount }

def knowledgePageSearchItem (row : KnowledgePageSearchRow)
    (sourceRefs : List KnowledgePageSourceRef) (query : String) : KnowledgePageSearchItem :=
  let coverageComplete : Bool := row.sourceCoverage.get "coverage_complete" = some (.bool true)
  let trustState := searchTrustState row.lintSummary coverageComplete row
  { resultKind := "knowledge_page_section"
    pageId := row.pageId
    pageKind := row.pageKind
    pageKey := row.pageKey
    title := row.title
    status := row.status
    sectionId := row.sectionId
    sectionKey := row.sectionKey
    heading := row.heading
    role := row.role
    snippet := snippetForQuery row.content query searchSnippetChars
    citations := sanitizeSearchCitations row.citations
    citationCount := citationCount row.citations
    sourceRefCount := row.sectionSourceRefCount
    sourceRefs := sourceRefs.map searchSourceRefResponse
    sourceCoverage := row.sourceCoverage
    rebuildMetadata := row.rebuildMetadata
    previousVersionDiff := row.rebuildMetadata.previousVersionDiff
    lintSummary := row.lintSummary
    trustState
    derivedNotice := "Derived knowledge page snippet. Verify cited source documents, spans, memory notes, events, relations, or proposals before treating it as authoritative."
    repairGuidance := searchRepairGuidance trustState
    updatedAt := row.pageUpdatedAt
    rebuiltAt := row.rebuiltAt }

/-! ## Queries -/

section

-- What `lower` of the database makes of a character.
variable (lower : Char → Char)

def lowerLike (text : String) (pattern : List Char) : Bool :=
  Like.like (text.toList.map lower) pattern

def KnowledgePageSearchRow.matches (row : KnowledgePageSearchRow) (pattern : List Char) : Bool :=
  lowerLike lower row.title pattern || lowerLike lower row.pageKey pattern
    || lowerLike lower row.heading pattern || lowerLike lower row.content pattern

def KnowledgePageSearchRow.rank (row : KnowledgePageSearchRow) (pattern : List Char) : Nat :=
  if lowerLike lower row.title pattern then 4
  else if lowerLike lower row.heading pattern then 3
  else if lowerLike lower row.pageKey pattern then 2
  else 1

/-- The order of the search: by rank, the newest page first, and along the page. -/
def searchOrder (pattern : List Char) (a b : KnowledgePageSearchRow) : Ordering :=
  compareLex (fun a b => compareOn (·.rank lower pattern) b a)
    (compareLex (fun a b => compareOn (·.pageUpdatedAt) b a)
      (compareLex (compareOn (·.ordinal)) (fun a b => compareOn (·.pageId) b a))) a b

end

def lintCount (db : KnowledgeDb) (pageId : Uuid) (severity : String) : Nat :=
  db.lintFindings.rows.countP fun finding => finding.pageId = pageId && finding.severity = severity

def knowledgePageSearchRow (db : KnowledgeDb) (page : KnowledgePage)
    (pageSection : KnowledgePageSection) : KnowledgePageSearchRow := {
  pageId := page.pageId
  pageKind := page.pageKind
  pageKey := page.pageKey
  title := page.title
  status := page.status
  sourceCoverage := page.sourceCoverage
  rebuildMetadata := page.rebuildMetadata
  pageUpdatedAt := page.updatedAt
  rebuiltAt := page.rebuiltAt
  sectionId := pageSection.sectionId
  sectionKey := pageSection.sectionKey
  heading := pageSection.heading
  role := pageSection.role
  content := pageSection.content
  ordinal := pageSection.ordinal
  citations := pageSection.citations
  unsupportedReason := pageSection.unsupportedReason
  lintErrorCount := lintCount db page.pageId "error"
  lintWarningCount := lintCount db page.pageId "warning"
  lintInfoCount := lintCount db page.pageId "info"
  sectionSourceRefCount := db.sourceRefs.rows.countP fun sourceRef =>
    sourceRef.sectionId = some pageSection.sectionId }

/-- The row of a section, as long as its page is one of those that are searched. -/
def searchableRow (db : KnowledgeDb) (tenantId projectId : String) (pageKind : Option String)
    (pageSection : KnowledgePageSection) : Option KnowledgePageSearchRow :=
  ((db.pages.find? pageSection.pageId).filter fun page =>
    page.tenantId = tenantId && page.projectId = projectId
      && ["active", "stale"].contains page.status
      && (pageKind.isNone || pageKind = some page.pageKind)).map fun page =>
    knowledgePageSearchRow db page pageSection

def matchingSections (lower : Char → Char) (db : KnowledgeDb) (tenantId projectId : String)
    (pageKind : Option String) (pattern : List Char) : List KnowledgePageSearchRow :=
  (db.sections.rows.filterMap (searchableRow db tenantId projectId pageKind)).filter fun row =>
    row.matches lower pattern

def searchKnowledgePageSections (lower : Char → Char) (db : KnowledgeDb)
    (tenantId projectId : String) (pageKind : Option String) (queryPattern : List Char)
    (limit : Nat) : List KnowledgePageSearchRow :=
  (sortBy (searchOrder lower queryPattern)
    (matchingSections lower db tenantId projectId pageKind queryPattern)).take limit

def sourceRefOrder : KnowledgePageSourceRef → KnowledgePageSourceRef → Ordering :=
  compareLex (compareOn (·.pageId)) (compareLex (compareOn (·.sourceKind))
    (compareLex (compareOn (·.sourceId)) (compareOn (·.refId))))

def listKnowledgePageSourceRefsForPages (db : KnowledgeDb) (pageIds : List Uuid)
    : List KnowledgePageSourceRef :=
  if pageIds.isEmpty then
    []
  else
    sortBy sourceRefOrder (db.sourceRefs.rows.filter fun sourceRef =>
      pageIds.contains sourceRef.pageId)

/-! ## Search -/

structure KnowledgePageSearchRequest where
  tenantId : String
  projectId : String
  agentId : String
  readProfile : String
  query : String
  pageKind : Option KnowledgePageKind
  limit : Option Nat

def defaultListLimit : Nat := 50

def maxListLimit : Nat := 200

def boundedLimit (limit : Option Nat) : Nat := min (max (limit.getD defaultListLimit) 1) maxListLimit

def resolveCurrentRecallableSourceKeys (svc : KnowledgeService) (sources : SourceDb)
    (clock : SourceClock) (reader : SourceReader) (sourceRefs : List KnowledgePageSourceRef)
    : Except Error (List (String × Uuid)) := do
  let ids ← SourceIds.fromSourceRefs sourceRefs
  return (sourceSnapshots svc (resolveExistingSourceRows sources reader clock ids)).map sourceKey

def KnowledgePageSearchRequest.validate (req : KnowledgePageSearchRequest) : Except Error Unit := do
  validateNonEmpty "tenant_id" req.tenantId
  validateNonEmpty "project_id" req.projectId
  validateNonEmpty "agent_id" req.agentId
  validateNonEmpty "read_profile" req.readProfile
  validateNonEmpty "query" req.query
  Except.rejectIf (!isValidText req.query) (.invalidText "$.query")

/-- Who searches, with the grants as they are now. -/
def KnowledgePageSearchRequest.reader (req : KnowledgePageSearchRequest) (sources : SourceDb)
    (allowedScopes : List String) : SourceReader := {
  tenantId := req.tenantId
  projectId := req.projectId
  agentId := some req.agentId
  allowedScopes
  sharedGrants := loadSharedReadGrantsWithOrgShared sources.docs.memory req.tenantId req.projectId
    req.agentId (allowedScopes.contains "org_shared") }

/-- The query as it is looked for. -/
def KnowledgePageSearchRequest.needle (req : KnowledgePageSearchRequest) : List Char :=
  (toAsciiLowercase (trim req.query)).toList

def knowledgePagesSearch (lower : Char → Char) (read : ReadService) (svc : KnowledgeService)
    (sources : SourceDb) (clock : SourceClock) (db : KnowledgeDb) (req : KnowledgePageSearchRequest)
    : Except Error KnowledgePageSearchResponse := do
  req.validate
  let allowedScopes ← resolveReadProfileScopes read req.readProfile
  let queryPattern := Like.containing req.needle
  let rows := searchKnowledgePageSections lower db req.tenantId req.projectId
    (req.pageKind.map KnowledgePageKind.asStr) queryPattern (boundedLimit req.limit)
  let pageIds := SourceIds.sortedUnique (rows.map KnowledgePageSearchRow.pageId)
  let sourceRefs := listKnowledgePageSourceRefsForPages db pageIds
  let currentSourceKeys ← resolveCurrentRecallableSourceKeys svc sources clock
    (req.reader sources allowedScopes) sourceRefs
  let items := rows.filterMap fun row =>
    let refs := sourceRefsOf sourceRefs row.sectionId
    if recallableSourceRefs refs currentSourceKeys then
      some (knowledgePageSearchItem row refs req.query)
    else
      none
  return { items }

end Elf
