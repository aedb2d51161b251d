import Elf.Docs.Service

/-!
This module contains how documents are read: who may read one, how a selector is resolved to a range
of its content, and the window of the content around that range that an excerpt shows.
-/

namespace Elf

open Text

structure ReadProfiles where
  privateOnly : List String
  privatePlusProject : List String
  allScopes : List String

/-- The service as far as it reads documents and notes. -/
structure ReadService where
  docs : DocsService
  readProfiles : ReadProfiles
  formatTime : Int → String
  parseTime : String → Option Int

variable (svc : ReadService)

def resolveReadProfileScopes (profile : String) : Except Error (List String) :=
  match profile with
  | "private_only" => .ok svc.readProfiles.privateOnly
  | "private_plus_project" => .ok svc.readProfiles.privatePlusProject
  | "all_scopes" => .ok svc.readProfiles.allScopes
  | _ => .error (.invalidRequest "Unknown read_profile.")

/-! ## Access -/

/-- Who reads, as a request says it. -/
structure ReadContext where
  tenantId : String
  projectId : String
  agentId : String
  readProfile : String

def ReadContext.trim (ctx : ReadContext) : ReadContext :=
  ⟨Text.trim ctx.tenantId, Text.trim ctx.projectId, Text.trim ctx.agentId,
    Text.trim ctx.readProfile⟩

def ReadContext.validate (ctx : ReadContext) : Except Error Unit :=
  Except.rejectIf (ctx.tenantId == "" || ctx.projectId == "" || ctx.agentId == ""
      || ctx.readProfile == "")
    (.invalidRequest "tenant_id, project_id, agent_id, and read_profile are required.")

def docReadAllowed (requesterAgentId : String) (allowedScopes : List String)
    (sharedGrants : List SharedSpaceGrantKey) (ownerAgentId scope : String) : Bool :=
  if !allowedScopes.contains scope then
    false
  else if scope = "agent_private" then
    ownerAgentId = requesterAgentId
  else if ownerAgentId = requesterAgentId then
    true
  else
    sharedGrants.contains ⟨scope, ownerAgentId⟩

def loadDocDocumentForRead (db : DocStore) (docId : Uuid) (tenantId projectId : String)
    : Option DocDocument :=
  (db.documents.find? docId).filter fun doc =>
    doc.tenantId = tenantId
      && (doc.projectId = projectId || (doc.projectId = orgProjectId && doc.scope = "org_shared"))

def loadDocsExcerptContext (db : DocStore) (ctx : ReadContext) (docId : Uuid)
    : Except Error DocDocument := do
  let allowedScopes ← resolveReadProfileScopes svc ctx.readProfile
  let sharedGrants := loadSharedReadGrantsWithOrgShared db.memory ctx.tenantId ctx.projectId
    ctx.agentId (allowedScopes.contains "org_shared")
  let doc ← Except.ofOption docNotFound
    (loadDocDocumentForRead db docId ctx.tenantId ctx.projectId)
  Except.rejectIf (doc.status ≠ "active"
      || !docReadAllowed ctx.agentId allowedScopes sharedGrants doc.agentId doc.scope)
    docNotFound
  return doc

structure DocsGetRequest where
  context : ReadContext
  docId : Uuid

structure DocsGetResponse where
  docId : Uuid
  tenantId : String
  projectId : String
  agentId : String
  scope : String
  docType : String
  status : String
  title : Option String
  sourceRef : Json
  contentBytes : Nat
  contentHash : String
  createdAt : Nat
  updatedAt : Nat
deriving DecidableEq

def DocsGetResponse.ofDocument (row : DocDocument) : DocsGetResponse := {
  docId := row.docId
  tenantId := row.tenantId
  projectId := row.projectId
  agentId := row.agentId
  scope := row.scope
  docType := row.docType
  status := row.status
  title := row.title
  sourceRef := row.sourceRef
  contentBytes := row.contentBytes
  contentHash := row.contentHash
  createdAt := row.createdAt
  updatedAt := row.updatedAt }

def docsGet (db : DocStore) (req : DocsGetRequest) : Except Error DocsGetResponse := do
  let ctx := req.context.trim
  ctx.validate
  let allowedScopes ← resolveReadProfileScopes svc ctx.readProfile
  let row ← Except.ofOption docNotFound
    (loadDocDocumentForRead db req.docId ctx.tenantId ctx.projectId)
  -- The grants are not loaded for a private document, which no grant opens.
  let sharedGrants :=
    if row.scope = "agent_private" then []
    else loadSharedReadGrantsWithOrgShared db.memory ctx.tenantId ctx.projectId ctx.agentId
      (allowedScopes.contains "org_shared")
  Except.rejectIf (row.status ≠ "active"
      || !docReadAllowed ctx.agentId allowedScopes sharedGrants row.agentId row.scope)
    docNotFound
  return DocsGetResponse.ofDocument row

/-! ## Selectors -/

structure TextQuoteSelector where
  exact : String
  before : Option String
  after : Option String
deriving DecidableEq

structure TextPositionSelector where
  start : Nat
  stop : Nat
deriving DecidableEq

inductive ExcerptsSelectorKind where
  | chunkId
  | quote
  | position
deriving DecidableEq

namespace ExcerptsSelectorKind

def asStr : ExcerptsSelectorKind → String
  | chunkId => "chunk_id"
  | quote => "quote"
  | position => "position"

def spanKind : ExcerptsSelectorKind → String
  | chunkId => "captured"
  | quote => "quote"
  | position => "position"

end ExcerptsSelectorKind

structure DocsExcerptsGetRequest where
  context : ReadContext
  docId : Uuid
  level : String
  maxBytes : Option Nat
  chunkId : Option Uuid
  quote : Option TextQuoteSelector
  position : Option TextPositionSelector

def validateQuoteSelectorText (quote : TextQuoteSelector) : Except Error Unit := do
  Except.rejectIf (!isValidText quote.exact) (.invalidText "$.quote.exact")
  Except.rejectIf (!quote.before.all isValidText) (.invalidText "$.quote.prefix")
  Except.rejectIf (!quote.after.all isValidText) (.invalidText "$.quote.suffix")

def validateQuoteSelector : Option TextQuoteSelector → Except Error Unit
  | some quote => validateQuoteSelectorText quote
  | none => .ok ()

-- The occurrences of a pattern that do not overlap. No match starts in the next `skip` characters.
def matchOffsets (pattern : List Char) : (text : List Char) → (offset skip : Nat) → List Nat
  | [], offset, skip => if skip = 0 ∧ pattern = [] then [offset] else []
  | c :: text, offset, skip =>
    if skip = 0 ∧ pattern.isPrefixOf (c :: text) then
      offset :: matchOffsets pattern text (offset + c.utf8Size) (pattern.length - 1)
    else
      matchOffsets pattern text (offset + c.utf8Size) (skip - 1)

/-- `text.match_indices(pattern)`, without the matches themselves. -/
def matchIndices (text pattern : String) : List Nat :=
  matchOffsets pattern.toList text.toList 0 0

def locateQuote (text : String) (quote : TextQuoteSelector) : Option (Nat × Nat) :=
  let start? := (matchIndices text quote.exact).find? fun start =>
    match splitAtByte text.toList start, splitAtByte text.toList (start + quote.exact.utf8ByteSize) with
    | some (left, _), some (_, right) =>
      (quote.before.getD "").toList.isSuffixOf left && (quote.after.getD "").toList.isPrefixOf right
    | _, _ => false
  start?.map fun start => (start, start + quote.exact.utf8ByteSize)

/-! ## Windows -/

def isCharBoundary (text : String) (offset : Nat) : Bool := (splitAtByte text.toList offset).isSome

-- The loops that look for a character boundary, which make fewer steps than the text has bytes.
def ceilBoundary (text : String) (steps start : Nat) : Nat :=
  match steps with
  | 0 => start
  | steps + 1 =>
    if start < text.utf8ByteSize ∧ !isCharBoundary text start then
      ceilBoundary text steps (start + 1)
    else
      start

def floorBoundary (text : String) (start : Nat) : Nat → Nat
  | 0 => 0
  | stop + 1 =>
    if start < stop + 1 ∧ !isCharBoundary text (stop + 1) then floorBoundary text start stop
    else stop + 1

def boundedWindow (matchStart matchEnd : Nat) (text : String) (maxBytes : Nat) : Nat × Nat :=
  let len := text.utf8ByteSize
  let matchCenter := matchStart + (matchEnd - matchStart) / 2
  let start := matchCenter - maxBytes / 2
  let stop := min (start + maxBytes) len
  let start := if stop - start < maxBytes ∧ 0 < start then start - (maxBytes - (stop - start)) else start
  let start := ceilBoundary text len start
  let stop := floorBoundary text start stop
  (start, max stop start)

def defaultL0MaxBytes : Nat := 256
def defaultL1MaxBytes : Nat := 8 * 1024
def defaultL2MaxBytes : Nat := 32 * 1024

def excerptLevelMax : String → Except Error Nat
  | "L0" => .ok defaultL0MaxBytes
  | "L1" => .ok defaultL1MaxBytes
  | "L2" => .ok defaultL2MaxBytes
  | _ => .error (.invalidRequest "level must be L0, L1, or L2.")

/-! ## Excerpts -/

/-- The range that a selector stands for, with what could not be verified of it. -/
structure DocExcerptMatch where
  selectorKind : ExcerptsSelectorKind
  matchStartOffset : Nat
  matchEndOffset : Nat
  verificationErrors : List String

def positionMatch (doc : DocDocument) (pos : TextPositionSelector) (errors : List String)
    : DocExcerptMatch :=
  ⟨.position, min pos.start doc.content.utf8ByteSize, min pos.stop doc.content.utf8ByteSize, errors⟩

def resolveExcerptsMatchRange (db : DocStore) (doc : DocDocument) (req : DocsExcerptsGetRequest)
    : Except Error DocExcerptMatch :=
  match req.chunkId with
  | some chunkId => do
    let chunk ← Except.ofOption (.notFound "Chunk not found.") (db.chunks.find? chunkId)
    Except.rejectIf (chunk.docId ≠ doc.docId) (.notFound "Chunk not found.")
    return ⟨.chunkId, chunk.startOffset, chunk.endOffset, []⟩
  | none =>
    match req.quote, req.position with
    | some quote, position =>
      match locateQuote doc.content quote, position with
      | some (start, stop), _ => .ok ⟨.quote, start, stop, []⟩
      | none, some pos => .ok (positionMatch doc pos ["QUOTE_SELECTOR_NOT_FOUND"])
      | none, none => .error (.notFound "Selector did not match document.")
    | none, some pos => .ok (positionMatch doc pos [])
    | none, none => .error (.invalidRequest "One of chunk_id, quote, or position is required.")

structure DocsExcerptLocator where
  spanId : Uuid
  selectorKind : String
  matchStartOffset : Nat
  matchEndOffset : Nat
  chunkId : Option Uuid
  quote : Option TextQuoteSelector
  position : Option TextPositionSelector
deriving DecidableEq

structure DocsExcerptVerification where
  verified : Bool
  verificationErrors : List String
  contentHash : String
  excerptHash : String
deriving DecidableEq

structure DocsExcerptResponse where
  reference : Option String
  docId : Uuid
  excerpt : String
  startOffset : Nat
  endOffset : Nat
  locator : DocsExcerptLocator
  verification : DocsExcerptVerification
deriving DecidableEq

/-- `reference::source_reference` -/
def sourceReference (docId : Uuid) (hash : String) (start stop : Nat) : String :=
  "elf-source-v1/" ++ docId.toString ++ "/" ++ hash ++ "/" ++ toString start ++ "/" ++ toString stop

/-- The excerpt of a document around a match. -/
def excerptOfMatch (doc : DocDocument) (req : DocsExcerptsGetRequest) (levelMax : Nat)
    (found : DocExcerptMatch) : DocsExcerptResponse :=
  let (startOffset, endOffset) := boundedWindow found.matchStartOffset found.matchEndOffset
    doc.content levelMax
  let excerpt := (sliceBytes doc.content startOffset endOffset).getD ""
  let errors := found.verificationErrors ++ if excerpt = "" then ["EMPTY_EXCERPT"] else []
  let verified := errors.isEmpty
  { reference :=
      if verified then some (sourceReference doc.docId doc.contentHash startOffset endOffset)
      else none
    docId := doc.docId
    excerpt
    startOffset
    endOffset
    locator := {
      spanId := sourceSpanId svc.docs doc.contentHash found.matchStartOffset found.matchEndOffset
        found.selectorKind.spanKind
      selectorKind := found.selectorKind.asStr
      matchStartOffset := found.matchStartOffset
      matchEndOffset := found.matchEndOffset
      chunkId := req.chunkId
      quote := req.quote
      position := req.position }
    verification := ⟨verified, errors, doc.contentHash, svc.docs.blake3 excerpt⟩ }

def docsExcerptsGetBounded (db : DocStore) (req : DocsExcerptsGetRequest) (maxBytes : Option Nat)
    : Except Error DocsExcerptResponse := do
  Except.rejectIf (req.maxBytes == some 0) (.invalidRequest "max_bytes must be positive.")
  let ctx := req.context.trim
  ctx.validate
  validateQuoteSelector req.quote
  let doc ← loadDocsExcerptContext svc db ctx req.docId
  let levelMax ← excerptLevelMax req.level
  let levelMax := min levelMax (maxBytes.getD levelMax)
  let levelMax := min levelMax (req.maxBytes.getD levelMax)
  let found ← resolveExcerptsMatchRange db doc req
  return excerptOfMatch svc doc req levelMax found

def docsExcerptsGet (db : DocStore) (req : DocsExcerptsGetRequest)
    : Except Error DocsExcerptResponse :=
  docsExcerptsGetBounded svc db req none

/-- A service whose profiles read every scope. -/
def sampleReadService : ReadService := {
  docs := sampleDocsService
  readProfiles := ⟨["agent_private"], ["agent_private", "project_shared"],
    ["agent_private", "project_shared", "org_shared"]⟩
  formatTime := fun _ => "2026-01-01T00:00:00Z"
  parseTime := fun _ => none }

end Elf
