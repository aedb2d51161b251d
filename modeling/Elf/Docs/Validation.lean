import Elf.Docs.Models
import Elf.Domain.WriteGate

/-!
This module contains what is checked of a document before it is stored: its source reference, by the
type of the document, and its content.
-/

namespace Elf

open Text

structure DocsPutRequest where
  tenantId : String
  projectId : String
  agentId : String
  scope : String
  docType : Option String
  title : Option String
  writePolicy : Option WritePolicy
  sourceRef : Json
  content : String

structure ValidatedDocsPut where
  docType : DocType
  content : String
  writePolicyAudit : Option WritePolicyAudit

def defaultDocMaxBytes : Nat := 4 * 1024 * 1024
def defaultMaxChunksPerDoc : Nat := 4096

def sourceLibraryFieldKeys : List String :=
  ["source_kind", "canonical_uri", "captured_at", "source_created_at", "trust_label", "author",
    "handle", "excerpt_locator", "source_content_hash"]

def sourceLibraryKinds : List String :=
  ["article", "social_thread", "pdf", "text_export", "repo_file", "chat_excerpt", "web_page"]

def sourceLibraryTrustLabels : List String :=
  ["trusted", "user_captured", "public_web", "third_party", "unverified"]

/-! ## Fields of a source reference -/

def sourceRefPath (key : String) : String := "$.source_ref[\"" ++ key ++ "\"]"

/-- A required string, without the white space around it. -/
def extractSourceRefString (sourceRef : Json) (key path : String) : Except Error String :=
  Except.ofOption (.invalidRequest (path ++ " is required."))
    ((((sourceRef.get key).bind Json.asStr).map trim).filter fun text => text ≠ "")

def validateOptionalSourceRefStringAt (sourceRef : Json) (key path : String) : Except Error Unit :=
  match sourceRef.get key with
  | none => .ok ()
  | some value =>
    Except.rejectIf (((value.asStr.map trim).filter fun value => value ≠ "").isNone)
      (.invalidRequest (path ++ " must be a non-empty string."))

def validateOptionalSourceRefString (sourceRef : Json) (key : String) : Except Error Unit :=
  validateOptionalSourceRefStringAt sourceRef key (sourceRefPath key)

def sourceRefU64 (sourceRef : Json) (key path : String) : Except Error ℤ :=
  Except.ofOption (.invalidRequest (path ++ " must be an integer."))
    ((sourceRef.get key).bind Json.asU64)

def excerptLocatorPath : String := sourceRefPath "excerpt_locator"

def requireObject (value : Json) (path : String) : Except Error Unit :=
  Except.rejectIf (!value.isObject) (.invalidRequest (path ++ " must be a JSON object."))

def validateSourceLibraryQuoteLocator (quote : Json) : Except Error Unit := do
  let path := excerptLocatorPath ++ "[\"quote\"]"
  requireObject quote path
  let _ ← extractSourceRefString quote "exact" (path ++ "[\"exact\"]")
  validateOptionalSourceRefStringAt quote "prefix" (path ++ "[\"prefix\"]")
  validateOptionalSourceRefStringAt quote "suffix" (path ++ "[\"suffix\"]")

def validateSourceLibraryPositionLocator (position : Json) : Except Error Unit := do
  let path := excerptLocatorPath ++ "[\"position\"]"
  requireObject position path
  let start ← sourceRefU64 position "start" (path ++ "[\"start\"]")
  let stop ← sourceRefU64 position "end" (path ++ "[\"end\"]")
  Except.rejectIf (stop ≤ start) (.invalidRequest (path ++ " start must be before end."))

def validateIfPresent (value : Option Json) (validate : Json → Except Error Unit)
    : Except Error Unit :=
  match value with
  | some value => validate value
  | none => .ok ()

def validateSourceLibraryExcerptLocator (locator : Json) : Except Error Unit := do
  requireObject locator excerptLocatorPath
  Except.rejectIf ((locator.get "quote").isNone && (locator.get "position").isNone)
    (.invalidRequest (excerptLocatorPath ++ " requires quote or position."))
  validateIfPresent (locator.get "quote") validateSourceLibraryQuoteLocator
  validateIfPresent (locator.get "position") validateSourceLibraryPositionLocator

def validateSourceKindDocType (sourceKind sourceDocType : String) : Except Error Unit :=
  let expectedDocType : Option String := match sourceKind with
    | "social_thread" | "chat_excerpt" => some "chat"
    | "repo_file" => some "dev"
    | _ => none
  match expectedDocType with
  | some expectedDocType =>
    Except.rejectIf (sourceDocType ≠ expectedDocType)
      (.invalidRequest (sourceRefPath "source_kind" ++ "=" ++ sourceKind ++ " requires doc_type="
        ++ expectedDocType ++ "."))
  | none => .ok ()

variable (svc : DocsService)

def validateSourceRefRfc3339 (sourceRef : Json) (key : String) : Except Error Unit := do
  let value ← extractSourceRefString sourceRef key (sourceRefPath key)
  Except.rejectIf (!svc.isRfc3339 value)
    (.invalidRequest (sourceRefPath key ++ " must be an RFC3339 datetime string."))

def sourceLibraryMetadataPresent (sourceRef : Json) : Bool :=
  sourceLibraryFieldKeys.any fun key => (sourceRef.get key).isSome

def validateSourceLibraryMetadata (sourceDocType : String) (sourceRef : Json) : Except Error Unit :=
  if !sourceLibraryMetadataPresent sourceRef then
    .ok ()
  else do
    let sourceKind ← extractSourceRefString sourceRef "source_kind" (sourceRefPath "source_kind")
    Except.rejectIf (!sourceLibraryKinds.contains sourceKind)
      (.invalidRequest (sourceRefPath "source_kind" ++ " must be one of: "
        ++ String.intercalate "|" sourceLibraryKinds ++ "."))
    validateSourceKindDocType sourceKind sourceDocType
    let _ ← extractSourceRefString sourceRef "canonical_uri" (sourceRefPath "canonical_uri")
    validateSourceRefRfc3339 svc sourceRef "captured_at"
    validateIfPresent (sourceRef.get "source_created_at") fun _ =>
      validateSourceRefRfc3339 svc sourceRef "source_created_at"
    let trustLabel ← extractSourceRefString sourceRef "trust_label" (sourceRefPath "trust_label")
    Except.rejectIf (!sourceLibraryTrustLabels.contains trustLabel)
      (.invalidRequest (sourceRefPath "trust_label" ++ " must be one of: "
        ++ String.intercalate "|" sourceLibraryTrustLabels ++ "."))
    validateOptionalSourceRefString sourceRef "author"
    validateOptionalSourceRefString sourceRef "handle"
    validateOptionalSourceRefString sourceRef "source_content_hash"
    validateIfPresent (sourceRef.get "excerpt_locator") validateSourceLibraryExcerptLocator

/-- A number that the check of the revision takes for present. -/
def isRevisionNumber (sourceRef : Json) (key : String) : Bool :=
  (sourceRef.get key).any fun value => value.asI64.isSome || value.asU64.isSome

def validateDevRevisionRef (sourceRef : Json) : Except Error Unit :=
  let commitShaPresent := ((sourceRef.get "commit_sha").bind Json.asStr).any fun value =>
    trim value ≠ ""
  let presentCount := commitShaPresent.toNat + (isRevisionNumber sourceRef "pr_number").toNat
    + (isRevisionNumber sourceRef "issue_number").toNat
  Except.rejectIf (presentCount ≠ 1) (.invalidRequest
    "For doc_type=dev, exactly one of commit_sha, pr_number, or issue_number is required.")

def validateDocSourceRefRequirements (sourceDocType : DocType) (sourceRef : Json)
    : Except Error Unit :=
  let required (key : String) := extractSourceRefString sourceRef key (sourceRefPath key)
  match sourceDocType with
  | .chat => do
    let _ ← required "thread_id"
    let _ ← required "role"
    return ()
  | .search => do
    let _ ← required "query"
    let _ ← required "url"
    let _ ← required "domain"
    return ()
  | .dev => do
    let _ ← required "repo"
    validateDevRevisionRef sourceRef
  | .knowledge => .ok ()

/-! ## Requests -/

def resolveDocType (requested : Option String) (sourceRefDocType : DocType) : Except Error DocType :=
  match requested with
  | some docType => do
    let docType ← DocType.parse docType
    Except.rejectIf (docType ≠ sourceRefDocType)
      (.invalidRequest "doc_type must match source_ref.doc_type.")
    return docType
  | none => .ok sourceRefDocType

def WritePolicyError.debugName : WritePolicyError → String
  | .invalidSpan => "InvalidSpan"
  | .overlappingOps => "OverlappingOps"

/-- The content, which a write policy may check but not change. -/
def validateDocContent (req : DocsPutRequest) : Except Error String := do
  let transformed ← (applyWritePolicy req.content req.writePolicy).mapError fun err =>
    Error.invalidRequest ("write_policy is invalid: " ++ err.debugName)
  Except.rejectIf (transformed ≠ req.content) (.invalidRequest
    ("Source Library content is immutable; store transformed text as a separate derived record "
      ++ "with a source reference."))
  Except.rejectIf (isBlank transformed) (.invalidRequest "content must be non-empty.")
  Except.rejectIf (transformed.utf8ByteSize > defaultDocMaxBytes)
    (.invalidRequest "content exceeds max_doc_bytes.")
  Except.rejectIf (svc.containsSecrets transformed) (.invalidRequest "content contains secrets.")
  return transformed

def rejectInvalidText (found : Option String) : Except Error Unit :=
  match found with
  | some field => .error (.invalidText field)
  | none => .ok ()

def validateDocsPut (req : DocsPutRequest) : Except Error ValidatedDocsPut := do
  Except.rejectIf (isBlank req.content) (.invalidRequest "content must be non-empty.")
  Except.rejectIf (isBlank req.scope) (.invalidRequest "scope must be non-empty.")
  Except.rejectIf (!(["agent_private", "project_shared", "org_shared"].contains req.scope))
    (.invalidRequest "Unknown scope.")
  Except.rejectIf (!req.sourceRef.isObject)
    (.invalidRequest "source_ref must be a JSON object.")
  let sourceRefDocType ← extractSourceRefString req.sourceRef "doc_type" (sourceRefPath "doc_type")
  let sourceRefDocType ← DocType.parse sourceRefDocType
  let sourceRefSchema ← extractSourceRefString req.sourceRef "schema" (sourceRefPath "schema")
  Except.rejectIf (sourceRefSchema ≠ "doc_source_ref/v1")
    (.invalidRequest "source_ref.schema must be 'doc_source_ref/v1'.")
  validateSourceRefRfc3339 svc req.sourceRef "ts"
  let docType ← resolveDocType req.docType sourceRefDocType
  validateDocSourceRefRequirements sourceRefDocType req.sourceRef
  validateSourceLibraryMetadata svc sourceRefDocType.asStr req.sourceRef
  let content ← validateDocContent svc req
  rejectInvalidText (findInvalidPath req.sourceRef "$.source_ref")
  rejectInvalidText (if isValidText content then none else some "$.content")
  rejectInvalidText (req.title.bind fun title => if isValidText title then none else some "$.title")
  return ⟨docType, content, req.writePolicy.map WritePolicy.audit⟩

end Elf
