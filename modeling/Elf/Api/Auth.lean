import Elf.Domain.WriteGate
import Elf.Graph.Predicates
import Elf.Lib.Transaction
import Elf.Storage.Identifiers

/-!
This module contains how the API finds out who sends a request: the headers of the request, the tokens of the
configuration, and the middleware that replaces what the headers say of the caller by what the
configuration says of the token.
-/

namespace Elf.Api

open Text Except

/-! ## Headers -/

/-- The octets of the value of a header. -/
abbrev HeaderValue := List UInt8

namespace HeaderValue

def isVisible (octet : UInt8) : Bool := (32 ≤ octet && octet < 127) || octet = 9

def isValid (octet : UInt8) : Bool := (32 ≤ octet && octet ≠ 127) || octet = 9

def utf8 (text : String) : HeaderValue := text.toList.flatMap String.utf8EncodeChar

def parse (text : String) : Option HeaderValue :=
  if (utf8 text).all isValid then some (utf8 text) else none

/-- The text of a value, unless some octet of it is not one of visible ASCII. -/
def toStr (value : HeaderValue) : Option String :=
  if value.all isVisible then
    some (String.ofList (value.map fun octet => Char.ofNat octet.toNat))
  else
    none

end HeaderValue

/-- The headers in their order. A name may occur more than once. -/
abbrev HeaderMap := List (String × HeaderValue)

namespace HeaderMap

def get (headers : HeaderMap) (name : String) : Option HeaderValue :=
  (headers.find? (·.1 = name)).map Prod.snd

def remove (headers : HeaderMap) (name : String) : HeaderMap := headers.filter (·.1 ≠ name)

/-- The value in the place of all those that the name had. -/
def insert (headers : HeaderMap) (name : String) (value : HeaderValue) : HeaderMap :=
  headers.remove name ++ [(name, value)]

end HeaderMap

def headerTenantId : String := "X-ELF-Tenant-Id"
def headerProjectId : String := "X-ELF-Project-Id"
def headerAgentId : String := "X-ELF-Agent-Id"
def headerRequestId : String := "X-ELF-Request-Id"
def headerReadProfile : String := "X-ELF-Read-Profile"
def headerAuthorization : String := "Authorization"
def headerTrustedTokenId : String := "X-ELF-Trusted-Token-Id"
def maxContextHeaderChars : Nat := 128

/-! ## Errors -/

structure ApiError where
  status : Nat
  errorCode : String
  message : String
  fields : Option (List String)
deriving DecidableEq

def jsonError (status : Nat) (errorCode message : String) (fields : Option (List String)) : ApiError :=
  ⟨status, errorCode, message, fields⟩

def unauthorized : ApiError := jsonError 401 "UNAUTHORIZED" "Authentication required." none

def adminRequired : ApiError := jsonError 403 "FORBIDDEN" "Admin token required." none

def headerError (status : Nat) (errorCode message name : String) : ApiError :=
  jsonError status errorCode message (some ["$.headers." ++ name])

/-! ## Context -/

structure RequestContext where
  tenantId : String
  projectId : String
  agentId : String
deriving DecidableEq

/-- What a handler reads of the value of a header that it needs. -/
def contextText (name : String) (value : HeaderValue) : Except ApiError String := do
  let value ← ofOption
    (headerError 400 "INVALID_REQUEST" (name ++ " header must be a valid string.") name) value.toStr
  rejectIf (trim value).isEmpty
    (headerError 400 "INVALID_REQUEST" (name ++ " header must be non-empty.") name)
  rejectIf ((trim value).length > maxContextHeaderChars)
    (headerError 400 "INVALID_REQUEST" (name ++ " header is too long.") name)
  rejectIf (!isValidIdentifier (trim value))
    (headerError 422 "INVALID_TEXT" "Input contains unsupported control characters." name)
  return trim value

def requiredHeader (headers : HeaderMap) (name : String) : Except ApiError String := do
  let raw ← ofOption (headerError 400 "INVALID_REQUEST" (name ++ " header is required.") name)
    (headers.get name)
  contextText name raw

def RequestContext.fromHeaders (headers : HeaderMap) : Except ApiError RequestContext := do
  let tenantId ← requiredHeader headers headerTenantId
  let projectId ← requiredHeader headers headerProjectId
  let agentId ← requiredHeader headers headerAgentId
  return { tenantId, projectId, agentId }

def requiredReadProfile (headers : HeaderMap) : Except ApiError String :=
  requiredHeader headers headerReadProfile

/-- The identifier that a request is answered under: the caller's, or one that is drawn. -/
def parseRequestIdFromHeaders (headers : HeaderMap) (drawn : Uuid) : Except ApiError Uuid :=
  match headers.get headerRequestId with
  | none => .ok drawn
  | some raw => do
    let raw ← ofOption (headerError 400 "INVALID_REQUEST"
      (headerRequestId ++ " header must be a valid string.") headerRequestId) raw.toStr
    rejectIf (trim raw).isEmpty (headerError 400 "INVALID_REQUEST"
      (headerRequestId ++ " header must be non-empty.") headerRequestId)
    ofOption (headerError 400 "INVALID_REQUEST"
      (headerRequestId ++ " header must be a valid UUID.") headerRequestId) (Uuid.parseStr (trim raw))

/-! ## Tokens -/

structure SecurityAuthKey extends Elf.SecurityAuthKey where
  token : String
  tenantId : String
  projectId : String
  agentId : Option String
  readProfile : String

structure Security where
  authMode : String
  authKeys : List SecurityAuthKey

def readProfiles : List String := ["private_only", "private_plus_project", "all_scopes"]

/-- The checks of a key on its own, in their order. -/
def SecurityAuthKey.validate (key : SecurityAuthKey) (path : String) : Except String Unit := do
  rejectIf (trim key.tokenId).isEmpty (path ++ ".token_id must be non-empty.")
  rejectIf (trim key.token).isEmpty (path ++ ".token must be non-empty.")
  rejectIf (trim key.tenantId).isEmpty (path ++ ".tenant_id must be non-empty.")
  rejectIf (trim key.projectId).isEmpty (path ++ ".project_id must be non-empty.")
  rejectIf (trim key.readProfile).isEmpty (path ++ ".read_profile must be non-empty.")
  rejectIf (!readProfiles.contains key.readProfile) (path
    ++ ".read_profile must be one of private_only, private_plus_project, or all_scopes.")
  rejectIf (key.agentId.any fun agentId => (trim agentId).isEmpty)
    (path ++ ".agent_id must be non-empty when provided.")
  rejectIf ((key.agentId.map fun agentId => (trim agentId).isEmpty).getD true)
    (path ++ ".agent_id is required when security.auth_mode is static_keys.")

/-- The keys from the index `idx` on, with the identifiers and tokens of those before them. -/
def validateAuthKeys (tokenIds tokens : List String) (idx : Nat)
    : List SecurityAuthKey → Except String Unit
  | [] => .ok ()
  | key :: keys => do
    let path := "security.auth_keys[" ++ toString idx ++ "]"
    key.validate path
    rejectIf (tokenIds.contains key.tokenId)
      (path ++ ".token_id must be unique across security.auth_keys.")
    rejectIf (tokens.contains key.token) (path ++ ".token must be unique across security.auth_keys.")
    validateAuthKeys (key.tokenId :: tokenIds) (key.token :: tokens) (idx + 1) keys

def Security.validate (security : Security) : Except String Unit :=
  match trim security.authMode with
  | "off" => rejectIf (!security.authKeys.isEmpty)
      "security.auth_keys must be empty when security.auth_mode is off."
  | "static_keys" => do
    rejectIf security.authKeys.isEmpty
      "security.auth_keys must be non-empty when security.auth_mode is static_keys."
    validateAuthKeys [] [] 0 security.authKeys
  | _ => .error "security.auth_mode must be one of off or static_keys."

/-! ## Middleware -/

def trustedTokenId (headers : HeaderMap) : Option String := do
  let raw ← headers.get headerTrustedTokenId
  let value ← raw.toStr
  if (trim value).isEmpty then none else some (trim value)

def effectiveTokenId (authMode : String) (headers : HeaderMap) : Option String :=
  if trim authMode = "static_keys" then trustedTokenId headers else none

def stripBearer (value : String) : Option String :=
  if "Bearer ".toList.isPrefixOf value.toList then some (String.ofList (value.toList.drop 7)) else none

def bearerToken (headers : HeaderMap) : Option String := do
  let raw ← headers.get headerAuthorization
  let value ← raw.toStr
  let token ← stripBearer (trim value)
  if (trim token).isEmpty then none else some (trim token)

def resolveAuthKey (headers : HeaderMap) (authKeys : List SecurityAuthKey)
    : Except ApiError SecurityAuthKey := do
  let token ← ofOption unauthorized (bearerToken headers)
  ofOption unauthorized (authKeys.find? (·.token = token))

def setContextHeader (headers : HeaderMap) (name value : String) : Except ApiError HeaderMap := do
  let value ← ofOption (jsonError 500 "INTERNAL_ERROR"
    ("Invalid configured auth context for " ++ name ++ ".") none) (HeaderValue.parse value)
  return headers.insert name value

def applyAuthKeyContext (headers : HeaderMap) (key : SecurityAuthKey) : Except ApiError HeaderMap := do
  let agentId ← ofOption (jsonError 403 "FORBIDDEN" "Token is not scoped to an agent_id." none)
    key.agentId
  let headers ← setContextHeader headers headerTenantId key.tenantId
  let headers ← setContextHeader headers headerProjectId key.projectId
  let headers ← setContextHeader headers headerAgentId agentId
  let headers ← setContextHeader headers headerReadProfile key.readProfile
  setContextHeader headers headerTrustedTokenId key.tokenId

def invalidAuthMode : ApiError :=
  jsonError 500 "INTERNAL_ERROR" "Invalid security.auth_mode configuration." none

def isAdminRole (role : SecurityAuthRole) : Bool := role = .admin || role = .superAdmin

def requireAdminForOrgSharedWrites (authMode : String) (role : Option SecurityAuthRole)
    : Except ApiError Unit :=
  rejectIf (trim authMode = "static_keys" && !role.any isAdminRole) adminRequired

/-- The headers that the handlers see, and the role of the caller. -/
def apiAuthMiddleware (security : Security) (headers : HeaderMap) (drawn : Uuid)
    : Except ApiError (HeaderMap × Option SecurityAuthRole) := do
  let _ ← parseRequestIdFromHeaders headers drawn
  let headers := headers.remove headerTrustedTokenId
  match trim security.authMode with
  | "off" => return (headers, none)
  | "static_keys" => do
    let key ← resolveAuthKey headers security.authKeys
    let headers ← applyAuthKeyContext headers key
    return (headers, some key.role)
  | _ => .error invalidAuthMode

def adminAuthMiddleware (security : Security) (headers : HeaderMap) (drawn : Uuid)
    : Except ApiError (HeaderMap × Option SecurityAuthRole) := do
  let _ ← parseRequestIdFromHeaders headers drawn
  let headers := headers.remove headerTrustedTokenId
  match trim security.authMode with
  | "off" => return (headers, none)
  | "static_keys" => do
    let key ← resolveAuthKey headers security.authKeys
    rejectIf (!isAdminRole key.role) adminRequired
    let headers ← applyAuthKeyContext headers key
    return (headers, some key.role)
  | _ => .error invalidAuthMode

end Elf.Api
