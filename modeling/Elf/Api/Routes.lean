import Elf.Api.Auth
import Elf.Service.EventMessages
import Elf.Service.Op

/-!
This module contains the routes of the API that write notes and grants: which request of the service each of
them makes for the caller, and the steps of a server that any number of callers send requests to.
-/

namespace Elf.Api

open Text Except

def maxNotesPerIngest : Nat := 256
def maxMessagesPerEvent : Nat := 256
def maxMessageChars : Nat := 16384

/-! ## Bodies -/

structure NotesIngestRequest where
  scope : String
  notes : List AddNoteInput

structure EventsIngestRequest where
  scope : Option String
  dryRun : Option Bool
  messages : List EventMessage

structure NotePatchRequest where
  text : Option String
  importance : Option F32
  confidence : Option F32
  ttlDays : Option Int

structure SpaceGrantUpsertBody where
  granteeKind : GranteeKind
  granteeAgentId : Option String

structure AdminNoteCorrectionBody where
  action : MemoryCorrectionAction
  reason : String
  sourceRef : Json
  restoreVersionId : Option Uuid

structure ConsolidationProposalReviewBody where
  action : ConsolidationReviewAction
  reviewComment : Option String

/-- The routers: everybody is routed by one of them, administrators by the other. -/
inductive Port where
  | api
  | admin
deriving DecidableEq

/-- A route with what its path and its body say. -/
inductive Call where
  | notesIngest (payload : NotesIngestRequest)
  | eventsIngest (payload : EventsIngestRequest)
  | notesPatch (noteId : Uuid) (payload : NotePatchRequest)
  | notesDelete (noteId : Uuid)
  | notesPublish (noteId : Uuid) (space : String)
  | notesUnpublish (noteId : Uuid) (space : String)
  | spaceGrantUpsert (space : String) (payload : SpaceGrantUpsertBody)
  | spaceGrantRevoke (space : String) (payload : SpaceGrantUpsertBody)
  | noteCorrection (noteId : Uuid) (payload : AdminNoteCorrectionBody)
  | proposalReview (proposalId : Uuid) (payload : ConsolidationProposalReviewBody)

def Call.port : Call → Port
  | .noteCorrection _ _ | .proposalReview _ _ => .admin
  | _ => .api

/-! ## Requests of the service -/

inductive ServiceRequest where
  | addNote (req : AddNoteRequest)
  | addEvent (req : AddEventRequest)
  | update (req : UpdateRequest)
  | delete (req : DeleteRequest)
  | publish (req : PublishNoteRequest)
  | unpublish (req : UnpublishNoteRequest)
  | grantUpsert (req : SpaceGrantRequest)
  | grantRevoke (req : SpaceGrantRequest)
  | correct (req : MemoryCorrectionRequest)
  | review (req : ConsolidationProposalReviewRequest)

/-- The transactions that the service may execute for a request. -/
inductive ServiceRequest.Issues : ServiceRequest → Op → Prop where
  | addNote (req : AddNoteRequest) (now : Nat) (note : AddNoteInput) (withinBudget : Bool)
    (h : note ∈ (normalizeAddNoteRequest req).notes)
    : Issues (.addNote req) (.addNote (normalizeAddNoteRequest req) now note withinBudget)
  | addEvent (req : AddEventRequest) (event : EventIngestion) (note : ExtractedNote) (now : Nat)
    (withinBudget : Bool) : Issues (.addEvent req) (.addEvent event req note now withinBudget)
  | update (req : UpdateRequest) : Issues (.update req) (.update req)
  | delete (req : DeleteRequest) : Issues (.delete req) (.delete req)
  | publish (req : PublishNoteRequest) : Issues (.publish req) (.publish req)
  | unpublish (req : UnpublishNoteRequest) : Issues (.unpublish req) (.unpublish req)
  | grantUpsert (req : SpaceGrantRequest) : Issues (.grantUpsert req) (.grantUpsert req)
  | grantRevoke (req : SpaceGrantRequest) : Issues (.grantRevoke req) (.grantRevoke req)
  | correct (req : MemoryCorrectionRequest) : Issues (.correct req) (.correct req)
  | review (req : ConsolidationProposalReviewRequest) : Issues (.review req) (.review req)

/-! ## Handlers -/

def parseSpace (scope : String) : Except ApiError String :=
  match scope with
  | "team_shared" | "project_shared" => .ok "project_shared"
  | "org_shared" => .ok "org_shared"
  | _ => .error (jsonError 400 "INVALID_REQUEST" "Invalid space." (some ["$.space"]))

/-- What a handler has of a request: the headers behind the middleware and the role of the caller. -/
structure Incoming where
  authMode : String
  headers : HeaderMap
  role : Option SecurityAuthRole

namespace Incoming

/-- Who writes to the space of a whole organization must be an administrator. -/
def requireOrgShared (inc : Incoming) (isOrgShared : Bool) : Except ApiError Unit :=
  if isOrgShared then requireAdminForOrgSharedWrites inc.authMode inc.role else .ok ()

def notesIngest (inc : Incoming) (payload : NotesIngestRequest) : Except ApiError AddNoteRequest := do
  let ctx ← RequestContext.fromHeaders inc.headers
  inc.requireOrgShared (trim payload.scope = "org_shared")
  rejectIf (payload.notes.length > maxNotesPerIngest)
    (jsonError 400 "INVALID_REQUEST" "Notes list is too large." (some ["$.notes"]))
  return ⟨ctx.tenantId, ctx.projectId, ctx.agentId, payload.scope, payload.notes⟩

/-- The messages from the index `idx` on. -/
def checkMessages (idx : Nat) : List EventMessage → Except ApiError Unit
  | [] => .ok ()
  | msg :: messages => do
    rejectIf (msg.content.length > maxMessageChars)
      (jsonError 400 "INVALID_REQUEST" "Message content is too long."
        (some ["$.messages[" ++ toString idx ++ "].content"]))
    checkMessages (idx + 1) messages

def eventsIngest (inc : Incoming) (payload : EventsIngestRequest) : Except ApiError AddEventRequest := do
  let ctx ← RequestContext.fromHeaders inc.headers
  inc.requireOrgShared (payload.scope.map trim = some "org_shared")
  rejectIf (payload.messages.length > maxMessagesPerEvent)
    (jsonError 400 "INVALID_REQUEST" "Messages list is too large." (some ["$.messages"]))
  checkMessages 0 payload.messages
  return ⟨ctx.tenantId, ctx.projectId, ctx.agentId, payload.scope, payload.dryRun⟩

def notesPatch (inc : Incoming) (noteId : Uuid) (payload : NotePatchRequest)
    : Except ApiError UpdateRequest := do
  let ctx ← RequestContext.fromHeaders inc.headers
  return ⟨ctx.tenantId, ctx.projectId, ctx.agentId, noteId, payload.text, payload.importance,
    payload.confidence, payload.ttlDays⟩

def notesDelete (inc : Incoming) (noteId : Uuid) : Except ApiError DeleteRequest := do
  let ctx ← RequestContext.fromHeaders inc.headers
  return ⟨ctx.tenantId, ctx.projectId, ctx.agentId, noteId⟩

def notesPublish (inc : Incoming) (noteId : Uuid) (space : String)
    : Except ApiError PublishNoteRequest := do
  let ctx ← RequestContext.fromHeaders inc.headers
  let scope ← parseSpace space
  inc.requireOrgShared (scope = "org_shared")
  return ⟨ctx.tenantId, ctx.projectId, ctx.agentId, noteId, scope⟩

def notesUnpublish (inc : Incoming) (noteId : Uuid) (space : String)
    : Except ApiError UnpublishNoteRequest := do
  let ctx ← RequestContext.fromHeaders inc.headers
  let scope ← parseSpace space
  inc.requireOrgShared (scope = "org_shared")
  return ⟨ctx.tenantId, ctx.projectId, ctx.agentId, noteId⟩

def spaceGrantUpsert (inc : Incoming) (space : String) (payload : SpaceGrantUpsertBody)
    : Except ApiError SpaceGrantRequest := do
  let ctx ← RequestContext.fromHeaders inc.headers
  let scope ← parseSpace space
  inc.requireOrgShared (scope = "org_shared")
  return ⟨ctx.tenantId, ctx.projectId, ctx.agentId, scope, payload.granteeKind, payload.granteeAgentId⟩

/-- The same checks as those of an upsert. -/
def spaceGrantRevoke (inc : Incoming) (space : String) (payload : SpaceGrantUpsertBody)
    : Except ApiError SpaceGrantRequest := inc.spaceGrantUpsert space payload

def noteCorrection (inc : Incoming) (noteId : Uuid) (payload : AdminNoteCorrectionBody)
    : Except ApiError MemoryCorrectionRequest := do
  let ctx ← RequestContext.fromHeaders inc.headers
  return ⟨ctx.tenantId, ctx.projectId, ctx.agentId, noteId, payload.action, payload.reason,
    payload.sourceRef, payload.restoreVersionId⟩

def proposalReview (inc : Incoming) (proposalId : Uuid) (payload : ConsolidationProposalReviewBody)
    : Except ApiError ConsolidationProposalReviewRequest := do
  let ctx ← RequestContext.fromHeaders inc.headers
  return ⟨ctx.tenantId, ctx.projectId, ctx.agentId, proposalId, payload.action, payload.reviewComment⟩

def handle (inc : Incoming) : Call → Except ApiError ServiceRequest
  | .notesIngest payload => .addNote <$> inc.notesIngest payload
  | .eventsIngest payload => .addEvent <$> inc.eventsIngest payload
  | .notesPatch noteId payload => .update <$> inc.notesPatch noteId payload
  | .notesDelete noteId => .delete <$> inc.notesDelete noteId
  | .notesPublish noteId space => .publish <$> inc.notesPublish noteId space
  | .notesUnpublish noteId space => .unpublish <$> inc.notesUnpublish noteId space
  | .spaceGrantUpsert space payload => .grantUpsert <$> inc.spaceGrantUpsert space payload
  | .spaceGrantRevoke space payload => .grantRevoke <$> inc.spaceGrantRevoke space payload
  | .noteCorrection noteId payload => .correct <$> inc.noteCorrection noteId payload
  | .proposalReview proposalId payload => .review <$> inc.proposalReview proposalId payload

end Incoming

/-! ## Steps -/

structure Server where
  svc : ElfService
  security : Security

def Server.middleware (server : Server) (headers : HeaderMap) (drawn : Uuid)
    : Port → Except ApiError (HeaderMap × Option SecurityAuthRole)
  | .api => apiAuthMiddleware server.security headers drawn
  | .admin => adminAuthMiddleware server.security headers drawn

/-- The request of the service that a call is turned into. -/
def Server.route (server : Server) (headers : HeaderMap) (drawn : Uuid) (call : Call)
    : Except ApiError ServiceRequest := do
  let (headers, role) ← server.middleware headers drawn call.port
  Incoming.handle ⟨server.security.authMode, headers, role⟩ call

/-- What happens at a server: a transaction of a call, or one of a worker or a search. -/
inductive Event where
  | call (headers : HeaderMap) (drawn : Uuid) (call : Call)
  | background (op : Op)

/-- What workers and searches do to the tables. -/
def isBackground : Op → Bool
  | .propose _ _ _ | .recordHits _ => true
  | _ => false

inductive Steps (server : Server) : Store → Event → Store → Prop where
  | refused {s : Store} {headers : HeaderMap} {drawn : Uuid} {call : Call} {err : ApiError}
    (h : server.route headers drawn call = .error err)
    : Steps server s (.call headers drawn call) s
  | executed {s t : Store} {headers : HeaderMap} {drawn : Uuid} {call : Call} {req : ServiceRequest}
    {op : Op} {draw : Draw} (h : server.route headers drawn call = .ok req) (hop : req.Issues op)
    (hstep : Elf.Steps s ⟨server.svc, draw, op⟩ t)
    : Steps server s (.call headers drawn call) t
  | background {s t : Store} {op : Op} {draw : Draw} (h : isBackground op = true)
    (hstep : Elf.Steps s ⟨server.svc, draw, op⟩ t)
    : Steps server s (.background op) t

/-! ## Samples -/

/-- A user, an administrator of the same tenant, and an administrator of another one. -/
def sampleServer : Server := {
  svc := sampleService
  security := {
    authMode := "static_keys"
    authKeys := [
      ⟨⟨"token-1", .user⟩, "secret-1", "t", "p", some "a", "all_scopes"⟩,
      ⟨⟨"token-2", .superAdmin⟩, "secret-2", "t", "p", some "root", "all_scopes"⟩,
      ⟨⟨"token-3", .admin⟩, "secret-3", "u", "p", some "a", "all_scopes"⟩] } }

end Elf.Api
