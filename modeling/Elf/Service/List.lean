import Elf.Evidence.Sources

/-!
This module contains the listing of notes: the rows that a request asks for, of which the caller is shown
those that it may read.
-/

namespace Elf

open Text Except

variable (svc : ReadService)

/-! ## Requests -/

structure ListRequest where
  tenantId : String
  projectId : String
  agentId : Option String
  scope : Option String
  status : Option String
  type : Option String

structure ListItem where
  noteId : Uuid
  type : String
  key : Option String
  scope : String
  status : String
  text : String
  importance : F32
  confidence : F32
  updatedAt : Nat
  expiresAt : Option Nat
  sourceRef : Json
deriving DecidableEq

def eqIgnoreAsciiCase (a b : String) : Bool :=
  a.toList.map Char.toLower == b.toList.map Char.toLower

def requestedListStatus (requestedStatus : Option String) : Option String :=
  (requestedStatus.map trim).filter (· ≠ "")

def validateListRequest (req : ListRequest) (tenantId projectId agentId : String)
    (allowedScopes : List String) : Except Error Unit := do
  rejectIf (tenantId == "" || projectId == "")
    (.invalidRequest "tenant_id and project_id are required.")
  rejectIf (req.scope.any fun scope => !allowedScopes.contains scope)
    (.scopeDenied "Scope is not allowed.")
  rejectIf (req.agentId.any fun agentId => trim agentId == "")
    (.invalidRequest "agent_id must not be empty when provided.")
  rejectIf (req.scope == some "agent_private" && agentId == "")
    (.scopeDenied "agent_id is required for agent_private scope.")

/-- The scopes whose notes are checked one by one, or none for the private notes of the caller. -/
def ListRequest.nonPrivateScopes (req : ListRequest) (allowedScopes : List String)
    : Option (List String) :=
  match req.scope.map trim with
  | some scope => if scope = "agent_private" then none else some [scope]
  | none => some (allowedScopes.filter (· ≠ "agent_private"))

/-! ## Rows -/

/-- The condition of the statement, which has no order. -/
def ListRequest.selects (req : ListRequest) (tenantId projectId : String)
    (requestedStatus : Option String) (agentId : String) (now : Nat) (note : MemoryNote) : Bool :=
  note.tenantId = tenantId
    && (note.projectId = projectId
      || ((req.scope.map trim).all (· = "org_shared") && note.projectId = orgProjectId
        && note.scope = "org_shared"))
    && (match req.scope with
      | some scope => note.scope = scope && (scope ≠ "agent_private" || note.agentId = agentId)
      | none => note.scope ≠ "agent_private")
    && note.status = requestedStatus.getD "active"
    && (!eqIgnoreAsciiCase (requestedStatus.getD "active") "active"
      || note.expiresAt.all (timestamptz now < ·))
    && req.type.all (note.type = ·)

def listNotes (s : Store) (req : ListRequest) (tenantId projectId : String)
    (requestedStatus : Option String) (agentId : String) (now : Nat) : List MemoryNote :=
  s.notes.rows.filter (req.selects tenantId projectId requestedStatus agentId now)

/-! ## Access -/

def listSharedGrants (s : Store) (tenantId projectId agentId : String)
    (nonPrivateScopes : Option (List String)) : List SharedSpaceGrantKey :=
  match nonPrivateScopes with
  | none => []
  | some scopes =>
    if agentId = "" then
      []
    else
      loadSharedReadGrantsWithOrgShared s tenantId projectId agentId (scopes.contains "org_shared")

/-- The caller is shown the row. -/
def listReadAllowed (agentId : String) (nonPrivateScopes : Option (List String))
    (sharedGrants : List SharedSpaceGrantKey) (statusForNoteRead : Bool) (now : Nat)
    (note : MemoryNote) : Bool :=
  match nonPrivateScopes with
  | none => true
  | some scopes =>
    if statusForNoteRead then
      noteReadAllowed note agentId scopes sharedGrants now
    else
      note.agentId = agentId || sharedGrants.contains ⟨note.scope, note.agentId⟩

def ListItem.ofNote (note : MemoryNote) : ListItem := {
  noteId := note.noteId
  type := note.type
  key := note.key
  scope := note.scope
  status := note.status
  text := note.text
  importance := note.importance
  confidence := note.confidence
  updatedAt := note.updatedAt
  expiresAt := note.expiresAt
  sourceRef := note.sourceRef }

def mapListItems (notes : List MemoryNote) (agentId : String)
    (nonPrivateScopes : Option (List String)) (sharedGrants : List SharedSpaceGrantKey)
    (statusForNoteRead : Bool) (now : Nat) : List ListItem :=
  (notes.filter (listReadAllowed agentId nonPrivateScopes sharedGrants statusForNoteRead now)).map
    ListItem.ofNote

def ListRequest.list (s : Store) (now : Nat) (req : ListRequest) : Except Error (List ListItem) := do
  let tenantId := trim req.tenantId
  let projectId := trim req.projectId
  let agentId := (req.agentId.map trim).getD ""
  let requestedStatus := requestedListStatus req.status
  let statusForNoteRead := eqIgnoreAsciiCase (requestedStatus.getD "active") "active"
  let allowedScopes := svc.docs.cfg.scopes.allowed
  let nonPrivateScopes := req.nonPrivateScopes allowedScopes
  validateListRequest req tenantId projectId agentId allowedScopes
  let sharedGrants := listSharedGrants s tenantId projectId agentId nonPrivateScopes
  let notes := listNotes s req tenantId projectId requestedStatus agentId now
  return mapListItems notes agentId nonPrivateScopes sharedGrants statusForNoteRead now

end Elf
