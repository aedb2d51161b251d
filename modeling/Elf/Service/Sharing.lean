import Elf.Service.Update

/-!
This module contains the operations that move a note between scopes, and those on the grants of a
shared scope.
-/

namespace Elf

open Text Except

structure PublishNoteRequest where
  tenantId : String
  projectId : String
  agentId : String
  noteId : Uuid
  scope : String

structure PublishNoteResponse where
  noteId : Uuid
  scope : String
deriving DecidableEq

structure UnpublishNoteRequest where
  tenantId : String
  projectId : String
  agentId : String
  noteId : Uuid

/-- Only shared scopes can be published to. -/
def sharedScopeAllowed (cfg : Config) : String → Bool
  | "project_shared" => cfg.scopes.writeAllowed.projectShared
  | "org_shared" => cfg.scopes.writeAllowed.orgShared
  | _ => false

/-- The project that owns the notes of a scope. -/
def targetProjectId (scope projectId : String) : String :=
  if scope = "org_shared" then orgProjectId else projectId

/-- The note a sharing request is about, which its owner must still be able to change. -/
def loadOwnedActiveNote (s : Store) (noteId : Uuid) (tenantId projectId agentId : String)
    (now : Nat) : Except Error MemoryNote := do
  let note ← ofOption noteNotFound (loadNote s noteId tenantId projectId orgProjectId)
  rejectIf (note.agentId ≠ agentId) noteNotFound
  rejectIf (note.status ≠ "active") noteNotFound
  rejectIf (note.expired now) noteNotFound
  return note

def publishNote (svc : ElfService) (req : PublishNoteRequest) (draw : Draw)
    : Transaction Error Store PublishNoteResponse := fun s => do
  let tenantId := trim req.tenantId
  let projectId := trim req.projectId
  let agentId := trim req.agentId
  rejectIf (tenantId = "" || projectId = "" || agentId = "") requiredIds
  let prev ← loadOwnedActiveNote s req.noteId tenantId projectId agentId (draw.clock 0)
  rejectIf (!sharedScopeAllowed svc.cfg req.scope) (.scopeDenied "Scope is not allowed.")
  let target := targetProjectId req.scope projectId
  let s' ← ensureActiveProjectScopeGrant s draw.grantId tenantId target req.scope agentId
    (draw.clock 1)
  if prev.scope = req.scope && prev.projectId = target then
    -- The code returns here without a commit, so the transaction is rolled back.
    return (⟨prev.noteId, prev.scope⟩, s)
  else
    let now := draw.clock 2
    let note := { prev with scope := req.scope, projectId := target, updatedAt := now }
    let s' := updateNoteRow s' note.noteId fun row => { row with
      scope := req.scope
      projectId := note.projectId
      updatedAt := now }
    let s' ← writeVersionAndEnqueue s' draw .publish prev note "publish_note" agentId now .upsert
    return (⟨note.noteId, note.scope⟩, s')

/-- The project that an unpublished note returns to. -/
def unpublishedProjectId (prev : MemoryNote) (projectId : String) : String :=
  if prev.scope = "org_shared" && prev.projectId = orgProjectId then projectId else prev.projectId

def unpublishNote (svc : ElfService) (req : UnpublishNoteRequest) (draw : Draw)
    : Transaction Error Store PublishNoteResponse := fun s => do
  let tenantId := trim req.tenantId
  let projectId := trim req.projectId
  let agentId := trim req.agentId
  rejectIf (tenantId = "" || projectId = "" || agentId = "") requiredIds
  let prev ← loadOwnedActiveNote s req.noteId tenantId projectId agentId (draw.clock 0)
  rejectIf (!svc.cfg.scopes.writeAllowed.agentPrivate) (.scopeDenied "Scope is not allowed.")
  if prev.scope = "agent_private" then
    return (⟨prev.noteId, prev.scope⟩, s)
  else
    let now := draw.clock 1
    let note := { prev with
      projectId := unpublishedProjectId prev projectId
      scope := "agent_private"
      updatedAt := now }
    let s := updateNoteRow s note.noteId fun row => { row with
      scope := note.scope
      projectId := note.projectId
      updatedAt := now }
    let s ← writeVersionAndEnqueue s draw .unpublish prev note "unpublish_note" agentId now .upsert
    return (⟨note.noteId, note.scope⟩, s)

/-! ## Grants -/

structure SpaceGrantRequest where
  tenantId : String
  projectId : String
  agentId : String
  scope : String
  granteeKind : GranteeKind
  granteeAgentId : Option String

/-- The grantee of a request, trimmed, and none when blank. -/
def SpaceGrantRequest.grantee (req : SpaceGrantRequest) : Option String :=
  (req.granteeAgentId.map trim).filter (· ≠ "")

def granteeRequired : Error :=
  .invalidRequest "grantee_agent_id is required for agent grantee_kind."

def granteeForbidden : Error :=
  .invalidRequest "grantee_agent_id must be empty for project grantee_kind."

def SpaceGrant.isActiveAgentGrant (grant : SpaceGrant)
    (tenantId projectId scope spaceOwnerAgentId : String) (grantee : Option String) : Bool :=
  grant.tenantId = tenantId && grant.projectId = projectId && grant.scope = scope
    && grant.spaceOwnerAgentId = spaceOwnerAgentId && grant.revokedAt.isNone
    && grant.granteeKind = .agent && grant.granteeAgentId = grantee

theorem grantId_regranted (grantedByAgentId : String) (now : Nat) (grant : SpaceGrant)
    : { grant with
          grantedByAgentId
          grantedAt := timestamptz now
          revokedAt := none
          revokedByAgentId := none }.grantId = grant.grantId := rfl

def upsertAgentGrant (s : Store) (grantId : Uuid)
    (tenantId projectId scope spaceOwnerAgentId : String) (grantee : Option String) (now : Nat)
    : Except Error Store :=
  -- CHECK: nobody grants the own space to oneself.
  if grantee = some spaceOwnerAgentId then
    .error (.storage "violates check constraint ck_memory_space_grants_owner_not_grantee_agent")
  else
    match s.grants.rows.find?
        (·.isActiveAgentGrant tenantId projectId scope spaceOwnerAgentId grantee) with
    | some existing =>
      let grants := s.grants.modify existing.grantId
        (fun grant => { grant with
          grantedByAgentId := spaceOwnerAgentId
          grantedAt := timestamptz now
          revokedAt := none
          revokedByAgentId := none })
        (grantId_regranted spaceOwnerAgentId now)
      .ok { s with grants }
    | none => do
      let grant : SpaceGrant := {
        grantId
        tenantId
        projectId
        scope
        spaceOwnerAgentId
        granteeKind := .agent
        granteeAgentId := grantee
        grantedByAgentId := spaceOwnerAgentId
        grantedAt := timestamptz now
        revokedByAgentId := none
        revokedAt := none }
      let grants ← s.grants.insert grant duplicateKey
      return { s with grants }

def upsertGrant (s : Store) (req : SpaceGrantRequest) (draw : Draw) : Except Error Store :=
  let target := targetProjectId req.scope (trim req.projectId)
  match req.granteeKind with
  | .project =>
    upsertProjectGrant s draw.grantId (trim req.tenantId) target req.scope (trim req.agentId)
      (draw.clock 0)
  | .agent =>
    upsertAgentGrant s draw.grantId (trim req.tenantId) target req.scope (trim req.agentId)
      req.grantee (draw.clock 0)

def spaceGrantUpsert (svc : ElfService) (req : SpaceGrantRequest) (draw : Draw)
    : Transaction Error Store Unit := fun s => do
  let tenantId := trim req.tenantId
  let projectId := trim req.projectId
  let agentId := trim req.agentId
  rejectIf (tenantId = "" || projectId = "" || agentId = "") requiredIds
  rejectIf (!sharedScopeAllowed svc.cfg req.scope) (.scopeDenied "Scope is not allowed.")
  rejectIf (req.granteeKind = .agent && req.grantee.isNone) granteeRequired
  rejectIf (req.granteeKind = .project && req.grantee.isSome) granteeForbidden
  let s ← upsertGrant s req draw
  return ((), s)

/-- The active grants that a revocation is about. -/
def SpaceGrantRequest.revokes (req : SpaceGrantRequest) (grant : SpaceGrant) : Bool :=
  grant.tenantId = trim req.tenantId
    && grant.projectId = targetProjectId req.scope (trim req.projectId)
    && grant.scope = req.scope && grant.spaceOwnerAgentId = trim req.agentId
    && grant.granteeKind = req.granteeKind
    && ((grant.granteeKind = .project && grant.granteeAgentId.isNone)
      || (grant.granteeKind = .agent && grant.granteeAgentId = req.grantee))
    && grant.revokedAt.isNone

/-- `UPDATE memory_space_grants SET revoked_at, revoked_by_agent_id` on the rows that match. -/
def revokeWhere (grants : Table SpaceGrant SpaceGrant.grantId) (p : SpaceGrant → Bool)
    (agentId : String) (now : Nat) : Table SpaceGrant SpaceGrant.grantId :=
  grants.updateWhere p fun row =>
    { row with revokedAt := some (timestamptz now), revokedByAgentId := some agentId }

def spaceGrantRevoke (svc : ElfService) (req : SpaceGrantRequest) (draw : Draw)
    : Transaction Error Store Unit := fun s => do
  let tenantId := trim req.tenantId
  let projectId := trim req.projectId
  let agentId := trim req.agentId
  rejectIf (tenantId = "" || projectId = "" || agentId = "") requiredIds
  rejectIf (req.granteeKind = .agent && req.grantee.isNone) granteeRequired
  rejectIf (req.granteeKind = .project && req.grantee.isSome) granteeForbidden
  rejectIf (!sharedScopeAllowed svc.cfg req.scope) (.scopeDenied "Scope is not allowed.")
  rejectIf (s.grants.rows.filter req.revokes).isEmpty (.invalidRequest "No active grant found.")
  return ((), { s with grants := revokeWhere s.grants req.revokes agentId (draw.clock 0) })

end Elf
