import Elf.Service.History

/-!
This module contains who may read a note, and the grants that open a shared scope to the readers of
a project.
-/

namespace Elf

def orgProjectId : String := "__org__"

def isSharedScope (scope : String) : Bool :=
  scope = "project_shared" || scope = "org_shared"

/-- Whose notes of which shared scope are readable. -/
structure SharedSpaceGrantKey where
  scope : String
  spaceOwnerAgentId : String
deriving DecidableEq

def noteReadAllowed (note : MemoryNote) (requesterAgentId : String) (allowedScopes : List String)
    (sharedGrants : List SharedSpaceGrantKey) (now : Nat) : Bool :=
  if note.status ≠ "active" then
    false
  else if note.expired now then
    false
  else if !allowedScopes.contains note.scope then
    false
  else if note.scope = "agent_private" then
    note.agentId = requesterAgentId
  else if !isSharedScope note.scope then
    false
  else if note.agentId = requesterAgentId then
    true
  else
    sharedGrants.contains ⟨note.scope, note.agentId⟩

def SpaceGrant.reaches (grant : SpaceGrant) (granteeAgentId : String) : Bool :=
  grant.granteeKind = .project
    || (grant.granteeKind = .agent && grant.granteeAgentId = some granteeAgentId)

def SpaceGrant.grantKey (grant : SpaceGrant) : SharedSpaceGrantKey :=
  ⟨grant.scope, grant.spaceOwnerAgentId⟩

def loadSharedReadGrants (s : Store) (tenantId projectId granteeAgentId : String)
    : List SharedSpaceGrantKey :=
  (s.grants.rows.filter fun grant =>
    grant.tenantId = tenantId && grant.projectId = projectId && grant.revokedAt.isNone
      && isSharedScope grant.scope && grant.reaches granteeAgentId).map SpaceGrant.grantKey

def loadSharedReadGrantsWithOrgShared (s : Store) (tenantId projectId granteeAgentId : String)
    (orgSharedAllowed : Bool) : List SharedSpaceGrantKey :=
  if !orgSharedAllowed then
    loadSharedReadGrants s tenantId projectId granteeAgentId
  else
    (s.grants.rows.filter fun grant =>
      grant.tenantId = tenantId && grant.revokedAt.isNone
        && ((grant.projectId = projectId && grant.scope = "project_shared")
          || (grant.scope = "org_shared" && grant.projectId = orgProjectId))
        && grant.reaches granteeAgentId).map SpaceGrant.grantKey

/-- The rows of the partial unique index on the active project grants. -/
def SpaceGrant.isActiveProjectGrant (grant : SpaceGrant)
    (tenantId projectId scope spaceOwnerAgentId : String) : Bool :=
  grant.tenantId = tenantId && grant.projectId = projectId && grant.scope = scope
    && grant.spaceOwnerAgentId = spaceOwnerAgentId && grant.revokedAt.isNone
    && grant.granteeKind = .project

def upsertProjectGrant (s : Store) (grantId : Uuid)
    (tenantId projectId scope spaceOwnerAgentId : String) (now : Nat) : Except Error Store :=
  match s.grants.rows.find? (·.isActiveProjectGrant tenantId projectId scope spaceOwnerAgentId) with
  | some existing =>
    -- ON CONFLICT DO UPDATE
    .ok { s with grants := s.grants.modify existing.grantId fun grant =>
      { grant with
        grantedByAgentId := spaceOwnerAgentId
        grantedAt := timestamptz now
        revokedAt := none
        revokedByAgentId := none } }
  | none => do
    let grant : SpaceGrant := {
      grantId
      tenantId
      projectId
      scope
      spaceOwnerAgentId
      granteeKind := .project
      granteeAgentId := none
      grantedByAgentId := spaceOwnerAgentId
      grantedAt := timestamptz now
      revokedByAgentId := none
      revokedAt := none }
    let grants ← s.grants.insert grant duplicateKey
    return { s with grants }

def ensureActiveProjectScopeGrant (s : Store) (grantId : Uuid)
    (tenantId projectId scope spaceOwnerAgentId : String) (now : Nat) : Except Error Store :=
  if !isSharedScope scope then
    .ok s
  else
    upsertProjectGrant s grantId tenantId projectId scope spaceOwnerAgentId now

/-- Some active grant opens the owner's shared space to the whole project. -/
def Store.hasActiveProjectGrant (s : Store) (tenantId projectId scope spaceOwnerAgentId : String)
    : Prop :=
  ∃ grant ∈ s.grants, grant.isActiveProjectGrant tenantId projectId scope spaceOwnerAgentId = true

instance (s : Store) (tenantId projectId scope spaceOwnerAgentId : String)
    : Decidable (s.hasActiveProjectGrant tenantId projectId scope spaceOwnerAgentId) :=
  inferInstanceAs (Decidable (∃ grant ∈ s.grants.rows, _ = true))

end Elf
