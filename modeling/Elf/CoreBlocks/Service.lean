import Elf.Docs.Excerpts
import Elf.Lib.Sorting
import Elf.Service.Op

/-!
This module contains the core memory blocks: texts that are attached to an agent under one of its read
profiles. A block is written by its owner, every change of a block or of an attachment is recorded as
an event, and a reader gets the blocks that are attached to it with the events of each.
-/

namespace Elf

open Text Except

/-! ## Rows -/

inductive CoreBlockStatus where
  | active
  | archived
deriving DecidableEq

def CoreBlockStatus.asStr : CoreBlockStatus → String
  | active => "active"
  | archived => "archived"

/-- A row of `core_memory_blocks`. -/
structure CoreBlock where
  blockId : Uuid
  tenantId : String
  projectId : String
  agentId : String
  scope : String
  key : String
  title : String
  content : String
  sourceRef : Json
  status : CoreBlockStatus
  createdAt : Nat
  updatedAt : Nat
deriving DecidableEq

/-- A row of `core_memory_block_attachments`. -/
structure CoreBlockAttachment where
  attachmentId : Uuid
  blockId : Uuid
  tenantId : String
  projectId : String
  agentId : String
  readProfile : String
  attachedByAgentId : String
  attachedAt : Nat
  detachedByAgentId : Option String
  detachedAt : Option Nat
deriving DecidableEq

inductive CoreBlockEventType where
  | blockCreated
  | blockUpdated
  | attachmentAdded
  | attachmentRemoved
deriving DecidableEq

/-- A row of `core_memory_block_events`. -/
structure CoreBlockEvent where
  eventId : Uuid
  blockId : Uuid
  attachmentId : Option Uuid
  tenantId : String
  projectId : String
  actorAgentId : String
  eventType : CoreBlockEventType
  targetAgentId : Option String
  readProfile : Option String
  prevSnapshot : Option Json
  newSnapshot : Option Json
  reason : String
  ts : Nat
deriving DecidableEq

/-- The tables of the core blocks, with those that requests on notes and grants write. -/
structure CoreBlockDb where
  memory : Store
  blocks : Table CoreBlock CoreBlock.blockId
  attachments : Table CoreBlockAttachment CoreBlockAttachment.attachmentId
  events : Table CoreBlockEvent CoreBlockEvent.eventId
deriving DecidableEq

def CoreBlockDb.empty : CoreBlockDb := ⟨.empty, .empty, .empty, .empty⟩

def blockSnapshot (block : CoreBlock) : Json :=
  .obj [
    ("agent_id", .str block.agentId),
    ("block_id", uuidJson block.blockId),
    ("content", .str block.content),
    ("created_at", timeJson block.createdAt),
    ("key", .str block.key),
    ("project_id", .str block.projectId),
    ("scope", .str block.scope),
    ("source_ref", block.sourceRef),
    ("status", .str block.status.asStr),
    ("tenant_id", .str block.tenantId),
    ("title", .str block.title),
    ("updated_at", timeJson block.updatedAt)]

def attachmentSnapshot (attachment : CoreBlockAttachment) : Json :=
  .obj [
    ("agent_id", .str attachment.agentId),
    ("attached_at", timeJson attachment.attachedAt),
    ("attached_by_agent_id", .str attachment.attachedByAgentId),
    ("attachment_id", uuidJson attachment.attachmentId),
    ("block_id", uuidJson attachment.blockId),
    ("detached_at", .ofOption timeJson attachment.detachedAt),
    ("detached_by_agent_id", .ofOption .str attachment.detachedByAgentId),
    ("project_id", .str attachment.projectId),
    ("read_profile", .str attachment.readProfile),
    ("tenant_id", .str attachment.tenantId)]

/-! ## Requests -/

structure CoreBlocksGetRequest where
  tenantId : String
  projectId : String
  agentId : String
  readProfile : String

structure CoreBlockUpsertRequest where
  tenantId : String
  projectId : String
  agentId : String
  blockId : Option Uuid
  scope : String
  key : String
  title : String
  content : String
  sourceRef : Json
  reason : Option String

structure CoreBlockAttachRequest where
  tenantId : String
  projectId : String
  agentId : String
  blockId : Uuid
  targetAgentId : String
  readProfile : String
  reason : Option String

structure CoreBlockDetachRequest where
  tenantId : String
  projectId : String
  agentId : String
  attachmentId : Uuid
  reason : Option String

structure PreparedGetRequest where
  tenantId : String
  projectId : String
  agentId : String
  readProfile : String
  allowedScopes : List String

structure PreparedUpsertRequest where
  tenantId : String
  projectId : String
  agentId : String
  blockId : Option Uuid
  scope : String
  key : String
  title : String
  content : String
  sourceRef : Json
  reason : String

structure PreparedAttachRequest where
  tenantId : String
  projectId : String
  agentId : String
  blockId : Uuid
  targetAgentId : String
  readProfile : String
  allowedScopes : List String
  reason : String

structure PreparedDetachRequest where
  tenantId : String
  projectId : String
  agentId : String
  attachmentId : Uuid
  reason : String

def maxCoreBlockContentChars : Nat := 2000

def normalizeRequired (raw field : String) : Except Error String :=
  let trimmed := trim raw
  if trimmed = "" then .error (.invalidRequest (field ++ " is required.")) else .ok trimmed

def normalizeReason (reason : Option String) (default : String) : Except Error String :=
  match reason with
  | some value => normalizeRequired value "reason"
  | none => .ok default

def validateBlockWriteScope (cfg : Config) (scope : String) : Except Error Unit := do
  rejectIf (!cfg.scopes.allowed.contains scope) (.scopeDenied "Scope is not allowed.")
  rejectIf (!cfg.scopes.writeAllowed.allows scope) (.scopeDenied "Scope is not allowed.")

def validateBlockText (input : String) (kind : TextKind) (field : String) : Except Error Unit :=
  rejectIf (!validateText input kind) (.invalidText field)

section Prepare

variable (svc : ReadService)

def prepareGetRequest (req : CoreBlocksGetRequest) : Except Error PreparedGetRequest := do
  let tenantId ← normalizeRequired req.tenantId "tenant_id"
  let projectId ← normalizeRequired req.projectId "project_id"
  let agentId ← normalizeRequired req.agentId "agent_id"
  let readProfile ← normalizeRequired req.readProfile "read_profile"
  let allowedScopes ← resolveReadProfileScopes svc readProfile
  return { tenantId, projectId, agentId, readProfile, allowedScopes }

def prepareUpsertRequest (req : CoreBlockUpsertRequest) : Except Error PreparedUpsertRequest := do
  let tenantId ← normalizeRequired req.tenantId "tenant_id"
  let requestedProjectId ← normalizeRequired req.projectId "project_id"
  let agentId ← normalizeRequired req.agentId "agent_id"
  let scope ← normalizeRequired req.scope "scope"
  let key ← normalizeRequired req.key "key"
  let title ← normalizeRequired req.title "title"
  let content ← normalizeRequired req.content "content"
  let reason ← normalizeReason req.reason "core block upsert"
  let projectId := targetProjectId scope requestedProjectId
  validateBlockWriteScope svc.docs.cfg scope
  validateBlockText key .identifier "$.key"
  validateBlockText title .naturalLanguage "$.title"
  validateBlockText content .naturalLanguage "$.content"
  rejectIf (!req.sourceRef.isObject) (.invalidRequest "source_ref must be a JSON object.")
  rejectIf (maxCoreBlockContentChars < content.length) (.invalidRequest "content is too long.")
  return {
    tenantId
    projectId
    agentId
    blockId := req.blockId
    scope
    key
    title
    content
    sourceRef := req.sourceRef
    reason }

def prepareAttachRequest (req : CoreBlockAttachRequest) : Except Error PreparedAttachRequest := do
  let tenantId ← normalizeRequired req.tenantId "tenant_id"
  let projectId ← normalizeRequired req.projectId "project_id"
  let agentId ← normalizeRequired req.agentId "agent_id"
  let targetAgentId ← normalizeRequired req.targetAgentId "target_agent_id"
  let readProfile ← normalizeRequired req.readProfile "read_profile"
  let allowedScopes ← resolveReadProfileScopes svc readProfile
  let reason ← normalizeReason req.reason "core block attachment"
  validateBlockText targetAgentId .identifier "$.target_agent_id"
  return {
    tenantId
    projectId
    agentId
    blockId := req.blockId
    targetAgentId
    readProfile
    allowedScopes
    reason }

def prepareDetachRequest (req : CoreBlockDetachRequest) : Except Error PreparedDetachRequest := do
  let tenantId ← normalizeRequired req.tenantId "tenant_id"
  let projectId ← normalizeRequired req.projectId "project_id"
  let agentId ← normalizeRequired req.agentId "agent_id"
  let reason ← normalizeReason req.reason "core block detach"
  return { tenantId, projectId, agentId, attachmentId := req.attachmentId, reason }

end Prepare

/-! ## Blocks -/

def coreBlockNotFound : Error := .notFound "Core block not found."

def coreBlockKeyExists : Error := .conflict "Core block key already exists."

/-- The rows that share an active key, which a partial unique index keeps down to one. -/
def CoreBlock.holdsKey (block : CoreBlock) (tenantId projectId agentId scope key : String) : Bool :=
  block.tenantId = tenantId && block.projectId = projectId && block.agentId = agentId
    && block.scope = scope && block.key = key && block.status = .active

def ensureNoActiveKeyConflict (db : CoreBlockDb) (req : PreparedUpsertRequest)
    (blockId : Option Uuid) : Except Error Unit :=
  rejectIf (db.blocks.rows.any fun block =>
      block.holdsKey req.tenantId req.projectId req.agentId req.scope req.key
        && blockId.all (block.blockId ≠ ·))
    coreBlockKeyExists

def PreparedUpsertRequest.newBlock (req : PreparedUpsertRequest) (blockId : Uuid) (now : Nat)
    : CoreBlock := {
  blockId
  tenantId := req.tenantId
  projectId := req.projectId
  agentId := req.agentId
  scope := req.scope
  key := req.key
  title := req.title
  content := req.content
  sourceRef := req.sourceRef
  status := .active
  createdAt := timestamptz now
  updatedAt := timestamptz now }

def insertCoreBlock (db : CoreBlockDb) (req : PreparedUpsertRequest) (blockId : Uuid) (now : Nat)
    : Except Error (CoreBlock × CoreBlockDb) := do
  ensureNoActiveKeyConflict db req none
  let row := req.newBlock blockId now
  let blocks ← db.blocks.insert row duplicateKey
  return (row, { db with blocks })

def PreparedUpsertRequest.owns (req : PreparedUpsertRequest) (block : CoreBlock) : Bool :=
  block.tenantId = req.tenantId && block.projectId = req.projectId && block.agentId = req.agentId
    && block.scope = req.scope && block.status = .active

def fetchOwnedBlockForUpdate (db : CoreBlockDb) (req : PreparedUpsertRequest) (blockId : Uuid)
    : Except Error CoreBlock :=
  ofOption coreBlockNotFound ((db.blocks.find? blockId).filter req.owns)

def PreparedUpsertRequest.update (req : PreparedUpsertRequest) (now : Nat) (block : CoreBlock)
    : CoreBlock :=
  { block with
    key := req.key
    title := req.title
    content := req.content
    sourceRef := req.sourceRef
    updatedAt := timestamptz now }

theorem PreparedUpsertRequest.update_blockId (req : PreparedUpsertRequest) (now : Nat)
    (block : CoreBlock) : (req.update now block).blockId = block.blockId := rfl

def updateCoreBlock (db : CoreBlockDb) (req : PreparedUpsertRequest) (blockId : Uuid) (now : Nat)
    : Except Error (CoreBlock × Option Json × CoreBlockDb) := do
  let prev ← fetchOwnedBlockForUpdate db req blockId
  ensureNoActiveKeyConflict db req (some blockId)
  -- The row is locked since it was fetched, so that the update finds it as it was.
  let blocks := db.blocks.modify blockId (req.update now) (req.update_blockId now)
  return (req.update now prev, some (blockSnapshot prev), { db with blocks })

/-! ## Attachments -/

def fetchActiveBlockForAttachment (db : CoreBlockDb) (req : PreparedAttachRequest)
    : Except Error CoreBlock :=
  ofOption coreBlockNotFound ((db.blocks.find? req.blockId).filter fun block =>
    block.tenantId = req.tenantId && block.status = .active
      && (block.projectId = req.projectId
        || (block.projectId = orgProjectId && block.scope = "org_shared")))

def blockReadAllowed (block : CoreBlock) (requesterAgentId : String) (allowedScopes : List String)
    (sharedGrants : List SharedSpaceGrantKey) : Bool :=
  if block.status ≠ .active then
    false
  else if !allowedScopes.contains block.scope then
    false
  else if block.scope = "agent_private" then
    block.agentId = requesterAgentId
  else if !isSharedScope block.scope then
    false
  else if block.agentId = requesterAgentId then
    true
  else
    sharedGrants.contains ⟨block.scope, block.agentId⟩

/-- The rows of the partial unique index on the attachments that are not detached. -/
def CoreBlockAttachment.isActiveFor (attachment : CoreBlockAttachment)
    (tenantId projectId agentId readProfile : String) (blockId : Uuid) : Bool :=
  attachment.tenantId = tenantId && attachment.projectId = projectId
    && attachment.agentId = agentId && attachment.readProfile = readProfile
    && attachment.blockId = blockId && attachment.detachedAt.isNone

def PreparedAttachRequest.newAttachment (req : PreparedAttachRequest) (attachmentId : Uuid)
    (now : Nat) : CoreBlockAttachment := {
  attachmentId
  blockId := req.blockId
  tenantId := req.tenantId
  projectId := req.projectId
  agentId := req.targetAgentId
  readProfile := req.readProfile
  attachedByAgentId := req.agentId
  attachedAt := timestamptz now
  detachedByAgentId := none
  detachedAt := none }

def PreparedAttachRequest.reattach (req : PreparedAttachRequest) (now : Nat)
    (attachment : CoreBlockAttachment) : CoreBlockAttachment :=
  { attachment with
    attachedByAgentId := req.agentId
    attachedAt := timestamptz now
    detachedByAgentId := none
    detachedAt := none }

theorem PreparedAttachRequest.reattach_attachmentId (req : PreparedAttachRequest) (now : Nat)
    (attachment : CoreBlockAttachment)
    : (req.reattach now attachment).attachmentId = attachment.attachmentId := rfl

def upsertCoreBlockAttachment (db : CoreBlockDb) (req : PreparedAttachRequest)
    (attachmentId : Uuid) (now : Nat) : Except Error (CoreBlockAttachment × CoreBlockDb) :=
  match db.attachments.rows.find? (·.isActiveFor req.tenantId req.projectId req.targetAgentId
      req.readProfile req.blockId) with
  | some existing =>
    -- ON CONFLICT DO UPDATE
    let attachments := db.attachments.modify existing.attachmentId (req.reattach now)
      (req.reattach_attachmentId now)
    .ok (req.reattach now existing, { db with attachments })
  | none => do
    let row := req.newAttachment attachmentId now
    let attachments ← db.attachments.insert row duplicateKey
    return (row, { db with attachments })

def fetchActiveAttachmentForUpdate (db : CoreBlockDb) (req : PreparedDetachRequest)
    : Option CoreBlockAttachment :=
  (db.attachments.find? req.attachmentId).filter fun attachment =>
    attachment.tenantId = req.tenantId && attachment.projectId = req.projectId
      && attachment.detachedAt.isNone

def PreparedDetachRequest.detach (req : PreparedDetachRequest) (now : Nat)
    (attachment : CoreBlockAttachment) : CoreBlockAttachment :=
  { attachment with
    detachedByAgentId := some req.agentId
    detachedAt := some (timestamptz now) }

theorem PreparedDetachRequest.detach_attachmentId (req : PreparedDetachRequest) (now : Nat)
    (attachment : CoreBlockAttachment)
    : (req.detach now attachment).attachmentId = attachment.attachmentId := rfl

/-! ## The service -/

/-- What a request draws: the clock, and the identifiers of the rows it inserts. -/
structure CoreBlockDraw where
  now : Nat
  rowId : Uuid
  eventId : Uuid

def insertCoreBlockEvent (db : CoreBlockDb) (event : CoreBlockEvent)
    : Except Error CoreBlockDb := do
  let events ← db.events.insert { event with ts := timestamptz event.ts } duplicateKey
  return { db with events }

section Service

variable (svc : ReadService)

def blockEvent (req : PreparedUpsertRequest) (draw : CoreBlockDraw) (row : CoreBlock)
    (prevSnapshot : Option Json) : CoreBlockEvent := {
  eventId := draw.eventId
  blockId := row.blockId
  attachmentId := none
  tenantId := req.tenantId
  projectId := req.projectId
  actorAgentId := req.agentId
  eventType := if req.blockId.isSome then .blockUpdated else .blockCreated
  targetAgentId := none
  readProfile := none
  prevSnapshot
  newSnapshot := some (blockSnapshot row)
  reason := req.reason
  ts := draw.now }

/-- A request with a block updates it, one without creates a new block. -/
def writeCoreBlock (db : CoreBlockDb) (req : PreparedUpsertRequest) (draw : CoreBlockDraw)
    : Except Error (CoreBlock × Option Json × CoreBlockDb) :=
  match req.blockId with
  | some blockId => updateCoreBlock db req blockId draw.now
  | none => do
    let (row, db) ← insertCoreBlock db req draw.rowId draw.now
    return (row, none, db)

def coreBlockUpsert (req : CoreBlockUpsertRequest) (draw : CoreBlockDraw)
    : Transaction Error CoreBlockDb CoreBlock := fun db => do
  let prepared ← prepareUpsertRequest svc req
  let (row, prevSnapshot, db) ← writeCoreBlock db prepared draw
  let db ← insertCoreBlockEvent db (blockEvent prepared draw row prevSnapshot)
  return (row, db)

def attachmentAddedEvent (req : PreparedAttachRequest) (draw : CoreBlockDraw)
    (attachment : CoreBlockAttachment) : CoreBlockEvent := {
  eventId := draw.eventId
  blockId := attachment.blockId
  attachmentId := some attachment.attachmentId
  tenantId := req.tenantId
  projectId := req.projectId
  actorAgentId := req.agentId
  eventType := .attachmentAdded
  targetAgentId := some req.targetAgentId
  readProfile := some req.readProfile
  prevSnapshot := none
  newSnapshot := some (attachmentSnapshot attachment)
  reason := req.reason
  ts := draw.now }

def coreBlockAttach (req : CoreBlockAttachRequest) (draw : CoreBlockDraw)
    : Transaction Error CoreBlockDb CoreBlockAttachment := fun db => do
  let prepared ← prepareAttachRequest svc req
  let block ← fetchActiveBlockForAttachment db prepared
  let sharedGrants := loadSharedReadGrantsWithOrgShared db.memory prepared.tenantId
    prepared.projectId prepared.targetAgentId (prepared.allowedScopes.contains "org_shared")
  rejectIf (!blockReadAllowed block prepared.targetAgentId prepared.allowedScopes sharedGrants)
    (.scopeDenied "Block scope is not allowed for this attachment.")
  let (attachment, db) ← upsertCoreBlockAttachment db prepared draw.rowId draw.now
  let db ← insertCoreBlockEvent db (attachmentAddedEvent prepared draw attachment)
  return (attachment, db)

structure CoreBlockDetachResponse where
  attachmentId : Uuid
  detached : Bool
deriving DecidableEq

def attachmentRemovedEvent (req : PreparedDetachRequest) (draw : CoreBlockDraw)
    (prev updated : CoreBlockAttachment) : CoreBlockEvent := {
  eventId := draw.eventId
  blockId := updated.blockId
  attachmentId := some updated.attachmentId
  tenantId := req.tenantId
  projectId := req.projectId
  actorAgentId := req.agentId
  eventType := .attachmentRemoved
  targetAgentId := some updated.agentId
  readProfile := some updated.readProfile
  prevSnapshot := some (attachmentSnapshot prev)
  newSnapshot := some (attachmentSnapshot updated)
  reason := req.reason
  ts := draw.now }

def coreBlockDetach (req : CoreBlockDetachRequest) (draw : CoreBlockDraw)
    : Transaction Error CoreBlockDb CoreBlockDetachResponse := fun db => do
  let prepared ← prepareDetachRequest req
  match fetchActiveAttachmentForUpdate db prepared with
  | none => return (⟨prepared.attachmentId, false⟩, db)
  | some prev =>
    let updated := prepared.detach draw.now prev
    let attachments := db.attachments.modify prev.attachmentId (prepared.detach draw.now)
      (prepared.detach_attachmentId draw.now)
    let db ← insertCoreBlockEvent { db with attachments }
      (attachmentRemovedEvent prepared draw prev updated)
    return (⟨updated.attachmentId, true⟩, db)

/-! ## Reading -/

structure CoreBlockJoinedRow where
  attachment : CoreBlockAttachment
  block : CoreBlock
deriving DecidableEq

/-- The order in which the database compares texts. -/
abbrev Collation := String → String → Ordering

/-- `JOIN core_memory_blocks … ORDER BY a.attached_at ASC, b.key ASC` -/
def fetchAttachedBlockRows (collate : Collation) (db : CoreBlockDb)
    (tenantId projectId agentId readProfile : String) : List CoreBlockJoinedRow :=
  Sorting.sortBy (compareLex (compareOn (·.attachment.attachedAt))
      fun a b => collate a.block.key b.block.key)
    ((db.attachments.rows.filter fun attachment =>
        attachment.tenantId = tenantId && attachment.projectId = projectId
          && attachment.agentId = agentId && attachment.readProfile = readProfile
          && attachment.detachedAt.isNone).filterMap fun attachment =>
      ((db.blocks.find? attachment.blockId).filter (·.status = .active)).map
        (CoreBlockJoinedRow.mk attachment))

def filterVisibleRows (rows : List CoreBlockJoinedRow) (allowedScopes : List String)
    (sharedGrants : List SharedSpaceGrantKey) : List CoreBlockJoinedRow :=
  rows.filter fun row =>
    blockReadAllowed row.block row.attachment.agentId allowedScopes sharedGrants

/-- The events of one block, `ORDER BY ts ASC, event_id ASC`. -/
def fetchAuditHistory (db : CoreBlockDb) (blockId : Uuid) : List CoreBlockEvent :=
  Sorting.sortBy (compareLex (compareOn CoreBlockEvent.ts) (compareOn CoreBlockEvent.eventId))
    (db.events.rows.filter fun event => event.blockId = blockId)

structure CoreBlockItem where
  row : CoreBlockJoinedRow
  auditHistory : List CoreBlockEvent
deriving DecidableEq

structure CoreBlocksResponse where
  tenantId : String
  projectId : String
  agentId : String
  readProfile : String
  items : List CoreBlockItem
deriving DecidableEq

def coreBlocksGet (collate : Collation) (db : CoreBlockDb) (req : CoreBlocksGetRequest)
    : Except Error CoreBlocksResponse := do
  let prepared ← prepareGetRequest svc req
  let rows := fetchAttachedBlockRows collate db prepared.tenantId prepared.projectId
    prepared.agentId prepared.readProfile
  let sharedGrants := loadSharedReadGrantsWithOrgShared db.memory prepared.tenantId
    prepared.projectId prepared.agentId (prepared.allowedScopes.contains "org_shared")
  let visible := filterVisibleRows rows prepared.allowedScopes sharedGrants
  return {
    tenantId := prepared.tenantId
    projectId := prepared.projectId
    agentId := prepared.agentId
    readProfile := prepared.readProfile
    items := visible.map fun row => ⟨row, fetchAuditHistory db row.block.blockId⟩ }

end Service

/-! ## Steps -/

/-- One request: on the core blocks, or on the notes and grants beside them. -/
inductive CoreBlockOp where
  | upsert (req : CoreBlockUpsertRequest)
  | attach (req : CoreBlockAttachRequest)
  | detach (req : CoreBlockDetachRequest)
  | memory (step : Step)

structure CoreBlockStep where
  svc : ReadService
  draw : CoreBlockDraw
  op : CoreBlockOp

/-- The tables after the transaction of a request, which leaves them as they are where it fails. -/
def CoreBlockStep.next (a : CoreBlockStep) (db : CoreBlockDb) : CoreBlockDb :=
  match a.op with
  | .upsert req => (coreBlockUpsert a.svc req a.draw).next db
  | .attach req => (coreBlockAttach a.svc req a.draw).next db
  | .detach req => (coreBlockDetach req a.draw).next db
  | .memory step => { db with memory := step.exec.next db.memory }

/-- The step relation of the core blocks. -/
def CoreBlockSteps (db : CoreBlockDb) (a : CoreBlockStep) (db' : CoreBlockDb) : Prop :=
  a.next db = db'

end Elf
