import Elf.Service.AddNote

/-!
This module contains the owner's operations on a stored note: `update`, which replaces its text,
scores or time to live, and `delete`, which marks it deleted.
-/

namespace Elf

open Text Except

def noteNotFound : Error := .invalidRequest "Note not found."

/-- The statements after a mutation: the version row and the job for the indexing worker. -/
def writeVersionAndEnqueue (s : Store) (draw : Draw) (op : VersionOp) (prev note : MemoryNote)
    (reason actor : String) (ts : Nat) (job : OutboxOp) : Except Error Store := do
  let s ← insertVersion s {
    versionId := draw.versionId
    noteId := note.noteId
    op
    prevSnapshot := some (noteSnapshot prev)
    newSnapshot := some (noteSnapshot note)
    reason
    actor
    ts }
  enqueueOutboxTx s draw.outboxId note.noteId job note.embeddingVersion ts

/-! ## Update -/

structure UpdateResponse where
  noteId : Uuid
  op : NoteOp
  reasonCode : Option String
deriving DecidableEq

-- The status is compared without regard to ASCII case.
def validateNoteIsUpdatable (note : MemoryNote) (agentId : String) (now : Nat)
    : Except Error Unit := do
  rejectIf (note.agentId ≠ agentId) noteNotFound
  rejectIf (note.status.toLower ≠ "active") noteNotFound
  rejectIf (note.expired now) noteNotFound

/-- The note as an update request leaves it, but for `updated_at`. -/
def UpdateRequest.next (svc : ElfService) (req : UpdateRequest) (note : MemoryNote) (now : Nat)
    : MemoryNote :=
  { note with
    text := req.text.getD note.text
    importance := req.importance.getD note.importance
    confidence := req.confidence.getD note.confidence
    expiresAt :=
      match req.ttlDays with
      | some ttlDays => computeExpiresAt (some ttlDays) note.type svc.cfg now
      | none => note.expiresAt }

def noteChanged (note next : MemoryNote) : Bool :=
  next.text ≠ note.text
    || F32.epsilon.lt (next.importance.sub note.importance).abs
    || F32.epsilon.lt (next.confidence.sub note.confidence).abs
    || next.expiresAt ≠ note.expiresAt

def persistNoteUpdate (s : Store) (draw : Draw) (note prev : MemoryNote) (requestAgentId : String)
    : Except Error Store :=
  let s := updateNoteRow s note.noteId fun row => { row with
    text := note.text
    importance := note.importance
    confidence := note.confidence
    updatedAt := note.updatedAt
    expiresAt := note.expiresAt }
  writeVersionAndEnqueue s draw .update prev note "update" requestAgentId note.updatedAt .upsert

def update (svc : ElfService) (req : UpdateRequest) (draw : Draw)
    : Transaction Error Store UpdateResponse := fun s => do
  let now := draw.clock 0
  let tenantId := trim req.tenantId
  let projectId := trim req.projectId
  let agentId := trim req.agentId
  rejectIf (tenantId = "" || projectId = "" || agentId = "") requiredIds
  rejectIf (req.text.isNone && req.importance.isNone && req.confidence.isNone
    && req.ttlDays.isNone) (.invalidRequest "No updates provided.")
  rejectIf (svc.cfg.ingestMaxBytes < svc.updateBytes req) (.invalidRequest
    "Update exceeds memory.ingest_max_bytes; the existing note is unchanged.")
  let note ← ofOption noteNotFound (loadNote s req.noteId tenantId projectId orgProjectId)
  validateNoteIsUpdatable note agentId now
  rejectIf (req.text.any (!isValidText ·)) (.invalidText "$.text")
  match writegate svc.containsSecrets svc.cfg ⟨note.type, note.scope, req.text.getD note.text⟩ with
  | .error code => return (⟨note.noteId, .rejected, some (writegateReasonCode code)⟩, s)
  | .ok () =>
    let next := req.next svc note now
    if !noteChanged note next then
      return (⟨note.noteId, .none, none⟩, s)
    else
      let s' := if note.text ≠ next.text then deleteNoteFields s note.noteId else s
      let s' ← persistNoteUpdate s' draw { next with updatedAt := now } note agentId
      return (⟨note.noteId, .update, none⟩, s')

/-! ## Delete -/

structure DeleteRequest where
  tenantId : String
  projectId : String
  agentId : String
  noteId : Uuid

structure DeleteResponse where
  noteId : Uuid
  op : NoteOp
deriving DecidableEq

def delete (svc : ElfService) (req : DeleteRequest) (draw : Draw)
    : Transaction Error Store DeleteResponse := fun s => do
  let now := draw.clock 0
  let tenantId := trim req.tenantId
  let projectId := trim req.projectId
  let agentId := trim req.agentId
  rejectIf (tenantId = "" || projectId = "" || agentId = "") requiredIds
  let prev ← ofOption noteNotFound (loadNote s req.noteId tenantId projectId orgProjectId)
  rejectIf (prev.agentId ≠ agentId) noteNotFound
  rejectIf (!svc.cfg.scopes.allowed.contains prev.scope
    || !svc.cfg.scopes.writeAllowed.allows prev.scope) (.scopeDenied "Scope is not allowed.")
  if prev.status = "deleted" then
    return (⟨prev.noteId, .none⟩, s)
  else
    let note := { prev with status := "deleted", updatedAt := now }
    let s := updateNoteRow s note.noteId fun row => { row with
      status := note.status
      updatedAt := note.updatedAt }
    let s ← writeVersionAndEnqueue s draw .delete prev note "delete" agentId now .delete
    return (⟨note.noteId, .delete⟩, s)

end Elf
