import Elf.Service.Update

/-!
This module contains the corrections of an approved memory: supersede and delete, which take a note
out of the readers' sight, and restore, which brings back the note of an earlier version.
-/

namespace Elf

open Text Except

inductive MemoryCorrectionAction where
  | supersede
  | delete
  | restore
deriving DecidableEq

def MemoryCorrectionAction.asStr : MemoryCorrectionAction → String
  | .supersede => "supersede"
  | .delete => "delete"
  | .restore => "restore"

structure MemoryCorrectionRequest where
  tenantId : String
  projectId : String
  actorAgentId : String
  noteId : Uuid
  action : MemoryCorrectionAction
  reason : String
  sourceRef : Json
  restoreVersionId : Option Uuid

structure MemoryCorrectionResponse where
  noteId : Uuid
  action : MemoryCorrectionAction
  op : NoteOp
  status : String
  versionId : Option Uuid
deriving DecidableEq

/-! ## Validation -/

def validateCorrectionRequest (tenantId projectId actorAgentId reason : String) (sourceRef : Json)
    : Except Error Unit := do
  rejectIf (tenantId = "" || projectId = "" || actorAgentId = "")
    (.invalidRequest "tenant_id, project_id, and actor_agent_id are required.")
  rejectIf (reason = "") (.invalidRequest "reason must not be empty.")
  rejectIf (!sourceRef.isNonEmptyObject)
    (.invalidRequest "source_ref must be a non-empty JSON object.")

def validateWriteScope (note : MemoryNote) (scopes : Scopes) : Except Error Unit := do
  rejectIf (!scopes.allowed.contains note.scope) (.scopeDenied "Scope is not allowed.")
  rejectIf (!scopes.writeAllowed.allows note.scope) (.scopeDenied "Scope is not writable.")

def restoreFieldError (field problem : String) : Error :=
  .invalidRequest ("Restore snapshot field " ++ field ++ " " ++ problem)

def requiredString (snapshot : Json) (field : String) : Except Error String :=
  ofOption (restoreFieldError field "must be a non-empty string.")
    (((snapshot.get field).bind Json.asStr).filter (!isBlank ·))

def optionalString (snapshot : Json) (field : String) : Except Error (Option String) :=
  match snapshot.get field with
  | none | some .null => .ok none
  | some (.str value) => .ok (some value)
  | _ => .error (restoreFieldError field "must be a string or null.")

def requiredF32 (snapshot : Json) (field : String) : Except Error F32 := do
  let value ← ofOption (restoreFieldError field "must be a number.")
    ((snapshot.get field).bind Json.asNum)
  rejectIf (value < -F32.max || F32.max < value) (restoreFieldError field "is out of range.")
  return .fin value

def optionalOffsetDatetime (snapshot : Json) (field : String) : Except Error (Option Nat) :=
  match snapshot.get field with
  | none | some .null => .ok none
  | some (.num n) =>
    if n.den = 1 ∧ 0 ≤ n.num then
      .ok (some n.num.toNat)
    else
      .error (restoreFieldError field "is not a valid timestamp.")
  | _ => .error (restoreFieldError field "is not a valid timestamp.")

/-- The note with the restorable fields of a snapshot. The project is not one of them. -/
def applyRestoreSnapshot (note : MemoryNote) (snapshot : Json) (now : Nat)
    : Except Error MemoryNote := do
  let status ← requiredString snapshot "status"
  rejectIf (status ≠ "active")
    (.invalidRequest "Restore snapshot must represent an active memory.")
  let scope ← requiredString snapshot "scope"
  let type ← requiredString snapshot "type"
  let key ← optionalString snapshot "key"
  let text ← requiredString snapshot "text"
  let importance ← requiredF32 snapshot "importance"
  let confidence ← requiredF32 snapshot "confidence"
  let expiresAt ← optionalOffsetDatetime snapshot "expires_at"
  return { note with
    scope
    type
    key
    text
    importance
    confidence
    status
    updatedAt := now
    expiresAt }

/-- The status, freshness and reason that a correction's source reference records. -/
def MemoryCorrectionAction.lifecycle : MemoryCorrectionAction → String × String × String
  | .supersede => ("deprecated", "superseded", "MEMORY_SUPERSEDED_BY_CORRECTION")
  | .delete => ("deleted", "tombstoned", "MEMORY_DELETED_BY_CORRECTION")
  | .restore => ("active", "current", "MEMORY_RESTORED_BY_ROLLBACK")

def correctionSourceRefFor (action : MemoryCorrectionAction)
    (priorSnapshot correctionSourceRef : Json) (reason actorAgentId : String) (now : Nat)
    (restoreVersionId : Option Uuid) : Json :=
  let (status, freshness, reasonCode) := action.lifecycle
  .obj [
    ("action", .str action.asStr),
    ("actor_agent_id", .str actorAgentId),
    ("correction_source_ref", correctionSourceRef),
    ("lifecycle", .obj [
      ("actor_agent_id", .str actorAgentId),
      ("freshness", .str freshness),
      ("reason_code", .str reasonCode),
      ("restore_version_id", .ofOption uuidJson restoreVersionId),
      ("schema", .str "elf.memory_authority_lifecycle/v1"),
      ("status", .str status),
      ("ts", timeJson now)]),
    ("prior_snapshot", priorSnapshot),
    ("prior_source_ref", (priorSnapshot.get "source_ref").getD (.obj [])),
    ("reason", .str reason),
    ("restore_version_id", .ofOption uuidJson restoreVersionId),
    ("schema", .str "elf.memory_correction/v1"),
    ("ts", timeJson now)]

/-! ## Mutations -/

structure CorrectionArgs where
  actorAgentId : String
  reason : String
  correctionSourceRef : Json
  now : Nat

def correctionReason (op : VersionOp) (reason : String) : String :=
  "memory_correction." ++ op.asStr.toLower ++ ": " ++ reason

/-- A correction that ends the life of a note, with the status it sets. -/
def endNote (s : Store) (draw : Draw) (prev : MemoryNote) (action : MemoryCorrectionAction)
    (status : String) (op : VersionOp) (args : CorrectionArgs)
    : Except Error (MemoryNote × Option Uuid × Store) := do
  let note := { prev with
    status
    updatedAt := args.now
    sourceRef := correctionSourceRefFor action (noteSnapshot prev) args.correctionSourceRef
      args.reason args.actorAgentId args.now none }
  let s := updateNoteRow s note.noteId fun row => { row with
    status := note.status
    updatedAt := note.updatedAt
    sourceRef := note.sourceRef }
  let s ← writeVersionAndEnqueue s draw op prev note (correctionReason op args.reason)
    args.actorAgentId args.now .delete
  return (note, some draw.versionId, s)

def supersedeNote (s : Store) (draw : Draw) (note : MemoryNote) (args : CorrectionArgs)
    : Except Error (MemoryNote × Option Uuid × Store) :=
  if note.status = "deprecated" then
    .ok (note, none, s)
  else if note.status = "deleted" then
    .error (.invalidRequest "Deleted memory must be restored before it can be superseded.")
  else
    endNote s draw note .supersede "deprecated" .deprecate args

def deleteNote (s : Store) (draw : Draw) (note : MemoryNote) (args : CorrectionArgs)
    : Except Error (MemoryNote × Option Uuid × Store) :=
  if note.status = "deleted" then
    .ok (note, none, s)
  else
    endNote s draw note .delete "deleted" .delete args

/-- `ORDER BY ts DESC, version_id DESC`. -/
def versionGe (a b : NoteVersion) : Prop :=
  b.ts < a.ts ∨ (a.ts = b.ts ∧ b.versionId ≤ a.versionId)

instance : DecidableRel versionGe := fun a b =>
  inferInstanceAs (Decidable (b.ts < a.ts ∨ (a.ts = b.ts ∧ b.versionId ≤ a.versionId)))

/-- The versions that a restore without a version identifier chooses from. -/
def NoteVersion.restorable (noteId : Uuid) (version : NoteVersion) : Bool :=
  version.noteId = noteId && (version.op = .delete || version.op = .deprecate)
    && match version.prevSnapshot with
      | some snapshot => snapshot.get "status" = some (.str "active")
      | none => false

def restoreCandidate (s : Store) (noteId : Uuid) : Option Uuid → Option NoteVersion
  | some versionId =>
    (s.versions.find? versionId).filter fun version =>
      version.noteId = noteId && version.prevSnapshot.isSome
  | none => ((s.versions.rows.filter (·.restorable noteId)).insertionSort versionGe).head?

def loadRestoreSnapshot (s : Store) (noteId : Uuid) (restoreVersionId : Option Uuid)
    : Except Error (Uuid × Json) :=
  ofOption (.invalidRequest "No restorable memory snapshot was found.") do
    let version ← restoreCandidate s noteId restoreVersionId
    let snapshot ← version.prevSnapshot
    return (version.versionId, snapshot)

def restoreNote (s : Store) (draw : Draw) (prev : MemoryNote) (restoreVersionId : Option Uuid)
    (embeddingVersion : String) (args : CorrectionArgs)
    : Except Error (MemoryNote × Option Uuid × Store) :=
  if prev.status = "active" then
    .ok (prev, none, s)
  else do
    let (versionId, snapshot) ← loadRestoreSnapshot s prev.noteId restoreVersionId
    let restored ← applyRestoreSnapshot prev snapshot args.now
    let note := { restored with
      embeddingVersion
      sourceRef := correctionSourceRefFor .restore snapshot args.correctionSourceRef args.reason
        args.actorAgentId args.now (some versionId) }
    let s := updateNoteRow s note.noteId fun row => { row with
      scope := note.scope
      type := note.type
      key := note.key
      text := note.text
      importance := note.importance
      confidence := note.confidence
      status := note.status
      updatedAt := note.updatedAt
      expiresAt := note.expiresAt
      embeddingVersion := note.embeddingVersion
      sourceRef := note.sourceRef }
    let s ← writeVersionAndEnqueue s draw .restore prev note
      (correctionReason .restore args.reason) args.actorAgentId args.now .upsert
    return (note, some draw.versionId, s)

/-! ## The request -/

def correctionOp (action : MemoryCorrectionAction) (versionId : Option Uuid) : NoteOp :=
  match versionId, action with
  | none, _ => .none
  | some _, .delete => .delete
  | some _, _ => .update

def applyCorrection (svc : ElfService) (req : MemoryCorrectionRequest) (draw : Draw) (s : Store)
    (note : MemoryNote) (args : CorrectionArgs) : Except Error (MemoryNote × Option Uuid × Store) :=
  match req.action with
  | .supersede => supersedeNote s draw note args
  | .delete => deleteNote s draw note args
  | .restore => restoreNote s draw note req.restoreVersionId svc.cfg.embeddingVersion args

def memoryCorrectionApply (svc : ElfService) (req : MemoryCorrectionRequest) (draw : Draw)
    : Transaction Error Store MemoryCorrectionResponse := fun s => do
  let tenantId := trim req.tenantId
  let projectId := trim req.projectId
  let args : CorrectionArgs := {
    actorAgentId := trim req.actorAgentId
    reason := trim req.reason
    correctionSourceRef := req.sourceRef
    now := draw.clock 0 }
  validateCorrectionRequest tenantId projectId args.actorAgentId args.reason req.sourceRef
  let note ← ofOption noteNotFound (loadNote s req.noteId tenantId projectId orgProjectId)
  validateWriteScope note svc.cfg.scopes
  let (note, versionId, s) ← applyCorrection svc req draw s note args
  return (⟨note.noteId, req.action, correctionOp req.action versionId, note.status, versionId⟩, s)

end Elf
