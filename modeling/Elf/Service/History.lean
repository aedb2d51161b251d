import Elf.Storage.Models

/-!
This module contains what every note mutation ends with: the snapshot of a note, the version row and
the job for the indexing worker.
-/

namespace Elf

/--
What one request draws from outside: the readings of the clock, in the order the code takes them,
and the identifiers it generates.
-/
structure Draw where
  clock : Nat → Nat
  noteId : Uuid
  versionId : Uuid
  outboxId : Uuid
  grantId : Uuid
  decisionId : Uuid
  fieldId : String → Nat → Uuid
  reviewId : Nat → Uuid

def timeJson (t : Nat) : Json := .num t

def uuidJson (id : Uuid) : Json := .str id.toString

-- Floats that are not finite have no JSON number.
def scoreJson : F32 → Json
  | .fin q => .num q
  | _ => .null

def freshnessReason (note : MemoryNote) : String × String :=
  match note.status with
  | "active" => ("current", if note.expiresAt.isSome then "TTL_ACTIVE" else "ACTIVE_MEMORY")
  | "deprecated" => ("superseded", "MEMORY_SUPERSEDED")
  | "deleted" => ("tombstoned", "MEMORY_DELETED")
  | other => (other, "UNKNOWN_MEMORY_STATUS")

def memoryFreshness (note : MemoryNote) : Json :=
  .obj [
    ("expires_at", .ofOption timeJson note.expiresAt),
    ("lifecycle_status", .str note.status),
    ("reason_code", .str (freshnessReason note).2),
    ("schema", .str "elf.memory_freshness/v1"),
    ("status", .str (freshnessReason note).1),
    ("updated_at", timeJson note.updatedAt)]

def noteSnapshot (note : MemoryNote) : Json :=
  .obj [
    ("agent_id", .str note.agentId),
    ("confidence", scoreJson note.confidence),
    ("created_at", timeJson note.createdAt),
    ("embedding_version", .str note.embeddingVersion),
    ("expires_at", .ofOption timeJson note.expiresAt),
    ("freshness", memoryFreshness note),
    ("hit_count", .num note.hitCount),
    ("importance", scoreJson note.importance),
    ("key", .ofOption .str note.key),
    ("last_hit_at", .ofOption timeJson note.lastHitAt),
    ("note_id", uuidJson note.noteId),
    ("project_id", .str note.projectId),
    ("scope", .str note.scope),
    ("source_ref", note.sourceRef),
    ("status", .str note.status),
    ("tenant_id", .str note.tenantId),
    ("text", .str note.text),
    ("type", .str note.type),
    ("updated_at", timeJson note.updatedAt)]

@[simp]
theorem noteSnapshot_status (note : MemoryNote)
    : (noteSnapshot note).get "status" = some (.str note.status) := rfl

@[simp]
theorem noteSnapshot_scope (note : MemoryNote)
    : (noteSnapshot note).get "scope" = some (.str note.scope) := rfl

@[simp]
theorem noteSnapshot_type (note : MemoryNote)
    : (noteSnapshot note).get "type" = some (.str note.type) := rfl

@[simp]
theorem noteSnapshot_key (note : MemoryNote)
    : (noteSnapshot note).get "key" = some (.ofOption .str note.key) := rfl

@[simp]
theorem noteSnapshot_text (note : MemoryNote)
    : (noteSnapshot note).get "text" = some (.str note.text) := rfl

@[simp]
theorem noteSnapshot_importance (note : MemoryNote)
    : (noteSnapshot note).get "importance" = some (scoreJson note.importance) := rfl

@[simp]
theorem noteSnapshot_confidence (note : MemoryNote)
    : (noteSnapshot note).get "confidence" = some (scoreJson note.confidence) := rfl

@[simp]
theorem noteSnapshot_expires_at (note : MemoryNote)
    : (noteSnapshot note).get "expires_at" = some (.ofOption timeJson note.expiresAt) := rfl

def insertVersion (s : Store) (row : NoteVersion) : Except Error Store := do
  let versions ← s.versions.insert { row with ts := timestamptz row.ts } duplicateKey
  return { s with versions }

def newOutboxEntry (outboxId noteId : Uuid) (op : OutboxOp) (embeddingVersion : String)
    (now : Nat) : IndexingOutboxEntry := {
  outboxId
  noteId
  op
  embeddingVersion
  status := .pending
  attempts := 0
  availableAt := timestamptz now
  createdAt := timestamptz now
  updatedAt := timestamptz now }

def enqueueOutboxTx (s : Store) (outboxId noteId : Uuid) (op : OutboxOp)
    (embeddingVersion : String) (now : Nat) : Except Error Store := do
  let outbox ← s.outbox.insert (newOutboxEntry outboxId noteId op embeddingVersion now) duplicateKey
  return { s with outbox }

def insertMemoryNoteTx (s : Store) (note : MemoryNote) : Except Error Store := do
  let notes ← s.notes.insert note.stored duplicateKey
  return { s with notes }

/-- `SELECT * FROM memory_notes WHERE note_id AND tenant_id AND project_id IN (project, org)`. -/
def loadNote (s : Store) (noteId : Uuid) (tenantId projectId orgProjectId : String)
    : Option MemoryNote :=
  (s.notes.find? noteId).filter fun note =>
    note.tenantId = tenantId && (note.projectId = projectId || note.projectId = orgProjectId)

theorem loadNote_eq_some (h : loadNote s noteId tenantId projectId orgProjectId = some note)
    : s.notes.find? noteId = some note ∧ note.tenantId = tenantId
      ∧ (note.projectId = projectId ∨ note.projectId = orgProjectId) := by
  unfold loadNote at h
  rw [Option.filter_eq_some_iff] at h
  simpa using h

end Elf
