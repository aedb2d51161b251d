import Elf.Domain.WriteGate
import Elf.Lib.Transaction

/-!
This module contains the tables that note operations read and write. Times are nanoseconds since the
start of the year 2000. A column of type `timestamptz` keeps microseconds, so every row is stored
with its times cut down to them.
-/

namespace Elf

/-- A 128-bit identifier. -/
abbrev Uuid := Nat

/-- What a `timestamptz` column keeps of a time. -/
def timestamptz (t : Nat) : Nat := t / 1000 * 1000

@[simp]
theorem timestamptz_timestamptz (t : Nat)
    : timestamptz (timestamptz t) = timestamptz t := by
  unfold timestamptz
  omega

namespace Uuid

def hexDigit (n : Nat) : Char := "0123456789abcdef".toList.getD n '0'

def hexDigits (width : Nat) (n : Nat) : List Char :=
  match width with
  | 0 => []
  | width + 1 => hexDigits width (n / 16) ++ [hexDigit (n % 16)]

/-- The hyphenated form, `8-4-4-4-12` hexadecimal digits. -/
def toString (id : Uuid) : String :=
  let hex := hexDigits 32 id
  String.ofList (hex.take 8 ++ '-' :: (hex.drop 8).take 4 ++ '-' :: (hex.drop 12).take 4
    ++ '-' :: (hex.drop 16).take 4 ++ '-' :: hex.drop 20)

def hexValue (c : Char) : Option Nat :=
  if '0' ≤ c ∧ c ≤ '9' then some (c.toNat - '0'.toNat)
  else if 'a' ≤ c ∧ c ≤ 'f' then some (c.toNat - 'a'.toNat + 10)
  else if 'A' ≤ c ∧ c ≤ 'F' then some (c.toNat - 'A'.toNat + 10)
  else none

def parseHex (digits : List Char) (value : Nat) : Option Nat :=
  match digits with
  | [] => some value
  | c :: digits => (hexValue c).bind fun d => parseHex digits (16 * value + d)

/-- Drop the hyphens of the hyphenated form. -/
def dropHyphens (chars : List Char) : Option (List Char) :=
  if chars.length = 36 ∧ [8, 13, 18, 23].all (fun i => chars.getD i 'x' = '-') then
    some (chars.take 8 ++ (chars.drop 9).take 4 ++ (chars.drop 14).take 4
      ++ (chars.drop 19).take 4 ++ chars.drop 24)
  else
    none

/-- Parse the simple, hyphenated, braced or URN form. -/
def parseStr (s : String) : Option Uuid :=
  let chars := s.toList
  let hyphenated (cs : List Char) := (dropHyphens cs).bind fun hex => parseHex hex 0
  if chars.length = 32 then parseHex chars 0
  else if chars.length = 36 then hyphenated chars
  else if chars.length = 38 ∧ chars.head? = some '{' ∧ chars.getLast? = some '}' then
    hyphenated (chars.drop 1).dropLast
  else if chars.length = 45 ∧ chars.take 9 = "urn:uuid:".toList then hyphenated (chars.drop 9)
  else none

end Uuid

inductive Error where
  | invalidText (field : String)
  | invalidRequest (message : String)
  | scopeDenied (message : String)
  | notFound (message : String)
  | conflict (message : String)
  | storage (message : String)
deriving DecidableEq

/-- A row of `memory_notes`. -/
structure MemoryNote where
  noteId : Uuid
  tenantId : String
  projectId : String
  agentId : String
  scope : String
  type : String
  key : Option String
  text : String
  importance : F32
  confidence : F32
  status : String
  createdAt : Nat
  updatedAt : Nat
  expiresAt : Option Nat
  embeddingVersion : String
  sourceRef : Json
  hitCount : Nat
  lastHitAt : Option Nat
deriving DecidableEq

/-- The row as the columns keep it. -/
def MemoryNote.stored (note : MemoryNote) : MemoryNote :=
  { note with
    createdAt := timestamptz note.createdAt
    updatedAt := timestamptz note.updatedAt
    expiresAt := note.expiresAt.map timestamptz
    lastHitAt := note.lastHitAt.map timestamptz }

@[simp]
theorem MemoryNote.stored_noteId (note : MemoryNote) : note.stored.noteId = note.noteId := rfl

@[simp]
theorem MemoryNote.stored_stored (note : MemoryNote) : note.stored.stored = note.stored := by
  simp [stored, Function.comp_def]

/-- Whether the time to live of a note is over. -/
def MemoryNote.expired (note : MemoryNote) (now : Nat) : Bool :=
  match note.expiresAt with
  | some ts => decide (ts ≤ now)
  | none => false

inductive VersionOp where
  | add
  | update
  | delete
  | publish
  | unpublish
  | deprecate
  | restore
deriving DecidableEq

def VersionOp.asStr : VersionOp → String
  | .add => "ADD"
  | .update => "UPDATE"
  | .delete => "DELETE"
  | .publish => "PUBLISH"
  | .unpublish => "UNPUBLISH"
  | .deprecate => "DEPRECATE"
  | .restore => "RESTORE"

/-- A row of `memory_note_versions`. -/
structure NoteVersion where
  versionId : Uuid
  noteId : Uuid
  op : VersionOp
  prevSnapshot : Option Json
  newSnapshot : Option Json
  reason : String
  actor : String
  ts : Nat
deriving DecidableEq

inductive OutboxOp where
  | upsert
  | delete
deriving DecidableEq

inductive OutboxStatus where
  | pending
  | failed
  | done
deriving DecidableEq

/-- A row of `indexing_outbox`. -/
structure IndexingOutboxEntry where
  outboxId : Uuid
  noteId : Uuid
  op : OutboxOp
  embeddingVersion : String
  status : OutboxStatus
  attempts : Nat
  availableAt : Nat
  createdAt : Nat
  updatedAt : Nat
deriving DecidableEq

/-- A row of `memory_note_fields`. -/
structure NoteField where
  fieldId : Uuid
  noteId : Uuid
  fieldKind : String
  itemIndex : Nat
  text : String
  createdAt : Nat
  updatedAt : Nat
deriving DecidableEq

inductive GranteeKind where
  | agent
  | project
deriving DecidableEq

/-- A row of `memory_space_grants`. -/
structure SpaceGrant where
  grantId : Uuid
  tenantId : String
  projectId : String
  scope : String
  spaceOwnerAgentId : String
  granteeKind : GranteeKind
  granteeAgentId : Option String
  grantedByAgentId : String
  grantedAt : Nat
  revokedByAgentId : Option String
  revokedAt : Option Nat
deriving DecidableEq

inductive NoteOp where
  | add
  | update
  | none
  | delete
  | rejected
deriving DecidableEq

inductive MemoryPolicyDecision where
  | remember
  | update
  | ignore
  | reject
deriving DecidableEq

/-- A row of `memory_ingest_decisions`. -/
structure IngestDecision where
  decisionId : Uuid
  tenantId : String
  projectId : String
  agentId : String
  scope : String
  noteType : String
  noteKey : Option String
  noteId : Option Uuid
  noteVersionId : Option Uuid
  baseDecision : MemoryPolicyDecision
  policyDecision : MemoryPolicyDecision
  noteOp : NoteOp
  reasonCode : Option String
  ts : Nat
deriving DecidableEq

inductive ConsolidationReviewState where
  | proposed
  | approved
  | rejected
  | applied
  | archived
deriving DecidableEq

inductive ConsolidationReviewAction where
  | approve
  | apply
  | discard
  | defer
deriving DecidableEq

inductive ConsolidationApplyIntent where
  | createDerivedNote
  | updateDerivedNote
  | createDerivedKnowledgePage
  | updateDerivedKnowledgePage
  | createDerivedGraphView
  | noOp
deriving DecidableEq

/-- A row of `consolidation_proposals`, with the columns that reviews read and write. -/
structure ConsolidationProposal where
  proposalId : Uuid
  runId : Uuid
  tenantId : String
  projectId : String
  agentId : String
  proposalKind : String
  applyIntent : ConsolidationApplyIntent
  reviewState : ConsolidationReviewState
  sourceRefs : Json
  sourceSnapshot : Json
  lineage : Json
  diff : Json
  confidence : F32
  unsupportedClaimFlags : Json
  targetRef : Json
  proposedPayload : Json
  reviewerAgentId : Option String
  reviewComment : Option String
  reviewedAt : Option Nat
  createdAt : Nat
  updatedAt : Nat
deriving DecidableEq

/-- A row of `consolidation_proposal_reviews`. -/
structure ConsolidationProposalReviewEvent where
  reviewId : Uuid
  proposalId : Uuid
  runId : Uuid
  tenantId : String
  projectId : String
  reviewerAgentId : String
  action : ConsolidationReviewAction
  fromReviewState : ConsolidationReviewState
  toReviewState : ConsolidationReviewState
  reviewComment : Option String
  createdAt : Nat
deriving DecidableEq

/-- The tables, as one transaction sees them. -/
@[ext]
structure Store where
  notes : Table MemoryNote MemoryNote.noteId
  versions : Table NoteVersion NoteVersion.versionId
  outbox : Table IndexingOutboxEntry IndexingOutboxEntry.outboxId
  fields : Table NoteField NoteField.fieldId
  grants : Table SpaceGrant SpaceGrant.grantId
  ingestDecisions : Table IngestDecision IngestDecision.decisionId
  proposals : Table ConsolidationProposal ConsolidationProposal.proposalId
  reviews : Table ConsolidationProposalReviewEvent ConsolidationProposalReviewEvent.reviewId
deriving DecidableEq

def Store.empty : Store :=
  ⟨.empty, .empty, .empty, .empty, .empty, .empty, .empty, .empty⟩

/-- The error of an `INSERT` whose primary key is taken. -/
def duplicateKey : Error := .storage "duplicate key value violates unique constraint"

end Elf
