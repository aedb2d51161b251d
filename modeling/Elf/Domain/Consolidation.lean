import Elf.Lib.Json
import Elf.Storage.Models

/-!
This module contains the lifecycles of consolidation: which states a proposal's review and a run may
go to from which.
-/

namespace Elf

def ConsolidationApplyIntent.asStr : ConsolidationApplyIntent → String
  | .createDerivedNote => "create_derived_note"
  | .updateDerivedNote => "update_derived_note"
  | .createDerivedKnowledgePage => "create_derived_knowledge_page"
  | .updateDerivedKnowledgePage => "update_derived_knowledge_page"
  | .createDerivedGraphView => "create_derived_graph_view"
  | .noOp => "no_op"

namespace ConsolidationReviewState

/-- The name in error messages. -/
def debugName : ConsolidationReviewState → String
  | proposed => "Proposed"
  | approved => "Approved"
  | rejected => "Rejected"
  | applied => "Applied"
  | archived => "Archived"

def allowed : ConsolidationReviewState → ConsolidationReviewState → Bool
  | proposed, next => next = approved || next = rejected || next = archived
  | approved, next => next = applied || next = rejected || next = archived
  | rejected, _ | applied, _ | archived, _ => false

def validateTransition (state next : ConsolidationReviewState) : Except Error Unit :=
  Except.rejectIf (!state.allowed next) (.invalidRequest
    ("invalid proposal review transition from " ++ state.debugName ++ " to " ++ next.debugName))

theorem validateTransition_eq_ok {state next : ConsolidationReviewState}
    : state.validateTransition next = .ok () ↔ state.allowed next = true := by
  unfold validateTransition
  rw [Except.rejectIf_eq_ok]
  simp

end ConsolidationReviewState

inductive ConsolidationRunState where
  | pending
  | running
  | completed
  | failed
  | cancelled
deriving DecidableEq

namespace ConsolidationRunState

def allowed : ConsolidationRunState → ConsolidationRunState → Bool
  | pending, next => next = running || next = cancelled
  | running, next => next = completed || next = failed || next = cancelled
  | completed, _ | failed, _ | cancelled, _ => false

/-- The name in error messages. -/
def debugName : ConsolidationRunState → String
  | pending => "Pending"
  | running => "Running"
  | completed => "Completed"
  | failed => "Failed"
  | cancelled => "Cancelled"

def validateTransition (state next : ConsolidationRunState) : Except String Unit :=
  Except.rejectIf (!state.allowed next)
    ("invalid consolidation run transition from " ++ state.debugName ++ " to " ++ next.debugName)

theorem validateTransition_eq_ok {state next : ConsolidationRunState}
    : state.validateTransition next = .ok () ↔ state.allowed next = true := by
  unfold validateTransition
  rw [Except.rejectIf_eq_ok]
  simp

/-- A state that is never left. -/
def terminal : ConsolidationRunState → Bool
  | completed | failed | cancelled => true
  | pending | running => false

theorem allowed_eq_false_of_terminal {state : ConsolidationRunState} (h : state.terminal = true)
    (next : ConsolidationRunState) : state.allowed next = false := by
  cases state with
  | pending => cases h
  | running => cases h
  | completed => rfl
  | failed => rfl
  | cancelled => rfl

end ConsolidationRunState

/-! ## Proposals -/

def forbiddenDiffKeys : List String := [
  "delete_source",
  "delete_sources",
  "source_delete",
  "source_mutation",
  "source_mutations",
  "source_note_updates",
  "overwrite_source"]

def containsForbiddenDiffKey (value : Json) : Bool := value.hasKey forbiddenDiffKeys

structure ConsolidationProposalDiff where
  summary : String
  before : Json
  after : Json

namespace ConsolidationProposalDiff

def validate (diff : ConsolidationProposalDiff) : Bool :=
  !Text.isBlank diff.summary && diff.before.isObject && diff.after.isObject
    && !containsForbiddenDiffKey diff.before && !containsForbiddenDiffKey diff.after

def toJson (diff : ConsolidationProposalDiff) : Json :=
  .obj [("after", diff.after), ("before", diff.before), ("summary", .str diff.summary)]

end ConsolidationProposalDiff

/-- A proposal of a run's payload. Its parts besides these are valid or not as a whole. -/
structure ConsolidationProposalContract where
  proposalKind : String
  applyIntent : ConsolidationApplyIntent
  sourceRefs : Json
  sourceSnapshot : Json
  lineage : Json
  confidence : F32
  unsupportedClaimFlags : Json
  diff : ConsolidationProposalDiff
  targetRef : Json
  proposedPayload : Json
  /-- The source references, the lineage, the markers and the flags are valid. -/
  partsValid : Bool

namespace ConsolidationProposalContract

def validate (proposal : ConsolidationProposalContract) : Bool :=
  !Text.isBlank proposal.proposalKind && proposal.partsValid && proposal.sourceSnapshot.isObject
    && proposal.confidence.isFinite
    && (F32.fin 0).le proposal.confidence && proposal.confidence.le (.fin 1)
    && proposal.diff.validate && proposal.targetRef.isObject && proposal.proposedPayload.isObject

end ConsolidationProposalContract

structure ConsolidationJobPayload where
  contractSchema : String
  proposals : List ConsolidationProposalContract

def consolidationContractSchemaV1 : String := "elf.consolidation/v1"

def ConsolidationJobPayload.validate (payload : ConsolidationJobPayload) : Bool :=
  payload.contractSchema = consolidationContractSchemaV1 && payload.proposals.all (·.validate)

/-- The columns of a run's job that its proposals are filled with. -/
structure ConsolidationJobOwner where
  runId : Uuid
  tenantId : String
  projectId : String
  agentId : String

/-- The row that a proposal of a run is stored as. -/
def proposalRow (owner : ConsolidationJobOwner) (proposalId : Uuid) (now : Nat)
    (proposal : ConsolidationProposalContract) : ConsolidationProposal := {
  proposalId
  runId := owner.runId
  tenantId := owner.tenantId
  projectId := owner.projectId
  agentId := owner.agentId
  proposalKind := proposal.proposalKind
  applyIntent := proposal.applyIntent
  reviewState := .proposed
  sourceRefs := proposal.sourceRefs
  sourceSnapshot := proposal.sourceSnapshot
  lineage := proposal.lineage
  diff := proposal.diff.toJson
  confidence := proposal.confidence
  unsupportedClaimFlags := proposal.unsupportedClaimFlags
  targetRef := proposal.targetRef
  proposedPayload := proposal.proposedPayload
  reviewerAgentId := none
  reviewComment := none
  reviewedAt := none
  createdAt := timestamptz now
  updatedAt := timestamptz now }

def proposalRowFromContract (owner : ConsolidationJobOwner) (proposalId : Uuid) (now : Nat)
    (proposal : ConsolidationProposalContract) : Except Error ConsolidationProposal := do
  Except.rejectIf (!proposal.validate) (.invalidRequest "consolidation proposal is invalid")
  return proposalRow owner proposalId now proposal

end Elf
