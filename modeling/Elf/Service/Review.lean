import Elf.Domain.Consolidation
import Elf.Service.AddNote
import Elf.Service.Update

/-!
This module contains the review of a consolidation proposal. A review request is one or two steps
through the review lifecycle. Applying a proposal promotes it into memory: its payload becomes a new note, or
replaces the content of the note it names. The queue that reviewers work through says of a proposal whether it
asks for a change of its sources and which actions it offers.
-/

namespace Elf

open Text Except

structure PromotedMemoryPayload where
  noteType : String
  text : String
  scope : Option String
  key : Option String
  importance : Option F32
  confidence : Option F32
  ttlDays : Option Int
  sourceRef : Json

/-! ## Payload -/

/-- How an error message names a value of the wrong type. -/
def unexpectedValue : Json → String
  | .null => "null"
  | .bool b => "boolean `" ++ toString b ++ "`"
  | .num n =>
    (if n.den = 1 then "integer `" else "floating point `") ++ Json.renderNum n ++ "`"
  | .str s => "string " ++ Json.renderStr s
  | .arr _ => "sequence"
  | .obj _ => "map"

def invalidType (value : Json) (expected : String) : String :=
  "invalid type: " ++ unexpectedValue value ++ ", expected " ++ expected

def decodeString (payload : Json) (field : String) : Except String String :=
  match payload.get field with
  | some (.str s) => .ok s
  | some value => .error (invalidType value "a string")
  | none => .error ("missing field `" ++ field ++ "`")

def decodeOptional (decode : Json → Except String α) (payload : Json) (field : String)
    : Except String (Option α) :=
  match payload.get field with
  | none | some .null => .ok none
  | some value => (decode value).map some

def decodeStr : Json → Except String String
  | .str s => .ok s
  | value => .error (invalidType value "a string")

-- A number beyond the range of the format becomes an infinity.
def decodeF32 : Json → Except String F32
  | .num q =>
    .ok (if q < -F32.max then .inf true else if F32.max < q then .inf false else .fin q)
  | value => .error (invalidType value "f32")

def decodeI64 : Json → Except String Int
  | .num q =>
    if q.den = 1 ∧ -9223372036854775808 ≤ q.num ∧ q.num ≤ 9223372036854775807 then
      .ok q.num
    else
      .error (invalidType (.num q) "i64")
  | value => .error (invalidType value "i64")

def payloadOfJson (payload : Json) : Except String PromotedMemoryPayload := do
  rejectIf (!payload.isObject) (invalidType payload "struct PromotedMemoryPayload")
  let noteType ← decodeString payload "type"
  let text ← decodeString payload "text"
  let scope ← decodeOptional decodeStr payload "scope"
  let key ← decodeOptional decodeStr payload "key"
  let importance ← decodeOptional decodeF32 payload "importance"
  let confidence ← decodeOptional decodeF32 payload "confidence"
  let ttlDays ← decodeOptional decodeI64 payload "ttl_days"
  let sourceRef := (payload.get "source_ref").getD (.obj [])
  return { noteType, text, scope, key, importance, confidence, ttlDays, sourceRef }

/-- A score is invalid unless it is finite and between 0 and 1. -/
def invalidScore (score : F32) : Bool :=
  !score.isFinite || !((F32.fin 0).le score && score.le (.fin 1))

def decodePromotedMemoryPayload (proposal : ConsolidationProposal)
    : Except Error PromotedMemoryPayload := do
  let payload ← (payloadOfJson proposal.proposedPayload).mapError fun err =>
    .invalidRequest ("proposed_payload is not a memory note payload: " ++ err)
  rejectIf (!payload.sourceRef.isObject) (.invalidRequest
    "proposed_payload.source_ref must be a JSON object when provided.")
  rejectIf (payload.importance.any invalidScore || payload.confidence.any invalidScore)
    (.invalidRequest "proposed memory scores must be finite values in 0.0..=1.0.")
  return payload

def promotedMemoryScope (payload : PromotedMemoryPayload) (defaultScope : String)
    : Except Error String :=
  match payload.scope with
  | some raw => do
    rejectIf (trim raw = "")
      (.invalidRequest "proposed_payload.scope must not be empty when provided.")
    return trim raw
  | none => return defaultScope

def promotedMemoryProjectId (proposalProjectId scope : String) : String :=
  if scope = "org_shared" then orgProjectId else proposalProjectId

def normalizedOptionalString (value : Option String) : Option String :=
  (value.map trim).filter (· ≠ "")

def validatePromotedMemoryPayload (svc : ElfService) (payload : PromotedMemoryPayload)
    (effectiveScope : String) : Except Error Unit :=
  (writegate svc.containsSecrets svc.cfg ⟨payload.noteType, effectiveScope, payload.text⟩).mapError
    fun code => .invalidRequest ("proposed memory failed writegate: " ++ writegateReasonCode code)

def promotedMemoryTargetRef (noteId : Uuid) (now : Nat) : Json :=
  .obj [
    ("applied_at", timeJson now),
    ("id", uuidJson noteId),
    ("kind", .str "note"),
    ("schema", .str "elf.memory_record_ref/v1"),
    ("status", .str "active")]

def targetNoteId (proposal : ConsolidationProposal) : Except Error Uuid := do
  let raw ← ofOption
    (.invalidRequest "update_derived_note requires target_ref.id or target_ref.note_id.")
    ((proposal.targetRef.get "id" <|> proposal.targetRef.get "note_id").bind Json.asStr)
  ofOption (.invalidRequest "target_ref note id is invalid") (Uuid.parseStr raw)

def promotionSourceRef (proposal : ConsolidationProposal) (proposedSourceRef : Json)
    (reviewerAgentId : String) (reviewComment : Option String) (now : Nat) : Json :=
  .obj [
    ("apply_intent", .str proposal.applyIntent.asStr),
    ("lineage", proposal.lineage),
    ("proposal_id", uuidJson proposal.proposalId),
    ("proposal_kind", .str proposal.proposalKind),
    ("proposed_source_ref", proposedSourceRef),
    ("review", .obj [
      ("action", .str "apply"),
      ("applied_at", timeJson now),
      ("review_comment", .ofOption .str reviewComment),
      ("reviewer_agent_id", .str reviewerAgentId)]),
    ("run_id", uuidJson proposal.runId),
    ("schema", .str "elf.memory_promotion/v1"),
    ("source_refs", proposal.sourceRefs),
    ("source_snapshot", proposal.sourceSnapshot),
    ("unsupported_claim_flags", proposal.unsupportedClaimFlags)]

/-! ## Promotion -/

structure PromotionArgs where
  reviewerAgentId : String
  reviewComment : Option String
  now : Nat

/-- The row that a promoted payload is stored as. -/
def promotedMemoryNote (svc : ElfService) (proposal : ConsolidationProposal)
    (payload : PromotedMemoryPayload) (scope : String) (noteId : Uuid) (args : PromotionArgs)
    : MemoryNote := {
  noteId
  tenantId := proposal.tenantId
  projectId := promotedMemoryProjectId proposal.projectId scope
  agentId := proposal.agentId
  scope
  type := payload.noteType
  key := normalizedOptionalString payload.key
  text := payload.text
  importance := payload.importance.getD proposal.confidence
  confidence := payload.confidence.getD proposal.confidence
  status := "active"
  createdAt := args.now
  updatedAt := args.now
  expiresAt := computeExpiresAt payload.ttlDays payload.noteType svc.cfg args.now
  embeddingVersion := svc.cfg.embeddingVersion
  sourceRef := promotionSourceRef proposal payload.sourceRef args.reviewerAgentId
    args.reviewComment args.now
  hitCount := 0
  lastHitAt := none }

def createPromotedMemoryNote (svc : ElfService) (draw : Draw) (s : Store)
    (proposal : ConsolidationProposal) (args : PromotionArgs) : Except Error (Uuid × Store) := do
  let payload ← decodePromotedMemoryPayload proposal
  let scope ← promotedMemoryScope payload "agent_private"
  validatePromotedMemoryPayload svc payload scope
  let note := promotedMemoryNote svc proposal payload scope draw.noteId args
  let s ← ensureActiveProjectScopeGrant s draw.grantId proposal.tenantId note.projectId scope
    proposal.agentId (draw.clock 1)
  let s ← insertMemoryNoteTx s note
  let s ← insertVersion s {
    versionId := draw.versionId
    noteId := draw.noteId
    op := .add
    prevSnapshot := none
    newSnapshot := some (noteSnapshot note)
    reason := "consolidation_apply.create_derived_note"
    actor := args.reviewerAgentId
    ts := args.now }
  let s ← enqueueOutboxTx s draw.outboxId draw.noteId .upsert note.embeddingVersion args.now
  return (draw.noteId, s)

/-- The note as a promotion leaves it. -/
def promotedUpdate (svc : ElfService) (proposal : ConsolidationProposal)
    (payload : PromotedMemoryPayload) (scope : String) (note : MemoryNote) (args : PromotionArgs)
    : MemoryNote :=
  { note with
    projectId := promotedMemoryProjectId proposal.projectId scope
    scope
    type := payload.noteType
    key := normalizedOptionalString payload.key
    text := payload.text
    importance := payload.importance.getD note.importance
    confidence := payload.confidence.getD note.confidence
    expiresAt :=
      if payload.ttlDays.isSome then
        computeExpiresAt payload.ttlDays payload.noteType svc.cfg args.now
      else
        note.expiresAt
    updatedAt := args.now
    sourceRef := promotionSourceRef proposal payload.sourceRef args.reviewerAgentId
      args.reviewComment args.now }

def updatePromotedMemoryNote (svc : ElfService) (draw : Draw) (s : Store)
    (proposal : ConsolidationProposal) (args : PromotionArgs) : Except Error (Uuid × Store) := do
  let payload ← decodePromotedMemoryPayload proposal
  let noteId ← targetNoteId proposal
  let prev ← ofOption (.invalidRequest "Target memory note was not found.")
    (loadNote s noteId proposal.tenantId proposal.projectId orgProjectId)
  rejectIf (prev.status ≠ "active")
    (.invalidRequest "Only active target memory can be updated by proposal apply.")
  rejectIf (prev.agentId ≠ proposal.agentId)
    (.invalidRequest "Target memory note owner does not match the proposal owner.")
  let scope ← promotedMemoryScope payload prev.scope
  validatePromotedMemoryPayload svc payload scope
  let note := promotedUpdate svc proposal payload scope prev args
  let s ← ensureActiveProjectScopeGrant s draw.grantId note.tenantId note.projectId note.scope
    note.agentId (draw.clock 1)
  let s := updateNoteRow s prev.noteId fun row => { row with
    projectId := note.projectId
    scope := note.scope
    type := note.type
    key := note.key
    text := note.text
    importance := note.importance
    confidence := note.confidence
    updatedAt := note.updatedAt
    expiresAt := note.expiresAt
    sourceRef := note.sourceRef }
  let s ← writeVersionAndEnqueue s draw .update prev note
    "consolidation_apply.update_derived_note" args.reviewerAgentId args.now .upsert
  return (noteId, s)

/-! ## Review -/

open Text Except

structure ConsolidationProposalReviewRequest where
  tenantId : String
  projectId : String
  reviewerAgentId : String
  proposalId : Uuid
  reviewAction : ConsolidationReviewAction
  reviewComment : Option String

abbrev ReviewStep := ConsolidationReviewAction × ConsolidationReviewState

def validateNonEmpty (field value : String) : Except Error Unit :=
  rejectIf (isBlank value) (.invalidRequest (field ++ " must not be empty."))

def validateContext (tenantId projectId agentId : String) : Except Error Unit := do
  validateNonEmpty "tenant_id" tenantId
  validateNonEmpty "project_id" projectId
  validateNonEmpty "agent_id" agentId

/-- The steps that a review action stands for. -/
def plannedSteps (current : ConsolidationReviewState) : ConsolidationReviewAction → List ReviewStep
  | .approve => [(.approve, .approved)]
  | .apply =>
    match current with
    | .proposed => [(.approve, .approved), (.apply, .applied)]
    | .approved | .rejected | .applied | .archived => [(.apply, .applied)]
  | .discard => [(.discard, .rejected)]
  | .defer => [(.defer, .archived)]

def validateSteps (state : ConsolidationReviewState) : List ReviewStep → Except Error Unit
  | [] => .ok ()
  | (_, next) :: steps => do
    state.validateTransition next
    validateSteps next steps

def reviewSteps (current : ConsolidationReviewState) (action : ConsolidationReviewAction)
    : Except Error (List ReviewStep) := do
  let steps := plannedSteps current action
  validateSteps current steps
  return steps

def proposalNotFound : Error := .notFound "consolidation proposal not found"

/-- `SELECT … FROM consolidation_proposals WHERE tenant_id AND project_id AND proposal_id`. -/
def lockConsolidationProposal (s : Store) (tenantId projectId : String) (proposalId : Uuid)
    : Option ConsolidationProposal :=
  (s.proposals.find? proposalId).filter fun proposal =>
    proposal.tenantId = tenantId && proposal.projectId = projectId

/-- `UPDATE consolidation_proposals … RETURNING`. -/
def updateConsolidationProposal (s : Store) (tenantId projectId : String) (proposalId : Uuid)
    (set : ConsolidationProposal → ConsolidationProposal)
    (hset : ∀ row, (set row).proposalId = row.proposalId := by intro _; rfl)
    : Except Error (ConsolidationProposal × Store) := do
  let row ← ofOption proposalNotFound (lockConsolidationProposal s tenantId projectId proposalId)
  return (set row, { s with proposals := s.proposals.modify proposalId set hset })

def insertReviewEvent (s : Store) (event : ConsolidationProposalReviewEvent)
    : Except Error Store := do
  let reviews ← s.reviews.insert { event with createdAt := timestamptz event.createdAt } duplicateKey
  return { s with reviews }

/-- The note that a proposal is promoted into, for the intents that promote one. -/
def promoteProposal (svc : ElfService) (draw : Draw) (s : Store) (proposal : ConsolidationProposal)
    (args : PromotionArgs) : Except Error (Option Uuid × Store) :=
  match proposal.applyIntent with
  | .createDerivedNote => do
    let (noteId, s) ← createPromotedMemoryNote svc draw s proposal args
    return (some noteId, s)
  | .updateDerivedNote => do
    let (noteId, s) ← updatePromotedMemoryNote svc draw s proposal args
    return (some noteId, s)
  | .createDerivedKnowledgePage | .updateDerivedKnowledgePage | .createDerivedGraphView | .noOp =>
    .ok (none, s)

def applyConsolidationProposalToMemory (svc : ElfService) (draw : Draw) (s : Store)
    (proposal : ConsolidationProposal) (args : PromotionArgs)
    : Except Error (ConsolidationProposal × Store) := do
  let (promoted, s) ← promoteProposal svc draw s proposal args
  match promoted with
  | none => return (proposal, s)
  | some noteId =>
    updateConsolidationProposal s proposal.tenantId proposal.projectId proposal.proposalId
      fun row => { row with
        targetRef := promotedMemoryTargetRef noteId args.now
        updatedAt := timestamptz args.now }

/-- One step of a review. -/
def reviewStep (svc : ElfService) (draw : Draw) (req : ConsolidationProposalReviewRequest)
    (s : Store) (updated : ConsolidationProposal) (lastState : ConsolidationReviewState)
    (stepIndex : Nat) (step : ReviewStep) : Except Error (ConsolidationProposal × Store) := do
  let (action, nextState) := step
  lastState.validateTransition nextState
  -- The steps of one request are a millisecond apart.
  let transitionTime := draw.clock 0 + 1000000 * stepIndex
  let s ← insertReviewEvent s {
    reviewId := draw.reviewId stepIndex
    proposalId := req.proposalId
    runId := updated.runId
    tenantId := req.tenantId
    projectId := req.projectId
    reviewerAgentId := req.reviewerAgentId
    action
    fromReviewState := lastState
    toReviewState := nextState
    reviewComment := req.reviewComment
    createdAt := transitionTime }
  let (updated, s) ← updateConsolidationProposal s req.tenantId req.projectId req.proposalId
    fun row => { row with
      reviewState := nextState
      reviewerAgentId := some req.reviewerAgentId
      reviewComment := req.reviewComment
      reviewedAt := some (timestamptz transitionTime)
      updatedAt := timestamptz transitionTime }
  if action = .apply then
    applyConsolidationProposalToMemory svc draw s updated
      ⟨req.reviewerAgentId, req.reviewComment, transitionTime⟩
  else
    return (updated, s)

def reviewStepsFrom (svc : ElfService) (draw : Draw) (req : ConsolidationProposalReviewRequest)
    (s : Store) (updated : ConsolidationProposal) (lastState : ConsolidationReviewState)
    (stepIndex : Nat) : List ReviewStep → Except Error (ConsolidationProposal × Store)
  | [] => .ok (updated, s)
  | step :: steps => do
    let (updated, s) ← reviewStep svc draw req s updated lastState stepIndex step
    reviewStepsFrom svc draw req s updated step.2 (stepIndex + 1) steps

def consolidationProposalReview (svc : ElfService) (req : ConsolidationProposalReviewRequest)
    (draw : Draw) : Transaction Error Store ConsolidationProposal := fun s => do
  validateContext req.tenantId req.projectId req.reviewerAgentId
  let existing ← ofOption proposalNotFound
    (lockConsolidationProposal s req.tenantId req.projectId req.proposalId)
  let steps ← reviewSteps existing.reviewState req.reviewAction
  reviewStepsFrom svc draw req s existing existing.reviewState 0 steps

/-! ## The queue -/

def forbiddenSourceMutationKeys : List String := [
  "delete_source",
  "delete_sources",
  "overwrite_source",
  "source_delete",
  "source_mutation",
  "source_mutations",
  "source_note_updates",
  "update_source"]

def containsForbiddenSourceMutationKey (value : Json) : Bool :=
  value.hasKey forbiddenSourceMutationKeys

namespace ConsolidationProposal

def sourceMutationRequested (proposal : ConsolidationProposal) : Bool :=
  containsForbiddenSourceMutationKey proposal.diff
    || containsForbiddenSourceMutationKey proposal.proposedPayload
    || containsForbiddenSourceMutationKey proposal.targetRef

def manualApplyAllowed (proposal : ConsolidationProposal) : Bool :=
  proposal.reviewState = .approved && !proposal.sourceMutationRequested

end ConsolidationProposal

def availableReviewActions (reviewState : ConsolidationReviewState) (manualApplyAllowed : Bool)
    : List ConsolidationReviewAction :=
  match reviewState with
  | .proposed => [.approve, .defer, .discard]
  | .approved => if manualApplyAllowed then [.apply, .defer, .discard] else [.defer, .discard]
  | .rejected | .applied | .archived => []

structure DreamingReviewQueueItem where
  proposalId : Uuid
  reviewState : ConsolidationReviewState
  sourceMutationRequested : Bool
  requiresReview : Bool
  availableActions : List ConsolidationReviewAction
deriving DecidableEq

def DreamingReviewQueueItem.ofProposal (proposal : ConsolidationProposal)
    : DreamingReviewQueueItem := {
  proposalId := proposal.proposalId
  reviewState := proposal.reviewState
  sourceMutationRequested := proposal.sourceMutationRequested
  requiresReview := proposal.sourceMutationRequested
    || !(proposal.reviewState = .approved || proposal.reviewState = .applied)
  availableActions := availableReviewActions proposal.reviewState proposal.manualApplyAllowed }

/-- The queue offers to apply the approved proposals that ask for no change of their sources. -/
theorem apply_mem_availableActions {proposal : ConsolidationProposal}
    : .apply ∈ (DreamingReviewQueueItem.ofProposal proposal).availableActions
      ↔ proposal.reviewState = .approved ∧ proposal.sourceMutationRequested = false := by
  cases hstate : proposal.reviewState with
  | proposed => simp [DreamingReviewQueueItem.ofProposal, availableReviewActions, hstate]
  | approved =>
    cases hrequested : proposal.sourceMutationRequested with
    | true =>
      simp [DreamingReviewQueueItem.ofProposal, availableReviewActions, hstate,
        ConsolidationProposal.manualApplyAllowed, hrequested]
    | false =>
      simp [DreamingReviewQueueItem.ofProposal, availableReviewActions, hstate,
        ConsolidationProposal.manualApplyAllowed, hrequested]
  | rejected => simp [DreamingReviewQueueItem.ofProposal, availableReviewActions, hstate]
  | applied => simp [DreamingReviewQueueItem.ofProposal, availableReviewActions, hstate]
  | archived => simp [DreamingReviewQueueItem.ofProposal, availableReviewActions, hstate]

end Elf
