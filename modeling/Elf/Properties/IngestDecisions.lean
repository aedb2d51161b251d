import Elf.Service.Lemmas.Op

/-!
This module contains the audit of what is ingested: for every note that a request or an event brings, one
decision is stored in the transaction of the note, and it names the version that the transaction wrote.
-/

namespace Elf

open Text

variable {svc : ElfService} {draw : Draw} {s t u : Store} {op : Op} {as : List Step} {a : Step}

/-! ## Transactions that decide nothing -/

/-- The transactions that decide on a note. -/
def Op.ingests : Op → Bool
  | .addNote _ _ _ _ | .addEvent _ _ _ _ _ => true
  | _ => false

theorem writeVersionAndEnqueue_decisions {versionOp : VersionOp} {prev note : MemoryNote}
    {reason actor : String} {ts : Nat} {job : OutboxOp}
    (h : writeVersionAndEnqueue u draw versionOp prev note reason actor ts job = .ok t)
    (hu : u.ingestDecisions = s.ingestDecisions) : t.ingestDecisions = s.ingestDecisions := by
  simp only [writeVersionAndEnqueue, Except.bind_eq_ok, insertVersion_eq_ok, enqueueOutboxTx_eq_ok] at h
  rcases h with ⟨_, ⟨versions, -, rfl⟩, outbox, -, rfl⟩
  exact hu

theorem update_decisions {req : UpdateRequest} {response : UpdateResponse}
    (h : update svc req draw s = .ok (response, t)) : t.ingestDecisions = s.ingestDecisions := by
  simp only [update, Except.bind_eq_ok] at h
  rcases h with ⟨-, -, -, -, -, -, note, -, -, -, -, -, h⟩
  split at h
  . rw [Except.pure_eq_ok] at h
    cases h
    rfl
  . split at h
    . rw [Except.pure_eq_ok] at h
      cases h
      rfl
    . simp only [Except.bind_eq_ok, Except.pure_eq_ok, Prod.mk.injEq] at h
      rcases h with ⟨s', hwrite, -, rfl⟩
      apply writeVersionAndEnqueue_decisions hwrite
      dsimp only [updateNoteRow]
      split <;> rfl

theorem delete_decisions {req : DeleteRequest} {response : DeleteResponse}
    (h : delete svc req draw s = .ok (response, t)) : t.ingestDecisions = s.ingestDecisions := by
  simp only [delete, Except.bind_eq_ok] at h
  rcases h with ⟨-, -, prev, -, -, -, -, -, h⟩
  split at h
  . rw [Except.pure_eq_ok] at h
    cases h
    rfl
  . simp only [Except.bind_eq_ok, Except.pure_eq_ok, Prod.mk.injEq] at h
    rcases h with ⟨s', hwrite, -, rfl⟩
    exact writeVersionAndEnqueue_decisions hwrite rfl

theorem publishNote_decisions {req : PublishNoteRequest} {response : PublishNoteResponse}
    (h : publishNote svc req draw s = .ok (response, t)) : t.ingestDecisions = s.ingestDecisions := by
  simp only [publishNote, Except.bind_eq_ok] at h
  rcases h with ⟨-, -, prev, -, -, -, granted, hgrant, h⟩
  rcases ensureActiveProjectScopeGrant_frame hgrant with ⟨grants, rfl⟩
  split at h
  . rw [Except.pure_eq_ok] at h
    cases h
    rfl
  . simp only [Except.bind_eq_ok, Except.pure_eq_ok, Prod.mk.injEq] at h
    rcases h with ⟨s', hwrite, -, rfl⟩
    exact writeVersionAndEnqueue_decisions hwrite rfl

theorem unpublishNote_decisions {req : UnpublishNoteRequest} {response : PublishNoteResponse}
    (h : unpublishNote svc req draw s = .ok (response, t))
    : t.ingestDecisions = s.ingestDecisions := by
  simp only [unpublishNote, Except.bind_eq_ok] at h
  rcases h with ⟨-, -, prev, -, -, -, h⟩
  split at h
  . rw [Except.pure_eq_ok] at h
    cases h
    rfl
  . simp only [Except.bind_eq_ok, Except.pure_eq_ok, Prod.mk.injEq] at h
    rcases h with ⟨s', hwrite, -, rfl⟩
    exact writeVersionAndEnqueue_decisions hwrite rfl

theorem endNote_decisions {prev note : MemoryNote} {action : MemoryCorrectionAction} {status : String}
    {versionOp : VersionOp} {args : CorrectionArgs} {versionId : Option Uuid}
    (h : endNote s draw prev action status versionOp args = .ok (note, versionId, t))
    : t.ingestDecisions = s.ingestDecisions := by
  simp only [endNote, Except.bind_eq_ok, Except.pure_eq_ok, Prod.mk.injEq] at h
  rcases h with ⟨s', hwrite, -, -, rfl⟩
  exact writeVersionAndEnqueue_decisions hwrite rfl

theorem applyCorrection_decisions {req : MemoryCorrectionRequest} {prev note : MemoryNote}
    {args : CorrectionArgs} {versionId : Option Uuid}
    (h : applyCorrection svc req draw s prev args = .ok (note, versionId, t))
    : t.ingestDecisions = s.ingestDecisions := by
  unfold applyCorrection at h
  split at h
  . unfold supersedeNote at h
    split at h
    . cases h
      rfl
    . split at h
      . cases h
      . exact endNote_decisions h
  . unfold deleteNote at h
    split at h
    . cases h
      rfl
    . exact endNote_decisions h
  . unfold restoreNote at h
    split at h
    . cases h
      rfl
    . simp only [Except.bind_eq_ok, Except.pure_eq_ok, Prod.mk.injEq] at h
      rcases h with ⟨_, -, restored, -, s', hwrite, -, -, rfl⟩
      exact writeVersionAndEnqueue_decisions hwrite rfl

theorem memoryCorrectionApply_decisions {req : MemoryCorrectionRequest}
    {response : MemoryCorrectionResponse} (h : memoryCorrectionApply svc req draw s = .ok (response, t))
    : t.ingestDecisions = s.ingestDecisions := by
  simp only [memoryCorrectionApply, Except.bind_eq_ok, Except.pure_eq_ok, Prod.mk.injEq] at h
  rcases h with ⟨-, -, note, -, -, -, ⟨corrected, versionId, s'⟩, happly, -, rfl⟩
  exact applyCorrection_decisions happly

theorem promoteProposal_decisions {proposal : ConsolidationProposal} {args : PromotionArgs}
    {promoted : Option Uuid} (h : promoteProposal svc draw s proposal args = .ok (promoted, t))
    : t.ingestDecisions = s.ingestDecisions := by
  unfold promoteProposal at h
  split at h
  . simp only [createPromotedMemoryNote, Except.bind_eq_ok, Except.pure_eq_ok, Prod.mk.injEq,
      insertMemoryNoteTx_eq_ok, insertVersion_eq_ok, enqueueOutboxTx_eq_ok] at h
    rcases h with ⟨_, ⟨payload, -, scope, -, -, -, s₁, hgrant, _, ⟨notes, -, rfl⟩, _,
      ⟨versions, -, rfl⟩, _, ⟨outbox, -, rfl⟩, rfl⟩, -, rfl⟩
    rcases ensureActiveProjectScopeGrant_frame hgrant with ⟨grants, rfl⟩
    rfl
  . simp only [updatePromotedMemoryNote, Except.bind_eq_ok, Except.pure_eq_ok, Prod.mk.injEq] at h
    rcases h with ⟨_, ⟨payload, -, noteId, -, prev, -, -, -, -, -, scope, -, -, -, s₁, hgrant, s₂,
      hwrite, rfl⟩, -, rfl⟩
    rcases ensureActiveProjectScopeGrant_frame hgrant with ⟨grants, rfl⟩
    exact writeVersionAndEnqueue_decisions hwrite rfl
  all_goals
    cases h
    rfl

theorem applyConsolidationProposalToMemory_decisions {proposal updated : ConsolidationProposal}
    {args : PromotionArgs}
    (h : applyConsolidationProposalToMemory svc draw s proposal args = .ok (updated, t))
    : t.ingestDecisions = s.ingestDecisions := by
  simp only [applyConsolidationProposalToMemory, Except.bind_eq_ok] at h
  rcases h with ⟨⟨promoted, s'⟩, hpromote, h⟩
  have hpromoted := promoteProposal_decisions hpromote
  cases promoted with
  | none =>
    cases h
    exact hpromoted
  | some noteId =>
    rcases updateConsolidationProposal_eq_ok h with ⟨row, -, -, -, -, -, proposals, rfl⟩
    exact hpromoted

theorem reviewStep_decisions {req : ConsolidationProposalReviewRequest}
    {current updated : ConsolidationProposal} {lastState nextState : ConsolidationReviewState}
    {action : ConsolidationReviewAction} {stepIndex : Nat}
    (h : reviewStep svc draw req s current lastState stepIndex (action, nextState)
      = .ok (updated, t))
    : t.ingestDecisions = s.ingestDecisions := by
  simp only [reviewStep, Except.bind_eq_ok, insertReviewEvent, Table.insert_eq_ok,
    Except.pure_eq_ok] at h
  rcases h with ⟨_, -, s₁, ⟨reviews, -, rfl⟩, ⟨moved, s₂⟩, hmoved, h⟩
  rcases updateConsolidationProposal_eq_ok hmoved with
    ⟨row, -, -, -, rfl, -, proposals, rfl⟩
  split at h
  next =>
    have happlied := applyConsolidationProposalToMemory_decisions h
    exact happlied
  next =>
    rw [Except.pure_eq_ok] at h
    cases h
    rfl

theorem reviewStepsFrom_decisions {req : ConsolidationProposalReviewRequest}
    {updated result : ConsolidationProposal} {lastState : ConsolidationReviewState} {stepIndex : Nat}
    {steps : List ReviewStep}
    (h : reviewStepsFrom svc draw req s updated lastState stepIndex steps = .ok (result, t))
    : t.ingestDecisions = s.ingestDecisions := by
  induction steps generalizing s updated lastState stepIndex with
  | nil =>
    cases h
    rfl
  | cons step steps ih =>
    rcases step with ⟨action, nextState⟩
    simp only [reviewStepsFrom, Except.bind_eq_ok] at h
    rcases h with ⟨⟨proposal, s'⟩, hstep, h⟩
    exact (ih h).trans (reviewStep_decisions hstep)

theorem Op.exec_decisions (h : op.exec svc draw s = .ok (r, t)) (hop : op.ingests = false)
    : t.ingestDecisions = s.ingestDecisions := by
  cases op with
  | addNote req now note withinBudget => cases hop
  | addEvent event req note now withinBudget => cases hop
  | update req =>
    rcases Transaction.reports_eq_ok.mp h with ⟨response, hok, -⟩
    exact update_decisions hok
  | delete req =>
    rcases Transaction.reports_eq_ok.mp h with ⟨response, hok, -⟩
    exact delete_decisions hok
  | publish req =>
    rcases Transaction.reports_eq_ok.mp h with ⟨response, hok, -⟩
    exact publishNote_decisions hok
  | unpublish req =>
    rcases Transaction.reports_eq_ok.mp h with ⟨response, hok, -⟩
    exact unpublishNote_decisions hok
  | grantUpsert req =>
    rcases Transaction.reports_eq_ok.mp h with ⟨response, hok, -⟩
    rcases spaceGrantUpsert_frame hok with ⟨grants, rfl⟩
    rfl
  | grantRevoke req =>
    rcases Transaction.reports_eq_ok.mp h with ⟨response, hok, -⟩
    rcases spaceGrantRevoke_frame hok with ⟨grants, rfl⟩
    rfl
  | correct req =>
    rcases Transaction.reports_eq_ok.mp h with ⟨response, hok, -⟩
    exact memoryCorrectionApply_decisions hok
  | propose owner proposalId proposal =>
    rcases Transaction.reports_eq_ok.mp h with ⟨row, hok, -⟩
    rcases insertConsolidationProposal_cases hok with ⟨proposals, -, -, rfl⟩
    rfl
  | review req =>
    rcases Transaction.reports_eq_ok.mp h with ⟨updated, hok, -⟩
    simp only [consolidationProposalReview, Except.bind_eq_ok] at hok
    rcases hok with ⟨_, -, existing, -, steps, -, hsteps⟩
    exact reviewStepsFrom_decisions hsteps
  | recordHits noteIds =>
    cases h
    rfl

/-! ## Transactions that decide -/

/-- The decision is on the note that the version is of, and says what the version says. -/
structure IngestDecision.Names (decision : IngestDecision) (version : NoteVersion) : Prop where
  versionId : decision.noteVersionId = some version.versionId
  noteId : decision.noteId = some version.noteId
  agent : decision.agentId = version.actor
  ts : decision.ts = version.ts
  op : (decision.noteOp = .add ∧ version.op = .add)
    ∨ (decision.noteOp = .update ∧ version.op = .update)

/-- What the audit is told of the version that a note led to, or of there being none. -/
def AddNoteContext.Answers (ctx : AddNoteContext) (s t : Store) (result : AddNoteResult)
    (versionId : Option Uuid) : Prop :=
  (t.versions = s.versions ∧ versionId = none)
    ∨ ∃ version, t.versions.rows = s.versions.rows ++ [version]
      ∧ versionId = some version.versionId ∧ result.noteId = some version.noteId
      ∧ ctx.agentId = version.actor ∧ timestamptz ctx.now = version.ts
      ∧ ((result.op = .add ∧ version.op = .add) ∨ (result.op = .update ∧ version.op = .update))

/-- A decision was stored, and it names the version that was written if one was. -/
def Store.Decides (s t : Store) (decisionId : Uuid) : Prop :=
  ∃ decision versions, decision.decisionId = decisionId
    ∧ t.ingestDecisions.rows = s.ingestDecisions.rows ++ [decision]
    ∧ t.versions.rows = s.versions.rows ++ versions
    ∧ ((versions = [] ∧ decision.noteVersionId = none)
      ∨ ∃ version, versions = [version] ∧ decision.Names version)

theorem AddNoteContext.Answers.refl (ctx : AddNoteContext) (s : Store) (result : AddNoteResult)
    : ctx.Answers s s result none := Or.inl ⟨rfl, rfl⟩

theorem recordIngestDecision_decides {ctx : AddNoteContext} {result : AddNoteResult}
    {versionId : Option Uuid}
    (h : recordIngestDecision u decisionId ctx noteType noteKey versionId base result = .ok t)
    (hu : u.ingestDecisions = s.ingestDecisions) (hanswers : ctx.Answers s u result versionId)
    : s.Decides t decisionId := by
  simp only [recordIngestDecision, Except.bind_eq_ok, Table.insert_eq_ok, Except.pure_eq_ok] at h
  rcases h with ⟨decisions, hinsert, rfl⟩
  have hrows := Table.rows_insert? hinsert
  rw [hu] at hrows
  rcases hanswers with ⟨hversions, hnone⟩ | ⟨version, hversions, hid, hnote, hactor, hts, hop⟩
  . refine ⟨_, [], rfl, hrows, ?_, Or.inl ⟨rfl, hnone⟩⟩
    simp [hversions]
  . exact ⟨_, [version], rfl, hrows, hversions, Or.inr ⟨version, rfl, hid, hnote, hactor, hts, hop⟩⟩

theorem handleAddNoteAdd_answers {ctx : AddNoteContext} {note : AddNoteInput} {noteId v : Uuid}
    {policy : MemoryPolicyDecision} (h : handleAddNoteAdd svc draw s ctx note noteId = .ok (v, t))
    : t.ingestDecisions = s.ingestDecisions
      ∧ ctx.Answers s t ⟨some noteId, .add, policy, none, none⟩ (some v) := by
  simp only [handleAddNoteAdd, upsertStructuredAndEnqueueOutbox, Except.bind_eq_ok,
    Except.pure_eq_ok, Prod.mk.injEq, insertMemoryNoteTx_eq_ok, insertVersion_eq_ok,
    enqueueOutboxTx_eq_ok] at h
  rcases h with ⟨s₁, hgrant, _, ⟨notes, -, rfl⟩, _, ⟨versions, hversion, rfl⟩, _,
    ⟨fields, -, outbox, -, rfl⟩, -, -, rfl, rfl⟩
  rcases ensureActiveProjectScopeGrant_frame hgrant with ⟨grants, rfl⟩
  refine ⟨rfl, Or.inr ⟨_, Table.rows_insert? hversion, rfl, rfl, rfl, rfl, ?_⟩⟩
  left
  exact ⟨rfl, rfl⟩

theorem versions_of_cleared {c : Prop} [Decidable c] {noteId : Uuid}
    : (if c then deleteNoteFields s noteId else s).versions = s.versions := by
  split <;> rfl

theorem handleAddNoteUpdate_answers {ctx : AddNoteContext} {note : AddNoteInput} {noteId : Uuid}
    {r : AddNoteResult} {v : Option Uuid} {policy : MemoryPolicyDecision}
    (h : handleAddNoteUpdate svc draw s note noteId ctx.agentId ctx.now policy = .ok ((r, v), t))
    : t.ingestDecisions = s.ingestDecisions ∧ ctx.Answers s t r v := by
  simp only [handleAddNoteUpdate, Except.bind_eq_ok, Except.ofOption_eq_ok] at h
  rcases h with ⟨prev, hprev, h⟩
  have hid := Table.key_of_find? hprev
  split at h
  . rw [Except.pure_eq_ok] at h
    cases h
    exact ⟨rfl, .refl ctx s _⟩
  . simp only [upsertStructuredAndEnqueueOutbox, Except.bind_eq_ok, Except.pure_eq_ok,
      Prod.mk.injEq, insertVersion_eq_ok, enqueueOutboxTx_eq_ok] at h
    rcases h with ⟨s₁, hgrant, _, ⟨versions, hversion, rfl⟩, -, -, _, ⟨fields, -, outbox, -, rfl⟩,
      ⟨rfl, rfl⟩, rfl⟩
    rcases ensureActiveProjectScopeGrant_frame hgrant with ⟨grants, rfl⟩
    have hversions := Table.rows_insert? hversion
    simp only [updateNoteRow, versions_of_cleared] at hversions
    constructor
    . dsimp only [updateNoteRow]
      split <;> rfl
    . right
      refine ⟨_, hversions, rfl, congrArg some hid.symm, rfl, rfl, ?_⟩
      right
      exact ⟨rfl, rfl⟩

theorem applyPolicyResult_answers {ctx : AddNoteContext} {note : AddNoteInput}
    {update : UpdateDecision} {policy : MemoryPolicyDecision} {code : Option String}
    {r : AddNoteResult} {v : Option Uuid}
    (h : applyPolicyResult svc draw s update ctx note policy code = .ok ((r, v), t))
    : t.ingestDecisions = s.ingestDecisions ∧ ctx.Answers s t r v := by
  unfold applyPolicyResult at h
  split at h
  . cases update with
    | add noteId metadata =>
      simp only [Except.bind_eq_ok, Except.pure_eq_ok, Prod.mk.injEq] at h
      rcases h with ⟨⟨versionId, s'⟩, hadd, ⟨rfl, rfl⟩, rfl⟩
      exact handleAddNoteAdd_answers hadd
    | update noteId metadata => exact handleAddNoteUpdate_answers h
    | none noteId metadata =>
      cases h
      exact ⟨rfl, .refl ctx s _⟩
  . cases h
    exact ⟨rfl, .refl ctx s _⟩

theorem processAddNoteInput_decides {ctx : AddNoteContext} {note : AddNoteInput}
    {withinBudget : Bool} {r : AddNoteResult}
    (h : processAddNoteInput svc ctx note withinBudget draw s = .ok (r, t))
    : s.Decides t draw.decisionId := by
  simp only [processAddNoteInput, Except.bind_eq_ok] at h
  rcases h with ⟨note', -, h⟩
  split at h
  . simp only [Except.bind_eq_ok, Except.pure_eq_ok, Prod.mk.injEq] at h
    rcases h with ⟨s', haudit, -, rfl⟩
    exact recordIngestDecision_decides haudit rfl (.refl ctx s _)
  . split at h
    . simp only [Except.bind_eq_ok, Except.pure_eq_ok, Prod.mk.injEq] at h
      rcases h with ⟨s', haudit, -, rfl⟩
      exact recordIngestDecision_decides haudit rfl (.refl ctx s _)
    . simp only [Except.bind_eq_ok, Except.pure_eq_ok, Prod.mk.injEq] at h
      rcases h with ⟨⟨⟨result, versionId⟩, s₁⟩, happly, s₂, haudit, -, rfl⟩
      rcases applyPolicyResult_answers happly with ⟨hdecisions, hanswers⟩
      exact recordIngestDecision_decides haudit hdecisions hanswers

theorem persistExtractedNoteAdd_answers {args : PersistExtractedNoteArgs} {noteId : Uuid}
    {policy : MemoryPolicyDecision}
    (h : persistExtractedNoteAdd svc draw s args noteId = .ok t)
    : t.ingestDecisions = s.ingestDecisions
      ∧ args.ctx.Answers s t ⟨some noteId, .add, policy, none, none⟩ (some draw.versionId) := by
  simp only [persistExtractedNoteAdd, Except.bind_eq_ok, Except.pure_eq_ok,
    insertMemoryNoteTx_eq_ok, insertVersion_eq_ok, enqueueOutboxTx_eq_ok] at h
  rcases h with ⟨s₁, hgrant, _, ⟨notes, -, rfl⟩, _, ⟨versions, hversion, rfl⟩, _, ⟨outbox, -, rfl⟩,
    s₅, hfields, -, -, rfl⟩
  rcases ensureActiveProjectScopeGrant_frame hgrant with ⟨grants, rfl⟩
  rcases upsertExtractedFields_cases hfields with ⟨⟨fields, rfl⟩, -⟩
  refine ⟨rfl, Or.inr ⟨_, Table.rows_insert? hversion, rfl, rfl, rfl, rfl, ?_⟩⟩
  left
  exact ⟨rfl, rfl⟩

theorem applyExtractedNoteDecision_decides {event : EventIngestion} {req : AddEventRequest}
    {ctx : AddNoteContext} {note : ExtractedNote} {data : NoteProcessingData} {r : AddEventResult}
    (h : applyExtractedNoteDecision svc event draw s req ctx note data = .ok (r, t))
    : s.Decides t draw.decisionId := by
  simp only [applyExtractedNoteDecision, Except.bind_eq_ok, Except.pure_eq_ok, Prod.mk.injEq] at h
  rcases h with ⟨sourceRef, -, ⟨⟨result, versionId⟩, s₁⟩, hpersist, s₂, haudit, -, rfl⟩
  split at hpersist
  . rcases resolveUpdate_keyless s (data.resolveArgs ctx sourceRef) draw.noteId rfl with
      ⟨noteId, metadata, hres⟩ | ⟨metadata, hres⟩
    . rw [hres] at hpersist
      cases hpersist
      exact recordIngestDecision_decides haudit rfl (.refl ctx s _)
    . rw [hres] at hpersist
      simp only [persistExtractedNoteDecision, Except.bind_eq_ok, Except.pure_eq_ok,
        Prod.mk.injEq] at hpersist
      rcases hpersist with ⟨s', hadd, ⟨rfl, rfl⟩, rfl⟩
      rcases persistExtractedNoteAdd_answers hadd with ⟨hdecisions, hanswers⟩
      exact recordIngestDecision_decides haudit hdecisions hanswers
  . cases hpersist
    exact recordIngestDecision_decides haudit rfl (.refl ctx s _)

theorem processExtractedNote_decides {event : EventIngestion} {req : AddEventRequest}
    {note : ExtractedNote} {now : Nat} {withinBudget : Bool} {r : AddEventResult}
    (h : processExtractedNote svc event req note now withinBudget draw s = .ok (r, t))
    : s.Decides t draw.decisionId := by
  simp only [processExtractedNote] at h
  split at h
  . simp only [Except.bind_eq_ok, Except.pure_eq_ok, Prod.mk.injEq] at h
    rcases h with ⟨s', haudit, -, rfl⟩
    exact recordIngestDecision_decides haudit rfl (.refl _ s _)
  . rw [Except.bind_eq_ok] at h
    rcases h with ⟨-, -, h⟩
    split at h
    . simp only [Except.bind_eq_ok, Except.pure_eq_ok, Prod.mk.injEq] at h
      rcases h with ⟨s', haudit, -, rfl⟩
      exact recordIngestDecision_decides haudit rfl (.refl _ s _)
    . exact applyExtractedNoteDecision_decides h

theorem Op.exec_decides (h : op.exec svc draw s = .ok (r, t)) (hop : op.ingests = true)
    : s.Decides t draw.decisionId := by
  cases op with
  | addNote req now note withinBudget =>
    rcases Transaction.reports_eq_ok.mp h with ⟨result, hok, -⟩
    exact processAddNoteInput_decides hok
  | addEvent event req note now withinBudget =>
    rcases Transaction.reports_eq_ok.mp h with ⟨result, hok, -⟩
    exact processExtractedNote_decides hok
  | _ => cases hop

/-! ## The audit of a run -/

/-- The decisions that steps store: one for every note that is ingested, unless it is rolled back. -/
def Store.decided (s : Store) : List Step → List Uuid
  | [] => []
  | a :: as =>
    (if a.op.ingests && (a.exec s).isOk then [a.draw.decisionId] else [])
      ++ (a.exec.next s).decided as

/-- What the steps decided and wrote on the way from one store to another. -/
structure Store.Audited (s t : Store) (as : List Step) (decisions : List IngestDecision)
    (versions : List NoteVersion) : Prop where
  decisions_eq : t.ingestDecisions.rows = s.ingestDecisions.rows ++ decisions
  versions_eq : t.versions.rows = s.versions.rows ++ versions
  decided : decisions.map (·.decisionId) = s.decided as
  inOrder : (decisions.filterMap (·.noteVersionId)).Sublist (versions.map (·.versionId))
  named : ∀ decision ∈ decisions, ∀ versionId, decision.noteVersionId = some versionId
    → ∃ version ∈ versions, decision.Names version
  covered : ∀ version ∈ versions, (∃ decision ∈ decisions, decision.Names version)
    ∨ ∃ a ∈ as, a.op.ingests = false ∧ a.draw.versionId = version.versionId

theorem Store.Audited.nil (s : Store) : s.Audited s [] [] [] where
  decisions_eq := by simp
  versions_eq := by simp
  decided := rfl
  inOrder := by simp
  named := by simp
  covered := by simp

theorem Store.Audited.cons {ds es : List IngestDecision} {vs ws : List NoteVersion}
    (h : s.Audited t [a] ds vs) (hstep : Steps s a t) (h' : t.Audited u as es ws)
    : s.Audited u (a :: as) (ds ++ es) (vs ++ ws) where
  decisions_eq := by rw [h'.decisions_eq, h.decisions_eq, List.append_assoc]
  versions_eq := by rw [h'.versions_eq, h.versions_eq, List.append_assoc]
  decided := by
    unfold Steps at hstep
    rw [List.map_append, h.decided, h'.decided, ← hstep]
    simp [Store.decided]
  inOrder := by
    rw [List.filterMap_append, List.map_append]
    exact h.inOrder.append h'.inOrder
  named := by
    intro decision hmem versionId hid
    rcases List.mem_append.mp hmem with hmem | hmem
    . rcases h.named decision hmem versionId hid with ⟨version, hversion, hnames⟩
      exact ⟨version, List.mem_append_left ws hversion, hnames⟩
    . rcases h'.named decision hmem versionId hid with ⟨version, hversion, hnames⟩
      exact ⟨version, List.mem_append_right vs hversion, hnames⟩
  covered := by
    intro version hmem
    rcases List.mem_append.mp hmem with hmem | hmem
    . rcases h.covered version hmem with ⟨decision, hdecision, hnames⟩ | ⟨b, hb, hdrew⟩
      . left
        exact ⟨decision, List.mem_append_left es hdecision, hnames⟩
      . right
        rw [List.mem_singleton] at hb
        subst hb
        exact ⟨b, List.mem_cons_self, hdrew⟩
    . rcases h'.covered version hmem with ⟨decision, hdecision, hnames⟩ | ⟨b, hb, hdrew⟩
      . left
        exact ⟨decision, List.mem_append_right ds hdecision, hnames⟩
      . right
        exact ⟨b, List.mem_cons_of_mem a hb, hdrew⟩

theorem Mutation.versionId_eq {w : NoteWrite} (h : Mutation svc draw s t op w)
    : w.versionId = draw.versionId := by
  cases h with
  | promoted find action contract h before after => exact h.version
  | _ => rfl

/-- A step that does not ingest writes the version that it drew, if it writes any. -/
theorem Op.exec_versions (h : op.exec svc draw s = .ok (r, t))
    : ∃ versions, t.versions.rows = s.versions.rows ++ versions
      ∧ ∀ version ∈ versions, version.versionId = draw.versionId := by
  rcases op.exec_cases h with hquiet | ⟨w, hmut, -⟩
  . refine ⟨[], ?_, by simp⟩
    simp [hquiet.versions]
  . rcases hmut.writes.versions_eq with ⟨version, hversions, -, -, hid, -⟩
    refine ⟨[version], hversions, ?_⟩
    simp [hid, hmut.versionId_eq]

theorem audited_step (h : Steps s a t)
    : ∃ decisions versions, s.Audited t [a] decisions versions := by
  unfold Steps at h
  rcases Transaction.next_cases a.exec s with ⟨r, hok⟩ | ⟨err, herr, hnext⟩
  . rw [h] at hok
    cases hop : a.op.ingests with
    | true =>
      have hdecided : s.decided [a] = [a.draw.decisionId] := by
        simp [Store.decided, hop, hok, Except.isOk, Except.toBool]
      rcases a.op.exec_decides hok hop with ⟨decision, versions, hid, hdecisions, hversions, hnames⟩
      refine ⟨[decision], versions, hdecisions, hversions, by simp [hid, hdecided], ?_, ?_, ?_⟩
      all_goals
        rcases hnames with ⟨rfl, hnone⟩ | ⟨version, rfl, hnames⟩
      . simp [hnone]
      . simp [hnames.versionId]
      . simp [hnone]
      . simp [hnames]
      . simp
      . simp [hnames]
    | false =>
      have hdecided : s.decided [a] = [] := by
        simp [Store.decided, hop]
      rcases a.op.exec_versions hok with ⟨versions, hversions, hdrew⟩
      refine ⟨[], versions, ?_, hversions, hdecided.symm, by simp, by simp, ?_⟩
      . simp [a.op.exec_decisions hok hop]
      . intro version hmem
        right
        exact ⟨a, List.mem_singleton_self a, hop, (hdrew version hmem).symm⟩
  . rw [h] at hnext
    have hdecided : s.decided [a] = [] := by
      simp [Store.decided, herr, Except.isOk, Except.toBool]
    subst hnext
    exact ⟨[], [], by simp, by simp, hdecided.symm, by simp, by simp, by simp⟩

theorem audited_run (h : Run Steps s as t)
    : ∃ decisions versions, s.Audited t as decisions versions := by
  induction h with
  | nil s => exact ⟨[], [], .nil s⟩
  | cons head tail ih =>
    rcases audited_step head with ⟨ds, vs, hstep⟩
    rcases ih with ⟨es, ws, hrest⟩
    exact ⟨ds ++ es, vs ++ ws, hstep.cons head hrest⟩

/--
Every note that a request or an event brings is decided on once and in order, unless its transaction is
rolled back. What the decisions say of versions is so, no two name one version, and every version that
no decision names was written by a step that ingests nothing.
-/
theorem decisions_audited (h : Run Steps Store.empty as s)
    : s.ingestDecisions.rows.map (·.decisionId) = Store.empty.decided as
      ∧ (s.ingestDecisions.rows.filterMap (·.noteVersionId)).Sublist
        (s.versions.rows.map (·.versionId))
      ∧ (∀ decision ∈ s.ingestDecisions, ∀ versionId, decision.noteVersionId = some versionId
        → ∃ version ∈ s.versions, decision.Names version)
      ∧ ∀ version ∈ s.versions, (∃ decision ∈ s.ingestDecisions, decision.Names version)
        ∨ ∃ a ∈ as, a.op.ingests = false ∧ a.draw.versionId = version.versionId := by
  rcases audited_run h with ⟨decisions, versions, haudited⟩
  have hdecisions : s.ingestDecisions.rows = decisions := haudited.decisions_eq
  have hversions : s.versions.rows = versions := haudited.versions_eq
  refine ⟨?_, ?_, ?_, ?_⟩
  . rw [hdecisions]
    exact haudited.decided
  . rw [hdecisions, hversions]
    exact haudited.inOrder
  . intro decision hmem versionId hid
    rw [Table.mem_def, hdecisions] at hmem
    rcases haudited.named decision hmem versionId hid with ⟨version, hversion, hnames⟩
    refine ⟨version, ?_, hnames⟩
    rw [Table.mem_def, hversions]
    exact hversion
  . intro version hmem
    rw [Table.mem_def, hversions] at hmem
    rcases haudited.covered version hmem with ⟨decision, hdecision, hnames⟩ | hother
    . left
      refine ⟨decision, ?_, hnames⟩
      rw [Table.mem_def, hdecisions]
      exact hdecision
    . right
      exact hother

/-- A note is stored, refused, deleted and stored again with another text under its key. -/
def sampleIngests : List Step := [
  sampleAdd 1 "p" "agent_private" (sampleNote (some "k") "The key is in the safe."),
  sampleAdd 2 "p" "agent_private" (sampleNote (some "k") ""),
  sampleAdd 3 "p" "agent_private" (sampleNote (some "k") "The key is in the drawer."),
  sampleStep 4 (.delete ⟨"t", "p", "a", 1⟩),
  sampleAdd 5 "p" "agent_private" (sampleNote (some "k") "The key is in the drawer.")]

theorem decisions_audited_sampleIngests
    : (Store.empty.run sampleIngests).ingestDecisions.rows.map (·.noteVersionId)
        = [some 1, none, some 3, some 5]
      ∧ (Store.empty.run sampleIngests).ingestDecisions.rows.map (·.decisionId)
        = Store.empty.decided sampleIngests := by
  refine ⟨by decide +kernel, ?_⟩
  exact (decisions_audited (run_iff.mpr rfl)).1

end Elf
