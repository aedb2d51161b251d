import Elf.Lib.Run
import Elf.Service.Lemmas.AddNote

/-!
This module contains what the review of a consolidation proposal can do to the store.
-/

namespace Elf

open Text

variable {svc : ElfService} {draw : Draw} {s t : Store} {prev note : MemoryNote}
  {proposal updated row : ConsolidationProposal} {args : PromotionArgs}

/-! ## Promotion -/

theorem validatePromotedMemoryPayload_eq_ok
    (h : validatePromotedMemoryPayload svc payload scope = .ok ())
    : writegate svc.containsSecrets svc.cfg ⟨payload.noteType, scope, payload.text⟩ = .ok () := by
  unfold validatePromotedMemoryPayload at h
  cases hgate : writegate svc.containsSecrets svc.cfg ⟨payload.noteType, scope, payload.text⟩ with
  | ok u => rfl
  | error code =>
    rw [hgate] at h
    cases h

/-- The proposal without the columns that reviews write. -/
def ConsolidationProposal.unreviewed (proposal : ConsolidationProposal) : ConsolidationProposal :=
  { proposal with
    reviewState := .proposed
    reviewerAgentId := none
    reviewComment := none
    reviewedAt := none
    updatedAt := 0 }

theorem ConsolidationProposal.eq_of_unreviewed {p q : ConsolidationProposal}
    (h : p.unreviewed = q.unreviewed)
    : p = { q with
      reviewState := p.reviewState
      reviewerAgentId := p.reviewerAgentId
      reviewComment := p.reviewComment
      reviewedAt := p.reviewedAt
      updatedAt := p.updatedAt } := by
  cases p
  cases q
  simp only [unreviewed, ConsolidationProposal.mk.injEq] at h ⊢
  simp [h]

/-- The stored note that a proposal names as its target. -/
def ConsolidationProposal.target (proposal : ConsolidationProposal) (s : Store)
    : Option MemoryNote :=
  match targetNoteId proposal with
  | .ok noteId => s.notes.find? noteId
  | .error _ => none

/-- The scope that a promoted payload falls back to. -/
def ConsolidationProposal.defaultScope (proposal : ConsolidationProposal) (s : Store) : String :=
  if proposal.applyIntent = .updateDerivedNote then
    ((proposal.target s).map (·.scope)).getD "agent_private"
  else
    "agent_private"

theorem decodePromotedMemoryPayload_congr {p q : ConsolidationProposal}
    (h : p.unreviewed = q.unreviewed)
    : decodePromotedMemoryPayload p = decodePromotedMemoryPayload q := by
  rw [ConsolidationProposal.eq_of_unreviewed h]
  rfl

theorem ConsolidationProposal.target_congr {p q : ConsolidationProposal}
    (h : p.unreviewed = q.unreviewed) (hnotes : t.notes = s.notes) : p.target t = q.target s := by
  rw [ConsolidationProposal.eq_of_unreviewed h]
  unfold target
  rw [hnotes]
  rfl

theorem ConsolidationProposal.defaultScope_congr {p q : ConsolidationProposal}
    (h : p.unreviewed = q.unreviewed) (hnotes : t.notes = s.notes)
    : p.defaultScope t = q.defaultScope s := by
  unfold defaultScope
  rw [target_congr h hnotes, ConsolidationProposal.eq_of_unreviewed h]

/-- A proposal was promoted into memory with the write `w`. -/
structure Promoted (svc : ElfService) (draw : Draw) (proposal : ConsolidationProposal)
    (args : PromotionArgs) (s t : Store) (w : NoteWrite) : Prop where
  gate : writegate svc.containsSecrets svc.cfg ⟨w.next.type, w.next.scope, w.next.text⟩ = .ok ()
  payload : ∃ payload, decodePromotedMemoryPayload proposal = .ok payload
    ∧ w.next.text = payload.text
    ∧ promotedMemoryScope payload (proposal.defaultScope s) = .ok w.next.scope
  project : w.next.projectId = promotedMemoryProjectId proposal.projectId w.next.scope
  tenant : w.next.tenantId = proposal.tenantId
  agent : w.next.agentId = proposal.agentId
  active : w.next.status = "active"
  job : w.job = .upsert
  version : w.versionId = draw.versionId
  kind : (proposal.applyIntent = .createDerivedNote ∧ w.op = .add ∧ w.prev = none
      ∧ w.next.noteId = draw.noteId)
    ∨ (proposal.applyIntent = .updateDerivedNote ∧ w.op = .update
      ∧ ∃ prev, w.prev = some prev ∧ proposal.target s = some prev ∧ prev.status = "active"
        ∧ w.next.noteId = prev.noteId ∧ w.next.embeddingVersion = prev.embeddingVersion)
  writes : s.Writes t w
  fields : t.fields = s.fields
  reviews : s.SameReviews t

theorem createPromotedMemoryNote_cases
    (h : createPromotedMemoryNote svc draw s proposal args = .ok (noteId, t))
    (hintent : proposal.applyIntent = .createDerivedNote)
    : ∃ payload scope, decodePromotedMemoryPayload proposal = .ok payload
      ∧ noteId = draw.noteId
      ∧ Promoted svc draw proposal args s t
        ⟨none, promotedMemoryNote svc proposal payload scope draw.noteId args, .add, .upsert,
          draw.versionId⟩ := by
  simp only [createPromotedMemoryNote, Except.bind_eq_ok, Except.pure_eq_ok, Prod.mk.injEq] at h
  rcases h with ⟨payload, hpayload, scope, hscope, _, hvalid, s₁, hgrant, s₂, hnote, s₃, hversion,
    s₄, hjob, rfl, rfl⟩
  rcases ensureActiveProjectScopeGrant_frame hgrant with ⟨grants, rfl⟩
  refine ⟨payload, scope, hpayload, rfl, ?_⟩
  have hwrites : s.Writes t ⟨none, promotedMemoryNote svc proposal payload scope draw.noteId args,
      .add, .upsert, draw.versionId⟩ :=
    writes_of_insert (by rfl) (by rfl) (by rfl) hnote hversion (by rfl) (by rfl) (by rfl) hjob
      (by rfl) (by rfl) (by rfl)
  rw [insertMemoryNoteTx_eq_ok] at hnote
  rw [insertVersion_eq_ok] at hversion
  rw [enqueueOutboxTx_eq_ok] at hjob
  rcases hnote with ⟨notes, -, rfl⟩
  rcases hversion with ⟨versions, -, rfl⟩
  rcases hjob with ⟨outbox, -, rfl⟩
  exact {
    gate := validatePromotedMemoryPayload_eq_ok hvalid
    payload := ⟨payload, hpayload, rfl, by simpa [ConsolidationProposal.defaultScope, hintent]⟩
    project := rfl
    tenant := rfl
    agent := rfl
    active := rfl
    job := rfl
    version := rfl
    kind := Or.inl ⟨hintent, rfl, rfl, rfl⟩
    writes := hwrites
    fields := rfl
    reviews := ⟨rfl, rfl⟩ }

theorem updatePromotedMemoryNote_cases
    (h : updatePromotedMemoryNote svc draw s proposal args = .ok (noteId, t))
    (hintent : proposal.applyIntent = .updateDerivedNote)
    : ∃ payload scope prev, decodePromotedMemoryPayload proposal = .ok payload
      ∧ noteId = prev.noteId
      ∧ Promoted svc draw proposal args s t
        ⟨some prev, promotedUpdate svc proposal payload scope prev args, .update, .upsert,
          draw.versionId⟩ := by
  simp only [updatePromotedMemoryNote, Except.bind_eq_ok, Except.ofOption_eq_ok,
    Except.rejectIf_eq_ok, Except.pure_eq_ok, Prod.mk.injEq] at h
  rcases h with ⟨payload, hpayload, targetId, htarget, prev, hload, _, hactive, _, hagent, scope,
    hscope, _, hvalid, s₁, hgrant, s₂, hwrite, rfl, rfl⟩
  rcases ensureActiveProjectScopeGrant_frame hgrant with ⟨grants, rfl⟩
  rcases loadNote_eq_some hload with ⟨hprev, htenant, hproject⟩
  have hid := Table.key_of_find? hprev
  simp only [ne_eq, decide_not, Bool.not_eq_false', decide_eq_true_eq] at hactive hagent
  refine ⟨payload, scope, prev, hpayload, hid.symm, ?_⟩
  have hprevTarget : proposal.target s = some prev := by
    unfold ConsolidationProposal.target
    rw [htarget]
    exact hprev
  rw [← hid] at hprev
  rcases writes_of_update hprev (by rfl) (by rfl) (by rfl) hwrite with
    ⟨hwrites, notes, versions, outbox, rfl⟩
  exact {
    gate := validatePromotedMemoryPayload_eq_ok hvalid
    payload := ⟨payload, hpayload, rfl, by
      simpa [ConsolidationProposal.defaultScope, hintent, hprevTarget]⟩
    project := rfl
    tenant := htenant
    agent := hagent
    active := hactive
    job := rfl
    version := rfl
    kind := Or.inr ⟨hintent, rfl, prev, rfl, hprevTarget, hactive, rfl, rfl⟩
    writes := hwrites
    fields := rfl
    reviews := ⟨rfl, rfl⟩ }

/-- The intents whose proposals are promoted into memory. -/
def ConsolidationApplyIntent.promotesMemory : ConsolidationApplyIntent → Bool
  | .createDerivedNote | .updateDerivedNote => true
  | .createDerivedKnowledgePage | .updateDerivedKnowledgePage | .createDerivedGraphView
  | .noOp => false

theorem promoteProposal_cases
    (h : promoteProposal svc draw s proposal args = .ok (promoted, t))
    : (proposal.applyIntent.promotesMemory = false ∧ promoted = none ∧ t = s)
      ∨ ∃ noteId w, proposal.applyIntent.promotesMemory = true ∧ promoted = some noteId
        ∧ Promoted svc draw proposal args s t w := by
  unfold promoteProposal at h
  cases hintent : proposal.applyIntent with
  | createDerivedNote =>
    simp only [hintent, Except.bind_eq_ok, Except.pure_eq_ok, Prod.mk.injEq] at h
    rcases h with ⟨⟨noteId, t⟩, hcreate, rfl, rfl⟩
    rcases createPromotedMemoryNote_cases hcreate hintent with ⟨payload, scope, -, -, hpromoted⟩
    right
    exact ⟨_, _, rfl, rfl, hpromoted⟩
  | updateDerivedNote =>
    simp only [hintent, Except.bind_eq_ok, Except.pure_eq_ok, Prod.mk.injEq] at h
    rcases h with ⟨⟨noteId, t⟩, hupdate, rfl, rfl⟩
    rcases updatePromotedMemoryNote_cases hupdate hintent with ⟨payload, scope, prev, -, -, hpromoted⟩
    right
    exact ⟨_, _, rfl, rfl, hpromoted⟩
  | createDerivedKnowledgePage =>
    simp only [hintent] at h
    cases h
    exact Or.inl ⟨rfl, rfl, rfl⟩
  | updateDerivedKnowledgePage =>
    simp only [hintent] at h
    cases h
    exact Or.inl ⟨rfl, rfl, rfl⟩
  | createDerivedGraphView =>
    simp only [hintent] at h
    cases h
    exact Or.inl ⟨rfl, rfl, rfl⟩
  | noOp =>
    simp only [hintent] at h
    cases h
    exact Or.inl ⟨rfl, rfl, rfl⟩

/-! ## Steps -/

theorem lockConsolidationProposal_eq_some
    (h : lockConsolidationProposal s tenantId projectId proposalId = some row)
    : s.proposals.find? proposalId = some row ∧ row.tenantId = tenantId
      ∧ row.projectId = projectId := by
  unfold lockConsolidationProposal at h
  rw [Option.filter_eq_some_iff] at h
  simpa using h

theorem updateConsolidationProposal_eq_ok {set : ConsolidationProposal → ConsolidationProposal}
    {hset : ∀ row, (set row).proposalId = row.proposalId}
    (h : updateConsolidationProposal s tenantId projectId proposalId set hset = .ok (updated, t))
    : ∃ row, s.proposals.find? proposalId = some row ∧ row.tenantId = tenantId
      ∧ row.projectId = projectId ∧ updated = set row
      ∧ (∀ id, t.proposals.find? id
        = if proposalId = id then some (set row) else s.proposals.find? id)
      ∧ ∃ proposals, t = { s with proposals } := by
  simp only [updateConsolidationProposal, Except.bind_eq_ok, Except.ofOption_eq_ok,
    Except.pure_eq_ok, Prod.mk.injEq] at h
  rcases h with ⟨row, hlock, rfl, rfl⟩
  rcases lockConsolidationProposal_eq_some hlock with ⟨hrow, htenant, hproject⟩
  exact ⟨row, hrow, htenant, hproject, rfl, Table.find?_modify_of_find? hrow set hset, _, rfl⟩

/-- The tables that a step of a review leaves alone when it does not promote. -/
def Store.SameMemory (s t : Store) : Prop :=
  s.SameNotes t ∧ t.fields = s.fields

-- What a review leaves of the content of a proposal, whose target may only change if it is applied.
structure ConsolidationProposal.Keeps (applied : Prop) (proposal updated : ConsolidationProposal)
    : Prop where
  diff : updated.diff = proposal.diff
  proposedPayload : updated.proposedPayload = proposal.proposedPayload
  targetRef : updated.targetRef = proposal.targetRef
    ∨ (applied ∧ ∃ noteId now, updated.targetRef = promotedMemoryTargetRef noteId now)

theorem ConsolidationProposal.Keeps.trans {q : ConsolidationProposal} {p₁ p₂ p₃ : Prop}
    (h : proposal.Keeps p₁ updated) (h' : updated.Keeps p₂ q) (h₁ : p₁ → p₃) (h₂ : p₂ → p₃)
    : proposal.Keeps p₃ q := by
  constructor
  . rw [h'.diff, h.diff]
  . rw [h'.proposedPayload, h.proposedPayload]
  . cases h'.targetRef with
    | inl hsame =>
      rw [hsame]
      cases h.targetRef with
      | inl hsame => exact .inl hsame
      | inr hset => exact .inr ⟨h₁ hset.1, hset.2⟩
    | inr hset => exact .inr ⟨h₂ hset.1, hset.2⟩

/-- What a step of a review on `proposal` did: it recorded one event and moved the proposal. -/
structure Reviewed (req : ConsolidationProposalReviewRequest) (action : ConsolidationReviewAction)
    (lastState nextState : ConsolidationReviewState) (s t : Store)
    (proposal updated : ConsolidationProposal) : Prop where
  allowed : lastState.allowed nextState = true
  find : s.proposals.find? req.proposalId = some proposal
  tenant : proposal.tenantId = req.tenantId
  project : proposal.projectId = req.projectId
  proposals : ∀ id, t.proposals.find? id
    = if req.proposalId = id then some updated else s.proposals.find? id
  state : updated.reviewState = nextState
  intent : updated.applyIntent = proposal.applyIntent
  proposalId : updated.proposalId = proposal.proposalId
  content : proposal.Keeps (action = .apply) updated
  reviews : ∃ event, t.reviews.rows = s.reviews.rows ++ [event]
    ∧ event.proposalId = req.proposalId ∧ event.action = action
    ∧ event.fromReviewState = lastState ∧ event.toReviewState = nextState

/-- A step promotes where it applies a proposal whose intent is memory. -/
def promotes (action : ConsolidationReviewAction) (proposal : ConsolidationProposal) : Bool :=
  action = .apply && proposal.applyIntent.promotesMemory

theorem writes_of_same {s' t' : Store} {w : NoteWrite} (hs : s.SameNotes s')
    (h : s'.Writes t' w) (ht : t'.SameNotes t) : s.Writes t w := by
  rcases hs with ⟨hnotes, hversions, houtbox⟩
  rcases ht with ⟨hnotes', hversions', houtbox'⟩
  rcases h with ⟨hprev, hnext, hversion, hjob⟩
  constructor
  . rw [← hnotes, hprev]
  . intro id
    rw [hnotes', hnext, hnotes]
  . rw [hversions', ← hversions]
    exact hversion
  . rw [houtbox', ← houtbox]
    exact hjob

theorem applyConsolidationProposalToMemory_cases
    (h : applyConsolidationProposalToMemory svc draw s proposal args = .ok (updated, t))
    (hfind : s.proposals.find? proposal.proposalId = some proposal)
    : (proposal.applyIntent.promotesMemory = false ∧ updated = proposal ∧ t = s)
      ∨ ∃ w s', proposal.applyIntent.promotesMemory = true
        ∧ Promoted svc draw proposal args s s' w ∧ s'.SameMemory t
        ∧ t.reviews = s.reviews
        ∧ (∃ noteId, updated = { proposal with
          targetRef := promotedMemoryTargetRef noteId args.now
          updatedAt := timestamptz args.now })
        ∧ ∀ id, t.proposals.find? id
          = if proposal.proposalId = id then some updated else s.proposals.find? id := by
  simp only [applyConsolidationProposalToMemory, Except.bind_eq_ok] at h
  rcases h with ⟨⟨promoted, s'⟩, hpromote, h⟩
  rcases promoteProposal_cases hpromote with ⟨hintent, rfl, rfl⟩ | ⟨noteId, w, hintent, rfl, hprom⟩
  . simp only [Except.pure_eq_ok, Prod.mk.injEq] at h
    left
    exact ⟨hintent, h.1, h.2⟩
  . rcases updateConsolidationProposal_eq_ok h with ⟨row, hrow, -, -, rfl, hprops, proposals, rfl⟩
    have hsame := hprom.reviews
    dsimp only at hrow hprops
    have hrow' : row = proposal := by
      rw [hsame.1, hfind] at hrow
      exact (Option.some.inj hrow).symm
    subst hrow'
    right
    refine ⟨w, s', hintent, hprom, ⟨⟨rfl, rfl, rfl⟩, rfl⟩, hsame.2, ⟨noteId, rfl⟩, ?_⟩
    intro id
    rw [hprops, hsame.1]

/-- A step of a review, and what it promoted. -/
theorem reviewStep_cases {req : ConsolidationProposalReviewRequest}
    (h : reviewStep svc draw req s current lastState stepIndex (action, nextState)
      = .ok (updated, t))
    : ∃ proposal, Reviewed req action lastState nextState s t proposal updated
      ∧ ((promotes action proposal = false ∧ updated.unreviewed = proposal.unreviewed
          ∧ s.SameMemory t)
        ∨ ∃ w proposal' s₁ s₂, Promoted svc draw proposal'
            ⟨req.reviewerAgentId, req.reviewComment, draw.clock 0 + 1000000 * stepIndex⟩ s₁ s₂ w
          ∧ promotes action proposal = true ∧ proposal'.unreviewed = proposal.unreviewed
          ∧ s.SameMemory s₁ ∧ s₂.SameMemory t) := by
  simp only [reviewStep, Except.bind_eq_ok, insertReviewEvent, Table.insert_eq_ok,
    Except.pure_eq_ok] at h
  rcases h with ⟨_, hallowed, s₁, ⟨reviews, hreviews, rfl⟩, ⟨moved, s₂⟩, hmoved, h⟩
  rcases updateConsolidationProposal_eq_ok hmoved with
    ⟨row, hrow, htenant, hproject, rfl, hmovedRows, proposals, rfl⟩
  have hid := Table.key_of_find? hrow
  rw [ConsolidationReviewState.validateTransition_eq_ok] at hallowed
  have hevents := Table.rows_insert? hreviews
  dsimp only at h hrow hmovedRows
  -- The step as it is before anything is promoted.
  have hmoved : Reviewed req action lastState nextState s { s with reviews, proposals } row _ := {
    allowed := hallowed
    find := hrow
    tenant := htenant
    project := hproject
    proposals := hmovedRows
    state := rfl
    intent := rfl
    proposalId := rfl
    content := ⟨rfl, rfl, .inl rfl⟩
    reviews := ⟨_, hevents, rfl, rfl, rfl, rfl⟩ }
  refine ⟨row, ?_⟩
  split at h
  next happly =>
    subst happly
    have hmovedRow := hmovedRows row.proposalId
    rw [if_pos hid.symm] at hmovedRow
    rcases applyConsolidationProposalToMemory_cases h hmovedRow with ⟨hintent, rfl, rfl⟩ | happlied
    . dsimp only at hintent
      refine ⟨hmoved, .inl ?_⟩
      exact ⟨by simp [promotes, hintent], rfl, ⟨rfl, rfl, rfl⟩, rfl⟩
    . rcases happlied with ⟨w, s', hintent, hprom, hsame, hsamer, ⟨noteId, rfl⟩, hprops⟩
      dsimp only at hintent hprops hsamer
      constructor
      . exact { hmoved with
          proposals := by
            intro id
            rw [hprops, hid]
            split
            next => rfl
            next hkey => rw [hmovedRows, if_neg hkey]
          state := rfl
          intent := rfl
          proposalId := rfl
          content := ⟨rfl, rfl, .inr ⟨rfl, noteId, _, rfl⟩⟩
          reviews := by
            rw [hsamer]
            exact hmoved.reviews }
      . right
        exact ⟨w, _, _, s', hprom, by simp [promotes, hintent], rfl, ⟨⟨rfl, rfl, rfl⟩, rfl⟩, hsame⟩
  next hkeep =>
    cases h
    refine ⟨hmoved, .inl ?_⟩
    exact ⟨by simp [promotes, hkeep], rfl, ⟨rfl, rfl, rfl⟩, rfl⟩

/-! ## Requests -/

theorem Store.SameMemory.trans {u : Store} (h : s.SameMemory t) (h' : t.SameMemory u)
    : s.SameMemory u := by
  rcases h with ⟨⟨hnotes, hversions, houtbox⟩, hfields⟩
  rcases h' with ⟨⟨hnotes', hversions', houtbox'⟩, hfields'⟩
  exact ⟨⟨hnotes'.trans hnotes, hversions'.trans hversions, houtbox'.trans houtbox⟩,
    hfields'.trans hfields⟩

/-- The transitions of the review events are allowed ones. -/
def ConsolidationProposalReviewEvent.allowed (event : ConsolidationProposalReviewEvent) : Bool :=
  event.fromReviewState.allowed event.toReviewState

/-- An event applies its proposal if and only if the proposal is applied after it. -/
def ConsolidationProposalReviewEvent.WellNamed (event : ConsolidationProposalReviewEvent) : Prop :=
  event.action = .apply ↔ event.toReviewState = .applied

/-- What the steps of a review did to the proposal `proposal`, in the order of `events`. -/
structure ReviewOutcome (svc : ElfService) (req : ConsolidationProposalReviewRequest) (draw : Draw)
    (lastState : ConsolidationReviewState) (s t : Store) (proposal updated : ConsolidationProposal)
    (events : List ConsolidationProposalReviewEvent) : Prop where
  proposals : ∀ id, t.proposals.find? id
    = if req.proposalId = id then some updated else s.proposals.find? id
  intent : updated.applyIntent = proposal.applyIntent
  content : proposal.Keeps (∃ event ∈ events, event.action = .apply) updated
  reviews : t.reviews.rows = s.reviews.rows ++ events
  event : ∀ event ∈ events, event.proposalId = req.proposalId ∧ event.allowed = true
    ∧ event.WellNamed
  trail : Trail (·.fromReviewState) (·.toReviewState) lastState events updated.reviewState
  memory : ((∀ event ∈ events, promotes event.action proposal = false) ∧ s.SameMemory t)
    ∨ ((∃ event ∈ events, promotes event.action proposal = true)
      ∧ ∃ w promoted args s₁ s₂, Promoted svc draw promoted args s₁ s₂ w
        ∧ promoted.unreviewed = proposal.unreviewed ∧ s.SameMemory s₁ ∧ s₂.SameMemory t)

theorem ReviewOutcome.nil (hfind : s.proposals.find? req.proposalId = some proposal)
    : ReviewOutcome svc req draw proposal.reviewState s s proposal proposal [] where
  proposals := by
    intro id
    split
    next hid =>
      subst hid
      exact hfind
    next => rfl
  intent := rfl
  content := ⟨rfl, rfl, .inl rfl⟩
  reviews := by simp
  event := by simp
  trail := .nil _
  memory := .inl ⟨by simp, ⟨rfl, rfl, rfl⟩, rfl⟩

/-- A proposal is not left once it is applied. -/
theorem reviewStepsFrom_applied {req : ConsolidationProposalReviewRequest}
    (h : reviewStepsFrom svc draw req s proposal .applied stepIndex steps = .ok (updated, t))
    : t = s := by
  cases steps with
  | nil =>
    cases h
    rfl
  | cons step steps =>
    simp only [reviewStepsFrom, Except.bind_eq_ok] at h
    rcases h with ⟨⟨moved, s'⟩, hstep, -⟩
    rcases reviewStep_cases hstep with ⟨row, hreviewed, -⟩
    cases hreviewed.allowed

theorem reviewStepsFrom_cases {req : ConsolidationProposalReviewRequest}
    (h : reviewStepsFrom svc draw req s proposal lastState stepIndex steps = .ok (updated, t))
    (hfind : s.proposals.find? req.proposalId = some proposal)
    (hstate : proposal.reviewState = lastState)
    (hsteps : ∀ step ∈ steps, step.1 = .apply ↔ step.2 = .applied)
    : ∃ events, events.map (·.action) = steps.map Prod.fst
      ∧ ReviewOutcome svc req draw lastState s t proposal updated events := by
  induction steps generalizing s proposal lastState stepIndex with
  | nil =>
    cases h
    subst hstate
    exact ⟨[], rfl, .nil hfind⟩
  | cons step steps ih =>
    rcases step with ⟨action, nextState⟩
    simp only [reviewStepsFrom, Except.bind_eq_ok] at h
    rcases h with ⟨⟨moved, s'⟩, hstep, hrest⟩
    rcases reviewStep_cases hstep with ⟨row, hreviewed, hmemory⟩
    have hrow : row = proposal := Option.some.inj (hreviewed.find.symm.trans hfind)
    subst hrow
    have hname := hsteps _ List.mem_cons_self
    have hmoved := hreviewed.proposals req.proposalId
    rw [if_pos rfl] at hmoved
    rcases ih hrest hmoved hreviewed.state (fun step hmem => hsteps step (List.mem_cons_of_mem _ hmem))
      with ⟨events, hactions, houtcome⟩
    rcases hreviewed.reviews with ⟨event, hevents, hid, haction, hfrom, hto⟩
    refine ⟨event :: events, by simp [hactions, haction], ?_⟩
    have hpromotes : ∀ event : ConsolidationProposalReviewEvent,
        promotes event.action moved = promotes event.action row := by
      intro event
      unfold promotes
      rw [hreviewed.intent]
    constructor
    . intro id
      rw [houtcome.proposals, hreviewed.proposals]
      split
      . rfl
      . rfl
    . rw [houtcome.intent, hreviewed.intent]
    . apply hreviewed.content.trans houtcome.content
      . intro happly
        exact ⟨event, List.mem_cons_self, haction.trans happly⟩
      . rintro ⟨event', hmem, happly⟩
        exact ⟨event', List.mem_cons_of_mem _ hmem, happly⟩
    . rw [houtcome.reviews, hevents, List.append_assoc, List.singleton_append]
    . intro event' hmem
      rcases List.mem_cons.mp hmem with rfl | hmem
      . unfold ConsolidationProposalReviewEvent.allowed ConsolidationProposalReviewEvent.WellNamed
        rw [hfrom, hto, haction]
        exact ⟨hid, hreviewed.allowed, hname⟩
      . exact houtcome.event event' hmem
    . apply Trail.cons hfrom
      rw [hto]
      exact houtcome.trail
    . rcases hmemory with ⟨hquiet, hcontract, hsame⟩ | ⟨w, promoted, s₁, s₂, hprom, hpromotes',
        hproject, hsame, hsame'⟩
      . rcases houtcome.memory with ⟨hnone, hmem⟩ | ⟨⟨event', hmem, hone⟩, hrest⟩
        . left
          refine ⟨?_, hsame.trans hmem⟩
          intro event' hmem'
          rcases List.mem_cons.mp hmem' with rfl | hmem'
          . rw [haction]
            exact hquiet
          . rw [← hpromotes]
            exact hnone event' hmem'
        . right
          rcases hrest with ⟨w, promoted, args, s₁, s₂, hprom, hproject, hs₁, hs₂⟩
          refine ⟨⟨event', List.mem_cons_of_mem _ hmem, ?_⟩, w, promoted, args, s₁, s₂, hprom, ?_,
            hsame.trans hs₁, hs₂⟩
          . rw [← hpromotes]
            exact hone
          . rw [hproject, hcontract]
      . -- The step that applies the proposal was the last one.
        have happly : action = .apply := by
          unfold promotes at hpromotes'
          simp only [Bool.and_eq_true, decide_eq_true_eq] at hpromotes'
          exact hpromotes'.1
        have happlied : nextState = .applied := hname.mp happly
        rw [happlied] at hrest
        have hlast := reviewStepsFrom_applied hrest
        subst hlast
        right
        refine ⟨⟨event, List.mem_cons_self, ?_⟩, w, promoted, _, s₁, s₂, hprom, hproject, hsame,
          hsame'⟩
        rw [haction]
        exact hpromotes'

theorem plannedSteps_named (state : ConsolidationReviewState) (action : ConsolidationReviewAction)
    : ∀ step ∈ plannedSteps state action, step.1 = .apply ↔ step.2 = .applied := by
  cases action with
  | approve => simp [plannedSteps]
  | discard => simp [plannedSteps]
  | defer => simp [plannedSteps]
  | apply =>
    cases state with
    | proposed => simp [plannedSteps]
    | approved => simp [plannedSteps]
    | rejected => simp [plannedSteps]
    | applied => simp [plannedSteps]
    | archived => simp [plannedSteps]

theorem apply_mem_plannedSteps {state : ConsolidationReviewState}
    {action : ConsolidationReviewAction}
    : .apply ∈ (plannedSteps state action).map Prod.fst ↔ action = .apply := by
  cases action with
  | approve => simp [plannedSteps]
  | discard => simp [plannedSteps]
  | defer => simp [plannedSteps]
  | apply =>
    cases state with
    | proposed => simp [plannedSteps]
    | approved => simp [plannedSteps]
    | rejected => simp [plannedSteps]
    | applied => simp [plannedSteps]
    | archived => simp [plannedSteps]

/-- A review has an event that promotes if and only if it applies a proposal meant for memory. -/
theorem exists_promotes_iff {proposal : ConsolidationProposal}
    {events : List ConsolidationProposalReviewEvent} {state : ConsolidationReviewState}
    {action : ConsolidationReviewAction}
    (h : events.map (·.action) = (plannedSteps state action).map Prod.fst)
    : (∃ event ∈ events, promotes event.action proposal = true)
      ↔ action = .apply ∧ proposal.applyIntent.promotesMemory = true := by
  rw [← @apply_mem_plannedSteps state, ← h]
  simp only [promotes, Bool.and_eq_true, decide_eq_true_eq, List.mem_map]
  constructor
  . rintro ⟨event, hmem, haction, hintent⟩
    exact ⟨⟨event, hmem, haction⟩, hintent⟩
  . rintro ⟨⟨event, hmem, haction⟩, hintent⟩
    exact ⟨event, hmem, haction, hintent⟩

/-- What a review request did to the proposal it names. -/
theorem consolidationProposalReview_cases {req : ConsolidationProposalReviewRequest}
    (h : consolidationProposalReview svc req draw s = .ok (updated, t))
    : ∃ proposal events, s.proposals.find? req.proposalId = some proposal
      ∧ proposal.tenantId = req.tenantId ∧ proposal.projectId = req.projectId
      ∧ events.map (·.action)
        = (plannedSteps proposal.reviewState req.reviewAction).map Prod.fst
      ∧ ReviewOutcome svc req draw proposal.reviewState s t proposal updated events := by
  simp only [consolidationProposalReview, Except.bind_eq_ok, Except.ofOption_eq_ok, reviewSteps,
    Except.pure_eq_ok] at h
  rcases h with ⟨_, -, proposal, hlock, steps, ⟨_, -, rfl⟩, h⟩
  rcases lockConsolidationProposal_eq_some hlock with ⟨hfind, htenant, hproject⟩
  rcases reviewStepsFrom_cases h hfind rfl (plannedSteps_named _ _) with
    ⟨events, hactions, houtcome⟩
  exact ⟨proposal, events, hfind, htenant, hproject, hactions, houtcome⟩

end Elf
