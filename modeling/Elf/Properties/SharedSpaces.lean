import Elf.Properties.Restore
import Elf.Properties.Visibility
import Elf.Service.Lemmas.Grants

/-!
This module contains the life of a shared space: which steps open it and to whom, that only a
revocation closes it, and that a space that was closed stays closed to its readers until a step of its
owner opens it again. A note that is written into a shared scope opens the space that it is in.
-/

namespace Elf

open Except Text

variable {svc : ElfService} {draw : Draw} {s t u : Store} {keys bound : Set SpaceKey}

theorem Store.Opens.trans (h : s.Opens t keys) (h' : t.Opens u keys')
    : s.Opens u (keys ∪ keys') := by
  constructor
  . intro hs
    exact h'.granted (h.granted hs)
  . intro hs
    rw [h'.spaces (h.granted hs), h.spaces hs, Set.union_assoc]

/-- The spaces that were opened are among those of a bound. -/
def Store.OpensWithin (s t : Store) (bound : Set SpaceKey) : Prop :=
  ∃ keys ⊆ bound, s.Opens t keys

theorem Store.Opens.within (h : s.Opens t keys) (hkeys : keys ⊆ bound) : s.OpensWithin t bound :=
  ⟨keys, hkeys, h⟩

theorem Store.OpensWithin.of_grants (h : t.grants = s.grants) : s.OpensWithin t bound :=
  (Opens.of_grants h).within (Set.empty_subset bound)

theorem Store.OpensWithin.congr (h : s.OpensWithin t bound) (hgrants : u.grants = t.grants)
    : s.OpensWithin u bound := by
  rcases h with ⟨keys, hkeys, h⟩
  exact (h.congr hgrants).within hkeys

theorem Store.OpensWithin.trans (h : s.OpensWithin t bound) (h' : t.OpensWithin u bound)
    : s.OpensWithin u bound := by
  rcases h with ⟨keys, hkeys, h⟩
  rcases h' with ⟨keys', hkeys', h'⟩
  exact (h.trans h').within (Set.union_subset hkeys hkeys')

/-! ## Notes that are added -/

/-- The space of the notes that a request writes. -/
def AddNoteContext.space (ctx : AddNoteContext) : Set SpaceKey :=
  SpaceKey.written ctx.tenantId ctx.projectId ctx.scope ctx.agentId

theorem recordIngestDecision_grants
    (h : recordIngestDecision s decisionId ctx noteType noteKey versionId base result = .ok t)
    : t.grants = s.grants := by
  rcases recordIngestDecision_frame h with ⟨ingestDecisions, rfl⟩
  rfl

theorem handleAddNoteAdd_opens (h : handleAddNoteAdd svc draw s ctx note noteId = .ok (v, t))
    : s.Opens t ctx.space := by
  simp only [handleAddNoteAdd, upsertStructuredAndEnqueueOutbox, Except.bind_eq_ok,
    Except.pure_eq_ok, Prod.mk.injEq, insertMemoryNoteTx_eq_ok, insertVersion_eq_ok,
    enqueueOutboxTx_eq_ok] at h
  rcases h with ⟨s₁, hgrant, _, ⟨notes, -, rfl⟩, _, ⟨versions, -, rfl⟩, _,
    ⟨fields, -, outbox, -, rfl⟩, -, -, -, rfl⟩
  exact (ensureActiveProjectScopeGrant_opens hgrant).congr rfl

theorem handleAddNoteUpdate_opens
    (h : handleAddNoteUpdate svc draw s note noteId agentId now decision = .ok ((r, v), t))
    (hprev : s.notes.find? noteId = some prev)
    : s.OpensWithin t (SpaceKey.written prev.tenantId prev.projectId prev.scope prev.agentId) := by
  simp only [handleAddNoteUpdate, Except.bind_eq_ok, Except.ofOption_eq_ok, hprev,
    Option.some.injEq] at h
  rcases h with ⟨_, rfl, h⟩
  split at h
  . cases h
    exact .of_grants rfl
  . simp only [upsertStructuredAndEnqueueOutbox, Except.bind_eq_ok, Except.pure_eq_ok,
      Prod.mk.injEq, insertVersion_eq_ok, enqueueOutboxTx_eq_ok] at h
    rcases h with ⟨s₁, hgrant, _, ⟨versions, -, rfl⟩, -, -, _, ⟨fields, -, outbox, -, rfl⟩, -, rfl⟩
    refine Store.Opens.within ((ensureActiveProjectScopeGrant_opens hgrant).congr ?_) Set.Subset.rfl
    dsimp only [updateNoteRow]
    split <;> rfl

/-- A stored note that a request is about is in the space of the request. -/
theorem written_of_matches {note : AddNoteInput}
    (h : (AddNoteContext.resolveArgs ctx note).matches row = true)
    : SpaceKey.written row.tenantId row.projectId row.scope row.agentId = ctx.space := by
  unfold ResolveUpdateArgs.matches AddNoteContext.resolveArgs at h
  simp only [Bool.and_eq_true, decide_eq_true_eq] at h
  rcases h with ⟨⟨⟨⟨⟨⟨⟨htenant, hproject⟩, hagent⟩, hscope⟩, -⟩, -⟩, -⟩, -⟩
  unfold AddNoteContext.space
  rw [htenant, hproject, hagent, hscope]

theorem applyPolicyResult_opens
    (h : applyPolicyResult svc draw s (resolveUpdate s (ctx.resolveArgs note) draw.noteId) ctx note
      decision code = .ok ((r, v), t))
    : s.OpensWithin t ctx.space := by
  unfold applyPolicyResult at h
  split at h
  . rcases resolveUpdate_cases s (ctx.resolveArgs note) draw.noteId with hupdate | hnone | hadd
    . rcases hupdate with ⟨row, hmem, hmatch, -, hres⟩
      rw [hres] at h
      rw [← written_of_matches hmatch]
      exact handleAddNoteUpdate_opens h (s.notes.find?_key hmem)
    . rcases hnone with ⟨row, -, -, -, -, hres⟩
      rw [hres] at h
      cases h
      exact .of_grants rfl
    . rw [hadd.2] at h
      simp only [Except.bind_eq_ok, Except.pure_eq_ok, Prod.mk.injEq] at h
      rcases h with ⟨⟨versionId, s'⟩, hadd, -, rfl⟩
      exact (handleAddNoteAdd_opens hadd).within Set.Subset.rfl
  . cases h
    exact .of_grants rfl

theorem processAddNoteInput_opens
    (h : processAddNoteInput svc ctx note withinBudget draw s = .ok (r, t))
    : s.OpensWithin t ctx.space := by
  simp only [processAddNoteInput, Except.bind_eq_ok] at h
  rcases h with ⟨note', -, h⟩
  split at h
  . simp only [Except.bind_eq_ok, Except.pure_eq_ok, Prod.mk.injEq] at h
    rcases h with ⟨s', haudit, -, rfl⟩
    exact .of_grants (recordIngestDecision_grants haudit)
  . split at h
    . simp only [Except.bind_eq_ok, Except.pure_eq_ok, Prod.mk.injEq] at h
      rcases h with ⟨s', haudit, -, rfl⟩
      exact .of_grants (recordIngestDecision_grants haudit)
    . simp only [Except.bind_eq_ok, Except.pure_eq_ok, Prod.mk.injEq] at h
      rcases h with ⟨⟨⟨result, versionId⟩, s₁⟩, happly, s₂, haudit, -, rfl⟩
      exact (applyPolicyResult_opens happly).congr (recordIngestDecision_grants haudit)

theorem persistExtractedNoteAdd_opens
    (h : persistExtractedNoteAdd svc draw s args noteId = .ok t) : s.Opens t args.ctx.space := by
  simp only [persistExtractedNoteAdd, Except.bind_eq_ok, Except.pure_eq_ok,
    insertMemoryNoteTx_eq_ok, insertVersion_eq_ok, enqueueOutboxTx_eq_ok] at h
  rcases h with ⟨s₁, hgrant, _, ⟨notes, -, rfl⟩, _, ⟨versions, -, rfl⟩, _, ⟨outbox, -, rfl⟩,
    s₂, hfields, -, -, rfl⟩
  rcases (upsertExtractedFields_cases hfields).1 with ⟨fields, rfl⟩
  exact (ensureActiveProjectScopeGrant_opens hgrant).congr rfl

theorem processExtractedNote_opens {req : AddEventRequest} {note : ExtractedNote}
    (h : processExtractedNote svc event req note now withinBudget draw s = .ok (r, t))
    : s.OpensWithin t
        (req.context svc (NoteProcessingData.fromRequestAndNote req note).scope now).space := by
  simp only [processExtractedNote] at h
  split at h
  . simp only [Except.bind_eq_ok, Except.pure_eq_ok, Prod.mk.injEq] at h
    rcases h with ⟨s', haudit, -, rfl⟩
    exact .of_grants (recordIngestDecision_grants haudit)
  . rw [Except.bind_eq_ok] at h
    rcases h with ⟨_, -, h⟩
    split at h
    . simp only [Except.bind_eq_ok, Except.pure_eq_ok, Prod.mk.injEq] at h
      rcases h with ⟨s', haudit, -, rfl⟩
      exact .of_grants (recordIngestDecision_grants haudit)
    . simp only [applyExtractedNoteDecision, Except.bind_eq_ok, Except.pure_eq_ok,
        Prod.mk.injEq] at h
      rcases h with ⟨sourceRef, -, ⟨⟨result, versionId⟩, s₁⟩, hpersist, s₂, haudit, -, rfl⟩
      apply Store.OpensWithin.congr _ (recordIngestDecision_grants haudit)
      split at hpersist
      . unfold persistExtractedNoteDecision at hpersist
        -- An extracted note has no key, so it is never an update.
        rcases resolveUpdate_keyless s (NoteProcessingData.resolveArgs _ _ sourceRef) draw.noteId rfl
          with ⟨noteId, metadata, hres⟩ | ⟨metadata, hres⟩
        . rw [hres] at hpersist
          cases hpersist
          exact .of_grants rfl
        . rw [hres] at hpersist
          simp only [Except.bind_eq_ok, Except.pure_eq_ok, Prod.mk.injEq] at hpersist
          rcases hpersist with ⟨s', hadd, -, rfl⟩
          exact (persistExtractedNoteAdd_opens hadd).within Set.Subset.rfl
      . cases hpersist
        exact .of_grants rfl

/-! ## Notes that are promoted -/

/-- The spaces that the promotion of a proposal may write to. -/
def ConsolidationProposal.space (proposal : ConsolidationProposal) : Set SpaceKey :=
  {key | ∃ scope, key ∈ SpaceKey.written proposal.tenantId
    (promotedMemoryProjectId proposal.projectId scope) scope proposal.agentId}

theorem createPromotedMemoryNote_opens
    (h : createPromotedMemoryNote svc draw s proposal args = .ok (noteId, t))
    : s.OpensWithin t proposal.space := by
  simp only [createPromotedMemoryNote, Except.bind_eq_ok, Except.pure_eq_ok, Prod.mk.injEq,
    insertMemoryNoteTx_eq_ok, insertVersion_eq_ok, enqueueOutboxTx_eq_ok] at h
  rcases h with ⟨payload, -, scope, -, -, -, s₁, hgrant, _, ⟨notes, -, rfl⟩, _,
    ⟨versions, -, rfl⟩, _, ⟨outbox, -, rfl⟩, -, rfl⟩
  refine Store.Opens.within ((ensureActiveProjectScopeGrant_opens hgrant).congr rfl) ?_
  intro key hkey
  exact ⟨scope, hkey⟩

theorem updatePromotedMemoryNote_opens
    (h : updatePromotedMemoryNote svc draw s proposal args = .ok (noteId, t))
    : s.OpensWithin t proposal.space := by
  simp only [updatePromotedMemoryNote, writeVersionAndEnqueue, Except.bind_eq_ok,
    Except.ofOption_eq_ok, Except.rejectIf_eq_ok, Except.pure_eq_ok, Prod.mk.injEq,
    insertVersion_eq_ok, enqueueOutboxTx_eq_ok] at h
  rcases h with ⟨payload, -, targetId, -, prev, hload, -, -, -, hagent, scope, -, -, -, s₁, hgrant,
    _, ⟨_, ⟨versions, -, rfl⟩, outbox, -, rfl⟩, -, rfl⟩
  simp only [ne_eq, decide_not, Bool.not_eq_false', decide_eq_true_eq] at hagent
  refine Store.Opens.within ((ensureActiveProjectScopeGrant_opens hgrant).congr rfl) ?_
  intro key hkey
  refine ⟨scope, ?_⟩
  rw [← hagent, ← (loadNote_eq_some hload).2.1]
  exact hkey

theorem promoteProposal_opens (h : promoteProposal svc draw s proposal args = .ok (promoted, t))
    : s.OpensWithin t proposal.space := by
  unfold promoteProposal at h
  split at h
  . simp only [Except.bind_eq_ok, Except.pure_eq_ok, Prod.mk.injEq] at h
    rcases h with ⟨⟨noteId, s'⟩, hcreate, -, rfl⟩
    exact createPromotedMemoryNote_opens hcreate
  . simp only [Except.bind_eq_ok, Except.pure_eq_ok, Prod.mk.injEq] at h
    rcases h with ⟨⟨noteId, s'⟩, hupdate, -, rfl⟩
    exact updatePromotedMemoryNote_opens hupdate
  all_goals
    cases h
    exact .of_grants rfl

/-- A statement on a proposal that keeps its space, and what it leaves alone. -/
theorem updateConsolidationProposal_space {set : ConsolidationProposal → ConsolidationProposal}
    {hset : ∀ row, (set row).proposalId = row.proposalId}
    (h : updateConsolidationProposal s tenantId projectId proposalId set hset = .ok (updated, t))
    (hspace : ∀ row, (set row).space = row.space)
    : t.grants = s.grants ∧ t.proposals.find? proposalId = some updated
      ∧ (s.proposals.find? proposalId).map ConsolidationProposal.space = some updated.space := by
  rcases updateConsolidationProposal_eq_ok h with ⟨row, hrow, -, -, rfl, hfind, proposals, rfl⟩
  rw [hfind, if_pos rfl, hrow, Option.map_some, hspace]
  exact ⟨rfl, rfl, rfl⟩

theorem applyConsolidationProposalToMemory_opens
    (h : applyConsolidationProposalToMemory svc draw s proposal args = .ok (updated, t))
    (hfind : s.proposals.find? proposal.proposalId = some proposal)
    : s.OpensWithin t proposal.space ∧ updated.space = proposal.space
      ∧ t.proposals.find? proposal.proposalId = some updated := by
  simp only [applyConsolidationProposalToMemory, Except.bind_eq_ok] at h
  rcases h with ⟨⟨promoted, s₁⟩, hpromote, h⟩
  have hopens := promoteProposal_opens hpromote
  have hkept : s₁.proposals = s.proposals := by
    rcases promoteProposal_cases hpromote with ⟨-, -, rfl⟩ | ⟨_, w, -, -, hpromoted⟩
    . rfl
    . exact hpromoted.reviews.1
  dsimp only at h
  split at h
  . cases h
    rw [hkept]
    exact ⟨hopens, rfl, hfind⟩
  . rcases updateConsolidationProposal_space h (fun _ => rfl) with ⟨hgrants, hupdated, hspace⟩
    rw [hkept, hfind, Option.map_some, Option.some.injEq] at hspace
    exact ⟨hopens.congr hgrants, hspace.symm, hupdated⟩

theorem reviewStep_opens {req : ConsolidationProposalReviewRequest}
    (h : reviewStep svc draw req s current lastState stepIndex step = .ok (updated, t))
    : ∃ row, s.proposals.find? req.proposalId = some row ∧ s.OpensWithin t row.space
      ∧ t.proposals.find? req.proposalId = some updated ∧ updated.space = row.space := by
  simp only [reviewStep, Except.bind_eq_ok, insertReviewEvent, Table.insert_eq_ok,
    Except.pure_eq_ok] at h
  rcases h with ⟨-, -, s₁, ⟨reviews, -, rfl⟩, ⟨moved, s₂⟩, hmoved, h⟩
  rcases updateConsolidationProposal_space hmoved (fun _ => rfl) with ⟨hgrants, hfind, hspace⟩
  change s₂.grants = s.grants at hgrants
  rcases Option.map_eq_some_iff.mp hspace with ⟨row, hrow, hspace⟩
  have hid := Table.key_of_find? hfind
  refine ⟨row, hrow, ?_⟩
  split at h
  . rw [← hid] at hfind
    rcases applyConsolidationProposalToMemory_opens h hfind with ⟨hopens, hsame, hupdated⟩
    rw [hid] at hupdated
    refine ⟨?_, hupdated, hsame.trans hspace.symm⟩
    rw [hspace]
    exact (Store.OpensWithin.of_grants hgrants).trans hopens
  . cases h
    exact ⟨.of_grants hgrants, hfind, hspace.symm⟩

theorem reviewStepsFrom_opens {req : ConsolidationProposalReviewRequest}
    (h : reviewStepsFrom svc draw req s current lastState stepIndex steps = .ok (updated, t))
    (hfind : s.proposals.find? req.proposalId = some row) : s.OpensWithin t row.space := by
  induction steps generalizing s current lastState stepIndex row with
  | nil =>
    cases h
    exact .of_grants rfl
  | cons step steps ih =>
    simp only [reviewStepsFrom, Except.bind_eq_ok] at h
    rcases h with ⟨⟨moved, s'⟩, hstep, h⟩
    rcases reviewStep_opens hstep with ⟨row', hrow', hopens, hmoved, hspace⟩
    rw [hfind, Option.some.injEq] at hrow'
    subst hrow'
    have htail := ih h hmoved
    rw [hspace] at htail
    exact hopens.trans htail

/-! ## Steps -/

/-- The spaces that a step may open: those of the owner that it acts for. -/
def Step.opens (a : Step) (s : Store) : Set SpaceKey :=
  match a.op with
  | .addNote req now _ _ => (req.context a.svc now).space
  | .addEvent _ req note now _ =>
    (req.context a.svc (NoteProcessingData.fromRequestAndNote req note).scope now).space
  | .publish req =>
    SpaceKey.written (trim req.tenantId) (targetProjectId req.scope (trim req.projectId)) req.scope
      (trim req.agentId)
  | .grantUpsert req => {req.spaceKey}
  | .review req => {key | ∃ row, s.proposals.find? req.proposalId = some row ∧ key ∈ row.space}
  | .update _ | .delete _ | .unpublish _ | .grantRevoke _ | .correct _ | .propose _ _ _
  | .recordHits _ => ∅

/-- The space that a step closes. -/
def Step.closes (a : Step) : Set SpaceKey :=
  match a.op with
  | .grantRevoke req => {req.spaceKey}
  | _ => ∅

/-- What a step does to the grants. -/
structure Store.Regrants (s : Store) (a : Step) (t : Store) : Prop where
  granted : t.Granted
  opened : t.openSpaces ⊆ s.openSpaces ∪ a.opens s
  closed : s.openSpaces \ a.closes ⊆ t.openSpaces

theorem Store.OpensWithin.regrants {a : Step} (h : s.OpensWithin t (a.opens s)) (hs : s.Granted)
    : s.Regrants a t := by
  rcases h with ⟨keys, hkeys, h⟩
  constructor
  . exact h.granted hs
  . rw [h.spaces hs]
    exact Set.union_subset_union_right _ hkeys
  . rw [h.spaces hs]
    intro key hkey
    exact .inl hkey.1

theorem regrants_step (h : Steps s a t) (hs : s.Granted) : s.Regrants a t := by
  rcases h.cases with rfl | ⟨r, hexec⟩
  . exact (Store.OpensWithin.of_grants rfl).regrants hs
  . rcases a with ⟨svc, draw, op⟩
    cases op with
    | addNote req now note withinBudget =>
      rcases Transaction.reports_eq_ok.mp hexec with ⟨result, hok, rfl⟩
      exact Store.OpensWithin.regrants (processAddNoteInput_opens hok) hs
    | addEvent event req note now withinBudget =>
      rcases Transaction.reports_eq_ok.mp hexec with ⟨result, hok, rfl⟩
      exact Store.OpensWithin.regrants (processExtractedNote_opens hok) hs
    | update req =>
      rcases Transaction.reports_eq_ok.mp hexec with ⟨response, hok, rfl⟩
      rcases update_cases hok with ⟨rfl, -⟩ | ⟨_, -, -, -, -, -, -, hgrants, -⟩
      . exact (Store.OpensWithin.of_grants rfl).regrants hs
      . exact (Store.OpensWithin.of_grants hgrants).regrants hs
    | delete req =>
      rcases Transaction.reports_eq_ok.mp hexec with ⟨response, hok, rfl⟩
      rcases delete_cases hok with ⟨rfl, -⟩ | ⟨_, -, -, -, -, hgrants, -⟩
      . exact (Store.OpensWithin.of_grants rfl).regrants hs
      . exact (Store.OpensWithin.of_grants hgrants).regrants hs
    | publish req =>
      rcases Transaction.reports_eq_ok.mp hexec with ⟨response, hok, rfl⟩
      rcases publishNote_cases hok with ⟨_, granted, hloads, -, ⟨-, -, rfl⟩ | hmoved⟩
      . exact (Store.OpensWithin.of_grants rfl).regrants hs
      . rcases hmoved with ⟨-, -, -, hgrants, -⟩
        have hopens := (ensureActiveProjectScopeGrant_opens hloads.grant).congr hgrants
        exact Store.OpensWithin.regrants (hopens.within Set.Subset.rfl) hs
    | unpublish req =>
      rcases Transaction.reports_eq_ok.mp hexec with ⟨response, hok, rfl⟩
      rcases unpublishNote_cases hok with ⟨_, -, -, ⟨-, rfl⟩ | ⟨-, -, -, hgrants, -⟩⟩
      . exact (Store.OpensWithin.of_grants rfl).regrants hs
      . exact (Store.OpensWithin.of_grants hgrants).regrants hs
    | grantUpsert req =>
      rcases Transaction.reports_eq_ok.mp hexec with ⟨response, hok, rfl⟩
      exact Store.OpensWithin.regrants ((spaceGrantUpsert_opens hok).within Set.Subset.rfl) hs
    | grantRevoke req =>
      rcases Transaction.reports_eq_ok.mp hexec with ⟨response, hok, rfl⟩
      rcases spaceGrantRevoke_closes hok hs with ⟨hgranted, -, hspaces⟩
      refine ⟨hgranted, ?_, ?_⟩
      . rw [hspaces]
        exact fun key hkey => .inl hkey.1
      . exact hspaces.symm.subset
    | correct req =>
      rcases Transaction.reports_eq_ok.mp hexec with ⟨response, hok, rfl⟩
      rcases memoryCorrectionApply_cases hok with ⟨_, -, -, -, hsame | hended | hrestored⟩
      . rcases hsame with ⟨-, rfl, -⟩
        exact (Store.OpensWithin.of_grants rfl).regrants hs
      . rcases hended with ⟨_, _, -, -, -, -, htables⟩
        exact (Store.OpensWithin.of_grants htables.2.1).regrants hs
      . rcases hrestored with ⟨_, _, _, -, -, -, -, -, -, -, htables⟩
        exact (Store.OpensWithin.of_grants htables.2.1).regrants hs
    | propose owner proposalId proposal =>
      rcases Transaction.reports_eq_ok.mp hexec with ⟨row, hok, rfl⟩
      rcases insertConsolidationProposal_cases hok with ⟨proposals, -, -, rfl⟩
      refine Store.OpensWithin.regrants (.of_grants ?_) hs
      rfl
    | review req =>
      rcases Transaction.reports_eq_ok.mp hexec with ⟨updated, hok, rfl⟩
      simp only [consolidationProposalReview, Except.bind_eq_ok, Except.ofOption_eq_ok] at hok
      rcases hok with ⟨-, -, existing, hlock, steps, -, hsteps⟩
      have hfind := (lockConsolidationProposal_eq_some hlock).1
      rcases reviewStepsFrom_opens hsteps hfind with ⟨keys, hkeys, hopens⟩
      refine Store.OpensWithin.regrants (hopens.within ?_) hs
      intro key hkey
      exact ⟨existing, hfind, hkeys hkey⟩
    | recordHits noteIds =>
      change Transaction.reports (Elf.recordHits noteIds draw) (fun _ => none) s = _ at hexec
      rcases Transaction.reports_eq_ok.mp hexec with ⟨response, hok, rfl⟩
      cases hok
      refine Store.OpensWithin.regrants (.of_grants ?_) hs
      rfl

theorem granted_empty : Store.empty.Granted := by
  constructor
  . exact fun _ hmem => nomatch hmem
  . exact Table.UniqueOn.empty

theorem granted_run (h : Run Steps s as t) (hs : s.Granted) : t.Granted :=
  h.invariant (fun _ _ _ hs hstep => (regrants_step hstep hs).granted) hs

/-! ## Readers -/

/-- A space that is closed is not opened by steps that do not open it. -/
theorem closed_run (h : Run (Run.Guarded (fun s a => key ∉ a.opens s) Steps) s as t)
    (hs : s.Granted) (hclosed : key ∉ s.openSpaces) : t.Granted ∧ key ∉ t.openSpaces := by
  apply h.invariant
  . rintro s a t ⟨hs, hclosed⟩ ⟨hguard, hstep⟩
    have hregrants := regrants_step hstep hs
    refine ⟨hregrants.granted, ?_⟩
    intro hopen
    rcases hregrants.opened hopen with hbefore | hnow
    . exact hclosed hbefore
    . exact hguard hnow
  . exact ⟨hs, hclosed⟩

/-- The spaces through which an agent of a project reads the shared notes of an owner. -/
def SpaceKey.through (tenantId projectId scope owner agentId : String) : Set SpaceKey :=
  {.project tenantId (targetProjectId scope projectId) scope owner,
    ⟨tenantId, targetProjectId scope projectId, scope, owner, .agent, some agentId⟩}

theorem opensTo_iff (hs : s.Granted)
    : (∃ grant ∈ s.grants, grant.OpensTo tenantId (targetProjectId scope projectId) scope owner agentId)
      ↔ ∃ key ∈ SpaceKey.through tenantId projectId scope owner agentId, key ∈ s.openSpaces := by
  constructor
  . rintro ⟨grant, hmem, h⟩
    refine ⟨grant.spaceKey, ?_, grant, hmem, h.active, rfl⟩
    have hreaches := h.reaches
    unfold SpaceGrant.reaches at hreaches
    simp only [Bool.or_eq_true, Bool.and_eq_true, decide_eq_true_eq] at hreaches
    rcases hreaches with hkind | ⟨hkind, hgrantee⟩
    . left
      simp [SpaceGrant.spaceKey, SpaceKey.project, h.tenantId, h.projectId, h.scope, h.owner, hkind,
        (hs.sound grant hmem).project hkind]
    . right
      simp [SpaceGrant.spaceKey, h.tenantId, h.projectId, h.scope, h.owner, hkind, hgrantee]
  . rintro ⟨key, hthrough, grant, hmem, hactive, rfl⟩
    refine ⟨grant, hmem, ?_⟩
    rcases hthrough with hkey | hkey
    . simp only [SpaceGrant.spaceKey, SpaceKey.project, SpaceKey.mk.injEq] at hkey
      rcases hkey with ⟨htenant, hproject, hscope, howner, hkind, -⟩
      exact ⟨htenant, hproject, hscope, howner, hactive, by simp [SpaceGrant.reaches, hkind]⟩
    . simp only [SpaceGrant.spaceKey, SpaceKey.mk.injEq, Set.mem_singleton_iff] at hkey
      rcases hkey with ⟨htenant, hproject, hscope, howner, hkind, hgrantee⟩
      exact ⟨htenant, hproject, hscope, howner, hactive,
        by simp [SpaceGrant.reaches, hkind, hgrantee]⟩

/-- A note of another agent is read through a space that is open. -/
theorem readable_iff (hs : s.Granted) (hother : note.agentId ≠ agentId)
    : Readable s note projectId agentId allowedScopes now = true
      ↔ note.status = "active" ∧ note.expired now = false ∧ note.scope ∈ allowedScopes
        ∧ isSharedScope note.scope = true
        ∧ ∃ key ∈ SpaceKey.through note.tenantId projectId note.scope note.agentId agentId,
          key ∈ s.openSpaces := by
  unfold Readable
  rw [noteReadAllowed_iff]
  constructor
  . rintro ⟨hactive, hlive, hscope, ⟨-, hown⟩ | ⟨hshared, hown | hgrant⟩⟩
    . exact absurd hown hother
    . exact absurd hown hother
    . refine ⟨hactive, hlive, hscope, hshared, ?_⟩
      have hallowed : note.scope = "org_shared" → allowedScopes.contains "org_shared" = true := by
        intro horg
        simpa [horg] using hscope
      rw [mem_loadSharedReadGrantsWithOrgShared hshared hallowed] at hgrant
      exact (opensTo_iff hs).mp hgrant
  . rintro ⟨hactive, hlive, hscope, hshared, hopen⟩
    refine ⟨hactive, hlive, hscope, .inr ⟨hshared, .inr ?_⟩⟩
    have hallowed : note.scope = "org_shared" → allowedScopes.contains "org_shared" = true := by
      intro horg
      simpa [horg] using hscope
    rw [mem_loadSharedReadGrantsWithOrgShared hshared hallowed]
    exact (opensTo_iff hs).mpr hopen

/-- A step of the run opened the space, which has been open since. -/
inductive OpenSince (key : SpaceKey) (as : List Step) (s : Store) : Prop where
  | opened {as₁ as₂ : List Step} {a : Step} {s₁ s₂ : Store} (split : as = as₁ ++ a :: as₂)
    (before : Run Steps Store.empty as₁ s₁) (closed : key ∉ s₁.openSpaces) (step : Steps s₁ a s₂)
    (opens : key ∈ a.opens s₁)
    (after : Run (Run.Guarded (fun u _ => key ∈ u.openSpaces) Steps) s₂ as₂ s)
    : OpenSince key as s

theorem openSince_run (h : Run Steps Store.empty as s) (hopen : key ∈ s.openSpaces)
    : OpenSince key as s := by
  revert hopen
  apply h.snoc_induction (P := fun as s => key ∈ s.openSpaces → OpenSince key as s)
  . rintro ⟨grant, hmem, -⟩
    cases hmem
  . intro as u a t hrun ih hstep hopen
    by_cases hbefore : key ∈ u.openSpaces
    . -- The space was open before the last step, which kept it open.
      rcases ih hbefore with ⟨hsplit, hrun₁, hclosed, hopens, hkey, hafter⟩
      refine .opened ?_ hrun₁ hclosed hopens hkey (hafter.snoc ⟨hbefore, hstep⟩)
      rw [hsplit, List.append_assoc, List.cons_append]
    . have hregrants := regrants_step hstep (granted_run hrun granted_empty)
      refine .opened rfl hrun hbefore hstep ?_ (.nil t)
      exact (hregrants.opened hopen).resolve_left hbefore

/--
What an agent reads of the shared notes of another agent was opened to it: by a step of the run, on
behalf of the owner, to the project or to the agent, and no step of the run closed it since.
-/
theorem sharedNote_read_opened (h : Run Steps Store.empty as s) (hother : note.agentId ≠ agentId)
    (hread : Readable s note projectId agentId allowedScopes now = true)
    : ∃ key ∈ SpaceKey.through note.tenantId projectId note.scope note.agentId agentId,
        OpenSince key as s := by
  have hgranted := granted_run h granted_empty
  rcases (readable_iff hgranted hother).mp hread with ⟨-, -, -, -, key, hkey, hopen⟩
  exact ⟨key, hkey, openSince_run h hopen⟩

def sharedNote : List Step :=
  [sampleAdd 1 "p" "project_shared" (sampleNote none "Deploys run on Friday.")]

theorem sharedNote_read_opened_sample
    : ∃ note ∈ (Store.empty.run sharedNote).notes, note.agentId ≠ "b"
      ∧ ∃ key ∈ SpaceKey.through note.tenantId "p" note.scope note.agentId "b",
        OpenSince key sharedNote (Store.empty.run sharedNote) := by
  have hread : (Store.empty.run sharedNote).notes.rows.any (fun note => note.agentId ≠ "b"
      && Readable (Store.empty.run sharedNote) note "p" "b" ["project_shared"] 2000000000) = true := by
    decide +kernel
  rcases List.any_eq_true.mp hread with ⟨note, hmem, hnote⟩
  simp only [Bool.and_eq_true, decide_eq_true_eq] at hnote
  exact ⟨note, hmem, hnote.1, sharedNote_read_opened (run_iff.mpr rfl) hnote.1 hnote.2⟩

/--
Once its owner revoked the grant of a shared space, and until a step opens the space again, nobody
reads the notes in it through the grant: an agent that has no grant of its own reads none of them.
-/
theorem revokedSpace_closed {req : SpaceGrantRequest} (h : Run Steps Store.empty as s)
    (hrevoke : spaceGrantRevoke svc req draw s = .ok (r, t))
    (hrun : Run (Run.Guarded (fun s a => ∀ key ∈ SpaceKey.through (trim req.tenantId)
      (trim req.projectId) req.scope (trim req.agentId) agentId, key ∉ a.opens s) Steps) t bs u)
    (halone : ∀ key ∈ SpaceKey.through (trim req.tenantId) (trim req.projectId) req.scope
      (trim req.agentId) agentId, key ≠ req.spaceKey → key ∉ s.openSpaces)
    (hnote : note.tenantId = trim req.tenantId ∧ note.scope = req.scope
      ∧ note.agentId = trim req.agentId) (hother : note.agentId ≠ agentId)
    : Readable u note (trim req.projectId) agentId allowedScopes now = false := by
  rcases hnote with ⟨htenant, hscope, howner⟩
  have hs := granted_run h granted_empty
  rcases spaceGrantRevoke_closes hrevoke hs with ⟨ht, -, hspaces⟩
  rw [← Bool.not_eq_true, readable_iff (granted_run hrun.of_guarded ht) hother, htenant, hscope,
    howner]
  rintro ⟨-, -, -, -, key, hkey, hopen⟩
  have hclosed : key ∉ t.openSpaces := by
    rw [hspaces]
    rintro ⟨hbefore, hne⟩
    exact halone key hkey hne hbefore
  have hguarded := hrun.mono fun s a t hstep =>
    show Run.Guarded (fun s a => key ∉ a.opens s) Steps s a t from ⟨hstep.1 key hkey, hstep.2⟩
  exact (closed_run hguarded ht hclosed).2 hopen

def sampleRevoke : SpaceGrantRequest := ⟨"t", "p", "a", "project_shared", .project, none⟩

/-- After the revocation the owner deletes another note and adds a private one. -/
def afterRevoke : List Step := [
  sampleStep 3 (.delete ⟨"t", "p", "a", 7⟩),
  sampleAdd 4 "p" "agent_private" (sampleNote none "The key is in the safe.")]

theorem revokedSpace_closed_sample
    : ∃ r t note, spaceGrantRevoke sampleService sampleRevoke (sampleDraw 2)
        (Store.empty.run sharedNote) = .ok (r, t)
      ∧ note ∈ (Store.empty.run sharedNote).notes
      ∧ Readable (Store.empty.run sharedNote) note "p" "b" ["project_shared"] 2000000000 = true
      ∧ Readable (t.run afterRevoke) note "p" "b" ["project_shared"] 5000000000 = false := by
  have hok : (spaceGrantRevoke sampleService sampleRevoke (sampleDraw 2)
      (Store.empty.run sharedNote)).isOk = true := by
    decide +kernel
  have hread : (Store.empty.run sharedNote).notes.rows.any (fun note => note.tenantId = "t"
      && note.scope = "project_shared" && note.agentId = "a"
      && Readable (Store.empty.run sharedNote) note "p" "b" ["project_shared"] 2000000000) = true := by
    decide +kernel
  have halone : ∀ grant ∈ (Store.empty.run sharedNote).grants.rows,
      grant.spaceKey = sampleRevoke.spaceKey := by
    decide +kernel
  cases hrevoke : spaceGrantRevoke sampleService sampleRevoke (sampleDraw 2)
      (Store.empty.run sharedNote) with
  | error err =>
    rw [hrevoke] at hok
    cases hok
  | ok out =>
    rcases List.any_eq_true.mp hread with ⟨note, hmem, hnote⟩
    simp only [Bool.and_eq_true, decide_eq_true_eq] at hnote
    rcases hnote with ⟨⟨⟨htenant, hscope⟩, howner⟩, hread⟩
    refine ⟨out.1, out.2, note, rfl, hmem, hread, ?_⟩
    have hquiet : Run (Run.Guarded (fun s a => ∀ key ∈ SpaceKey.through (trim sampleRevoke.tenantId)
        (trim sampleRevoke.projectId) sampleRevoke.scope (trim sampleRevoke.agentId) "b",
        key ∉ a.opens s) Steps) out.2 afterRevoke (out.2.run afterRevoke) := by
      apply run_of_meets
      refine ⟨?_, ?_, trivial⟩
      . exact fun key _ hopens => hopens
      . rintro key - ⟨hshared, -⟩
        cases hshared
    apply revokedSpace_closed (run_iff.mpr rfl) hrevoke hquiet _ ⟨htenant, hscope, howner⟩
    . rw [howner]
      decide
    . rintro key - hne ⟨grant, hgrant, -, rfl⟩
      exact hne (halone grant hgrant)

end Elf
