import Elf.Properties.ReviewLifecycle
import Elf.Service.Review

/-!
This module contains what becomes of the proposals that ask for a change of their sources: the queue
does not offer to apply them, and they are not applied as long as no reviewer asks for it all the same.
-/

namespace Elf

variable {s t : Store} {a : Step} {proposal updated : ConsolidationProposal}

/-! ## Scans -/

theorem containsForbiddenSourceMutationKey_eq (value : Json)
    : containsForbiddenSourceMutationKey value
      = (containsForbiddenDiffKey value || value.hasKey ["update_source"]) := by
  apply Json.hasKey_union
  intro key
  simp only [forbiddenSourceMutationKeys, forbiddenDiffKeys, List.contains_cons, List.contains_nil,
    Bool.or_false]
  ac_rfl

/--
What the queue finds in a proposal that was accepted: any of its keys in the payload and the target, but
in the diff only the one that the proposal's own validation does not look for.
-/
theorem sourceMutationRequested_proposalRow {contract : ConsolidationProposalContract}
    (h : contract.validate = true) (owner : ConsolidationJobOwner) (proposalId : Uuid) (now : Nat)
    : (proposalRow owner proposalId now contract).sourceMutationRequested
      = (contract.diff.after.hasKey ["update_source"] || contract.diff.before.hasKey ["update_source"]
        || containsForbiddenSourceMutationKey contract.proposedPayload
        || containsForbiddenSourceMutationKey contract.targetRef) := by
  have hdiff : contract.diff.validate = true := by
    simp only [ConsolidationProposalContract.validate, Bool.and_eq_true] at h
    exact h.1.1.2
  simp only [ConsolidationProposalDiff.validate, Bool.and_eq_true, Bool.not_eq_true'] at hdiff
  have hscan : containsForbiddenSourceMutationKey contract.diff.toJson
      = (contract.diff.after.hasKey ["update_source"]
        || contract.diff.before.hasKey ["update_source"]) := by
    have hafter := containsForbiddenSourceMutationKey_eq contract.diff.after
    have hbefore := containsForbiddenSourceMutationKey_eq contract.diff.before
    rw [hdiff.2, Bool.false_or] at hafter
    rw [hdiff.1.2, Bool.false_or] at hbefore
    rw [← hafter, ← hbefore]
    simp [containsForbiddenSourceMutationKey, ConsolidationProposalDiff.toJson, Json.hasKey,
      Json.hasKeyEntries, forbiddenSourceMutationKeys]
  unfold ConsolidationProposal.sourceMutationRequested proposalRow
  dsimp only
  rw [hscan]

/-! ## Reviews -/

namespace ConsolidationProposal.Keeps

variable {applied : Prop}

theorem sourceMutationRequested_of_not (h : proposal.Keeps applied updated) (hnot : ¬ applied)
    : updated.sourceMutationRequested = proposal.sourceMutationRequested := by
  unfold sourceMutationRequested
  rw [h.diff, h.proposedPayload]
  cases h.targetRef with
  | inl hsame => rw [hsame]
  | inr hset => exact absurd hset.1 hnot

/-- The target of a promoted proposal has none of the keys. -/
theorem sourceMutationRequested_eq_false (h : proposal.Keeps applied updated)
    (hrequested : proposal.sourceMutationRequested = false)
    : updated.sourceMutationRequested = false := by
  unfold sourceMutationRequested at hrequested ⊢
  rw [h.diff, h.proposedPayload]
  cases h.targetRef with
  | inl hsame =>
    rw [hsame]
    exact hrequested
  | inr hset =>
    have ⟨_, noteId, now, htarget⟩ := hset
    simp only [Bool.or_eq_false_iff] at hrequested ⊢
    rw [htarget]
    apply And.intro hrequested.1
    simp [containsForbiddenSourceMutationKey, promotedMemoryTargetRef, uuidJson, timeJson, Json.hasKey,
      Json.hasKeyEntries, forbiddenSourceMutationKeys]

end ConsolidationProposal.Keeps

-- The step applies no proposal that asks for a change of its sources.
def Step.SparesSources (s : Store) (a : Step) : Prop :=
  ∀ req proposal, a.op = .review req
    → lockConsolidationProposal s req.tenantId req.projectId req.proposalId = some proposal
    → req.reviewAction = .apply → proposal.sourceMutationRequested = false

-- No proposal that asks for a change of its sources is applied.
def Store.NoneApplied (s : Store) : Prop :=
  ∀ id proposal, s.proposals.find? id = some proposal → proposal.sourceMutationRequested = true
    → proposal.reviewState ≠ .applied

/--
Of the proposals that ask for a change of their sources none is applied, their reviews write no note,
and they go on asking for it.
-/
structure Store.SparesSources (s : Store) (a : Step) (t : Store) : Prop where
  noneApplied : t.NoneApplied
  noWrite : ∀ req proposal, a.op = .review req → s.proposals.find? req.proposalId = some proposal
    → proposal.sourceMutationRequested = true → s.SameNotes t
  requested : ∀ id proposal, s.proposals.find? id = some proposal
    → proposal.sourceMutationRequested = true
    → ∃ next, t.proposals.find? id = some next ∧ next.sourceMutationRequested = true

theorem Store.SparesSources.of_same (hop : ∀ req, a.op ≠ .review req) (h : t.proposals = s.proposals)
    (hs : s.NoneApplied) : s.SparesSources a t := by
  constructor
  . unfold NoneApplied
    rw [h]
    exact hs
  . intro req proposal hreview
    exact absurd hreview (hop req)
  . intro id proposal hfind hrequested
    rw [h]
    exact ⟨proposal, hfind, hrequested⟩

theorem Store.SparesSources.refl (hs : s.NoneApplied) : s.SparesSources a s := by
  apply mk hs
  . intro req proposal hop hfind hrequested
    exact ⟨rfl, rfl, rfl⟩
  . intro id proposal hfind hrequested
    exact ⟨proposal, hfind, hrequested⟩

section

variable {svc : ElfService} {draw : Draw} {req : ConsolidationProposalReviewRequest}
  {events : List ConsolidationProposalReviewEvent}

theorem mem_apply_iff
    (hactions : events.map (·.action) = (plannedSteps proposal.reviewState req.reviewAction).map Prod.fst)
    : (∃ event ∈ events, event.action = .apply) ↔ req.reviewAction = .apply := by
  rw [← @apply_mem_plannedSteps proposal.reviewState, ← hactions, List.mem_map]

theorem ReviewOutcome.reviewState_eq_applied
    (h : ReviewOutcome svc req draw proposal.reviewState s t proposal updated events)
    (hmem : ∃ event ∈ events, event.action = .apply) : updated.reviewState = .applied := by
  have ⟨event, hevent, haction⟩ := hmem
  have hnamed := (h.event event hevent).2.2
  apply h.trail.dst_of_terminal
  . exact event_exit fun event hmem => (h.event event hmem).2
  . exact ⟨event, hevent, hnamed.mp haction⟩

theorem ReviewOutcome.reviewState_ne_applied
    (h : ReviewOutcome svc req draw proposal.reviewState s t proposal updated events)
    (hnone : ¬ ∃ event ∈ events, event.action = .apply) (hstate : proposal.reviewState ≠ .applied)
    : updated.reviewState ≠ .applied := by
  intro happlied
  by_cases hnil : events = []
  . have htrail := h.trail
    rw [hnil, happlied] at htrail
    generalize proposal.reviewState = state at hstate htrail
    cases htrail
    contradiction
  . have ⟨event, hmem, hdst⟩ := h.trail.exists_dst hnil
    have hnamed := (h.event event hmem).2.2
    exact hnone ⟨event, hmem, hnamed.mpr (hdst.trans happlied)⟩

/-- A review of the proposal, which either applies it or does not. -/
theorem ReviewOutcome.sparesSources
    (h : ReviewOutcome svc req draw proposal.reviewState s t proposal updated events)
    (hfind : s.proposals.find? req.proposalId = some proposal) (hop : a.op = .review req)
    (happly : (∃ event ∈ events, event.action = .apply) → proposal.sourceMutationRequested = false)
    (hs : s.NoneApplied) : s.SparesSources a t := by
  have hkeep (hrequested : proposal.sourceMutationRequested = true)
      : ¬ ∃ event ∈ events, event.action = .apply := by
    intro hmem
    rw [happly hmem] at hrequested
    contradiction
  have hsame (hrequested : updated.sourceMutationRequested = true)
      : proposal.sourceMutationRequested = true := by
    cases hold : proposal.sourceMutationRequested with
    | true => rfl
    | false =>
      rw [h.content.sourceMutationRequested_eq_false hold] at hrequested
      contradiction
  constructor
  . intro id row hrow hrequested
    rw [h.proposals] at hrow
    split at hrow
    next =>
      cases hrow
      have hold := hsame hrequested
      exact h.reviewState_ne_applied (hkeep hold) (hs _ _ hfind hold)
    next => exact hs id row hrow hrequested
  . intro req' proposal' hop' hfind' hrequested
    rw [hop] at hop'
    cases hop'
    rw [hfind] at hfind'
    cases hfind'
    cases h.memory with
    | inl hquiet => exact hquiet.2.1
    | inr hwrote =>
      rcases hwrote with ⟨⟨event, hmem, hpromotes⟩, _⟩
      unfold promotes at hpromotes
      simp only [Bool.and_eq_true, decide_eq_true_eq] at hpromotes
      exact absurd ⟨event, hmem, hpromotes.1⟩ (hkeep hrequested)
  . intro id row hrow hrequested
    rw [h.proposals]
    split
    next hid =>
      subst hid
      rw [hfind] at hrow
      cases hrow
      refine ⟨updated, rfl, ?_⟩
      rw [h.content.sourceMutationRequested_of_not (hkeep hrequested)]
      exact hrequested
    next => exact ⟨row, hrow, hrequested⟩

end

/-! ## Runs -/

/-- The step lemma. -/
theorem Store.NoneApplied.step (hs : s.NoneApplied) (hguard : a.SparesSources s) (hstep : Steps s a t)
    : s.SparesSources a t := by
  cases hstep.cases with
  | inl hsame =>
    rw [hsame]
    exact .refl hs
  | inr hexec =>
    have ⟨r, hok⟩ := hexec
    by_cases hreview : ∃ req, a.op = .review req
    . have ⟨req, hop⟩ := hreview
      unfold Step.exec at hok
      rw [hop] at hok
      have ⟨updated, hok, _⟩ := Transaction.reports_eq_ok.mp hok
      have ⟨proposal, events, hfind, htenant, hproject, hactions, houtcome⟩ :=
        consolidationProposalReview_cases hok
      apply houtcome.sparesSources hfind hop
      . intro hmem
        apply hguard req proposal hop
        . unfold lockConsolidationProposal
          rw [hfind]
          simp [htenant, hproject]
        . exact (mem_apply_iff hactions).mp hmem
      . exact hs
    . have hop (req : ConsolidationProposalReviewRequest) : a.op ≠ .review req := by
        intro hop
        exact hreview ⟨req, hop⟩
      by_cases hpropose : ∃ owner newId contract, a.op = .propose owner newId contract
      . have ⟨owner, newId, contract, hpropose⟩ := hpropose
        unfold Step.exec at hok
        rw [hpropose] at hok
        have ⟨row, hok, _⟩ := Transaction.reports_eq_ok.mp hok
        have ⟨proposals, hrow, hinsert, ht⟩ := insertConsolidationProposal_cases hok
        subst ht
        constructor
        . intro id proposal hfind hrequested
          rw [Table.find?_insert? hinsert] at hfind
          split at hfind
          next =>
            cases hfind
            simp [hrow, proposalRow]
          next => exact hs id proposal hfind hrequested
        . intro req proposal hreview
          exact absurd hreview (hop req)
        . intro id proposal hfind hrequested
          refine ⟨proposal, ?_, hrequested⟩
          rw [Table.find?_insert? hinsert]
          rw [if_neg]
          . exact hfind
          . intro hid
            rw [← hid, Table.insert?_fresh hinsert] at hfind
            contradiction
      . have hsame : s.SameReviews t := by
          apply exec_sameReviews hok
          . intro owner newId contract hop
            exact hpropose ⟨owner, newId, contract, hop⟩
          . exact hop
        exact .of_same hop hsame.1 hs

/-- The run lemma. -/
theorem Store.NoneApplied.run (hs : s.NoneApplied) (h : s.Meets Step.SparesSources as)
    : s.AllSteps Store.SparesSources as := by
  induction as generalizing s with
  | nil => trivial
  | cons a as ih =>
    have hstep := hs.step h.1 rfl
    exact ⟨hstep, ih hstep.noneApplied h.2⟩

theorem exists_applied_of_not_sparesSources (hguard : ¬ a.SparesSources s) (hok : a.exec s = .ok (r, t))
    : ∃ id proposal next, s.proposals.find? id = some proposal
      ∧ proposal.sourceMutationRequested = true ∧ t.proposals.find? id = some next
      ∧ next.reviewState = .applied := by
  unfold Step.SparesSources at hguard
  push Not at hguard
  have ⟨req, proposal, hop, hlock, happly, hrequested⟩ := hguard
  have hfind := (lockConsolidationProposal_eq_some hlock).1
  unfold Step.exec at hok
  rw [hop] at hok
  have ⟨updated, hok, _⟩ := Transaction.reports_eq_ok.mp hok
  have ⟨proposal', events, hfind', _, _, hactions, houtcome⟩ := consolidationProposalReview_cases hok
  rw [hfind] at hfind'
  cases hfind'
  refine ⟨req.proposalId, proposal, updated, hfind, ?_, ?_, ?_⟩
  . simpa using hrequested
  . rw [houtcome.proposals, if_pos rfl]
  . apply houtcome.reviewState_eq_applied
    exact (mem_apply_iff hactions).mpr happly

/--
In a run in which no reviewer asks to apply a proposal that the queue reports as asking for a change of
its sources, no such proposal is ever applied and no review of one writes a note. A request to apply one
that does succeed leaves it applied.
-/
theorem source_mutations_not_applied (as : List Step) (h : Store.empty.Meets Step.SparesSources as)
    : Store.empty.AllSteps Store.SparesSources as
      ∧ ∀ (a : Step) (r : Option NoteOp) (t : Store), ¬ a.SparesSources (Store.empty.run as)
        → a.exec (Store.empty.run as) = .ok (r, t)
        → ∃ id proposal next, (Store.empty.run as).proposals.find? id = some proposal
          ∧ proposal.sourceMutationRequested = true ∧ t.proposals.find? id = some next
          ∧ next.reviewState = .applied := by
  constructor
  . apply Store.NoneApplied.run
    . intro id proposal hfind
      cases hfind
    . exact h
  . intro a r t hguard hok
    exact exists_applied_of_not_sparesSources hguard hok

/-- A worker stores a proposal that asks for a change of its sources, and reviewers act on it. -/
def reviewSourceMutation (actions : List ConsolidationReviewAction) : List Step :=
  sampleStep 1 (.propose ⟨1, "t", "p", "a"⟩ 1 { sampleProposal .createDerivedNote with
      proposedPayload := .obj [("source_mutation", .bool true),
        ("text", .str "Deploys run on Friday."), ("type", .str "fact")] })
    :: actions.map fun action => sampleStep 2 (.review ⟨"t", "p", "a", 1, action, none⟩)

theorem source_mutations_not_applied_defer
    : Store.empty.AllSteps Store.SparesSources (reviewSourceMutation [.defer]) := by
  apply (source_mutations_not_applied _ _).1
  apply And.intro
  . intro req proposal hop
    cases hop
  . apply And.intro
    . intro req proposal hop hlock happly
      cases hop
      cases happly
    . trivial

-- The queue does not offer to apply the proposal, but a request to apply it creates a note.
theorem not_sparesSources_apply
    : ¬ ∀ as : List Step, Store.empty.AllSteps Store.SparesSources as := by
  intro h
  have hrequested : ((Store.empty.run (reviewSourceMutation [])).proposals.find? 1).map
      (·.sourceMutationRequested) = some true := by
    decide +kernel
  have ⟨proposal, hfind, hproposal⟩ := Option.map_eq_some_iff.mp hrequested
  have hsteps := h (reviewSourceMutation [.apply])
  have hsame := hsteps.2.1.noWrite _ proposal rfl hfind hproposal
  have hcount : (Store.empty.run (reviewSourceMutation [])).versions.rows.length
      ≠ (Store.empty.run (reviewSourceMutation [.apply])).versions.rows.length := by
    decide +kernel
  apply hcount
  exact (congrArg (·.rows.length) hsame.2.1).symm

end Elf
