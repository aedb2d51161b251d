import Elf.Service.Lemmas.Op

/-!
This module contains the lifecycle of a proposal under review: its events are a path of allowed
transitions from the initial state to the stored one, and it is promoted into memory once if it is
applied and not at all otherwise.
-/

namespace Elf

open Text

def Store.eventsOf (s : Store) (proposalId : Uuid) : List ConsolidationProposalReviewEvent :=
  s.reviews.rows.filter (·.proposalId = proposalId)

/-- How many versions of notes a step appends that reviews the proposal. -/
def Step.promotions (proposalId : Uuid) (s : Store) (a : Step) (t : Store) : Nat :=
  match a.op with
  | .review req =>
    if req.proposalId = proposalId then t.versions.rows.length - s.versions.rows.length else 0
  | _ => 0

/-- How many versions of notes the reviews of the proposal append over a run. -/
def Store.promotions (proposalId : Uuid) (s : Store) : List Step → Nat
  | [] => 0
  | a :: as => a.promotions proposalId s (a.exec.next s) + (a.exec.next s).promotions proposalId as

/-- The proposal is one that is meant for memory, and it was applied. -/
def ConsolidationProposal.appliedToMemory (proposal : ConsolidationProposal) : Bool :=
  proposal.reviewState = .applied && proposal.applyIntent.promotesMemory

/-- The state of a proposal's review, and how often it was promoted so far. -/
structure Lifecycle (proposalId : Uuid) (s : Store) (promotions : Nat) : Prop where
  absent : s.proposals.find? proposalId = none → s.eventsOf proposalId = [] ∧ promotions = 0
  event : ∀ event ∈ s.eventsOf proposalId, event.allowed = true ∧ event.WellNamed
  trail : ∀ proposal, s.proposals.find? proposalId = some proposal
    → Trail (·.fromReviewState) (·.toReviewState) .proposed (s.eventsOf proposalId)
      proposal.reviewState
  promoted : ∀ proposal, s.proposals.find? proposalId = some proposal
    → promotions = if proposal.appliedToMemory then 1 else 0

variable {svc : ElfService} {draw : Draw} {s t : Store} {a : Step} {proposalId : Uuid} {n : Nat}

/-! ## Steps on other proposals -/

/-- All that a step does to proposals other than the one it names. -/
structure Store.SameReview (proposalId : Uuid) (s t : Store) : Prop where
  proposal : t.proposals.find? proposalId = s.proposals.find? proposalId
  events : t.eventsOf proposalId = s.eventsOf proposalId

theorem Store.SameReviews.sameReview (h : s.SameReviews t) : s.SameReview proposalId t := by
  constructor
  . rw [h.1]
  . unfold eventsOf
    rw [h.2]

theorem Lifecycle.of_same (h : Lifecycle proposalId s n) (hsame : s.SameReview proposalId t)
    : Lifecycle proposalId t n := by
  rcases h with ⟨absent, event, trail, promoted⟩
  constructor
  . rw [hsame.proposal, hsame.events]
    exact absent
  . rw [hsame.events]
    exact event
  . rw [hsame.proposal, hsame.events]
    exact trail
  . rw [hsame.proposal]
    exact promoted

/-- Only workers' proposals and reviews write the tables of reviews. -/
theorem exec_sameReviews (hok : a.exec s = .ok (r, t))
    (hpropose : ∀ owner proposalId proposal, a.op ≠ .propose owner proposalId proposal)
    (hreview : ∀ req, a.op ≠ .review req) : s.SameReviews t := by
  rcases a with ⟨svc, draw, op⟩
  cases op with
  | addNote req now note withinBudget =>
    rcases Transaction.reports_eq_ok.mp hok with ⟨result, hok, -⟩
    rcases processAddNoteInput_cases hok with ⟨text, -, ⟨⟨decisions, rfl⟩, -⟩ | ⟨-, hadd⟩ | hrep⟩
    . exact ⟨rfl, rfl⟩
    . exact hadd.reviews
    . rcases hrep with ⟨prev, -, hrep⟩
      exact hrep.reviews
  | addEvent event req note now withinBudget =>
    rcases Transaction.reports_eq_ok.mp hok with ⟨result, hok, -⟩
    rcases processExtractedNote_cases hok with ⟨decisions, rfl⟩ | ⟨sourceRef, expiresAt, -, -, hadd⟩
    . exact ⟨rfl, rfl⟩
    . exact hadd.reviews
  | update req =>
    rcases Transaction.reports_eq_ok.mp hok with ⟨response, hok, -⟩
    rcases update_cases hok with ⟨rfl, -⟩ | ⟨prev, -, -, -, -, -, -, -, hreviews⟩
    . exact ⟨rfl, rfl⟩
    . exact hreviews
  | delete req =>
    rcases Transaction.reports_eq_ok.mp hok with ⟨response, hok, -⟩
    rcases delete_cases hok with ⟨rfl, -⟩ | ⟨prev, -, -, -, -, -, hreviews⟩
    . exact ⟨rfl, rfl⟩
    . exact hreviews
  | publish req =>
    rcases Transaction.reports_eq_ok.mp hok with ⟨response, hok, -⟩
    rcases publishNote_cases hok with ⟨prev, granted, -, -, ⟨-, -, rfl⟩ | ⟨-, -, -, -, hreviews⟩⟩
    . exact ⟨rfl, rfl⟩
    . exact hreviews
  | unpublish req =>
    rcases Transaction.reports_eq_ok.mp hok with ⟨response, hok, -⟩
    rcases unpublishNote_cases hok with ⟨prev, -, -, ⟨-, rfl⟩ | ⟨-, -, -, -, hreviews⟩⟩
    . exact ⟨rfl, rfl⟩
    . exact hreviews
  | grantUpsert req =>
    rcases Transaction.reports_eq_ok.mp hok with ⟨response, hok, -⟩
    rcases spaceGrantUpsert_frame hok with ⟨grants, rfl⟩
    exact ⟨rfl, rfl⟩
  | grantRevoke req =>
    rcases Transaction.reports_eq_ok.mp hok with ⟨response, hok, -⟩
    rcases spaceGrantRevoke_frame hok with ⟨grants, rfl⟩
    exact ⟨rfl, rfl⟩
  | correct req =>
    rcases Transaction.reports_eq_ok.mp hok with ⟨response, hok, -⟩
    rcases memoryCorrectionApply_cases hok with ⟨prev, -, -, -, hquiet | hended | hrestored⟩
    . rcases hquiet with ⟨-, rfl, -, -⟩
      exact ⟨rfl, rfl⟩
    . rcases hended with ⟨status, op, -, -, -, -, -, -, hreviews⟩
      exact hreviews
    . rcases hrestored with ⟨source, snapshot, restored, -, -, -, -, -, -, -, -, -, hreviews⟩
      exact hreviews
  | propose owner proposalId proposal => exact absurd rfl (hpropose owner proposalId proposal)
  | review req => exact absurd rfl (hreview req)
  | recordHits noteIds =>
    cases hok
    exact ⟨rfl, rfl⟩

/-! ## Reviews -/

theorem event_exit {events : List ConsolidationProposalReviewEvent}
    (h : ∀ event ∈ events, event.allowed = true ∧ event.WellNamed)
    : ∀ event ∈ events, event.fromReviewState ≠ .applied := by
  intro event hmem hfrom
  have hallowed := (h event hmem).1
  unfold ConsolidationProposalReviewEvent.allowed at hallowed
  rw [hfrom] at hallowed
  cases hallowed

theorem Lifecycle.review {req : ConsolidationProposalReviewRequest}
    {updated : ConsolidationProposal} (h : Lifecycle req.proposalId s n)
    (hok : consolidationProposalReview svc req draw s = .ok (updated, t))
    : Lifecycle req.proposalId t (n + (t.versions.rows.length - s.versions.rows.length)) := by
  rcases consolidationProposalReview_cases hok with
    ⟨proposal, events, hfind, -, -, hactions, houtcome⟩
  have hevents : t.eventsOf req.proposalId = s.eventsOf req.proposalId ++ events := by
    unfold Store.eventsOf
    rw [houtcome.reviews, List.filter_append]
    congr 1
    rw [List.filter_eq_self]
    intro event hmem
    simp [(houtcome.event event hmem).1]
  have hupdated := houtcome.proposals req.proposalId
  rw [if_pos rfl] at hupdated
  have hne : events ≠ [] := by
    intro hnil
    rw [hnil] at hactions
    cases hact : req.reviewAction <;> cases hstate : proposal.reviewState <;>
      simp [hact, hstate, plannedSteps] at hactions
  have hnew : ∀ event ∈ events, event.allowed = true ∧ event.WellNamed :=
    fun event hmem => (houtcome.event event hmem).2
  have hopen : proposal.reviewState ≠ .applied := by
    intro happlied
    have htrail := houtcome.trail
    rw [happlied] at htrail
    exact hne (htrail.eq_nil_of_terminal (event_exit hnew))
  have hzero := h.promoted proposal hfind
  rw [if_neg (by simp [ConsolidationProposal.appliedToMemory, hopen])] at hzero
  constructor
  . intro hnone
    rw [hupdated] at hnone
    cases hnone
  . intro event hmem
    rw [hevents, List.mem_append] at hmem
    rcases hmem with hmem | hmem
    . exact h.event event hmem
    . exact hnew event hmem
  . intro proposal' hfind'
    rw [hupdated, Option.some.injEq] at hfind'
    subst hfind'
    rw [hevents]
    exact (h.trail proposal hfind).append houtcome.trail
  . intro proposal' hfind'
    rw [hupdated, Option.some.injEq] at hfind'
    subst hfind'
    unfold ConsolidationProposal.appliedToMemory
    rw [houtcome.intent, hzero]
    rcases houtcome.memory with ⟨hnone, hsame⟩ | ⟨⟨event, hmem, hone⟩, w, promoted, args, s₁, s₂, hprom,
      -, hs₁, hs₂⟩
    . -- Nothing was promoted, so either nothing was applied or memory was not meant.
      have hlen : t.versions.rows.length - s.versions.rows.length = 0 := by
        rw [hsame.1.2.1, Nat.sub_self]
      have hfalse : ¬ (updated.reviewState = .applied
          ∧ proposal.applyIntent.promotesMemory = true) := by
        rintro ⟨happlied, hintent⟩
        rcases houtcome.trail.exists_dst hne with ⟨event, hmem, hdst⟩
        have happly := (hnew event hmem).2.mpr (hdst.trans happlied)
        have hquiet := hnone event hmem
        unfold promotes at hquiet
        rw [happly, hintent] at hquiet
        cases hquiet
      rw [hlen, if_neg (by simpa using hfalse)]
    . -- The event that promoted applied the proposal, and no event follows it.
      unfold promotes at hone
      simp only [Bool.and_eq_true, decide_eq_true_eq] at hone
      have happlied := houtcome.trail.dst_of_terminal (event_exit hnew)
        ⟨event, hmem, (hnew event hmem).2.mp hone.1⟩
      rcases (writes_of_same hs₁.1 hprom.writes hs₂.1).versions_eq with ⟨version, hversions, -⟩
      have hlen : t.versions.rows.length - s.versions.rows.length = 1 := by
        rw [hversions, List.length_append, List.length_singleton]
        omega
      rw [hlen, if_pos (by simp [happlied, hone.2])]

theorem review_sameReview {req : ConsolidationProposalReviewRequest}
    {updated : ConsolidationProposal}
    (hok : consolidationProposalReview svc req draw s = .ok (updated, t))
    (hne : req.proposalId ≠ proposalId) : s.SameReview proposalId t := by
  rcases consolidationProposalReview_cases hok with ⟨proposal, events, -, -, -, -, houtcome⟩
  constructor
  . rw [houtcome.proposals, if_neg hne]
  . unfold Store.eventsOf
    rw [houtcome.reviews, List.filter_append]
    have hnil : events.filter (·.proposalId = proposalId) = [] := by
      rw [List.filter_eq_nil_iff]
      intro event hmem
      simp [(houtcome.event event hmem).1, hne]
    rw [hnil, List.append_nil]

/-- A worker stores a proposal in the initial state. -/
theorem Lifecycle.propose {row : ConsolidationProposal} (h : Lifecycle proposalId s n)
    (hok : insertConsolidationProposal owner newId contract draw s = .ok (row, t))
    : Lifecycle proposalId t n := by
  rcases insertConsolidationProposal_cases hok with ⟨proposals, rfl, hinsert, rfl⟩
  have hfind := Table.find?_insert? hinsert proposalId
  have hfresh := Table.insert?_fresh hinsert
  by_cases hid : newId = proposalId
  . subst hid
    have habsent := h.absent hfresh
    change proposals.find? newId = if newId = newId then _ else _ at hfind
    rw [if_pos rfl] at hfind
    constructor
    . intro hnone
      rw [hfind] at hnone
      cases hnone
    . exact h.event
    . intro proposal hproposal
      rw [hfind] at hproposal
      cases hproposal
      have hnil : Store.eventsOf { s with proposals } newId = [] := habsent.1
      rw [hnil]
      apply Trail.nil
    . intro proposal hproposal
      rw [hfind] at hproposal
      cases hproposal
      exact habsent.2
  . apply h.of_same
    constructor
    . rw [hfind]
      exact if_neg hid
    . rfl

/-- The step lemma. -/
theorem Lifecycle.step (h : Lifecycle proposalId s n) (hstep : Steps s a t)
    : Lifecycle proposalId t (n + a.promotions proposalId s t) := by
  rcases hstep.cases with rfl | ⟨r, hok⟩
  . have hzero : a.promotions proposalId t t = 0 := by
      unfold Step.promotions
      split
      . split
        . exact Nat.sub_self _
        . rfl
      . rfl
    rw [hzero, Nat.add_zero]
    exact h
  . unfold Step.promotions
    split
    next req hop =>
      rw [Step.exec, hop] at hok
      rcases Transaction.reports_eq_ok.mp hok with ⟨updated, hok, -⟩
      split
      next hid =>
        subst hid
        exact h.review hok
      next hid => exact h.of_same (review_sameReview hok hid)
    next hop =>
      rw [Nat.add_zero]
      by_cases hpropose : ∃ owner newId contract, a.op = .propose owner newId contract
      . rcases hpropose with ⟨owner, newId, contract, hpropose⟩
        rw [Step.exec, hpropose] at hok
        rcases Transaction.reports_eq_ok.mp hok with ⟨row, hok, -⟩
        exact h.propose hok
      . apply h.of_same
        apply Store.SameReviews.sameReview
        apply exec_sameReviews hok
        . intro owner newId contract hop
          exact hpropose ⟨owner, newId, contract, hop⟩
        . exact hop

/-- The run lemma. -/
theorem Lifecycle.run (h : Lifecycle proposalId s n)
    : Lifecycle proposalId (s.run as) (n + s.promotions proposalId as) := by
  induction as generalizing s n with
  | nil => exact h
  | cons a as ih =>
    unfold Store.run Store.promotions
    rw [← Nat.add_assoc]
    apply ih
    exact h.step rfl

/-! ## Requests -/

/-- A request for the proposal leaves memory as it is, or creates or updates one note. -/
theorem review_memory {req : ConsolidationProposalReviewRequest} (hop : a.op = .review req)
    (hid : req.proposalId = proposalId) (h : Steps s a t)
    : (s.Quiet t ∧ a.promotions proposalId s t = 0)
      ∨ ∃ w, s.Writes t w ∧ a.promotions proposalId s t = 1 := by
  have hcount : a.promotions proposalId s t = t.versions.rows.length - s.versions.rows.length := by
    unfold Step.promotions
    rw [hop]
    exact if_pos hid
  rw [hcount]
  rcases h.cases with rfl | ⟨r, hok⟩
  . left
    exact ⟨Store.Quiet.refl t, Nat.sub_self _⟩
  . rcases Op.exec_cases hok with hquiet | ⟨w, hmut, -⟩
    . left
      rw [hquiet.versions]
      exact ⟨hquiet, Nat.sub_self _⟩
    . right
      rcases hmut.writes.versions_eq with ⟨version, hversions, -⟩
      refine ⟨w, hmut.writes, ?_⟩
      rw [hversions, List.length_append, List.length_singleton]
      omega

theorem countP_apply_le_one {events : List ConsolidationProposalReviewEvent}
    {state : ConsolidationReviewState}
    (htrail : Trail (·.fromReviewState) (·.toReviewState) .proposed events state)
    (hevents : ∀ event ∈ events, event.allowed = true ∧ event.WellNamed)
    : events.countP (fun event => event.action = .apply) ≤ 1 := by
  have hcount : events.countP (fun event => event.action = .apply)
      = events.countP (fun event => event.toReviewState = .applied) := by
    apply List.countP_congr
    intro event hmem
    have hnamed := (hevents event hmem).2
    unfold ConsolidationProposalReviewEvent.WellNamed at hnamed
    simp [hnamed]
  rw [hcount]
  exact htrail.countP_terminal_le_one (event_exit hevents)

/-- What the tables say of a proposal after the steps of a run. -/
structure ProposalLifecycle (proposalId : Uuid) (proposal : ConsolidationProposal)
    (as : List Step) : Prop where
  trail : Trail (·.fromReviewState) (·.toReviewState) .proposed
    ((Store.empty.run as).eventsOf proposalId) proposal.reviewState
  allowed : ∀ event ∈ (Store.empty.run as).eventsOf proposalId, event.allowed = true
  applyOnce : ((Store.empty.run as).eventsOf proposalId).countP (fun event => event.action = .apply)
    ≤ 1
  promoted : Store.empty.promotions proposalId as = if proposal.appliedToMemory then 1 else 0

/--
After every run, the review events of a proposal are a path of allowed transitions to its stored
state, and its requests created or updated a note once if it is meant for memory and applied, and
never otherwise. A request that fails changes nothing.
-/
theorem review_lifecycle (as : List Step) (proposalId : Uuid)
    : (∀ proposal, (Store.empty.run as).proposals.find? proposalId = some proposal
        → ProposalLifecycle proposalId proposal as)
      ∧ (∀ (s t : Store) (a : Step) (req : ConsolidationProposalReviewRequest), a.op = .review req
        → req.proposalId = proposalId → Steps s a t
        → (s.Quiet t ∧ a.promotions proposalId s t = 0)
          ∨ ∃ w, s.Writes t w ∧ a.promotions proposalId s t = 1)
      ∧ ∀ (s t : Store) (a : Step) (err : Error), a.exec s = .error err → Steps s a t → t = s := by
  have hinit : Lifecycle proposalId Store.empty 0 := by
    constructor
    . intro _
      exact ⟨rfl, rfl⟩
    . intro event hmem
      cases hmem
    . intro proposal hfind
      cases hfind
    . intro proposal hfind
      cases hfind
  have hlife : Lifecycle proposalId (Store.empty.run as) (0 + Store.empty.promotions proposalId as) :=
    hinit.run
  rw [Nat.zero_add] at hlife
  refine ⟨?_, ?_, ?_⟩
  . intro proposal hfind
    constructor
    . exact hlife.trail proposal hfind
    . exact fun event hmem => (hlife.event event hmem).1
    . exact countP_apply_le_one (hlife.trail proposal hfind) hlife.event
    . exact hlife.promoted proposal hfind
  . intro s t a req hop hid hstep
    exact review_memory hop hid hstep
  . intro s t a err herr hstep
    rw [← hstep]
    exact Transaction.next_of_error herr

def sampleProposal (applyIntent : ConsolidationApplyIntent) : ConsolidationProposalContract := {
  proposalKind := "summary"
  applyIntent
  sourceRefs := .arr []
  sourceSnapshot := .obj []
  lineage := .obj []
  confidence := .fin (1 / 2)
  unsupportedClaimFlags := .arr []
  diff := ⟨"A note on deploys.", .obj [], .obj []⟩
  targetRef := .obj []
  proposedPayload := .obj [("text", .str "Deploys run on Friday."), ("type", .str "fact")]
  partsValid := true }

/-- A worker stores a proposal, which is then applied. -/
def proposeThenApply (applyIntent : ConsolidationApplyIntent) : List Step := [
  sampleStep 1 (.propose ⟨1, "t", "p", "a"⟩ 1 (sampleProposal applyIntent)),
  sampleStep 2 (.review ⟨"t", "p", "a", 1, .apply, none⟩)]

theorem review_lifecycle_proposeThenApply
    : ∃ proposal, (Store.empty.run (proposeThenApply .createDerivedNote)).proposals.find? 1
        = some proposal
      ∧ ProposalLifecycle 1 proposal (proposeThenApply .createDerivedNote) := by
  have hsome : ((Store.empty.run (proposeThenApply .createDerivedNote)).proposals.find? 1).isSome
      = true := by
    decide +kernel
  rcases Option.isSome_iff_exists.mp hsome with ⟨proposal, hfind⟩
  exact ⟨proposal, hfind, (review_lifecycle _ 1).1 proposal hfind⟩

-- A proposal that is not meant for memory is applied, and there is nothing to promote.
theorem not_promoted_iff_applied
    : ¬ ∀ (as : List Step) (proposalId : Uuid) (proposal : ConsolidationProposal),
      (Store.empty.run as).proposals.find? proposalId = some proposal
        → Store.empty.promotions proposalId as = if proposal.reviewState = .applied then 1 else 0 := by
  intro h
  have hstate : ((Store.empty.run (proposeThenApply .noOp)).proposals.find? 1).map (·.reviewState)
      = some .applied := by
    decide +kernel
  rcases Option.map_eq_some_iff.mp hstate with ⟨proposal, hfind, happlied⟩
  have hone := h _ 1 proposal hfind
  rw [if_pos happlied] at hone
  have hzero : Store.empty.promotions 1 (proposeThenApply .noOp) = 0 := by decide +kernel
  rw [hzero] at hone
  cases hone

end Elf
