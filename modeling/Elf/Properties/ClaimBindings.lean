import Elf.Evidence.Lemmas.Claims
import Elf.Service.Op

/-!
This module contains what a claim of an answer rests on when it is reported as bound, and which
citations its chain has.
-/

namespace Elf

open AppendNew
open Backward

variable {svc : ReadService} {reads : Nat → Nat → DocStore × Nat} {req : EvidenceCheckRequest}
  {response : EvidenceCheckResponse}

theorem evidenceCheck_checks (h : evidenceCheck svc reads req = .ok response)
    : BackwardOnly req.claims ∧ Checks (req.resolve svc reads) req.claims response.claims := by
  unfold evidenceCheck at h
  simp only [Except.bind_eq_ok] at h
  rcases h with ⟨scopes, -, ⟨⟩, hvalidate, bindings, hcheck, heq⟩
  cases heq
  exact ⟨backwardOnly_of_validateClaims hvalidate, checks_of_ok hcheck⟩

/-! ## Chains -/

/-- The claims that a claim leads to, itself included. -/
abbrev RestsOn (claims : List ClaimEvidence) : Nat → Nat → Prop :=
  Relation.ReflTransGen (Edge (dependencies claims))

/-- The own citations of the claim are verified, and it is reported with as many as it needs. -/
structure IsSupported (slots : Nat → List (Option ClaimCitation)) (claim : ClaimEvidence)
    (index : Nat) (binding : ClaimBinding) : Prop where
  verified : none ∉ slots index
  enough : claim.state.needed ≤ binding.resolvedCitations.length

/-- The citations of a claim that depends on others: its own, and then those that its premises have
and that are not there yet, each with the claim that has it. -/
structure IsChain (slots : Nat → List (Option ClaimCitation)) (claims : List ClaimEvidence)
    (index : Nat) (binding : ClaimBinding) : Prop where
  aligned : binding.citationClaimIndices.length = binding.resolvedCitations.length
  verified : binding.citationVerified = binding.resolvedCitations.map Option.isSome
  entries : ∃ premises added,
    binding.resolvedCitations.zip binding.citationClaimIndices = ownEntries slots index ++ added
    ∧ premises.Pairwise (· < ·) ∧ (∀ d, d ∈ premises ↔ Premise claims index d)
    ∧ Appends Prod.fst (ownEntries slots index) (premiseEntries slots premises) added

theorem zip_map_fst_snd (entries : List Entry)
    : (entries.map Prod.fst).zip (entries.map Prod.snd) = entries := by
  induction entries with
  | nil => rfl
  | cons entry entries ih => rw [List.map_cons, List.map_cons, List.zip_cons_cons, ih]

theorem Holds.isChain {slots : Nat → List (Option ClaimCitation)} {claims : List ClaimEvidence}
    {index : Nat} {binding : ClaimBinding} (h : Holds slots claims index binding)
    (hback : BackwardOnly claims) (hdepends : dependencies claims index ≠ [])
    : IsChain slots claims index binding := by
  have hchain : chain slots claims index = appendNew Prod.fst (ownEntries slots index)
      (premiseEntries slots (requiredPremises claims index)) := by
    unfold chain
    rw [if_neg (by simpa using hdepends)]
  have hindices : binding.citationClaimIndices = (chain slots claims index).map Prod.snd := by
    rw [h.claimIndices, if_neg (by simpa using hdepends)]
  constructor
  . rw [hindices, h.resolved, List.length_map, List.length_map]
  . rw [h.verified, h.resolved, List.map_map]
    rfl
  . rcases @appendNew_appends _ _ Prod.fst (ownEntries slots index)
      (premiseEntries slots (requiredPremises claims index)) _ with ⟨added, heq, hadded⟩
    refine ⟨_, added, ?_, sorted_requiredPremises claims index,
      fun d => mem_requiredPremises hback, hadded⟩
    rw [hindices, h.resolved, zip_map_fst_snd, hchain, heq]

/-- Every claim of an accepted request is bound exactly when it and all of its premises are supported,
and its citations are its own and, when it depends on other claims, the new ones of its premises. -/
theorem evidenceCheck_binds (h : evidenceCheck svc reads req = .ok response)
    : response.claims.length = req.claims.length
      ∧ ∃ slots : Nat → List (Option ClaimCitation),
        (∀ i claim, req.claims[i]? = some claim →
          resolveCitations (req.resolve svc reads) i claim = .ok (slots i))
        ∧ ∀ i claim binding, req.claims[i]? = some claim → response.claims[i]? = some binding →
          (binding.bindingVerified = true ↔ ∀ k premise other, RestsOn req.claims i k →
            req.claims[k]? = some premise → response.claims[k]? = some other →
            IsSupported slots premise k other)
          ∧ (claim.dependsOn = [] →
            binding.resolvedCitations = slots i ∧ binding.citationClaimIndices = [])
          ∧ (claim.dependsOn ≠ [] → IsChain slots req.claims i binding) := by
  rcases evidenceCheck_checks h with ⟨hback, hchecks⟩
  refine ⟨hchecks.length, ownSlots (req.resolve svc reads) req.claims, hchecks.resolves, ?_⟩
  intro i claim binding hclaim hbinding
  have hholds := hchecks.holds hback hbinding
  have hdepends : dependencies req.claims i = claim.dependsOn := by
    unfold dependencies
    rw [hclaim]
    rfl
  refine ⟨?_, ?_, ?_⟩
  . rw [hchecks.bound_iff hback hbinding]
    constructor
    . intro hsupported k premise other hrests hpremise hother
      have hk := hsupported k hrests
      refine ⟨hk.verified, ?_⟩
      rw [(hchecks.holds hback hother).resolved, List.length_map]
      exact hk.enough premise hpremise
    . intro hsupported k hrests
      have hother : ∃ other, response.claims[k]? = some other := by
        rcases Relation.reflTransGen_iff_eq_or_transGen.mp hrests with heq | hpremise
        . exact ⟨binding, by rw [heq, hbinding]⟩
        . exact exists_premise hback hbinding hpremise
      rcases hother with ⟨other, hother⟩
      rcases hchecks.exists_claim hother with ⟨premise, hpremise⟩
      have hk := hsupported k premise other hrests hpremise hother
      refine ⟨hk.verified, ?_⟩
      intro premise' hpremise'
      rw [hpremise] at hpremise'
      cases hpremise'
      have henough := hk.enough
      rwa [(hchecks.holds hback hother).resolved, List.length_map] at henough
  . intro hnone
    have hempty : (dependencies req.claims i).isEmpty = true := by
      rw [hdepends, hnone]
      rfl
    have hchain : chain (ownSlots (req.resolve svc reads) req.claims) req.claims i
        = ownEntries (ownSlots (req.resolve svc reads) req.claims) i := by
      unfold chain
      rw [if_pos hempty]
    refine ⟨?_, ?_⟩
    . rw [hholds.resolved, hchain, map_fst_ownEntries]
    . rw [hholds.claimIndices, if_pos hempty]
  . intro hsome
    apply hholds.isChain hback
    rw [hdepends]
    exact hsome

/-! ## Notes as evidence -/

/-- A store with one note. -/
def fridayStore : DocStore := { DocStore.empty with
  memory := Store.empty.run [
    sampleAdd 1 "p" "agent_private" (sampleNote none "Deploys run on Friday.")] }

def fridayCheck (claims : List ClaimEvidence) : EvidenceCheckRequest :=
  ⟨"t", "p", "a", "private_only", claims⟩

/-- The second claim quotes the note twice, and the third one only depends on the others. -/
def fridayClaims : List ClaimEvidence := [
  ⟨[], "Friday is a deploy day.", .supported, [.note 1 "Friday"]⟩,
  ⟨[0], "Deploys run.", .supported, [.note 1 "Deploys", .note 1 "Deploys"]⟩,
  ⟨[0, 1], "Deploys run weekly.", .supported, []⟩]

def fridayBindings : List ClaimBinding := [
  ⟨[], 0, [true], true, [some (.note 1 "Friday")]⟩,
  ⟨[1, 1, 0], 1, [true, true, true], true,
    [some (.note 1 "Deploys"), some (.note 1 "Deploys"), some (.note 1 "Friday")]⟩,
  ⟨[0, 1], 2, [true, true], true, [some (.note 1 "Friday"), some (.note 1 "Deploys")]⟩]

theorem evidenceCheck_friday
    : (evidenceCheck sampleReadService (fun _ _ => (fridayStore, 2000000000))
        (fridayCheck fridayClaims)).map EvidenceCheckResponse.claims = .ok fridayBindings := by
  decide +kernel

theorem evidenceCheck_binds_friday
    : ∃ response, evidenceCheck sampleReadService (fun _ _ => (fridayStore, 2000000000))
          (fridayCheck fridayClaims) = .ok response
      ∧ response.claims = fridayBindings
      ∧ response.claims.length = fridayClaims.length
      ∧ ∃ slots, ∀ claim binding, fridayClaims[1]? = some claim →
          response.claims[1]? = some binding → IsChain slots fridayClaims 1 binding := by
  rcases Except.map_eq_ok.mp evidenceCheck_friday with ⟨response, hok, hclaims⟩
  rcases evidenceCheck_binds hok with ⟨hlength, slots, -, hall⟩
  refine ⟨response, hok, hclaims, hlength, slots, ?_⟩
  intro claim binding hclaim hbinding
  apply (hall 1 claim binding hclaim hbinding).2.2
  cases hclaim
  simp

/-- The third claim has no citation of its own, and the second one has the same citation twice. -/
theorem evidenceCheck_counts_chain
    : (evidenceCheck sampleReadService (fun _ _ => (fridayStore, 2000000000))
          (fridayCheck fridayClaims)).map EvidenceCheckResponse.claims = .ok fridayBindings
      ∧ (¬ ∀ (i : Nat) (claim : ClaimEvidence) (binding : ClaimBinding),
          fridayClaims[i]? = some claim → fridayBindings[i]? = some binding →
          binding.bindingVerified = true → claim.state.needed ≤ claim.citations.length)
      ∧ ¬ ∀ binding ∈ fridayBindings, binding.citationClaimIndices ≠ [] →
          binding.resolvedCitations.Nodup := by
  refine ⟨evidenceCheck_friday, ?_, ?_⟩
  . intro h
    have := h 2 _ _ rfl rfl rfl
    exact absurd this (by decide)
  . decide

end Elf
