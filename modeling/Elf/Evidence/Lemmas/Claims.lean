import Elf.Evidence.Claims
import Elf.Lib.Lookup
import Elf.Lib.Transaction

/-!
This module contains what the bindings of claims are made of: the slots of a claim are its own
citations and then those of its premises that are new, and each binding is made from the bindings
before it.
-/

namespace Elf

open AppendNew
open Backward

variable {claims : List ClaimEvidence} {claim : ClaimEvidence} {binding : ClaimBinding}
  {bindings result : List ClaimBinding} {i d : Nat}

/-! ## Entries -/

/-- A slot with the claim that supplies it. -/
abbrev Entry := Option ClaimCitation × Nat

/-- The vectors that hold the entries. -/
def Slots.of (entries : List Entry) : Slots :=
  ⟨entries.map Prod.fst, entries.map fun entry => entry.1.isSome, entries.map Prod.snd⟩

theorem Slots.push_of (entries : List Entry) (dependency : Nat) (citation : Option ClaimCitation)
    : (Slots.of entries).push dependency citation citation.isSome
        = Slots.of (pushNew Prod.fst entries (citation, dependency)) := by
  unfold Slots.push pushNew Slots.of
  cases hold : citation.isSome && (entries.map Prod.fst).contains citation with
  | true => simp only [if_true]
  | false => simp

variable (slots : Nat → List (Option ClaimCitation))

def ownEntries (claimIndex : Nat) : List Entry := (slots claimIndex).map fun slot => (slot, claimIndex)

def premiseEntries (premises : List Nat) : List Entry := premises.flatMap (ownEntries slots)

/-- The entries of a claim: its own, and those of its premises that are not among them yet. -/
def chain (claims : List ClaimEvidence) (claimIndex : Nat) : List Entry :=
  if (dependencies claims claimIndex).isEmpty then
    ownEntries slots claimIndex
  else
    appendNew Prod.fst (ownEntries slots claimIndex)
      (premiseEntries slots (requiredPremises claims claimIndex))

/-- The vectors of a binding are the entries of its claim. -/
structure Holds (claims : List ClaimEvidence) (claimIndex : Nat) (binding : ClaimBinding) : Prop where
  resolved : binding.resolvedCitations = (chain slots claims claimIndex).map Prod.fst
  verified : binding.citationVerified
    = (chain slots claims claimIndex).map fun entry => entry.1.isSome
  claimIndices : binding.citationClaimIndices
    = if (dependencies claims claimIndex).isEmpty then []
      else (chain slots claims claimIndex).map Prod.snd

variable {slots}

theorem map_fst_ownEntries (i : Nat) : (ownEntries slots i).map Prod.fst = slots i := by
  simp [ownEntries, Function.comp_def]

theorem map_snd_ownEntries (i : Nat)
    : (ownEntries slots i).map Prod.snd = List.replicate (slots i).length i := by
  simp [ownEntries, Function.comp_def]

theorem map_isSome_ownEntries (i : Nat)
    : ((ownEntries slots i).map fun entry => entry.1.isSome) = (slots i).map Option.isSome := by
  simp [ownEntries, Function.comp_def]

theorem chain_eq_append (i : Nat)
    : ∃ added, chain slots claims i = ownEntries slots i ++ added := by
  unfold chain
  split
  . exact ⟨[], by rw [List.append_nil]⟩
  . rcases @appendNew_appends _ _ Prod.fst (ownEntries slots i)
      (premiseEntries slots (requiredPremises claims i)) _ with ⟨added, heq, -⟩
    exact ⟨added, heq⟩

/-- The direct slots of a claim come first in its binding. -/
theorem Holds.direct_slots (h : Holds slots claims d binding) (hlength : (slots d).length = n)
    : (binding.resolvedCitations.take n).zip binding.citationVerified
        = (slots d).map fun slot => (slot, slot.isSome) := by
  rcases @chain_eq_append claims slots d with ⟨added, hchain⟩
  rw [h.resolved, h.verified, hchain, List.map_append, List.map_append, map_fst_ownEntries,
    map_isSome_ownEntries, ← hlength, List.take_left]
  induction slots d with
  | nil => rfl
  | cons slot rest ih => simpa using ih

theorem foldl_push_of (entries : List Entry) (dependency : Nat) (citations : List (Option ClaimCitation))
    : (citations.map fun slot => (slot, slot.isSome)).foldl
          (fun slots slot => slots.push dependency slot.1 slot.2) (Slots.of entries)
        = Slots.of (appendNew Prod.fst entries (citations.map fun slot => (slot, dependency))) := by
  induction citations generalizing entries with
  | nil => rfl
  | cons citation citations ih =>
    rw [List.map_cons, List.foldl_cons, Slots.push_of, ih]
    rfl

theorem foldl_pushPremise_of (hclaims : ∀ d ∈ premises, ∃ claim binding, claims[d]? = some claim
      ∧ bindings[d]? = some binding ∧ (slots d).length = claim.citations.length
      ∧ Holds slots claims d binding)
    (entries : List Entry)
    : premises.foldl (Slots.pushPremise claims bindings) (Slots.of entries)
        = Slots.of (appendNew Prod.fst entries (premiseEntries slots premises)) := by
  induction premises generalizing entries with
  | nil => rfl
  | cons d premises ih =>
    rcases hclaims d (List.mem_cons_self ..) with ⟨claim, binding, hclaim, hbinding, hlength, hholds⟩
    have hpush : (Slots.of entries).pushPremise claims bindings d
        = Slots.of (appendNew Prod.fst entries (ownEntries slots d)) := by
      unfold Slots.pushPremise
      simp only [hclaim, hbinding, hholds.direct_slots hlength]
      exact foldl_push_of entries d (slots d)
    rw [List.foldl_cons, hpush, ih fun d' hd' => hclaims d' (List.mem_cons_of_mem _ hd')]
    unfold premiseEntries
    rw [List.flatMap_cons]
    unfold appendNew
    rw [List.foldl_append]

/-- The binding of a claim holds its entries when the bindings before it do. -/
theorem bindClaim_holds (hclaim : claims[i]? = some claim)
    (hpremises : ∀ d ∈ requiredPremises claims i, ∃ claim binding, claims[d]? = some claim
      ∧ bindings[d]? = some binding ∧ (slots d).length = claim.citations.length
      ∧ Holds slots claims d binding)
    : Holds slots claims i (bindClaim claims bindings i claim (slots i)) := by
  have hdependencies : dependencies claims i = claim.dependsOn := by
    unfold dependencies
    rw [hclaim]
    rfl
  unfold bindClaim
  cases hempty : claim.dependsOn.isEmpty with
  | true =>
    have hchain : chain slots claims i = ownEntries slots i := by
      unfold chain
      rw [hdependencies, if_pos hempty]
    constructor
    . simp only [if_true, hchain, map_fst_ownEntries]
    . simp only [if_true, hchain, map_isSome_ownEntries]
    . simp only [if_true, hdependencies, hempty]
  | false =>
    have hchain : chain slots claims i = appendNew Prod.fst (ownEntries slots i)
        (premiseEntries slots (requiredPremises claims i)) := by
      unfold chain
      rw [hdependencies, if_neg (by simp [hempty])]
    have hstart : (⟨slots i, (slots i).map Option.isSome, List.replicate (slots i).length i⟩ : Slots)
        = Slots.of (ownEntries slots i) := by
      unfold Slots.of
      rw [map_fst_ownEntries, map_snd_ownEntries, map_isSome_ownEntries]
    simp only [Bool.false_eq_true, if_false, hstart, foldl_pushPremise_of hpremises]
    constructor
    . rw [hchain]
      rfl
    . rw [hchain]
      rfl
    . rw [hdependencies, if_neg (by simp [hempty]), hchain]
      rfl

/-! ## Dependencies -/

/-- Every claim depends on earlier claims only. -/
def BackwardOnly (claims : List ClaimEvidence) : Prop := ∀ a, ∀ b ∈ dependencies claims a, b < a

/-- The claims that a claim depends on, over any number of steps. -/
abbrev Premise (claims : List ClaimEvidence) : Nat → Nat → Prop :=
  Relation.TransGen (Edge (dependencies claims))

theorem backwardOnly_of_validateClaims (h : validateClaims claims = .ok u) : BackwardOnly claims := by
  unfold validateClaims at h
  simp only [Except.bind_eq_ok, Except.rejectIf_eq_ok] at h
  rcases h with ⟨⟨⟩, -, hbackward⟩
  intro a b hb
  unfold dependencies at hb
  cases hclaim : claims[a]? with
  | none =>
    rw [hclaim] at hb
    contradiction
  | some claim =>
    rw [hclaim] at hb
    have hmem : (claim, a) ∈ claims.zipIdx := List.mk_mem_zipIdx_iff_getElem?.mpr hclaim
    rw [List.any_eq_false] at hbackward
    have hall := hbackward _ hmem
    simp only [Bool.or_eq_true, not_or, List.any_eq_true, decide_eq_true_eq] at hall
    by_contra hle
    exact hall.2 ⟨b, hb, by omega⟩

theorem mem_requiredPremises (hback : BackwardOnly claims)
    : d ∈ requiredPremises claims i ↔ Premise claims i d := by
  unfold requiredPremises
  rw [List.mem_filter, List.mem_range, sweep_edges_iff hback]
  constructor
  . intro h
    exact h.2
  . intro h
    exact ⟨lt_of_transGen hback h, h⟩

theorem sorted_requiredPremises (claims : List ClaimEvidence) (i : Nat)
    : (requiredPremises claims i).Pairwise (· < ·) := by
  unfold requiredPremises
  exact List.pairwise_lt_range.filter _

/-! ## Runs -/

section

variable (resolve : Nat → Nat → ClaimCitation → Except Error (Option ClaimCitation))

/-- The slots that the own citations of a claim are resolved to. -/
def ownSlots (claims : List ClaimEvidence) (claimIndex : Nat) : List (Option ClaimCitation) :=
  match claims[claimIndex]? with
  | some claim =>
    match resolveCitations resolve claimIndex claim with
    | .ok own => own
    | .error _ => []
  | none => []

/-- The claim at every index is bound to its own slots and the bindings before it. -/
structure Checks (claims : List ClaimEvidence) (result : List ClaimBinding) : Prop where
  length : result.length = claims.length
  resolves : ∀ i claim, claims[i]? = some claim →
    resolveCitations resolve i claim = .ok (ownSlots resolve claims i)
  binds : ∀ i claim, claims[i]? = some claim →
    result[i]? = some (bindClaim claims (result.take i) i claim (ownSlots resolve claims i))

end

variable {resolve : Nat → Nat → ClaimCitation → Except Error (Option ClaimCitation)}

theorem checkClaims_eq_ok {done rest : List ClaimEvidence} (hclaims : claims = done ++ rest)
    (hlength : bindings.length = done.length)
    (h : checkClaims resolve claims rest bindings = .ok result)
    : result.length = claims.length ∧ result.take bindings.length = bindings
      ∧ ∀ i claim, bindings.length ≤ i → claims[i]? = some claim →
          resolveCitations resolve i claim = .ok (ownSlots resolve claims i)
          ∧ result[i]? = some (bindClaim claims (result.take i) i claim (ownSlots resolve claims i)) := by
  induction rest generalizing done bindings with
  | nil =>
    unfold checkClaims at h
    cases h
    rw [List.append_nil] at hclaims
    refine ⟨by rw [hclaims, hlength], List.take_length, ?_⟩
    intro i claim hi hclaim
    rw [List.getElem?_eq_none (by rw [hclaims]; omega)] at hclaim
    contradiction
  | cons head rest ih =>
    unfold checkClaims at h
    rcases Except.bind_eq_ok.mp h with ⟨own, hown, hrest⟩
    have hhead : claims[bindings.length]? = some head := by
      rw [hclaims, hlength]
      simp
    have hslots : ownSlots resolve claims bindings.length = own := by
      unfold ownSlots
      simp only [hhead, hown]
    have hnext := @ih _ (done ++ [head]) (by rw [hclaims]; simp) (by simp [hlength]) hrest
    rw [List.length_append, List.length_singleton] at hnext
    rcases hnext with ⟨hresult, htake, hlater⟩
    have hprior : result.take bindings.length = bindings := by
      have htake' := congrArg (List.take bindings.length) htake
      rw [List.take_take, Nat.min_eq_left (Nat.le_succ _), List.take_left] at htake'
      exact htake'
    refine ⟨hresult, hprior, ?_⟩
    intro i claim hi hclaim
    rcases Nat.eq_or_lt_of_le hi with heq | hlt
    . subst heq
      rw [hhead] at hclaim
      cases hclaim
      rw [hslots, hprior]
      refine ⟨hown, ?_⟩
      have hget := congrArg (fun l => l[bindings.length]?) htake
      simp only [List.getElem?_take_of_lt (Nat.lt_succ_self _)] at hget
      rw [hget]
      simp
    . exact hlater i claim hlt hclaim

theorem checks_of_ok (h : checkClaims resolve claims claims [] = .ok result)
    : Checks resolve claims result := by
  have hall := @checkClaims_eq_ok claims [] result resolve [] claims rfl rfl h
  constructor
  . exact hall.1
  . intro i claim hclaim
    exact (hall.2.2 i claim (Nat.zero_le i) hclaim).1
  . intro i claim hclaim
    exact (hall.2.2 i claim (Nat.zero_le i) hclaim).2

theorem exists_premise (hback : BackwardOnly claims) (hbinding : result[i]? = some binding)
    (hd : Premise claims i d) : ∃ binding, result[d]? = some binding := by
  have hlt := lt_of_transGen hback hd
  rcases List.getElem?_eq_some_iff.mp hbinding with ⟨hi, -⟩
  exact ⟨result[d], List.getElem?_eq_getElem (by omega)⟩

namespace Checks

theorem exists_claim (h : Checks resolve claims result) (hbinding : result[i]? = some binding)
    : ∃ claim, claims[i]? = some claim := by
  rcases List.getElem?_eq_some_iff.mp hbinding with ⟨hi, -⟩
  rw [h.length] at hi
  exact ⟨claims[i], List.getElem?_eq_getElem hi⟩

theorem exists_binding (h : Checks resolve claims result) (hclaim : claims[i]? = some claim)
    : ∃ binding, result[i]? = some binding := ⟨_, h.binds i claim hclaim⟩

theorem length_slots (h : Checks resolve claims result) (hclaim : claims[i]? = some claim)
    : (ownSlots resolve claims i).length = claim.citations.length := by
  have hlength := Except.length_mapM (h.resolves i claim hclaim)
  rwa [List.length_zipIdx] at hlength

/-- Every binding holds the entries of its claim. -/
theorem holds (h : Checks resolve claims result) (hback : BackwardOnly claims)
    (hbinding : result[i]? = some binding) : Holds (ownSlots resolve claims) claims i binding := by
  induction i using Nat.strongRecOn generalizing binding with
  | ind i ih =>
    rcases h.exists_claim hbinding with ⟨claim, hclaim⟩
    have hbinds := h.binds i claim hclaim
    rw [hbinding, Option.some.injEq] at hbinds
    rw [hbinds]
    apply bindClaim_holds hclaim
    intro d hd
    have hpremise := (mem_requiredPremises hback).mp hd
    have hlt := lt_of_transGen hback hpremise
    rcases exists_premise hback hbinding hpremise with ⟨prior, hprior⟩
    rcases h.exists_claim hprior with ⟨premise, hpremiseClaim⟩
    refine ⟨premise, prior, hpremiseClaim, ?_, h.length_slots hpremiseClaim, ih d hlt hprior⟩
    rw [List.getElem?_take_of_lt hlt]
    exact hprior

end Checks

/-! ## Binding -/

/-- The number of citations that a claim needs. -/
def ClaimState.needed : ClaimState → Nat
  | unknown => 0
  | conflict => 2
  | _ => 1

theorem enoughCitations_iff {state : ClaimState} {resolved : List (Option ClaimCitation)}
    : enoughCitations state resolved = true ↔ state.needed ≤ resolved.length := by
  unfold enoughCitations ClaimState.needed
  cases state with
  | supported | absent =>
    cases resolved with
    | nil => simp
    | cons slot rest => simp
  | unknown => simp
  | conflict => simp

/-- The own citations of a claim are verified, and its chain has as many as it needs. -/
structure Supported (slots : Nat → List (Option ClaimCitation)) (claims : List ClaimEvidence)
    (index : Nat) : Prop where
  verified : none ∉ slots index
  enough : ∀ claim, claims[index]? = some claim →
    claim.state.needed ≤ (chain slots claims index).length

theorem mem_premiseEntries {slots : Nat → List (Option ClaimCitation)} {premises : List Nat}
    {entry : Entry}
    : entry ∈ premiseEntries slots premises ↔ entry.2 ∈ premises ∧ entry.1 ∈ slots entry.2 := by
  unfold premiseEntries ownEntries
  rw [List.mem_flatMap]
  constructor
  . intro h
    rcases h with ⟨d, hd, hentry⟩
    rcases List.mem_map.mp hentry with ⟨slot, hslot, heq⟩
    rw [← heq]
    exact ⟨hd, hslot⟩
  . intro h
    exact ⟨entry.2, h.1, List.mem_map.mpr ⟨entry.1, h.2, rfl⟩⟩

/-- The entries of a chain come from the claim itself and its premises. -/
theorem mem_chain_cases {slots : Nat → List (Option ClaimCitation)} (hback : BackwardOnly claims)
    {entry : Entry} (h : entry ∈ chain slots claims i)
    : Relation.ReflTransGen (Edge (dependencies claims)) i entry.2 ∧ entry.1 ∈ slots entry.2 := by
  have hown : entry ∈ ownEntries slots i →
      Relation.ReflTransGen (Edge (dependencies claims)) i entry.2 ∧ entry.1 ∈ slots entry.2 := by
    intro hentry
    rcases List.mem_map.mp hentry with ⟨slot, hslot, heq⟩
    rw [← heq]
    exact ⟨Relation.ReflTransGen.refl, hslot⟩
  unfold chain at h
  split at h
  . exact hown h
  . rcases @appendNew_appends _ _ Prod.fst (ownEntries slots i)
      (premiseEntries slots (requiredPremises claims i)) _ with ⟨added, heq, hadded⟩
    rw [heq, List.mem_append] at h
    cases h with
    | inl h => exact hown h
    | inr h =>
      have hpremise := mem_premiseEntries.mp (hadded.sublist.subset h)
      exact ⟨((mem_requiredPremises hback).mp hpremise.1).to_reflTransGen, hpremise.2⟩

theorem bindClaim_bound (hclaim : claims[i]? = some claim)
    (hholds : Holds slots claims i (bindClaim claims bindings i claim (slots i)))
    : (bindClaim claims bindings i claim (slots i)).bindingVerified = true
        ↔ (∀ d ∈ dependencies claims i, ∃ prior, bindings[d]? = some prior
            ∧ prior.bindingVerified = true)
          ∧ claim.state.needed ≤ (chain slots claims i).length
          ∧ ∀ entry ∈ chain slots claims i, entry.1.isSome = true := by
  have hdependencies : dependencies claims i = claim.dependsOn := by
    unfold dependencies
    rw [hclaim]
    rfl
  have hbound : (bindClaim claims bindings i claim (slots i)).bindingVerified
      = ((claim.dependsOn.all fun dependency =>
            bindings[dependency]?.any ClaimBinding.bindingVerified)
          && enoughCitations claim.state
            (bindClaim claims bindings i claim (slots i)).resolvedCitations
          && (bindClaim claims bindings i claim (slots i)).citationVerified.all id) := rfl
  rw [hbound, hholds.resolved, hholds.verified, hdependencies, Bool.and_eq_true, Bool.and_eq_true,
    enoughCitations_iff, List.length_map, and_assoc]
  simp only [List.all_eq_true, Option.any_eq_true, List.mem_map, id, forall_exists_index, and_imp,
    forall_apply_eq_imp_iff₂]

/-- A binding is verified when the claim and all of its premises are supported. -/
theorem Checks.bound_iff (h : Checks resolve claims result) (hback : BackwardOnly claims)
    (hbinding : result[i]? = some binding)
    : binding.bindingVerified = true
        ↔ ∀ k, Relation.ReflTransGen (Edge (dependencies claims)) i k →
            Supported (ownSlots resolve claims) claims k := by
  induction i using Nat.strongRecOn generalizing binding with
  | ind i ih =>
    rcases h.exists_claim hbinding with ⟨claim, hclaim⟩
    have hbinds := h.binds i claim hclaim
    rw [hbinding, Option.some.injEq] at hbinds
    have hholds := h.holds hback hbinding
    rw [hbinds] at hholds ⊢
    rw [bindClaim_bound hclaim hholds]
    have hprior : ∀ d ∈ dependencies claims i, ∃ prior, (result.take i)[d]? = some prior
        ∧ (prior.bindingVerified = true ↔ ∀ k,
            Relation.ReflTransGen (Edge (dependencies claims)) d k →
              Supported (ownSlots resolve claims) claims k) := by
      intro d hd
      have hlt := hback i d hd
      rcases exists_premise hback hbinding (Relation.TransGen.single hd) with ⟨prior, hprior⟩
      refine ⟨prior, ?_, ih d hlt hprior⟩
      rw [List.getElem?_take_of_lt hlt]
      exact hprior
    constructor
    . intro hbound k hreaches
      rcases hbound with ⟨hpremises, henough, hverified⟩
      rcases Relation.ReflTransGen.cases_head hreaches with heq | ⟨d, hd, hreaches⟩
      . subst heq
        constructor
        . intro hnone
          rcases @chain_eq_append claims (ownSlots resolve claims) i with ⟨added, hchain⟩
          have := hverified (none, i) (by
            rw [hchain, List.mem_append]
            exact Or.inl (List.mem_map.mpr ⟨none, hnone, rfl⟩))
          contradiction
        . intro claim' hclaim'
          rw [hclaim] at hclaim'
          cases hclaim'
          exact henough
      . rcases hprior d hd with ⟨prior, hprior, hiff⟩
        rcases hpremises d hd with ⟨prior', hprior', hverified⟩
        rw [hprior] at hprior'
        cases hprior'
        exact hiff.mp hverified k hreaches
    . intro hsupported
      refine ⟨?_, (hsupported i Relation.ReflTransGen.refl).enough claim hclaim, ?_⟩
      . intro d hd
        rcases hprior d hd with ⟨prior, hprior, hiff⟩
        refine ⟨prior, hprior, hiff.mpr ?_⟩
        intro k hreaches
        exact hsupported k (Relation.ReflTransGen.head hd hreaches)
      . intro entry hentry
        have hcases := mem_chain_cases hback hentry
        rw [Option.isSome_iff_ne_none]
        intro hnone
        apply (hsupported entry.2 hcases.1).verified
        rw [← hnone]
        exact hcases.2

end Elf
