import Elf.Properties.ClaimBindings

/-!
This module contains when a conflict that is reported as bound rests on two citations. What a claim
itself cites is counted as often as it is cited.
-/

namespace Elf

open AppendNew
open Backward

variable {svc : ReadService} {reads : Nat → Nat → DocStore × Nat} {req : EvidenceCheckRequest}
  {response : EvidenceCheckResponse} {claims : List ClaimEvidence} {claim : ClaimEvidence}
  {slots : Nat → List (Option ClaimCitation)} {citation : ClaimCitation} {i k : Nat}

/-! ## Chains of one citation -/

/-- All citations that the claim rests on are the same one, and there are as many of them as the
claims that it rests on need. -/
structure RestsOnOne (slots : Nat → List (Option ClaimCitation)) (claims : List ClaimEvidence)
    (citation : ClaimCitation) (index : Nat) : Prop where
  alike : ∀ k, RestsOn claims index k → ∀ slot ∈ slots k, slot = some citation
  repeated : ∀ k claim, RestsOn claims index k → claims[k]? = some claim →
    claim.state = .conflict → 2 ≤ (slots k).length
  cited : ∀ k claim, RestsOn claims index k → claims[k]? = some claim →
    claim.state ≠ .unknown → ∃ m, RestsOn claims k m ∧ slots m ≠ []

theorem chain_appends (hback : BackwardOnly claims) (i : Nat)
    : ∃ added, chain slots claims i = ownEntries slots i ++ added
      ∧ Appends Prod.fst (ownEntries slots i) (premiseEntries slots (requiredPremises claims i))
          added := by
  unfold chain
  split
  next hempty =>
    have hnone : requiredPremises claims i = [] := by
      rw [List.eq_nil_iff_forall_not_mem]
      intro d hd
      rcases Relation.TransGen.head'_iff.mp ((mem_requiredPremises hback).mp hd) with ⟨a, ha, -⟩
      unfold Edge at ha
      rw [List.isEmpty_iff.mp hempty] at ha
      contradiction
    rw [hnone]
    exact ⟨[], by rw [List.append_nil], Appends.nil⟩
  . exact appendNew_appends

/-- What a claim rests on is in its chain. -/
theorem mem_chain_of_restsOn (hback : BackwardOnly claims) (hrests : RestsOn claims i k)
    {slot : Option ClaimCitation} (hslot : slot ∈ slots k)
    : slot ∈ (chain slots claims i).map Prod.fst := by
  rcases @chain_appends claims slots hback i with ⟨added, hchain, hadded⟩
  rcases Relation.reflTransGen_iff_eq_or_transGen.mp hrests with heq | hpremise
  . rw [hchain, List.map_append, map_fst_ownEntries, List.mem_append, ← heq]
    exact Or.inl hslot
  . rw [hchain]
    apply hadded.present (slot, k)
    rw [mem_premiseEntries, mem_requiredPremises hback]
    exact ⟨hpremise, hslot⟩

theorem mem_map_chain_cases (hback : BackwardOnly claims) {slot : Option ClaimCitation}
    (h : slot ∈ (chain slots claims i).map Prod.fst)
    : ∃ k, RestsOn claims i k ∧ slot ∈ slots k := by
  rcases List.mem_map.mp h with ⟨entry, hentry, heq⟩
  have hcases := mem_chain_cases hback hentry
  rw [heq] at hcases
  exact ⟨entry.2, hcases⟩

/-- A chain of one citation that is repeated repeats it among the citations of the claim itself. -/
theorem le_length_slots (hback : BackwardOnly claims)
    (halike : ∀ slot ∈ (chain slots claims i).map Prod.fst, slot = some citation)
    (hlength : 2 ≤ (chain slots claims i).length) : 2 ≤ (slots i).length := by
  rcases @chain_appends claims slots hback i with ⟨added, hchain, hadded⟩
  rw [hchain] at halike hlength
  have hkey : ∀ entry ∈ added, entry.1 = some citation := by
    intro entry hentry
    apply halike
    rw [List.map_append, List.mem_append]
    exact Or.inr (List.mem_map_of_mem hentry)
  have hown : (ownEntries slots i).length = (slots i).length := by
    rw [← @map_fst_ownEntries slots i, List.length_map]
  rw [List.length_append, hown] at hlength
  cases hslots : slots i with
  | cons slot rest =>
    -- The citation is there from the start, so that no premise adds it.
    have hslot : slot = some citation := by
      apply halike
      rw [List.map_append, map_fst_ownEntries, List.mem_append, hslots]
      exact Or.inl (List.mem_cons_self ..)
    have hnone : added = [] := by
      rw [List.eq_nil_iff_forall_not_mem]
      intro entry hentry
      apply hadded.new entry hentry (by rw [hkey entry hentry]; rfl)
      rw [map_fst_ownEntries, hkey entry hentry, hslots, hslot]
      exact List.mem_cons_self ..
    rw [hnone, hslots] at hlength
    simpa using hlength
  | nil =>
    have hreplicate : added.filterMap Prod.fst = List.replicate added.length citation := by
      rw [List.eq_replicate_iff]
      constructor
      . rw [List.length_filterMap_eq_countP]
        apply List.countP_eq_length.mpr
        intro entry hentry
        rw [hkey entry hentry]
        rfl
      . intro other hother
        rcases List.mem_filterMap.mp hother with ⟨entry, hentry, hsome⟩
        rw [hkey entry hentry] at hsome
        exact (Option.some.inj hsome).symm
    have hnodup := hadded.nodup
    rw [hreplicate, List.nodup_replicate] at hnodup
    rw [hslots] at hlength
    simp at hlength
    omega

/-! ## Conflicts -/

/-- Two different citations of the binding are verified. -/
def HasTwoSources (binding : ClaimBinding) : Prop :=
  ∃ a b, a ≠ b ∧ some a ∈ binding.resolvedCitations ∧ some b ∈ binding.resolvedCitations

theorem supported_of_restsOnOne (hback : BackwardOnly claims)
    (hone : RestsOnOne slots claims citation i) (hrests : RestsOn claims i k)
    : Supported slots claims k := by
  constructor
  . intro hnone
    have := hone.alike k hrests none hnone
    contradiction
  . intro claim hclaim
    have hown : (slots k).length ≤ (chain slots claims k).length := by
      rcases @chain_eq_append claims slots k with ⟨added, hchain⟩
      have hlength := congrArg List.length (@map_fst_ownEntries slots k)
      rw [List.length_map] at hlength
      rw [hchain, List.length_append, hlength]
      omega
    have hcited : claim.state ≠ .unknown → 1 ≤ (chain slots claims k).length := by
      intro hstate
      rcases hone.cited k claim hrests hclaim hstate with ⟨m, hm, hslots⟩
      rcases List.exists_mem_of_ne_nil _ hslots with ⟨slot, hslot⟩
      have hmem := mem_chain_of_restsOn hback hm hslot
      rcases List.mem_map.mp hmem with ⟨entry, hentry, -⟩
      exact List.length_pos_of_mem hentry
    cases hstate : claim.state with
    | unknown => exact Nat.zero_le _
    | conflict => exact Nat.le_trans (hone.repeated k claim hrests hclaim hstate) hown
    | supported => exact hcited (by rw [hstate]; simp)
    | absent => exact hcited (by rw [hstate]; simp)

/-- A supported conflict without two different citations rests on one. -/
theorem restsOnOne_of_supported (hback : BackwardOnly claims)
    (hsupported : ∀ k, RestsOn claims i k → Supported slots claims k)
    (halike : ∀ k, RestsOn claims i k → ∀ slot ∈ slots k, slot = some citation)
    : RestsOnOne slots claims citation i := by
  have hchain : ∀ k, RestsOn claims i k → ∀ slot ∈ (chain slots claims k).map Prod.fst,
      slot = some citation := by
    intro k hrests slot hslot
    rcases mem_map_chain_cases hback hslot with ⟨m, hm, hslot⟩
    exact halike m (hrests.trans hm) slot hslot
  refine ⟨halike, ?_, ?_⟩
  . intro k claim hrests hclaim hstate
    have henough := (hsupported k hrests).enough claim hclaim
    rw [hstate] at henough
    exact le_length_slots hback (hchain k hrests) henough
  . intro k claim hrests hclaim hstate
    have henough := (hsupported k hrests).enough claim hclaim
    have hpos : 0 < (chain slots claims k).length := by
      cases hcase : claim.state with
      | unknown => contradiction
      | conflict | supported | absent =>
        rw [hcase] at henough
        simp only [ClaimState.needed] at henough
        omega
    rcases List.exists_mem_of_length_pos hpos with ⟨entry, hentry⟩
    have hcases := mem_chain_cases hback hentry
    exact ⟨entry.2, hcases.1, List.ne_nil_of_mem hcases.2⟩

theorem Checks.conflict_iff {resolve : Nat → Nat → ClaimCitation → Except Error (Option ClaimCitation)}
    {result : List ClaimBinding} {binding : ClaimBinding} (h : Checks resolve claims result)
    (hback : BackwardOnly claims) (hclaim : claims[i]? = some claim)
    (hbinding : result[i]? = some binding) (hstate : claim.state = .conflict)
    : (binding.bindingVerified = true → HasTwoSources binding)
        ↔ ¬ ∃ citation, RestsOnOne (ownSlots resolve claims) claims citation i := by
  have hresolved := (h.holds hback hbinding).resolved
  rw [h.bound_iff hback hbinding]
  unfold HasTwoSources
  rw [hresolved]
  constructor
  . intro htwo hone
    rcases hone with ⟨citation, hone⟩
    rcases htwo fun k hrests => supported_of_restsOnOne hback hone hrests with ⟨a, b, hne, ha, hb⟩
    have hall : ∀ c, some c ∈ (chain (ownSlots resolve claims) claims i).map Prod.fst → c = citation := by
      intro c hc
      rcases mem_map_chain_cases hback hc with ⟨k, hrests, hslot⟩
      exact Option.some.inj (hone.alike k hrests _ hslot)
    exact hne ((hall a ha).trans (hall b hb).symm)
  . intro hnone hsupported
    by_contra htwo
    have henough := (hsupported i Relation.ReflTransGen.refl).enough claim hclaim
    rw [hstate] at henough
    simp only [ClaimState.needed] at henough
    rcases List.exists_mem_of_length_pos (show 0 < (chain (ownSlots resolve claims) claims i).length by
      omega) with ⟨entry, hentry⟩
    have hcases := mem_chain_cases hback hentry
    have hverified : ∀ k, RestsOn claims i k → ∀ slot ∈ ownSlots resolve claims k,
        ∃ c, slot = some c := by
      intro k hrests slot hslot
      apply Option.ne_none_iff_exists'.mp
      intro heq
      rw [heq] at hslot
      exact (hsupported k hrests).verified hslot
    rcases hverified entry.2 hcases.1 entry.1 hcases.2 with ⟨citation, hcitation⟩
    apply hnone
    refine ⟨citation, restsOnOne_of_supported hback hsupported ?_⟩
    intro k hrests slot hslot
    rcases hverified k hrests slot hslot with ⟨c, hc⟩
    have hmem := mem_chain_of_restsOn hback hrests hslot
    have hentryMem := List.mem_map_of_mem (f := Prod.fst) hentry
    rw [hc] at hmem ⊢
    rw [hcitation] at hentryMem
    by_contra hne
    apply htwo
    exact ⟨c, citation, fun heq => hne (by rw [heq]), hmem, hentryMem⟩

/-- Every bound conflict of an accepted request has two different citations exactly when none of the
conflicts rests on one citation that it repeats. -/
theorem evidenceCheck_conflicts_iff (h : evidenceCheck svc reads req = .ok response)
    : (∀ (i : Nat) (claim : ClaimEvidence) (binding : ClaimBinding), req.claims[i]? = some claim →
        response.claims[i]? = some binding → claim.state = .conflict →
        binding.bindingVerified = true → HasTwoSources binding)
      ↔ ∀ (i : Nat) (claim : ClaimEvidence), req.claims[i]? = some claim →
          claim.state = .conflict → ¬ ∃ citation, RestsOnOne (ownSlots (req.resolve svc reads) req.claims) req.claims citation i := by
  rcases evidenceCheck_checks h with ⟨hback, hchecks⟩
  constructor
  . intro hconflicts i claim hclaim hstate
    rcases hchecks.exists_binding hclaim with ⟨binding, hbinding⟩
    rw [← hchecks.conflict_iff hback hclaim hbinding hstate]
    exact hconflicts i claim binding hclaim hbinding hstate
  . intro hnone i claim binding hclaim hbinding hstate
    rw [hchecks.conflict_iff hback hclaim hbinding hstate]
    exact hnone i claim hclaim hstate

def repeatedConflict : List ClaimEvidence := [
  ⟨[], "The deploy day is disputed.", .conflict, [.note 1 "Friday", .note 1 "Friday"]⟩]

def repeatedConflictBinding : ClaimBinding :=
  ⟨[], 0, [true, true], true, [some (.note 1 "Friday"), some (.note 1 "Friday")]⟩

theorem evidenceCheck_repeatedConflict
    : (evidenceCheck sampleReadService (fun _ _ => (fridayStore, 2000000000))
        (fridayCheck repeatedConflict)).map EvidenceCheckResponse.claims
          = .ok [repeatedConflictBinding] := by
  decide +kernel

theorem not_hasTwoSources_repeated : ¬ HasTwoSources repeatedConflictBinding := by
  intro htwo
  rcases htwo with ⟨a, b, hne, ha, hb⟩
  simp only [repeatedConflictBinding, List.mem_cons, List.not_mem_nil, or_false, or_self,
    Option.some.injEq] at ha hb
  exact hne (ha.trans hb.symm)

theorem evidenceCheck_conflicts_iff_repeated
    : ∃ response, evidenceCheck sampleReadService (fun _ _ => (fridayStore, 2000000000))
          (fridayCheck repeatedConflict) = .ok response
      ∧ ∃ slots citation, RestsOnOne slots repeatedConflict citation 0 := by
  rcases Except.map_eq_ok.mp evidenceCheck_repeatedConflict with ⟨response, hok, hclaims⟩
  refine ⟨response, hok, ownSlots ((fridayCheck repeatedConflict).resolve sampleReadService
    fun _ _ => (fridayStore, 2000000000)) repeatedConflict, ?_⟩
  by_contra hnone
  apply not_hasTwoSources_repeated
  apply (evidenceCheck_conflicts_iff hok).mpr _ 0 _ _ rfl (by rw [hclaims]; rfl) rfl rfl
  intro i claim hclaim _ hone
  have hi : i = 0 := by
    rcases List.getElem?_eq_some_iff.mp hclaim with ⟨hlt, -⟩
    exact Nat.lt_one_iff.mp hlt
  subst hi
  exact hnone hone

/-- A conflict with one citation, given twice, is bound. -/
theorem evidenceCheck_binds_repeated
    : (evidenceCheck sampleReadService (fun _ _ => (fridayStore, 2000000000))
          (fridayCheck repeatedConflict)).map EvidenceCheckResponse.claims
            = .ok [repeatedConflictBinding]
      ∧ repeatedConflictBinding.bindingVerified = true
      ∧ ¬ HasTwoSources repeatedConflictBinding :=
  ⟨evidenceCheck_repeatedConflict, rfl, not_hasTwoSources_repeated⟩

end Elf
