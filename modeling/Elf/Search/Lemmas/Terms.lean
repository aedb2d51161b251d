import Elf.Search.Scoring
import Mathlib.Tactic.Linarith
import Mathlib.Tactic.FieldSimp

/-!
This module contains when each contribution to a score is zero, and how the normalized rank depends on
the rank.
-/

namespace Elf

variable {K : Type} [Field K] [LinearOrder K]

theorem scopeContextBoost_eq_zero_iff {boosts : List (String × K)}
    (hpos : ∀ entry ∈ boosts, 0 < entry.2) (scope : String)
    : scopeContextBoost boosts scope = 0 ↔ ∀ entry ∈ boosts, entry.1 ≠ scope := by
  unfold scopeContextBoost
  cases hlookup : boosts.lookup scope with
  | none =>
    rw [List.lookup_eq_none_iff] at hlookup
    constructor
    . intro _ entry hmem heq
      have := hlookup entry hmem
      simp [heq] at this
    . intro
      rfl
  | some boost =>
    rw [List.lookup_eq_some_iff] at hlookup
    have ⟨before, after, heq, _⟩ := hlookup
    have hmem : (scope, boost) ∈ boosts := by simp [heq]
    constructor
    . intro hzero
      rw [Option.getD_some] at hzero
      exact absurd hzero (ne_of_gt (hpos _ hmem))
    . intro h
      exact absurd rfl (h _ hmem)

variable [IsStrictOrderedRing K]

theorem clampUnit_eq_zero (x : K) : clampUnit x = 0 ↔ x ≤ 0 := by
  unfold clampUnit
  rw [max_eq_left_iff]
  rw [min_le_iff]
  have hone : ¬(1 : K) ≤ 0 := not_le_of_gt zero_lt_one
  simp [hone]

theorem rankNormalize_eq_zero (rank total : Nat)
    : (rankNormalize rank total : K) = 0 ↔ 1 < total ∧ (rank = 0 ∨ total ≤ rank) := by
  unfold rankNormalize
  split
  . next htotal =>
    constructor
    . intro h
      exact absurd h one_ne_zero
    . omega
  . next htotal =>
    split
    . next hrank =>
      constructor
      . intro
        omega
      . intro
        rfl
    . next hrank =>
      have hdenom : (0 : K) < (total - 1 : Nat) := by
        rw [Nat.cast_pos]
        omega
      rw [clampUnit_eq_zero]
      rw [sub_nonpos]
      rw [one_le_div hdenom]
      rw [Nat.cast_le]
      omega

theorem rankNormalize_nonneg (rank total : Nat) : 0 ≤ (rankNormalize rank total : K) := by
  unfold rankNormalize
  split
  . apply zero_le_one
  . split
    . apply le_refl
    . apply le_max_left

/-- A rank of zero is the last one, and every other rank is the better the smaller it is. -/
theorem rankNormalize_antitone {rank rank' : Nat} (hpos : 0 < rank) (hle : rank ≤ rank')
    (total : Nat) : (rankNormalize rank' total : K) ≤ rankNormalize rank total := by
  unfold rankNormalize
  split
  . apply le_refl
  . rw [if_neg (by omega), if_neg (by omega)]
    unfold clampUnit
    apply max_le_max_left
    apply min_le_min_right
    apply sub_le_sub_left
    apply div_le_div_of_nonneg_right
    . rw [Nat.cast_le]
      omega
    . apply Nat.cast_nonneg

omit [IsStrictOrderedRing K] in
theorem clampUnit_eq_self {x : K} (hzero : 0 ≤ x) (hone : x ≤ 1) : clampUnit x = x := by
  unfold clampUnit
  rw [min_eq_left hone, max_eq_right hzero]

/-- Among the ranks up to the last one, a smaller one is better. -/
theorem rankNormalize_lt {rank rank' total : Nat} (hpos : 0 < rank) (hlt : rank < rank')
    (hle : rank' ≤ total) : (rankNormalize rank' total : K) < rankNormalize rank total := by
  have hdenom : (0 : K) < (total - 1 : Nat) := by
    rw [Nat.cast_pos]
    omega
  have heq (r : Nat) (hr : 0 < r) (hrle : r ≤ total)
      : (rankNormalize r total : K) = 1 - (r - 1 : Nat) / (total - 1 : Nat) := by
    unfold rankNormalize
    rw [if_neg (by omega), if_neg (by omega)]
    apply clampUnit_eq_self
    . rw [sub_nonneg, div_le_one hdenom, Nat.cast_le]
      omega
    . rw [sub_le_self_iff]
      apply div_nonneg
      . apply Nat.cast_nonneg
      . exact hdenom.le
  rw [heq rank hpos (by omega), heq rank' (by omega) hle]
  apply sub_lt_sub_left
  rw [div_lt_div_iff_of_pos_right hdenom, Nat.cast_lt]
  omega

theorem recencyDecay_pos (A : Arithmetic K) (tau ageDays : K) : 0 < recencyDecay A tau ageDays := by
  unfold recencyDecay
  split
  . apply A.exp_pos
  . exact zero_lt_one

/-! ## Scopes -/

/-- A description that has a word of the query. -/
def DescriptionMatches (tokens : List String) (description : String) : Prop :=
  isValidText (Text.trim description) = true
    ∧ ∃ token ∈ tokens, token ∈ descriptionTokens (Text.trim description)

theorem asciiWords_empty : asciiWords "" = [] := by
  decide

theorem matchedRatio_pos {tokens terms : List String} {token : String} (htoken : token ∈ tokens)
    (hterm : token ∈ terms) : (0 : K) < matchedRatio tokens terms := by
  have hmatched : token ∈ tokens.filter terms.contains := by
    simp [htoken, hterm]
  have hcount := List.length_pos_of_mem hmatched
  have htokens := List.length_pos_of_mem htoken
  unfold matchedRatio
  apply div_pos
  . exact Nat.cast_pos.mpr hcount
  . exact Nat.cast_pos.mpr htokens

theorem scopeDescriptionBoost_pos (tokens : List String) (description : String) (weight : K)
    : 0 < scopeDescriptionBoost tokens description weight
        ↔ 0 < weight ∧ DescriptionMatches tokens description := by
  unfold scopeDescriptionBoost
  split
  . next h =>
    constructor
    . intro hpos
      exact absurd hpos (lt_irrefl _)
    . intro ⟨hweight, _, token, htoken, _⟩
      cases h with
      | inl hle => exact absurd hweight (not_lt_of_ge hle)
      | inr hempty =>
        rw [List.isEmpty_iff] at hempty
        simp [hempty] at htoken
  . next h =>
    have hweight : 0 < weight := by
      apply lt_of_not_ge
      intro hle
      exact h (Or.inl hle)
    dsimp only
    split
    . next hinvalid =>
      constructor
      . intro hpos
        exact absurd hpos (lt_irrefl _)
      . intro ⟨_, hvalid, token, _, hterm⟩
        cases hinvalid with
        | inl hempty =>
          simp [hempty, descriptionTokens, asciiWords_empty] at hterm
        | inr hinvalid => simp [hvalid] at hinvalid
    . next hvalid =>
      have hvalid : isValidText (Text.trim description) = true := by
        cases hv : isValidText (Text.trim description) with
        | true => rfl
        | false =>
          apply absurd _ hvalid
          right
          simp [hv]
      split
      . next hnone =>
        constructor
        . intro hpos
          exact absurd hpos (lt_irrefl _)
        . intro ⟨_, _, token, htoken, hterm⟩
          rw [List.isEmpty_iff, List.filter_eq_nil_iff] at hnone
          have := hnone token htoken
          simp [hterm] at this
      . next hsome =>
        have hmatched : ∃ token ∈ tokens, token ∈ descriptionTokens (Text.trim description) := by
          have hne : tokens.filter (descriptionTokens (Text.trim description)).contains ≠ [] := by
            intro h
            exact hsome (List.isEmpty_iff.mpr h)
          have ⟨token, hmem⟩ := List.exists_mem_of_ne_nil _ hne
          rw [List.mem_filter, List.contains_iff_mem] at hmem
          exact ⟨token, hmem⟩
        constructor
        . intro
          exact ⟨hweight, hvalid, hmatched⟩
        . intro
          have ⟨token, htoken, hterm⟩ := hmatched
          exact mul_pos hweight (matchedRatio_pos htoken hterm)

theorem mem_buildScopeContextBoostByScope {tokens : List String}
    {context : Option (SearchContext K)} {entry : String × K}
    : entry ∈ buildScopeContextBoostByScope tokens context
        ↔ ∃ ctx weight descriptions description, context = some ctx
            ∧ ctx.scopeBoostWeight = some weight ∧ ctx.scopeDescriptions = some descriptions
            ∧ (entry.1, description) ∈ descriptions
            ∧ entry.2 = scopeDescriptionBoost tokens description weight ∧ 0 < entry.2 := by
  unfold buildScopeContextBoostByScope
  constructor
  . intro hmem
    cases context with
    | none => cases hmem
    | some ctx =>
      dsimp only at hmem
      split at hmem
      . next weight descriptions hweight hdescriptions =>
        split at hmem
        . cases hmem
        . rw [List.mem_filter, List.mem_map, decide_eq_true_eq] at hmem
          have ⟨⟨source, hsource, heq⟩, hpos⟩ := hmem
          rw [← heq] at hpos ⊢
          exact ⟨ctx, weight, descriptions, source.2, rfl, hweight, hdescriptions, hsource, rfl,
            hpos⟩
      . cases hmem
  . intro ⟨ctx, weight, descriptions, description, hctx, hweight, hdescriptions, hmem, heq, hpos⟩
    have hboost : 0 < weight ∧ DescriptionMatches tokens description := by
      rw [heq] at hpos
      exact (scopeDescriptionBoost_pos tokens description weight).mp hpos
    have ⟨hlt, _, token, htoken, _⟩ := hboost
    have htokens : tokens.isEmpty = false := by
      cases tokens with
      | nil => cases htoken
      | cons => rfl
    rw [hctx]
    simp only [hweight, hdescriptions, htokens, not_le_of_gt hlt, Bool.false_eq_true, or_self,
      if_false]
    rw [List.mem_filter, List.mem_map, decide_eq_true_eq]
    constructor
    . exact ⟨(entry.1, description), hmem, Prod.ext rfl heq.symm⟩
    . exact hpos

/-- A scope has no boost unless a description of it matches the query. -/
theorem buildScopeContextBoostByScope_eq_zero (tokens : List String)
    (context : Option (SearchContext K)) (scope : String)
    : scopeContextBoost (buildScopeContextBoostByScope tokens context) scope = 0
        ↔ ¬∃ ctx weight descriptions description, context = some ctx
            ∧ ctx.scopeBoostWeight = some weight ∧ 0 < weight
            ∧ ctx.scopeDescriptions = some descriptions ∧ (scope, description) ∈ descriptions
            ∧ DescriptionMatches tokens description := by
  rw [scopeContextBoost_eq_zero_iff]
  . constructor
    . intro h ⟨ctx, weight, descriptions, description, hctx, hweight, hlt, hdescriptions, hmem,
        hmatches⟩
      apply h (scope, scopeDescriptionBoost tokens description weight)
      . rw [mem_buildScopeContextBoostByScope]
        exact ⟨ctx, weight, descriptions, description, hctx, hweight, hdescriptions, hmem, rfl,
          (scopeDescriptionBoost_pos tokens description weight).mpr ⟨hlt, hmatches⟩⟩
      . rfl
    . intro h entry hmem hscope
      rw [mem_buildScopeContextBoostByScope] at hmem
      have ⟨ctx, weight, descriptions, description, hctx, hweight, hdescriptions, hdesc, heq,
        hpos⟩ := hmem
      rw [heq, scopeDescriptionBoost_pos] at hpos
      rw [hscope] at hdesc
      exact h ⟨ctx, weight, descriptions, description, hctx, hweight, hpos.1, hdescriptions, hdesc,
        hpos.2⟩
  . intro entry hmem
    rw [mem_buildScopeContextBoostByScope] at hmem
    have ⟨_, _, _, _, _, _, _, _, _, hpos⟩ := hmem
    exact hpos

/-! ## Deterministic terms -/

theorem lexicalScale_ne_zero (minRatio ratio : K)
    : lexicalScale minRatio ratio ≠ 0
        ↔ if clampUnit minRatio < 1 then clampUnit minRatio < ratio else 1 ≤ ratio := by
  unfold lexicalScale
  dsimp only
  by_cases hmin : clampUnit minRatio < 1
  . rw [if_pos hmin]
    have hdenom : 0 < 1 - clampUnit minRatio := sub_pos.mpr hmin
    by_cases hratio : clampUnit minRatio ≤ ratio
    . rw [if_pos ⟨hratio, hmin⟩]
      rw [ne_eq, clampUnit_eq_zero]
      rw [div_le_iff₀ hdenom, zero_mul]
      rw [sub_nonpos, not_le]
    . rw [if_neg (fun h => hratio h.1)]
      rw [if_neg (fun h => absurd h.2 (not_le_of_gt hmin))]
      simp [le_of_not_ge hratio]
  . rw [if_neg hmin]
    rw [if_neg (fun h => hmin h.2)]
    have hone : 1 ≤ clampUnit minRatio := le_of_not_gt hmin
    by_cases hratio : 1 ≤ ratio
    . rw [if_pos ⟨hratio, hone⟩]
      simp [hratio]
    . rw [if_neg (fun h => hratio h.1)]
      simp [hratio]

theorem hitSaturation_eq_zero (half : K) (hitCount : Int)
    : hitSaturation half hitCount = 0 ↔ half ≤ 0 ∨ hitCount ≤ 0 := by
  unfold hitSaturation
  split
  . next h =>
    have hcount : (0 : K) < hitCount := Int.cast_pos.mpr h.2
    have hquotient : 0 < (hitCount : K) / (hitCount + half) := div_pos hcount (add_pos hcount h.1)
    rw [clampUnit_eq_zero]
    simp only [not_le_of_gt hquotient, not_le_of_gt h.1, false_or, false_iff]
    omega
  . next h =>
    rw [not_and_or, not_lt, not_lt] at h
    simp [h]

theorem hitRecency_pos (A : Arithmetic K) (tau : K) (lastHitAgeDays : Option K)
    : 0 < hitRecency A tau lastHitAgeDays := by
  unfold hitRecency
  split
  . split
    . apply A.exp_pos
    . exact zero_lt_one
  . exact zero_lt_one

theorem decayStaleness_clamp_eq_zero (A : Arithmetic K) (tau ageDays : K)
    : clampUnit (decayStaleness A tau (max ageDays 0)) = 0 ↔ tau ≤ 0 ∨ ageDays ≤ 0 := by
  rw [clampUnit_eq_zero]
  unfold decayStaleness
  split
  . next htau =>
    rw [sub_nonpos]
    rw [← A.exp_zero]
    rw [A.exp_strictMono.le_iff_le]
    rw [neg_div, neg_nonneg]
    rw [div_le_iff₀ htau, zero_mul]
    simp [not_le_of_gt htau]
  . next htau => simp [le_of_not_gt htau]

omit [IsStrictOrderedRing K] in
theorem lexicalTerm_eq_zero (lexical : RankingDeterministicLexical K) (tokens : List String)
    (snippet : String)
    : (lexicalTerm lexical tokens snippet).2 = 0
        ↔ ¬(lexical.enabled = true ∧ 0 < lexical.weight ∧ tokens ≠ []
            ∧ lexicalScale lexical.minRatio
                (lexicalOverlapRatio tokens snippet lexical.maxTextTerms) ≠ 0) := by
  unfold lexicalTerm
  split
  . next h =>
    have ⟨henabled, hweight, htokens⟩ := h
    simp [henabled, hweight, htokens, ne_of_gt hweight]
  . next h =>
    constructor
    . intro _ ⟨henabled, hweight, htokens, _⟩
      exact h ⟨henabled, hweight, htokens⟩
    . intro
      rfl

theorem hitTerm_eq_zero (A : Arithmetic K) (hits : RankingDeterministicHits K) (hitCount : Int)
    (lastHitAt : Option Nat) (now : Nat)
    : (hitTerm A hits hitCount lastHitAt now).2.2 = 0
        ↔ ¬(hits.enabled = true ∧ 0 < hits.weight ∧ 0 < hits.halfSaturation ∧ 0 < hitCount) := by
  unfold hitTerm
  split
  . next h =>
    have hrecency := hitRecency_pos A hits.lastHitTauDays
      (lastHitAt.map fun ts => max (daysBetween ts now) 0)
    simp only [mul_eq_zero, ne_of_gt h.2, ne_of_gt hrecency, false_or, or_false]
    rw [hitSaturation_eq_zero]
    simp [h.1, h.2, imp_iff_not_or]
  . next h =>
    constructor
    . intro _ ⟨henabled, hweight, _⟩
      exact h ⟨henabled, hweight⟩
    . intro
      rfl

theorem decayTerm_eq_zero (A : Arithmetic K) (decay : RankingDeterministicDecay K) (ageDays : K)
    : decayTerm A decay ageDays = 0
        ↔ ¬(decay.enabled = true ∧ 0 < decay.weight ∧ 0 < decay.tauDays ∧ 0 < ageDays) := by
  unfold decayTerm
  split
  . next h =>
    rw [mul_eq_zero, neg_eq_zero]
    rw [decayStaleness_clamp_eq_zero]
    simp [h.1, h.2, ne_of_gt h.2, imp_iff_not_or]
  . next h =>
    constructor
    . intro _ ⟨henabled, hweight, _⟩
      exact h ⟨henabled, hweight⟩
    . intro
      rfl

end Elf
