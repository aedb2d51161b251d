import Elf.Search.Lemmas.Selection
import Elf.Search.Lemmas.Terms
import Mathlib.Tactic.Ring

/-!
This module contains that the terms of an explanation add up to the score they explain, in a live
search and in a replay, and when a term is zero.
-/

namespace Elf

variable {K : Type} [Field K] [LinearOrder K]

/-- The query and the configuration that the candidates of one ranking are scored with. -/
structure ScoreRun (K : Type) where
  cfg : RankingConfig K
  blendPolicy : ResolvedBlendPolicy K
  query : String
  now : Nat
  totalRerank : Nat
  totalRetrieval : Nat

def ScoreRun.ctx (run : ScoreRun K) : ScoreCandidateCtx K :=
  scoreCandidateCtx run.cfg run.blendPolicy run.query run.now run.totalRerank run.totalRetrieval

/-- The feature that a term belongs to is enabled. -/
def FeatureEnabled (run : ScoreRun K) (name : String) : Prop :=
  let det := run.cfg.ranking.deterministic
  match name with
  | "blend.retrieval" => run.blendPolicy.enabled = true
  | "blend.rerank" => run.blendPolicy.enabled = true
  | "tie_breaker" => run.cfg.ranking.tieBreakerWeight ≠ 0
  | "context.scope_boost" =>
    ∃ context weight, run.cfg.context = some context ∧ context.scopeBoostWeight = some weight
      ∧ 0 < weight
  | "deterministic.lexical_bonus" => det.enabled = true ∧ det.lexical.enabled = true
  | "deterministic.hit_boost" => det.enabled = true ∧ det.hits.enabled = true
  | "deterministic.decay_penalty" => det.enabled = true ∧ det.decay.enabled = true
  | _ => False

/-- A rank that counts nothing among so many. -/
def LastRank (rank total : Nat) : Prop := 1 < max total 1 ∧ (rank = 0 ∨ max total 1 ≤ rank)

/-- There is nothing that a term adds to the score. -/
def AddsNothing (run : ScoreRun K) (inputs : ScoreInputs) (number : F32 → K) (name : String) : Prop :=
  let det := run.cfg.ranking.deterministic
  let weight := retrievalWeightForRank inputs.retrievalRank run.blendPolicy.segments
  match name with
  | "blend.retrieval" =>
    run.blendPolicy.enabled = false ∨ weight = 0 ∨ LastRank inputs.retrievalRank run.totalRetrieval
  | "blend.rerank" =>
    run.blendPolicy.enabled = true ∧ weight = 1 ∨ LastRank inputs.rerankRank run.totalRerank
  | "tie_breaker" =>
    run.cfg.ranking.tieBreakerWeight = 0 ∨ importanceFactor (number inputs.importance) = 0
  | "context.scope_boost" =>
    ¬∃ context weight descriptions description, run.cfg.context = some context
      ∧ context.scopeBoostWeight = some weight ∧ 0 < weight
      ∧ context.scopeDescriptions = some descriptions
      ∧ (inputs.scope, description) ∈ descriptions
      ∧ DescriptionMatches (tokenizeQuery run.query maxMatchedTerms) description
  | "deterministic.lexical_bonus" =>
    let tokens := buildDeterministicQueryTokens run.cfg run.query
    let ratio := lexicalOverlapRatio tokens inputs.snippet det.lexical.maxTextTerms
    ¬(det.enabled = true ∧ det.lexical.enabled = true ∧ 0 < det.lexical.weight ∧ tokens ≠ []
      ∧ if clampUnit det.lexical.minRatio < 1 then clampUnit det.lexical.minRatio < ratio
        else 1 ≤ ratio)
  | "deterministic.hit_boost" =>
    ¬(det.enabled = true ∧ det.hits.enabled = true ∧ 0 < det.hits.weight
      ∧ 0 < det.hits.halfSaturation ∧ 0 < inputs.hitCount)
  | "deterministic.decay_penalty" =>
    ¬(det.enabled = true ∧ det.decay.enabled = true ∧ 0 < det.decay.weight
      ∧ 0 < det.decay.tauDays ∧ (0 : K) < daysBetween inputs.updatedAt run.now)
  | _ => False

/-- What the terms say about a score. -/
structure Explained (A : Arithmetic K) (run : ScoreRun K) (inputs : ScoreInputs) (score : K)
    (terms : List (SearchRankingTerm K)) : Prop where
  sum : (terms.map (·.value)).sum = score
  once : (terms.map (·.name)).Nodup
  /-- Without blending the rerank alone ranks, so that its term stays. -/
  disabled : ∀ term ∈ terms, term.name ≠ "blend.rerank" → ¬FeatureEnabled run term.name
    → term.value = 0
  zero : ∀ term ∈ terms, term.value = 0 ↔ AddsNothing run inputs A.number term.name

theorem addsNothing_of_disabled {run : ScoreRun K} {inputs : ScoreInputs} {number : F32 → K}
    {name : String} (hname : name ∈ ["blend.retrieval", "tie_breaker", "context.scope_boost",
      "deterministic.lexical_bonus", "deterministic.hit_boost", "deterministic.decay_penalty"])
    (h : ¬FeatureEnabled run name) : AddsNothing run inputs number name := by
  simp only [List.mem_cons, List.not_mem_nil, or_false] at hname
  rcases hname with rfl | rfl | rfl | rfl | rfl | rfl
  . left
    simpa [FeatureEnabled] using h
  . left
    simpa [FeatureEnabled] using h
  . intro ⟨context, weight, _, _, hcontext, hweight, hpos, _⟩
    exact h ⟨context, weight, hcontext, hweight, hpos⟩
  . intro ⟨hdet, hlexical, _⟩
    exact h ⟨hdet, hlexical⟩
  . intro ⟨hdet, hhits, _⟩
    exact h ⟨hdet, hhits⟩
  . intro ⟨hdet, hdecay, _⟩
    exact h ⟨hdet, hdecay⟩

theorem Explained.strip {A : Arithmetic K} {run : ScoreRun K} {inputs : ScoreInputs} {score : K}
    {terms : List (SearchRankingTerm K)} (h : Explained A run inputs score terms)
    : Explained A run inputs score (stripTermInputs terms) where
  sum := by
    rw [← h.sum]
    simp [stripTermInputs, Function.comp_def]
  once := by
    have := h.once
    simpa [stripTermInputs, Function.comp_def] using this
  disabled := by
    intro term hmem
    have ⟨source, hsource, heq⟩ := List.mem_map.mp hmem
    rw [← heq]
    apply h.disabled source hsource
  zero := by
    intro term hmem
    have ⟨source, hsource, heq⟩ := List.mem_map.mp hmem
    rw [← heq]
    apply h.zero source hsource

section Contributions

variable [IsStrictOrderedRing K] (A : Arithmetic K) (run : ScoreRun K) (inputs : ScoreInputs)

theorem rankNormalize_max_eq_zero (rank total : Nat)
    : (rankNormalize rank (max total 1) : K) = 0 ↔ LastRank rank total := by
  rw [rankNormalize_eq_zero]
  rfl

theorem retrievalTerm_eq_zero
    : (scoreParts A run.ctx inputs).retrievalTerm = 0
        ↔ AddsNothing run inputs A.number "blend.retrieval" := by
  unfold AddsNothing
  simp only [scoreParts, ScoreRun.ctx, scoreCandidateCtx, normalizedRank, mul_eq_zero,
    rankNormalize_max_eq_zero, blendRetrievalWeight]
  by_cases henabled : run.blendPolicy.enabled = true
  . simp [henabled]
  . simp [henabled]

theorem rerankTerm_eq_zero
    : (scoreParts A run.ctx inputs).rerankTerm = 0
        ↔ AddsNothing run inputs A.number "blend.rerank" := by
  unfold AddsNothing
  simp only [scoreParts, ScoreRun.ctx, scoreCandidateCtx, normalizedRank, mul_eq_zero,
    rankNormalize_max_eq_zero, blendRetrievalWeight, sub_eq_zero]
  by_cases henabled : run.blendPolicy.enabled = true
  . simp [henabled, eq_comm]
  . simp [henabled]

theorem tieBreakerScore_eq_zero
    : (scoreParts A run.ctx inputs).tieBreakerScore = 0
        ↔ AddsNothing run inputs A.number "tie_breaker" := by
  unfold AddsNothing
  have hdecay := recencyDecay_pos A run.cfg.ranking.recencyTauDays
    (daysBetween inputs.updatedAt run.now)
  simp only [scoreParts, ScoreRun.ctx, scoreCandidateCtx, mul_eq_zero, ne_of_gt hdecay, or_false]

theorem scopeContextBoost_eq_zero
    : (scoreParts A run.ctx inputs).scopeContextBoost = 0
        ↔ AddsNothing run inputs A.number "context.scope_boost" := by
  apply buildScopeContextBoostByScope_eq_zero

theorem lexicalBonus_eq_zero
    : (scoreParts A run.ctx inputs).deterministicLexicalBonus = 0
        ↔ AddsNothing run inputs A.number "deterministic.lexical_bonus" := by
  unfold AddsNothing
  simp only [scoreParts, ScoreRun.ctx, scoreCandidateCtx, computeDeterministicRankingTerms]
  by_cases henabled : run.cfg.ranking.deterministic.enabled = true
  . simp only [henabled, Bool.not_true, Bool.false_eq_true, if_false, true_and]
    rw [lexicalTerm_eq_zero]
    rw [lexicalScale_ne_zero]
  . simp [henabled, DeterministicRankingTerms.default]

theorem hitBoost_eq_zero
    : (scoreParts A run.ctx inputs).deterministicHitBoost = 0
        ↔ AddsNothing run inputs A.number "deterministic.hit_boost" := by
  unfold AddsNothing
  simp only [scoreParts, ScoreRun.ctx, scoreCandidateCtx, computeDeterministicRankingTerms]
  by_cases henabled : run.cfg.ranking.deterministic.enabled = true
  . simp only [henabled, Bool.not_true, Bool.false_eq_true, if_false, true_and]
    apply hitTerm_eq_zero
  . simp [henabled, DeterministicRankingTerms.default]

theorem decayPenalty_eq_zero
    : (scoreParts A run.ctx inputs).deterministicDecayPenalty = 0
        ↔ AddsNothing run inputs A.number "deterministic.decay_penalty" := by
  unfold AddsNothing
  simp only [scoreParts, ScoreRun.ctx, scoreCandidateCtx, computeDeterministicRankingTerms]
  by_cases henabled : run.cfg.ranking.deterministic.enabled = true
  . simp only [henabled, Bool.not_true, Bool.false_eq_true, if_false, true_and]
    apply decayTerm_eq_zero
  . simp [henabled, DeterministicRankingTerms.default]

theorem scoreParts_zero (retrievalRank : Nat) (scope : String)
    : ∀ term ∈ buildTraceTermsV2 A ((scoreParts A run.ctx inputs).termsArgs run.cfg
          run.blendPolicy retrievalRank scope),
        term.value = 0 ↔ AddsNothing run inputs A.number term.name := by
  simp only [buildTraceTermsV2, deterministicTerms, List.cons_append, List.nil_append,
    List.forall_mem_cons, List.not_mem_nil, false_implies, implies_true, and_true]
  exact ⟨retrievalTerm_eq_zero A run inputs, rerankTerm_eq_zero A run inputs,
    tieBreakerScore_eq_zero A run inputs, scopeContextBoost_eq_zero A run inputs,
    lexicalBonus_eq_zero A run inputs, hitBoost_eq_zero A run inputs,
    decayPenalty_eq_zero A run inputs⟩

theorem scoreParts_explained (retrievalRank : Nat) (scope : String)
    : Explained A run inputs (scoreParts A run.ctx inputs).finalScore
        (buildTraceTermsV2 A ((scoreParts A run.ctx inputs).termsArgs run.cfg run.blendPolicy
          retrievalRank scope)) where
  sum := by
    simp only [buildTraceTermsV2, deterministicTerms, ScoreParts.termsArgs, List.cons_append,
      List.nil_append, List.map_cons, List.map_nil, List.sum_cons, List.sum_nil]
    simp only [scoreParts]
    ring
  once := by
    simp only [buildTraceTermsV2, deterministicTerms, List.cons_append, List.nil_append,
      List.map_cons, List.map_nil]
    decide
  disabled := by
    intro term hmem hname hdisabled
    rw [scoreParts_zero A run inputs retrievalRank scope term hmem]
    apply addsNothing_of_disabled _ hdisabled
    simp only [buildTraceTermsV2, deterministicTerms, List.cons_append, List.nil_append,
      List.mem_cons, List.not_mem_nil, or_false] at hmem
    rcases hmem with rfl | rfl | rfl | rfl | rfl | rfl | rfl <;> simp at hname ⊢
  zero := scoreParts_zero A run inputs retrievalRank scope

theorem scoreChunkCandidate_explained (item : ChunkSnippet) (rerankScore : F32)
    (rerankRank : Nat)
    : Explained A run (item.scoreInputs rerankScore rerankRank)
        (scoreChunkCandidate A run.ctx item rerankScore rerankRank).finalScore
        ((scoreChunkCandidate A run.ctx item rerankScore rerankRank).terms A run.cfg
          run.blendPolicy) := by
  apply scoreParts_explained

theorem scoreReplayCandidate_explained (candidate : TraceReplayCandidate K) (rerankRank : Nat)
    : Explained A run (candidate.scoreInputs rerankRank)
        (scoreReplayCandidate A run.ctx candidate rerankRank).finalScore
        ((scoreReplayCandidate A run.ctx candidate rerankRank).terms A run.cfg
          run.blendPolicy) := by
  apply scoreParts_explained

end Contributions

/-! ## Searches and replays -/

/-- What is scored, and the run that scores it, in a ranking with a configuration. -/
def RunOf (cfg : RankingConfig K) (override : Option (RankingRequestOverride K)) (query : String)
    (run : ScoreRun K) : Prop :=
  run.cfg = cfg ∧ run.query = query
    ∧ resolveBlendPolicy cfg.ranking.blend (override.bind (·.blend)) = .ok run.blendPolicy

theorem scoreSnippetItems_mem {A : Arithmetic K} {args : FinishSearchArgs K}
    {blendPolicy : ResolvedBlendPolicy K} {items : List ChunkSnippet} {candidateCount : Nat}
    {chunks : List (ScoredChunk K)} {scored : ScoredChunk K}
    (h : scoreSnippetItems A args blendPolicy items candidateCount = .ok chunks)
    (hscored : scored ∈ chunks)
    : ∃ totalRerank item rerankScore rerankRank, scored = scoreChunkCandidate A
        (scoreCandidateCtx args.cfg blendPolicy args.query args.now totalRerank candidateCount)
        item rerankScore rerankRank := by
  unfold scoreSnippetItems at h
  split at h
  . cases h
    cases hscored
  . simp only [Except.bind_eq_ok, Except.pure_eq_ok] at h
    have ⟨scores, _, hchunks⟩ := h
    rw [hchunks] at hscored
    have ⟨entry, _, heq⟩ := List.mem_map.mp hscored
    exact ⟨scores.length, entry.1.1, entry.1.2, entry.2, heq.symm⟩

variable [IsStrictOrderedRing K]

/-- The items of a search, and those of its trace, are explained by terms that add up. -/
theorem finishSearch_explained {A : Arithmetic K} {policyId : PolicyId K}
    {args : FinishSearchArgs K} {items : List ChunkSnippet} {candidateCount : Nat}
    {result : FinishSearchResult K}
    (h : finishSearch A policyId args items candidateCount = .ok result)
    : ∀ entry ∈ result.items, ∃ run inputs, RunOf args.cfg args.rankingOverride args.query run
        ∧ (∃ scored ∈ result.fusedResults, scored.item.chunk.chunkId = entry.1.chunkId
          ∧ scored.finalScore = entry.1.finalScore ∧ scored.finalScore = entry.2.finalScore)
        ∧ Explained A run inputs entry.1.finalScore entry.1.explain.ranking.terms
        ∧ Explained A run inputs entry.2.finalScore entry.2.explain.ranking.terms := by
  have ⟨policies, hpolicies, chunks, hchunks, hresult⟩ := finishSearch_eq_ok.mp h
  have hblend := resolveFinishSearchPolicies_blend hpolicies
  rw [hresult]
  intro entry hentry
  simp only [finishScored, List.mem_map] at hentry
  have ⟨⟨scored, idx⟩, hmem, heq⟩ := hentry
  have hfused := selectDiverseResults_subset (List.fst_mem_of_mem_zipIdx hmem)
  have ⟨totalRerank, item, rerankScore, rerankRank, hscored⟩ :=
    scoreSnippetItems_mem hchunks (selectBestScoredChunks_subset hfused)
  have hexplained := scoreChunkCandidate_explained A
    ⟨args.cfg, policies.blendPolicy, args.query, args.now, totalRerank, candidateCount⟩ item
    rerankScore rerankRank
  simp only [ScoreRun.ctx] at hexplained
  rw [← hscored] at hexplained
  rw [← heq]
  exact ⟨_, _, ⟨rfl, rfl, hblend⟩, ⟨scored, hfused, rfl, rfl, rfl⟩, hexplained.strip, hexplained⟩

theorem replayRankingFromCandidates_explained {A : Arithmetic K} {policyId : PolicyId K}
    {cfg : RankingConfig K} {trace : TraceReplayContext}
    {override : Option (RankingRequestOverride K)} {candidates : List (TraceReplayCandidate K)}
    {topK : Nat} {items : List (TraceReplayItem K)}
    (h : replayRankingFromCandidates A policyId cfg trace override candidates topK = .ok items)
    : ∀ item ∈ items, ∃ run inputs, RunOf cfg override trace.query run
        ∧ Explained A run inputs item.finalScore item.explain.ranking.terms := by
  have ⟨policies, hpolicies, hitems⟩ := replayRankingFromCandidates_eq_ok.mp h
  have hblend := resolveFinishSearchPolicies_blend hpolicies
  rw [hitems]
  intro item hitem
  simp only [replayScored, List.mem_map] at hitem
  have ⟨scored, hmem, heq⟩ := hitem
  have hmem := bestScoredReplays_subset (applyReplayDiversitySelection_subset hmem)
  have ⟨entry, _, hscored⟩ := List.mem_map.mp hmem
  have hexplained := scoreReplayCandidate_explained A
    ⟨cfg, policies.blendPolicy, trace.query, trace.createdAt, candidates.length,
      trace.candidateCount⟩ entry.1 entry.2
  simp only [ScoreRun.ctx] at hexplained
  rw [hscored] at hexplained
  rw [← heq]
  exact ⟨_, _, ⟨rfl, rfl, hblend⟩, hexplained⟩

end Elf
