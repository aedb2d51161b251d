import Elf.Search.Candidates
import Elf.Search.QueryTerms

/-!
This module contains the score of a chunk that a search found, the score of a candidate that is
replayed from a trace, and the explanation of a score as a list of named terms.
-/

namespace Elf

structure ScoreCandidateCtx (K : Type) where
  cfg : RankingConfig K
  blendPolicy : ResolvedBlendPolicy K
  scopeContextBoostByScope : List (String × K)
  detQueryTokens : List String
  now : Nat
  totalRerank : Nat
  totalRetrieval : Nat

/-- What the score of a chunk is made of. -/
structure ScoreParts (K : Type) where
  finalScore : K
  rerankScore : F32
  rerankRank : Nat
  rerankNorm : K
  retrievalNorm : K
  blendRetrievalWeight : K
  retrievalTerm : K
  rerankTerm : K
  tieBreakerScore : K
  scopeContextBoost : K
  ageDays : K
  importance : F32
  deterministicLexicalOverlapRatio : K
  deterministicLexicalBonus : K
  deterministicHitCount : Int
  deterministicLastHitAgeDays : Option K
  deterministicHitBoost : K
  deterministicDecayPenalty : K

structure ScoredChunk (K : Type) extends ScoreParts K where
  item : ChunkSnippet

structure TraceReplayCandidate (K : Type) where
  noteId : Uuid
  chunkId : Uuid
  chunkIndex : Int
  snippet : String
  retrievalRank : Nat
  retrievalScore : Option F32
  rerankScore : F32
  noteScope : String
  noteImportance : F32
  noteUpdatedAt : Nat
  noteHitCount : Int
  noteLastHitAt : Option Nat
  diversitySelected : Option Bool
  diversitySelectedRank : Option Nat
  diversitySelectedReason : Option String
  diversitySkippedReason : Option String
  diversityNearestSelectedNoteId : Option Uuid
  diversitySimilarity : Option K
  diversityMmrScore : Option K
  diversityMissingEmbedding : Option Bool

structure ScoredReplay (K : Type) extends ScoreParts K where
  noteId : Uuid
  chunkId : Uuid
  retrievalRank : Nat
  noteScope : String

variable {K : Type} [Field K] [LinearOrder K]

def recencyDecay (A : Arithmetic K) (tau ageDays : K) : K :=
  if 0 < tau then A.exp (-ageDays / tau) else 1

def scopeContextBoost (boosts : List (String × K)) (scope : String) : K :=
  (boosts.lookup scope).getD 0

def normalizedRank (kind : NormalizationKind) (rank total : Nat) : K :=
  match kind with
  | .rank => rankNormalize rank total

def blendRetrievalWeight (policy : ResolvedBlendPolicy K) (retrievalRank : Nat) : K :=
  if policy.enabled then retrievalWeightForRank retrievalRank policy.segments else 0

/-- What a score is computed from, of a chunk of a live search or a candidate of a trace. -/
structure ScoreInputs where
  importance : F32
  retrievalRank : Nat
  updatedAt : Nat
  scope : String
  snippet : String
  hitCount : Int
  lastHitAt : Option Nat
  rerankScore : F32
  rerankRank : Nat

def importanceFactor (importance : K) : K := 1 + 3 / 5 * importance

def scoreParts (A : Arithmetic K) (ctx : ScoreCandidateCtx K) (inputs : ScoreInputs)
    : ScoreParts K :=
  let ageDays := daysBetween inputs.updatedAt ctx.now
  let decay := recencyDecay A ctx.cfg.ranking.recencyTauDays ageDays
  let base := importanceFactor (A.number inputs.importance) * decay
  let tieBreakerScore := ctx.cfg.ranking.tieBreakerWeight * base
  let scopeContextBoost := scopeContextBoost ctx.scopeContextBoostByScope inputs.scope
  let rerankNorm :=
    normalizedRank ctx.blendPolicy.rerankNormalization inputs.rerankRank ctx.totalRerank
  let retrievalNorm :=
    normalizedRank ctx.blendPolicy.retrievalNormalization inputs.retrievalRank ctx.totalRetrieval
  let weight := blendRetrievalWeight ctx.blendPolicy inputs.retrievalRank
  let retrievalTerm := weight * retrievalNorm
  let rerankTerm := (1 - weight) * rerankNorm
  let detTerms := computeDeterministicRankingTerms A ctx.cfg ctx.detQueryTokens inputs.snippet
    inputs.hitCount inputs.lastHitAt ageDays ctx.now
  { finalScore := retrievalTerm + rerankTerm + tieBreakerScore + scopeContextBoost
      + detTerms.lexicalBonus + detTerms.hitBoost + detTerms.decayPenalty
    rerankScore := inputs.rerankScore
    rerankRank := inputs.rerankRank
    rerankNorm
    retrievalNorm
    blendRetrievalWeight := weight
    retrievalTerm
    rerankTerm
    tieBreakerScore
    scopeContextBoost
    ageDays
    importance := inputs.importance
    deterministicLexicalOverlapRatio := detTerms.lexicalOverlapRatio
    deterministicLexicalBonus := detTerms.lexicalBonus
    deterministicHitCount := detTerms.hitCount
    deterministicLastHitAgeDays := detTerms.lastHitAgeDays
    deterministicHitBoost := detTerms.hitBoost
    deterministicDecayPenalty := detTerms.decayPenalty }

def ChunkSnippet.scoreInputs (item : ChunkSnippet) (rerankScore : F32) (rerankRank : Nat)
    : ScoreInputs where
  importance := item.note.importance
  retrievalRank := item.retrievalRank
  updatedAt := item.note.updatedAt
  scope := item.note.scope
  snippet := item.snippet
  hitCount := item.note.hitCount
  lastHitAt := item.note.lastHitAt
  rerankScore
  rerankRank

def scoreChunkCandidate (A : Arithmetic K) (ctx : ScoreCandidateCtx K) (item : ChunkSnippet)
    (rerankScore : F32) (rerankRank : Nat) : ScoredChunk K where
  toScoreParts := scoreParts A ctx (item.scoreInputs rerankScore rerankRank)
  item

def TraceReplayCandidate.scoreInputs (candidate : TraceReplayCandidate K) (rerankRank : Nat)
    : ScoreInputs where
  importance := candidate.noteImportance
  retrievalRank := candidate.retrievalRank
  updatedAt := candidate.noteUpdatedAt
  scope := candidate.noteScope
  snippet := candidate.snippet
  hitCount := candidate.noteHitCount
  lastHitAt := candidate.noteLastHitAt
  rerankScore := candidate.rerankScore
  rerankRank

def scoreReplayCandidate (A : Arithmetic K) (ctx : ScoreCandidateCtx K)
    (candidate : TraceReplayCandidate K) (rerankRank : Nat) : ScoredReplay K where
  toScoreParts := scoreParts A ctx (candidate.scoreInputs rerankRank)
  noteId := candidate.noteId
  chunkId := candidate.chunkId
  retrievalRank := candidate.retrievalRank
  noteScope := candidate.noteScope

end Elf

/-! ## Terms -/

namespace Elf

/-- A value among the inputs of a term. -/
inductive TermInput (K : Type) where
  | null
  | bool (value : Bool)
  | int (value : Int)
  | number (value : K)
  | float (value : F32)
  | str (value : String)

structure SearchRankingTerm (K : Type) where
  name : String
  value : K
  inputs : Option (List (String × TermInput K))

structure SearchRankingExplain (K : Type) where
  schema : String
  policyId : String
  finalScore : K
  terms : List (SearchRankingTerm K)

def searchRankingExplainSchemaV2 : String := "search_ranking_explain/v2"

structure TraceTermsArgs (K : Type) where
  cfg : RankingConfig K
  blendEnabled : Bool
  retrievalNormalization : String
  rerankNormalization : String
  blendRetrievalWeight : K
  retrievalRank : Nat
  retrievalNorm : K
  retrievalTerm : K
  rerankScore : F32
  rerankRank : Nat
  rerankNorm : K
  rerankTerm : K
  tieBreakerScore : K
  importance : F32
  ageDays : K
  scope : String
  scopeContextBoost : K
  deterministicLexicalOverlapRatio : K
  deterministicLexicalBonus : K
  deterministicHitCount : Int
  deterministicLastHitAgeDays : Option K
  deterministicHitBoost : K
  deterministicDecayPenalty : K

def TermInput.ofOption (value : Option K) : TermInput K :=
  match value with
  | some value => .number value
  | none => .null

def stripTermInputs (terms : List (SearchRankingTerm K)) : List (SearchRankingTerm K) :=
  terms.map fun term => { term with inputs := none }

variable {K : Type} [Field K] [LinearOrder K]

def deterministicTerms (args : TraceTermsArgs K) : List (SearchRankingTerm K) :=
  let det := args.cfg.ranking.deterministic
  [ { name := "deterministic.lexical_bonus"
      value := args.deterministicLexicalBonus
      inputs := some [
        ("enabled", .bool (det.enabled && det.lexical.enabled)),
        ("weight", .number det.lexical.weight),
        ("min_ratio", .number det.lexical.minRatio),
        ("max_query_terms", .int det.lexical.maxQueryTerms),
        ("max_text_terms", .int det.lexical.maxTextTerms),
        ("overlap_ratio", .number args.deterministicLexicalOverlapRatio)] },
    { name := "deterministic.hit_boost"
      value := args.deterministicHitBoost
      inputs := some [
        ("enabled", .bool (det.enabled && det.hits.enabled)),
        ("weight", .number det.hits.weight),
        ("half_saturation", .number det.hits.halfSaturation),
        ("last_hit_tau_days", .number det.hits.lastHitTauDays),
        ("hit_count", .int args.deterministicHitCount),
        ("last_hit_age_days", .ofOption args.deterministicLastHitAgeDays)] },
    { name := "deterministic.decay_penalty"
      value := args.deterministicDecayPenalty
      inputs := some [
        ("enabled", .bool (det.enabled && det.decay.enabled)),
        ("weight", .number det.decay.weight),
        ("tau_days", .number det.decay.tauDays),
        ("age_days", .number args.ageDays)] } ]

def buildTraceTermsV2 (A : Arithmetic K) (args : TraceTermsArgs K) : List (SearchRankingTerm K) :=
  [ { name := "blend.retrieval"
      value := args.retrievalTerm
      inputs := some [
        ("enabled", .bool args.blendEnabled),
        ("retrieval_rank", .int args.retrievalRank),
        ("retrieval_norm", .number args.retrievalNorm),
        ("retrieval_normalization", .str args.retrievalNormalization),
        ("blend_retrieval_weight", .number args.blendRetrievalWeight)] },
    { name := "blend.rerank"
      value := args.rerankTerm
      inputs := some [
        ("enabled", .bool args.blendEnabled),
        ("rerank_score", .float args.rerankScore),
        ("rerank_rank", .int args.rerankRank),
        ("rerank_norm", .number args.rerankNorm),
        ("rerank_normalization", .str args.rerankNormalization),
        ("blend_retrieval_weight", .number args.blendRetrievalWeight)] },
    { name := "tie_breaker"
      value := args.tieBreakerScore
      inputs := some [
        ("tie_breaker_weight", .number args.cfg.ranking.tieBreakerWeight),
        ("importance", .float args.importance),
        ("age_days", .number args.ageDays),
        ("recency_tau_days", .number args.cfg.ranking.recencyTauDays),
        ("recency_decay",
          .number (recencyDecay A args.cfg.ranking.recencyTauDays args.ageDays))] },
    { name := "context.scope_boost"
      value := args.scopeContextBoost
      inputs := some [
        ("scope", .str args.scope),
        ("scope_boost_weight", .ofOption (args.cfg.context.bind (·.scopeBoostWeight)))] } ]
  ++ deterministicTerms args

/-- The arguments that a score is explained with. -/
def ScoreParts.termsArgs (cfg : RankingConfig K) (blendPolicy : ResolvedBlendPolicy K)
    (retrievalRank : Nat) (scope : String) (scored : ScoreParts K) : TraceTermsArgs K where
  cfg
  blendEnabled := blendPolicy.enabled
  retrievalNormalization := blendPolicy.retrievalNormalization.asStr
  rerankNormalization := blendPolicy.rerankNormalization.asStr
  blendRetrievalWeight := scored.blendRetrievalWeight
  retrievalRank
  retrievalNorm := scored.retrievalNorm
  retrievalTerm := scored.retrievalTerm
  rerankScore := scored.rerankScore
  rerankRank := scored.rerankRank
  rerankNorm := scored.rerankNorm
  rerankTerm := scored.rerankTerm
  tieBreakerScore := scored.tieBreakerScore
  importance := scored.importance
  ageDays := scored.ageDays
  scope
  scopeContextBoost := scored.scopeContextBoost
  deterministicLexicalOverlapRatio := scored.deterministicLexicalOverlapRatio
  deterministicLexicalBonus := scored.deterministicLexicalBonus
  deterministicHitCount := scored.deterministicHitCount
  deterministicLastHitAgeDays := scored.deterministicLastHitAgeDays
  deterministicHitBoost := scored.deterministicHitBoost
  deterministicDecayPenalty := scored.deterministicDecayPenalty

def ScoredChunk.terms (A : Arithmetic K) (cfg : RankingConfig K)
    (blendPolicy : ResolvedBlendPolicy K) (scored : ScoredChunk K) : List (SearchRankingTerm K) :=
  buildTraceTermsV2 A (scored.toScoreParts.termsArgs cfg blendPolicy scored.item.retrievalRank
    scored.item.note.scope)

def ScoredReplay.terms (A : Arithmetic K) (cfg : RankingConfig K)
    (blendPolicy : ResolvedBlendPolicy K) (scored : ScoredReplay K)
    : List (SearchRankingTerm K) :=
  buildTraceTermsV2 A (scored.toScoreParts.termsArgs cfg blendPolicy scored.retrievalRank
    scored.noteScope)

end Elf
