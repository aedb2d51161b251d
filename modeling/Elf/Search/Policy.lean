import Elf.Lib.Text
import Mathlib.Algebra.Order.Field.Basic

/-!
This module contains the ranking configuration, the overrides of a request, and the policies that
are resolved from both. Scores are exact: a configured float is the number of an ordered field that
it denotes, so that it is always finite.
-/

namespace Elf

open Text

/-! ## Configuration -/

structure BlendSegment (K : Type) where
  maxRetrievalRank : Nat
  retrievalWeight : K

structure RankingBlend (K : Type) where
  enabled : Bool
  rerankNormalization : String
  retrievalNormalization : String
  segments : List (BlendSegment K)

structure RankingDeterministicLexical (K : Type) where
  enabled : Bool
  weight : K
  minRatio : K
  maxQueryTerms : Nat
  maxTextTerms : Nat

structure RankingDeterministicHits (K : Type) where
  enabled : Bool
  weight : K
  halfSaturation : K
  lastHitTauDays : K

structure RankingDeterministicDecay (K : Type) where
  enabled : Bool
  weight : K
  tauDays : K

structure RankingDeterministic (K : Type) where
  enabled : Bool
  lexical : RankingDeterministicLexical K
  hits : RankingDeterministicHits K
  decay : RankingDeterministicDecay K

structure RankingDiversity (K : Type) where
  enabled : Bool
  mmrLambda : K

structure RankingRetrievalSources (K : Type) where
  fusionWeight : K
  structuredFieldWeight : K
  fusionPriority : Nat
  structuredFieldPriority : Nat

structure Ranking (K : Type) where
  recencyTauDays : K
  tieBreakerWeight : K
  blend : RankingBlend K
  deterministic : RankingDeterministic K
  diversity : RankingDiversity K
  retrievalSources : RankingRetrievalSources K

structure SearchContext (K : Type) where
  scopeDescriptions : Option (List (String × String))
  scopeBoostWeight : Option K

structure RankingConfig (K : Type) where
  ranking : Ranking K
  context : Option (SearchContext K)

/-! ## Overrides of a request -/

structure BlendRankingOverride (K : Type) where
  enabled : Option Bool
  rerankNormalization : Option String
  retrievalNormalization : Option String
  segments : Option (List (BlendSegment K))

structure DiversityRankingOverride (K : Type) where
  enabled : Option Bool
  mmrLambda : Option K

structure RetrievalSourcesRankingOverride (K : Type) where
  fusionWeight : Option K
  structuredFieldWeight : Option K
  recursiveWeight : Option K
  fusionPriority : Option Nat
  structuredFieldPriority : Option Nat
  recursivePriority : Option Nat

structure RankingRequestOverride (K : Type) where
  blend : Option (BlendRankingOverride K)
  diversity : Option (DiversityRankingOverride K)
  retrievalSources : Option (RetrievalSourcesRankingOverride K)

/-! ## Policies -/

inductive NormalizationKind where
  | rank
deriving DecidableEq

def NormalizationKind.asStr : NormalizationKind → String
  | .rank => "rank"

structure ResolvedBlendPolicy (K : Type) where
  enabled : Bool
  rerankNormalization : NormalizationKind
  retrievalNormalization : NormalizationKind
  segments : List (BlendSegment K)

structure ResolvedDiversityPolicy (K : Type) where
  enabled : Bool
  mmrLambda : K

structure ResolvedRetrievalSourcesPolicy (K : Type) where
  fusionWeight : K
  structuredFieldWeight : K
  recursiveWeight : K
  fusionPriority : Nat
  structuredFieldPriority : Nat
  recursivePriority : Nat

variable {K : Type} [Field K] [LinearOrder K]

-- The errors are the messages of invalid requests.
def parseNormalizationKind (value label : String) : Except String NormalizationKind :=
  match (trim value).toLower with
  | "rank" => .ok .rank
  | other => .error (label ++ " must be one of: rank. Got " ++ other ++ ".")

/-- The segments from the one with index `idx` on, the one before it ending at `lastMax`. -/
def validateBlendSegmentsFrom (idx lastMax : Nat) : List (BlendSegment K) → Except String Unit
  | [] => .ok ()
  | segment :: rest =>
    if segment.maxRetrievalRank = 0 then
      .error "ranking.blend.segments.max_retrieval_rank must be greater than zero."
    else if 0 < idx ∧ segment.maxRetrievalRank ≤ lastMax then
      .error "ranking.blend.segments.max_retrieval_rank must be strictly increasing."
    else if ¬(0 ≤ segment.retrievalWeight ∧ segment.retrievalWeight ≤ 1) then
      .error "ranking.blend.segments.retrieval_weight must be in the range 0.0-1.0."
    else
      validateBlendSegmentsFrom (idx + 1) segment.maxRetrievalRank rest

def validateBlendSegments (segments : List (BlendSegment K)) : Except String Unit :=
  if segments.isEmpty then
    .error "ranking.blend.segments must be non-empty."
  else
    validateBlendSegmentsFrom 0 0 segments

def resolveBlendPolicy (cfg : RankingBlend K) (override : Option (BlendRankingOverride K))
    : Except String (ResolvedBlendPolicy K) := do
  let enabled := (override.bind (·.enabled)).getD cfg.enabled
  let rerankNorm := (override.bind (·.rerankNormalization)).getD cfg.rerankNormalization
  let retrievalNorm := (override.bind (·.retrievalNormalization)).getD cfg.retrievalNormalization
  let rerankNormalization ←
    parseNormalizationKind rerankNorm "ranking.blend.rerank_normalization"
  let retrievalNormalization ←
    parseNormalizationKind retrievalNorm "ranking.blend.retrieval_normalization"
  let segments := (override.bind (·.segments)).getD cfg.segments
  validateBlendSegments segments
  return { enabled, rerankNormalization, retrievalNormalization, segments }

def resolveDiversityPolicy (cfg : RankingDiversity K)
    (override : Option (DiversityRankingOverride K))
    : Except String (ResolvedDiversityPolicy K) :=
  let enabled := (override.bind (·.enabled)).getD cfg.enabled
  let mmrLambda := (override.bind (·.mmrLambda)).getD cfg.mmrLambda
  if ¬(0 ≤ mmrLambda ∧ mmrLambda ≤ 1) then
    .error "ranking.diversity.mmr_lambda must be in the range 0.0-1.0."
  else
    .ok { enabled, mmrLambda }

def saturatingAddOne (n : Nat) : Nat := min (n + 1) 4294967295

def resolveRetrievalSourcesPolicy (cfg : RankingRetrievalSources K)
    (override : Option (RetrievalSourcesRankingOverride K))
    : Except String (ResolvedRetrievalSourcesPolicy K) :=
  let fusionWeight := (override.bind (·.fusionWeight)).getD cfg.fusionWeight
  let structuredFieldWeight :=
    (override.bind (·.structuredFieldWeight)).getD cfg.structuredFieldWeight
  let recursiveWeight := (override.bind (·.recursiveWeight)).getD structuredFieldWeight
  let fusionPriority := (override.bind (·.fusionPriority)).getD cfg.fusionPriority
  let structuredFieldPriority :=
    (override.bind (·.structuredFieldPriority)).getD cfg.structuredFieldPriority
  let recursivePriority :=
    (override.bind (·.recursivePriority)).getD (saturatingAddOne structuredFieldPriority)
  let weights := [
    ("ranking.retrieval_sources.fusion_weight", fusionWeight),
    ("ranking.retrieval_sources.structured_field_weight", structuredFieldWeight),
    ("ranking.retrieval_sources.recursive_weight", recursiveWeight)]
  match weights.find? (·.2 < 0) with
  | some (path, _) => .error (path ++ " must be zero or greater.")
  | none =>
    if fusionWeight ≤ 0 ∧ structuredFieldWeight ≤ 0 ∧ recursiveWeight ≤ 0 then
      .error "At least one retrieval source weight must be greater than zero."
    else
      .ok { fusionWeight, structuredFieldWeight, recursiveWeight, fusionPriority,
            structuredFieldPriority, recursivePriority }

def retrievalWeightForRank (rank : Nat) (segments : List (BlendSegment K)) : K :=
  match segments.find? (rank ≤ ·.maxRetrievalRank) with
  | some segment => segment.retrievalWeight
  | none => (segments.getLast?.map (·.retrievalWeight)).getD (1 / 2)

/-- `value.clamp(0.0, 1.0)`. -/
def clampUnit (value : K) : K := max 0 (min value 1)

def rankNormalize (rank total : Nat) : K :=
  if total ≤ 1 then
    1
  else if rank = 0 then
    0
  else
    let denom : K := (total - 1 : Nat)
    let pos : K := (rank - 1 : Nat)
    clampUnit (1 - pos / denom)

end Elf
