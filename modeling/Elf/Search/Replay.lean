import Elf.Search.FinishSearch

/-!
This module contains the replay of a ranking from the candidates of a trace.
-/

namespace Elf

open Sorting

structure TraceReplayContext where
  query : String
  candidateCount : Nat
  createdAt : Nat

structure TraceReplayItem (K : Type) where
  noteId : Uuid
  chunkId : Uuid
  retrievalRank : Nat
  finalScore : K
  explain : SearchExplain K

variable {K : Type} [Field K] [LinearOrder K]

def TraceReplayCandidate.rerankEntry (candidate : TraceReplayCandidate K) : RerankEntry :=
  ⟨candidate.noteId, candidate.chunkId, candidate.chunkIndex, candidate.retrievalRank,
    candidate.rerankScore⟩

def cmpRerankedForReplay (a b : RerankEntry) : Ordering :=
  (cmpF32Desc a.score b.score).then
    ((compare a.retrievalRank b.retrievalRank).then
      ((compare a.noteId b.noteId).then (compare a.chunkId b.chunkId)))

def buildRerankRanksForReplay (candidates : List (TraceReplayCandidate K)) : List Nat :=
  ranksOf (sortedIndices cmpRerankedForReplay (candidates.map (·.rerankEntry)))

def shouldReplaceReplayBest (existing scored : ScoredReplay K) : Bool :=
  match compare existing.finalScore scored.finalScore with
  | .eq => scored.retrievalRank < existing.retrievalRank
  | ord => ord = .lt

def cmpScoredReplay (a b : ScoredReplay K) : Ordering :=
  (compare b.finalScore a.finalScore).then
    ((compare a.retrievalRank b.retrievalRank).then
      ((compare a.noteId b.noteId).then (compare a.chunkId b.chunkId)))

def selectedReplayRank (decisions : NoteMap (DiversityDecision K)) (scored : ScoredReplay K)
    : Nat :=
  ((decisions.lookup scored.noteId).bind (·.selectedRank)).getD maxRank

def cmpSelectedReplay (decisions : NoteMap (DiversityDecision K)) (a b : ScoredReplay K)
    : Ordering :=
  (compare (selectedReplayRank decisions a) (selectedReplayRank decisions b)).then
    (compare a.noteId b.noteId)

def applyReplayDiversitySelection (results : List (ScoredReplay K)) (topK : Nat)
    (diversityEnabled : Bool) (decisions : NoteMap (DiversityDecision K))
    : List (ScoredReplay K) :=
  let results :=
    if diversityEnabled ∧ !decisions.isEmpty then
      let selected := sortBy (cmpSelectedReplay decisions)
        (results.filter fun scored => (decisions.lookup scored.noteId).any (·.selected))
      if selected.isEmpty then results else selected
    else
      results
  results.take (max topK 1)

def buildReplayItem (A : Arithmetic K) (cfg : RankingConfig K) (policyId : String)
    (policies : FinishSearchPolicies K) (decisions : NoteMap (DiversityDecision K))
    (scored : ScoredReplay K) : TraceReplayItem K where
  noteId := scored.noteId
  chunkId := scored.chunkId
  retrievalRank := scored.retrievalRank
  finalScore := scored.finalScore
  explain := {
    ranking := ⟨searchRankingExplainSchemaV2, policyId, scored.finalScore,
      scored.terms A cfg policies.blendPolicy⟩
    diversity := diversityExplain policies.diversityPolicy decisions scored.noteId }

def scoreReplayCandidates (A : Arithmetic K) (ctx : ScoreCandidateCtx K)
    (candidates : List (TraceReplayCandidate K)) : List (ScoredReplay K) :=
  (candidates.zip (buildRerankRanksForReplay candidates)).map fun entry =>
    scoreReplayCandidate A ctx entry.1 entry.2

/-- The values of a map whose keys are in order, sorted again by their scores. -/
def bestScoredReplays (scored : List (ScoredReplay K)) : List (ScoredReplay K) :=
  let best := bestByNote ScoredReplay.noteId
    (fun item existing => shouldReplaceReplayBest existing item) scored
  sortBy cmpScoredReplay (sortBy (compareOn (·.noteId)) best)

/-- What a replay makes of its candidates once the policies are resolved. -/
def replayScored (A : Arithmetic K) (policyId : PolicyId K) (cfg : RankingConfig K)
    (trace : TraceReplayContext) (override : Option (RankingRequestOverride K))
    (policies : FinishSearchPolicies K) (candidates : List (TraceReplayCandidate K)) (topK : Nat)
    : List (TraceReplayItem K) :=
  let decisions := extractReplayDiversityDecisions candidates
  let ctx := scoreCandidateCtx cfg policies.blendPolicy trace.query trace.createdAt
    candidates.length trace.candidateCount
  let results := bestScoredReplays (scoreReplayCandidates A ctx candidates)
  let results :=
    applyReplayDiversitySelection results topK policies.diversityPolicy.enabled decisions
  results.map (buildReplayItem A cfg (policyId cfg override policies) policies decisions)

def replayRankingFromCandidates (A : Arithmetic K) (policyId : PolicyId K) (cfg : RankingConfig K)
    (trace : TraceReplayContext) (override : Option (RankingRequestOverride K))
    (candidates : List (TraceReplayCandidate K)) (topK : Nat)
    : Except String (List (TraceReplayItem K)) := do
  -- The identifier of the policy needs the policy of the sources, so that it may be refused too.
  let policies ← resolveFinishSearchPolicies cfg override
  return replayScored A policyId cfg trace override policies candidates topK

theorem replayRankingFromCandidates_eq_ok {A : Arithmetic K} {policyId : PolicyId K}
    {cfg : RankingConfig K} {trace : TraceReplayContext}
    {override : Option (RankingRequestOverride K)} {candidates : List (TraceReplayCandidate K)}
    {topK : Nat} {items : List (TraceReplayItem K)}
    : replayRankingFromCandidates A policyId cfg trace override candidates topK = .ok items
        ↔ ∃ policies, resolveFinishSearchPolicies cfg override = .ok policies
            ∧ items = replayScored A policyId cfg trace override policies candidates topK := by
  simp only [replayRankingFromCandidates, Except.bind_eq_ok, Except.pure_eq_ok]

/-! ## A search of two chunks -/

/-- The rerank alone ranks, and hits would count if there were any. -/
def sampleRankingConfig : RankingConfig ℚ where
  ranking := {
    recencyTauDays := 0
    tieBreakerWeight := 0
    blend := ⟨false, "rank", "rank", [⟨10, 1⟩]⟩
    deterministic := ⟨true, ⟨false, 0, 0, 1, 1⟩, ⟨true, 1, 1, 0⟩, ⟨false, 0, 1⟩⟩
    diversity := ⟨false, 1⟩
    retrievalSources := ⟨1, 1, 0, 1⟩ }
  context := none

def sampleChunkSnippet (noteId chunkId : Uuid) (chunkIndex : Int) (retrievalRank : Nat)
    : ChunkSnippet where
  note := {
    noteId
    noteType := "fact"
    key := none
    scope := "agent_private"
    agentId := "a"
    importance := .fin 0
    confidence := .fin 1
    updatedAt := 0
    expiresAt := none
    sourceRef := .obj []
    embeddingVersion := "v1"
    hitCount := 0
    lastHitAt := none }
  chunk := ⟨chunkId, chunkIndex, 0, 1⟩
  snippet := "x"
  retrievalRank
  retrievalScore := none

def sampleFinishSearchArgs : FinishSearchArgs ℚ where
  cfg := sampleRankingConfig
  rankingOverride := none
  query := "x"
  topK := 1
  skipRerank := false
  now := 0
  rerank items := items.map fun _ => .fin 1
  noteVectors := []

end Elf
