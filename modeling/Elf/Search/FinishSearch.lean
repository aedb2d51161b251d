import Elf.Lib.Transaction
import Elf.Search.Diversity
import Elf.Search.Scoring
import Elf.Search.Merge

/-!
This module contains the end of a live search, from the merged candidates to its items and the
candidates that its trace keeps.
-/

namespace Elf

open Sorting

/-! ## Rerank -/

/-- Larger scores first, and what is not a number last. -/
def cmpF32Desc (a b : F32) : Ordering :=
  match a, b with
  | .nan, .nan => .eq
  | .nan, _ => .gt
  | _, .nan => .lt
  | a, b => if b.lt a then .lt else if a.lt b then .gt else .eq

/-- The places of sorted indices, which start at one. -/
def ranksOf (order : List Nat) : List Nat :=
  (List.range order.length).map fun idx => order.idxOf idx + 1

structure RerankEntry where
  noteId : Uuid
  chunkId : Uuid
  chunkIndex : Int
  retrievalRank : Nat
  score : F32
deriving Inhabited

def ChunkSnippet.rerankEntry (item : ChunkSnippet) (score : F32) : RerankEntry :=
  ⟨item.note.noteId, item.chunk.chunkId, item.chunk.chunkIndex, item.retrievalRank, score⟩

def cmpReranked (a b : RerankEntry) : Ordering :=
  (cmpF32Desc a.score b.score).then
    ((if a.noteId = b.noteId then compare a.chunkIndex b.chunkIndex else .eq).then
      ((compare a.retrievalRank b.retrievalRank).then (compare a.chunkId b.chunkId)))

/-- The indices of the entries, sorted by a comparison. -/
def sortedIndices (cmp : RerankEntry → RerankEntry → Ordering) (entries : List RerankEntry)
    : List Nat :=
  sortBy (fun a b => cmp (entries.getD a default) (entries.getD b default))
    (List.range entries.length)

/-- The entries of the items, where an item without a score has one that is not a number. -/
def rerankEntries (items : List ChunkSnippet) (scores : List F32) : List RerankEntry :=
  items.zipIdx.map fun entry => entry.1.rerankEntry (scores.getD entry.2 .nan)

def buildRerankRanks (items : List ChunkSnippet) (scores : List F32) : List Nat :=
  ranksOf (sortedIndices cmpReranked (rerankEntries items scores))

def cmpQuickFind (a b : RerankEntry) : Ordering :=
  (compare a.retrievalRank b.retrievalRank).then
    ((compare a.chunkIndex b.chunkIndex).then (compare a.chunkId b.chunkId))

/-- The scores of a search without a rerank: the better the place, the larger. -/
def buildQuickFindRerankScores (items : List ChunkSnippet) : List F32 :=
  let entries := items.map (·.rerankEntry (.fin 0))
  (ranksOf (sortedIndices cmpQuickFind entries)).map fun rank => .fin (1 / (rank : ℚ))

variable {K : Type} [Field K] [LinearOrder K]

/-- What a live search computes with, apart from its candidates. -/
structure FinishSearchArgs (K : Type) where
  cfg : RankingConfig K
  rankingOverride : Option (RankingRequestOverride K)
  query : String
  topK : Nat
  skipRerank : Bool
  now : Nat
  /-- The scores of the rerank cache or the rerank provider. -/
  rerank : List ChunkSnippet → List F32
  /-- The vectors of the notes that have one. -/
  noteVectors : NoteMap (List K)

def maxMatchedTerms : Nat := 8

def rerankSnippetItems (rerank : List ChunkSnippet → List F32) (items : List ChunkSnippet)
    : Except String (List F32) :=
  if items.isEmpty then
    .ok []
  else
    let scores := rerank items
    if scores.length ≠ items.length then
      .error "Rerank provider returned mismatched score count."
    else
      .ok scores

/-- What the scores of a search and of its replay have in common. -/
def scoreCandidateCtx (cfg : RankingConfig K) (blendPolicy : ResolvedBlendPolicy K)
    (query : String) (now totalRerank totalRetrieval : Nat) : ScoreCandidateCtx K where
  cfg
  blendPolicy
  scopeContextBoostByScope :=
    buildScopeContextBoostByScope (tokenizeQuery query maxMatchedTerms) cfg.context
  detQueryTokens := buildDeterministicQueryTokens cfg query
  now
  totalRerank := max totalRerank 1
  totalRetrieval := max totalRetrieval 1

def rerankScores (args : FinishSearchArgs K) (items : List ChunkSnippet)
    : Except String (List F32) :=
  if args.skipRerank then
    .ok (buildQuickFindRerankScores items)
  else
    rerankSnippetItems args.rerank items

def scoreSnippetItems (A : Arithmetic K) (args : FinishSearchArgs K)
    (blendPolicy : ResolvedBlendPolicy K) (items : List ChunkSnippet) (candidateCount : Nat)
    : Except String (List (ScoredChunk K)) :=
  if items.isEmpty then
    .ok []
  else do
    let scores ← rerankScores args items
    let rerankRanks := buildRerankRanks items scores
    let ctx := scoreCandidateCtx args.cfg blendPolicy args.query args.now scores.length
      candidateCount
    return ((items.zip scores).zip rerankRanks).map fun entry =>
      scoreChunkCandidate A ctx entry.1.1 entry.1.2 entry.2

/-! ## The best chunk of each note -/

/-- The entry of its note, or a new one, gets the item if it is better. -/
def insertBest (noteId : α → Uuid) (better : α → α → Bool) (item : α) : List α → List α
  | [] => [item]
  | existing :: rest =>
    if noteId existing = noteId item then
      (if better item existing then item else existing) :: rest
    else
      existing :: insertBest noteId better item rest

/-- The values of the map, whose order the sort that follows does not depend on. -/
def bestByNote (noteId : α → Uuid) (better : α → α → Bool) (items : List α) : List α :=
  items.foldl (fun best item => insertBest noteId better item best) []

def ScoredChunk.noteId (scored : ScoredChunk K) : Uuid := scored.item.note.noteId

def cmpScoredChunk (a b : ScoredChunk K) : Ordering :=
  (compare b.finalScore a.finalScore).then
    ((compare a.item.retrievalRank b.item.retrievalRank).then
      ((compare a.item.note.noteId b.item.note.noteId).then
        (compare a.item.chunk.chunkId b.item.chunk.chunkId)))

def selectBestScoredChunks (scored : List (ScoredChunk K)) : List (ScoredChunk K) :=
  sortBy cmpScoredChunk (bestByNote ScoredChunk.noteId
    (fun item existing => existing.finalScore < item.finalScore) scored)

/-! ## Trace candidates -/

/-- The snapshot of the record, which a replay reads. -/
def buildTraceCandidateRecord (scored : ScoredChunk K) : TraceReplayCandidate K where
  noteId := scored.item.note.noteId
  chunkId := scored.item.chunk.chunkId
  chunkIndex := scored.item.chunk.chunkIndex
  snippet := scored.item.snippet
  retrievalRank := scored.item.retrievalRank
  retrievalScore := scored.item.retrievalScore
  rerankScore := scored.rerankScore
  noteScope := scored.item.note.scope
  noteImportance := scored.item.note.importance
  noteUpdatedAt := scored.item.note.updatedAt
  noteHitCount := scored.item.note.hitCount
  noteLastHitAt := scored.item.note.lastHitAt
  diversitySelected := none
  diversitySelectedRank := none
  diversitySelectedReason := none
  diversitySkippedReason := none
  diversityNearestSelectedNoteId := none
  diversitySimilarity := none
  diversityMmrScore := none
  diversityMissingEmbedding := none

/-! ## Items -/

structure SearchExplain (K : Type) where
  ranking : SearchRankingExplain K
  diversity : Option (SearchDiversityExplain K)

structure SearchItem (K : Type) where
  noteId : Uuid
  chunkId : Uuid
  chunkIndex : Int
  startOffset : Int
  endOffset : Int
  snippet : String
  type : String
  key : Option String
  scope : String
  importance : F32
  confidence : F32
  updatedAt : Nat
  expiresAt : Option Nat
  finalScore : K
  sourceRef : Json
  explain : SearchExplain K

structure TraceItemRecord (K : Type) where
  noteId : Uuid
  chunkId : Option Uuid
  rank : Nat
  finalScore : K
  explain : SearchExplain K

structure FinishSearchPolicies (K : Type) where
  blendPolicy : ResolvedBlendPolicy K
  diversityPolicy : ResolvedDiversityPolicy K
  retrievalSourcesPolicy : ResolvedRetrievalSourcesPolicy K

def resolveFinishSearchPolicies (cfg : RankingConfig K)
    (override : Option (RankingRequestOverride K)) : Except String (FinishSearchPolicies K) := do
  let blendPolicy ← resolveBlendPolicy cfg.ranking.blend (override.bind (·.blend))
  let diversityPolicy ← resolveDiversityPolicy cfg.ranking.diversity (override.bind (·.diversity))
  let retrievalSourcesPolicy ← resolveRetrievalSourcesPolicy cfg.ranking.retrievalSources
    (override.bind (·.retrievalSources))
  return { blendPolicy, diversityPolicy, retrievalSourcesPolicy }

/-- `ranking_policy_id`, which hashes the snapshot of the policies. -/
abbrev PolicyId (K : Type) :=
  RankingConfig K → Option (RankingRequestOverride K) → FinishSearchPolicies K → String

def diversityExplain (policy : ResolvedDiversityPolicy K)
    (decisions : NoteMap (DiversityDecision K)) (noteId : Uuid)
    : Option (SearchDiversityExplain K) :=
  if policy.enabled then (decisions.lookup noteId).map buildDiversityExplain else none

/-- The item of the response has the terms without their inputs, that of the trace with them. -/
def buildSearchItemAndTraceItem (A : Arithmetic K) (cfg : RankingConfig K) (policyId : String)
    (policies : FinishSearchPolicies K) (decisions : NoteMap (DiversityDecision K))
    (entry : ScoredChunk K × Nat) : SearchItem K × TraceItemRecord K :=
  let scored := entry.1
  let note := scored.item.note
  let chunk := scored.item.chunk
  let traceTerms := scored.terms A cfg policies.blendPolicy
  let explain (terms : List (SearchRankingTerm K)) : SearchExplain K :=
    { ranking := ⟨searchRankingExplainSchemaV2, policyId, scored.finalScore, terms⟩
      diversity := diversityExplain policies.diversityPolicy decisions note.noteId }
  ({ noteId := note.noteId
     chunkId := chunk.chunkId
     chunkIndex := chunk.chunkIndex
     startOffset := chunk.startOffset
     endOffset := chunk.endOffset
     snippet := scored.item.snippet
     type := note.noteType
     key := note.key
     scope := note.scope
     importance := note.importance
     confidence := note.confidence
     updatedAt := note.updatedAt
     expiresAt := note.expiresAt
     finalScore := scored.finalScore
     sourceRef := note.sourceRef
     explain := explain (stripTermInputs traceTerms) },
   { noteId := note.noteId
     chunkId := some chunk.chunkId
     rank := entry.2 + 1
     finalScore := scored.finalScore
     explain := explain traceTerms })

structure FinishSearchResult (K : Type) where
  traceCandidates : List (TraceReplayCandidate K)
  fusedResults : List (ScoredChunk K)
  selectedResults : List (ScoredChunk K)
  items : List (SearchItem K × TraceItemRecord K)

/-- What a search makes of its scored chunks. -/
def finishScored (A : Arithmetic K) (policyId : PolicyId K) (args : FinishSearchArgs K)
    (policies : FinishSearchPolicies K) (scored : List (ScoredChunk K)) : FinishSearchResult K :=
  let traceCandidates := scored.map buildTraceCandidateRecord
  let results := selectBestScoredChunks scored
  let selection :=
    selectDiverseResults A results args.topK policies.diversityPolicy args.noteVectors
  let policyId := policyId args.cfg args.rankingOverride policies
  { traceCandidates := attachDiversityDecisionsToTraceCandidates traceCandidates selection.2
    fusedResults := results
    selectedResults := selection.1
    items := selection.1.zipIdx.map
      (buildSearchItemAndTraceItem A args.cfg policyId policies selection.2) }

/-- The end of a search over the snippets of its candidates, whose trace keeps the candidates. -/
def finishSearch (A : Arithmetic K) (policyId : PolicyId K) (args : FinishSearchArgs K)
    (items : List ChunkSnippet) (candidateCount : Nat)
    : Except String (FinishSearchResult K) := do
  let policies ← resolveFinishSearchPolicies args.cfg args.rankingOverride
  let scored ← scoreSnippetItems A args policies.blendPolicy items candidateCount
  return finishScored A policyId args policies scored

theorem finishSearch_eq_ok {A : Arithmetic K} {policyId : PolicyId K} {args : FinishSearchArgs K}
    {items : List ChunkSnippet} {candidateCount : Nat} {result : FinishSearchResult K}
    : finishSearch A policyId args items candidateCount = .ok result
        ↔ ∃ policies, resolveFinishSearchPolicies args.cfg args.rankingOverride = .ok policies
            ∧ ∃ scored, scoreSnippetItems A args policies.blendPolicy items candidateCount
                = .ok scored
              ∧ result = finishScored A policyId args policies scored := by
  simp only [finishSearch, Except.bind_eq_ok, Except.pure_eq_ok]

theorem resolveFinishSearchPolicies_blend {cfg : RankingConfig K}
    {override : Option (RankingRequestOverride K)} {policies : FinishSearchPolicies K}
    (h : resolveFinishSearchPolicies cfg override = .ok policies)
    : resolveBlendPolicy cfg.ranking.blend (override.bind (·.blend)) = .ok policies.blendPolicy := by
  simp only [resolveFinishSearchPolicies, Except.bind_eq_ok, Except.pure_eq_ok] at h
  have ⟨blendPolicy, hblend, _, _, _, _, heq⟩ := h
  rw [heq]
  exact hblend

end Elf
