import Elf.Search.Candidates
import Elf.Search.QueryTerms
import Elf.Lib.Sorting

/-!
This module contains how the candidates of the retrieval sources become one ranked list.
-/

namespace Elf

open Sorting

inductive RetrievalSourceKind where
  | fusion
  | structuredField
  | recursive
deriving DecidableEq

structure RetrievalSourceCandidates where
  source : RetrievalSourceKind
  candidates : List ChunkCandidate

structure MergedRetrievalCandidate (K : Type) where
  candidate : ChunkCandidate
  /-- The best rank in each source that has the chunk. -/
  sourceRanks : List (RetrievalSourceKind × Nat)
  combinedScore : K

/-- `sources.entry(source).or_insert(rank)`, and the smaller of it and the rank. -/
def lowerRank (source : RetrievalSourceKind) (rank : Nat)
    : List (RetrievalSourceKind × Nat) → List (RetrievalSourceKind × Nat)
  | [] => [(source, rank)]
  | entry :: rest =>
    if entry.1 = source then (source, min entry.2 rank) :: rest
    else entry :: lowerRank source rank rest

variable {K : Type} [Field K] [LinearOrder K]

def retrievalSourceWeight (policy : ResolvedRetrievalSourcesPolicy K)
    : RetrievalSourceKind → K
  | .fusion => policy.fusionWeight
  | .structuredField => policy.structuredFieldWeight
  | .recursive => policy.recursiveWeight

def retrievalSourcePriority (policy : ResolvedRetrievalSourcesPolicy K)
    : RetrievalSourceKind → Nat
  | .structuredField => policy.structuredFieldPriority
  | .fusion => policy.fusionPriority
  | .recursive => policy.recursivePriority

def retrievalSourceKindOrder : RetrievalSourceKind → Nat
  | .structuredField => 0
  | .fusion => 1
  | .recursive => 2

/-- One candidate of a source goes to the entry of its chunk, or starts one. -/
def mergeCandidate (source : RetrievalSourceKind) (candidate : ChunkCandidate)
    : List (MergedRetrievalCandidate K) → List (MergedRetrievalCandidate K)
  | [] => [⟨candidate, [(source, candidate.retrievalRank)], 0⟩]
  | existing :: rest =>
    if existing.candidate.chunkId = candidate.chunkId then
      { existing with
        sourceRanks := lowerRank source candidate.retrievalRank existing.sourceRanks } :: rest
    else
      existing :: mergeCandidate source candidate rest

def mergeSource (merged : List (MergedRetrievalCandidate K)) (source : RetrievalSourceCandidates)
    : List (MergedRetrievalCandidate K) :=
  source.candidates.foldl (fun merged candidate => mergeCandidate source.source candidate merged)
    merged

/-- The chunks that the sources of a kind have, counted once in each. -/
def sourceTotal (sources : List RetrievalSourceCandidates) (kind : RetrievalSourceKind) : Nat :=
  ((sources.filter (·.source = kind)).map fun source =>
    (source.candidates.map (·.chunkId)).dedup.length).sum

/-- The kinds that have a chunk, in the order of their priorities. -/
def sourceOrder (policy : ResolvedRetrievalSourcesPolicy K)
    (sources : List RetrievalSourceCandidates) : List RetrievalSourceKind :=
  let cmp (left right : RetrievalSourceKind) : Ordering :=
    (compare (retrievalSourcePriority policy left) (retrievalSourcePriority policy right)).then
      (compare (retrievalSourceKindOrder left) (retrievalSourceKindOrder right))
  sortBy cmp ([.structuredField, .fusion, .recursive].filter (0 < sourceTotal sources ·))

def combinedScore (policy : ResolvedRetrievalSourcesPolicy K)
    (sources : List RetrievalSourceCandidates) (merged : MergedRetrievalCandidate K) : K :=
  (merged.sourceRanks.map fun entry => retrievalSourceWeight policy entry.1
    * rankNormalize entry.2 (max (sourceTotal sources entry.1) 1)).sum

/-- Ranks by source, where a source that does not have the chunk counts as the last rank. -/
def compareSourceRanks (left right : MergedRetrievalCandidate K)
    : List RetrievalSourceKind → Ordering
  | [] => .eq
  | source :: rest =>
    (compare ((left.sourceRanks.lookup source).getD 4294967295)
      ((right.sourceRanks.lookup source).getD 4294967295)).then
        (compareSourceRanks left right rest)

def compareMerged (order : List RetrievalSourceKind) (left right : MergedRetrievalCandidate K)
    : Ordering :=
  (compare right.combinedScore left.combinedScore).then
    ((compare right.sourceRanks.length left.sourceRanks.length).then
      ((compareSourceRanks left right order).then
        (compare left.candidate.chunkId right.candidate.chunkId)))

def rankMerged (A : Arithmetic K) (entry : MergedRetrievalCandidate K × Nat) : ChunkCandidate :=
  { entry.1.candidate with
    retrievalRank := entry.2 + 1
    retrievalScore := some (A.float entry.1.combinedScore) }

def mergeRetrievalCandidates (A : Arithmetic K) (sources : List RetrievalSourceCandidates)
    (policy : ResolvedRetrievalSourcesPolicy K) (candidateK : Nat) : List ChunkCandidate :=
  if candidateK = 0 then
    []
  else
    let byChunk : List (MergedRetrievalCandidate K) := sources.foldl mergeSource []
    let merged := byChunk.map fun entry =>
      { entry with combinedScore := combinedScore policy sources entry }
    let sorted := sortBy (compareMerged (sourceOrder policy sources)) merged
    (sorted.take candidateK).zipIdx.map (rankMerged A)

/-- The ranks of a merged list are the places in it. -/
theorem mergeRetrievalCandidates_rank (A : Arithmetic K)
    (sources : List RetrievalSourceCandidates) (policy : ResolvedRetrievalSourcesPolicy K)
    (candidateK : Nat)
    : (mergeRetrievalCandidates A sources policy candidateK).Pairwise
        (·.retrievalRank < ·.retrievalRank) := by
  unfold mergeRetrievalCandidates
  split
  . apply List.Pairwise.nil
  . rw [List.pairwise_map]
    rw [List.pairwise_iff_getElem]
    intro i j hi hj hij
    simp only [rankMerged, List.getElem_zipIdx]
    omega

end Elf
