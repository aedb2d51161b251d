import Elf.Search.Scoring

/-!
This module contains the selection of diverse results, and the decisions of a selection as a trace
keeps them and a replay reads them.
-/

namespace Elf

structure DiversityDecision (K : Type) where
  selected : Bool
  selectedRank : Option Nat
  selectedReason : String
  skippedReason : Option String
  nearestSelectedNoteId : Option Uuid
  similarity : Option K
  mmrScore : Option K
  missingEmbedding : Bool

/-- A map from notes, where the entry that was inserted last comes first. -/
abbrev NoteMap (α : Type) := List (Uuid × α)

variable {K : Type} [Field K] [LinearOrder K]

/-! ## Similarity -/

/-- `f32::EPSILON`. -/
def floatEpsilon : K := 1 / 8388608

def cosineSimilarity (A : Arithmetic K) (lhs rhs : List K) : Option K :=
  if lhs.isEmpty ∨ lhs.length ≠ rhs.length then
    none
  else
    let dot := ((lhs.zip rhs).map fun entry => entry.1 * entry.2).sum
    let lhsNorm := (lhs.map fun l => l * l).sum
    let rhsNorm := (rhs.map fun r => r * r).sum
    if lhsNorm ≤ floatEpsilon ∨ rhsNorm ≤ floatEpsilon then
      none
    else
      some (max (-1) (min (dot / (A.sqrt lhsNorm * A.sqrt rhsNorm)) 1))

/-- One selected note on the way to the nearest one. -/
def nearerSelected (A : Arithmetic K) (candidateVec : List K) (noteVectors : NoteMap (List K))
    (best : Option K × Option Uuid) (selected : ScoredChunk K) : Option K × Option Uuid :=
  let selectedNoteId := selected.item.note.noteId
  match (noteVectors.lookup selectedNoteId).bind (cosineSimilarity A candidateVec) with
  | none => best
  | some similarity =>
    if best.1.all (· < similarity) then (some similarity, some selectedNoteId) else best

/-- The similarity to the nearest selected note, that note, and whether there is no vector. -/
def nearestSelectedSimilarity (A : Arithmetic K) (noteId : Uuid) (selected : List (ScoredChunk K))
    (noteVectors : NoteMap (List K)) : Option K × Option Uuid × Bool :=
  match noteVectors.lookup noteId with
  | none => (none, none, true)
  | some candidateVec =>
    let best := selected.foldl (nearerSelected A candidateVec noteVectors) (none, none)
    (best.1, best.2, false)

/-! ## Selection -/

def selectDiverseResultsDisabled (candidates : List (ScoredChunk K)) (topK : Nat)
    (noteVectors : NoteMap (List K)) : List (ScoredChunk K) × NoteMap (DiversityDecision K) :=
  let decide (entry : ScoredChunk K × Nat) : Uuid × DiversityDecision K :=
    let (candidate, idx) := entry
    let noteId := candidate.item.note.noteId
    let isSelected := idx < topK
    (noteId, {
      selected := isSelected
      selectedRank := if isSelected then some (idx + 1) else none
      selectedReason := if isSelected then "disabled_passthrough" else "disabled_truncate"
      skippedReason := if isSelected then none else some "disabled_truncate"
      nearestSelectedNoteId := none
      similarity := none
      mmrScore := none
      missingEmbedding := (noteVectors.lookup noteId).isNone })
  (candidates.take topK, (candidates.zipIdx.map decide).reverse)

/-- A candidate with its relevance, which is its normalised place among the candidates. -/
structure RelevantCandidate (K : Type) where
  candidate : ScoredChunk K
  relevance : K

def RelevantCandidate.noteId (entry : RelevantCandidate K) : Uuid :=
  entry.candidate.item.note.noteId

structure DiversityPick (K : Type) where
  remainingPos : Nat
  mmrScore : K
  nearestNoteId : Option Uuid
  similarity : Option K
  missingEmbedding : Bool
  retrievalRank : Nat

def DiversityPick.betterThan (pick other : DiversityPick K) : Bool :=
  other.mmrScore < pick.mmrScore
    || (pick.mmrScore = other.mmrScore && pick.retrievalRank < other.retrievalRank)

def mmrScore (policy : ResolvedDiversityPolicy K) (relevance : K) (similarity : Option K) : K :=
  policy.mmrLambda * relevance - (1 - policy.mmrLambda) * similarity.getD 0

def diversityPick (A : Arithmetic K) (policy : ResolvedDiversityPolicy K)
    (selected : List (ScoredChunk K)) (noteVectors : NoteMap (List K))
    (entry : RelevantCandidate K × Nat) : DiversityPick K :=
  let (similarity, nearestNoteId, missingEmbedding) :=
    nearestSelectedSimilarity A entry.1.noteId selected noteVectors
  { remainingPos := entry.2
    mmrScore := mmrScore policy entry.1.relevance similarity
    nearestNoteId
    similarity
    missingEmbedding
    retrievalRank := entry.1.candidate.item.retrievalRank }

def betterPick (best : Option (DiversityPick K)) (pick : DiversityPick K)
    : Option (DiversityPick K) :=
  if best.all (pick.betterThan ·) then some pick else best

def pickNextCandidate (A : Arithmetic K) (policy : ResolvedDiversityPolicy K)
    (remaining : List (RelevantCandidate K)) (selected : List (ScoredChunk K))
    (noteVectors : NoteMap (List K)) : Option (DiversityPick K) :=
  (remaining.zipIdx.map (diversityPick A policy selected noteVectors)).foldl betterPick none

/-- What the selection has chosen, what is left, and the decisions so far. -/
structure SelectionState (K : Type) where
  selected : List (ScoredChunk K)
  remaining : List (RelevantCandidate K)
  decisions : NoteMap (DiversityDecision K)

/-- The picks that are still to be made, one for each turn of the loop. -/
def pickCandidates (A : Arithmetic K) (policy : ResolvedDiversityPolicy K)
    (noteVectors : NoteMap (List K)) : Nat → SelectionState K → SelectionState K
  | 0, state => state
  | turns + 1, state =>
    match pickNextCandidate A policy state.remaining state.selected noteVectors with
    | none => state
    | some pick =>
      match state.remaining[pick.remainingPos]? with
      | none => state
      | some picked =>
        let selected := state.selected ++ [picked.candidate]
        pickCandidates A policy noteVectors turns {
          selected
          remaining := state.remaining.eraseIdx pick.remainingPos
          decisions := (picked.noteId, {
            selected := true
            selectedRank := some selected.length
            selectedReason := "mmr"
            skippedReason := none
            nearestSelectedNoteId := pick.nearestNoteId
            similarity := pick.similarity
            mmrScore := some pick.mmrScore
            missingEmbedding := pick.missingEmbedding }) :: state.decisions }

def skippedDecision (A : Arithmetic K) (policy : ResolvedDiversityPolicy K)
    (noteVectors : NoteMap (List K)) (selected : List (ScoredChunk K))
    (entry : RelevantCandidate K) : Uuid × DiversityDecision K :=
  let (similarity, nearestNoteId, missingEmbedding) :=
    nearestSelectedSimilarity A entry.noteId selected noteVectors
  (entry.noteId, {
    selected := false
    selectedRank := none
    selectedReason := "not_selected"
    skippedReason := some "lower_mmr"
    nearestSelectedNoteId := nearestNoteId
    similarity
    mmrScore := some (mmrScore policy entry.relevance similarity)
    missingEmbedding })

def relevantCandidates (candidates : List (ScoredChunk K)) : List (RelevantCandidate K) :=
  candidates.zipIdx.map fun entry =>
    ⟨entry.1, rankNormalize (entry.2 + 1) (max candidates.length 1)⟩

def topRelevanceDecision (noteVectors : NoteMap (List K)) (first : RelevantCandidate K)
    : Uuid × DiversityDecision K :=
  (first.noteId, {
    selected := true
    selectedRank := some 1
    selectedReason := "top_relevance"
    skippedReason := none
    nearestSelectedNoteId := none
    similarity := none
    mmrScore := some first.relevance
    missingEmbedding := (noteVectors.lookup first.noteId).isNone })

def selectDiverseResultsEnabled (A : Arithmetic K) (candidates : List (ScoredChunk K))
    (topK : Nat) (policy : ResolvedDiversityPolicy K) (noteVectors : NoteMap (List K))
    : List (ScoredChunk K) × NoteMap (DiversityDecision K) :=
  match relevantCandidates candidates with
  | [] => ([], [])
  | first :: rest =>
    let state := pickCandidates A policy noteVectors (topK - 1)
      ⟨[first.candidate], rest, [topRelevanceDecision noteVectors first]⟩
    let skipped := state.remaining.map (skippedDecision A policy noteVectors state.selected)
    (state.selected, skipped.reverse ++ state.decisions)

def selectDiverseResults (A : Arithmetic K) (candidates : List (ScoredChunk K)) (topK : Nat)
    (policy : ResolvedDiversityPolicy K) (noteVectors : NoteMap (List K))
    : List (ScoredChunk K) × NoteMap (DiversityDecision K) :=
  if candidates.isEmpty ∨ topK = 0 then
    ([], [])
  else if !policy.enabled then
    selectDiverseResultsDisabled candidates topK noteVectors
  else
    selectDiverseResultsEnabled A candidates topK policy noteVectors

/-! ## Decisions in a trace -/

structure SearchDiversityExplain (K : Type) where
  enabled : Bool
  selectedReason : String
  skippedReason : Option String
  nearestSelectedNoteId : Option Uuid
  similarity : Option K
  mmrScore : Option K
  missingEmbedding : Bool

def buildDiversityExplain (decision : DiversityDecision K) : SearchDiversityExplain K where
  enabled := true
  selectedReason := decision.selectedReason
  skippedReason := decision.skippedReason
  nearestSelectedNoteId := decision.nearestSelectedNoteId
  similarity := decision.similarity
  mmrScore := decision.mmrScore
  missingEmbedding := decision.missingEmbedding

/-- A candidate with the decision about its note, if there is one. -/
def attachDecision (decisions : NoteMap (DiversityDecision K))
    (candidate : TraceReplayCandidate K) : TraceReplayCandidate K :=
  match decisions.lookup candidate.noteId with
  | none => candidate
  | some decision => { candidate with
    diversitySelected := some decision.selected
    diversitySelectedRank := decision.selectedRank
    diversitySelectedReason := some decision.selectedReason
    diversitySkippedReason := decision.skippedReason
    diversityNearestSelectedNoteId := decision.nearestSelectedNoteId
    diversitySimilarity := decision.similarity
    diversityMmrScore := decision.mmrScore
    diversityMissingEmbedding := some decision.missingEmbedding }

def attachDiversityDecisionsToTraceCandidates (candidates : List (TraceReplayCandidate K))
    (decisions : NoteMap (DiversityDecision K)) : List (TraceReplayCandidate K) :=
  candidates.map (attachDecision decisions)

def TraceReplayCandidate.hasDiversity (candidate : TraceReplayCandidate K) : Bool :=
  candidate.diversitySelected.isSome
    || candidate.diversitySelectedRank.isSome
    || candidate.diversitySelectedReason.isSome
    || candidate.diversitySkippedReason.isSome
    || candidate.diversityNearestSelectedNoteId.isSome
    || candidate.diversitySimilarity.isSome
    || candidate.diversityMmrScore.isSome
    || candidate.diversityMissingEmbedding.isSome

def TraceReplayCandidate.decision (candidate : TraceReplayCandidate K) : DiversityDecision K where
  selected := candidate.diversitySelected.getD false
  selectedRank := candidate.diversitySelectedRank
  selectedReason := candidate.diversitySelectedReason.getD "replay_selected"
  skippedReason := candidate.diversitySkippedReason
  nearestSelectedNoteId := candidate.diversityNearestSelectedNoteId
  similarity := candidate.diversitySimilarity
  mmrScore := candidate.diversityMmrScore
  missingEmbedding := candidate.diversityMissingEmbedding.getD false

/-- `u32::MAX`, the rank of what has none. -/
def maxRank : Nat := 4294967295

/-- Whether a decision replaces the one that the map holds for its note. -/
def DiversityDecision.replaces (decision existing : DiversityDecision K) : Bool :=
  if decision.selected ≠ existing.selected then
    decision.selected
  else
    decision.selectedRank.getD maxRank < existing.selectedRank.getD maxRank

def extractDecision (out : NoteMap (DiversityDecision K)) (candidate : TraceReplayCandidate K)
    : NoteMap (DiversityDecision K) :=
  if !candidate.hasDiversity then
    out
  else if (out.lookup candidate.noteId).all candidate.decision.replaces then
    (candidate.noteId, candidate.decision) :: out
  else
    out

def extractReplayDiversityDecisions (candidates : List (TraceReplayCandidate K))
    : NoteMap (DiversityDecision K) :=
  candidates.foldl extractDecision []

end Elf
