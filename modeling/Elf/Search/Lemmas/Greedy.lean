import Elf.Lib.Passes
import Elf.Search.Lemmas.Selection
import Elf.Search.Lemmas.Terms

/-!
This module contains what one turn of the diverse selection picks, and what all turns keep.
-/

namespace Elf

open FirstBest Lookup

variable {K : Type} [Field K] [LinearOrder K]

/-! ## Similarity -/

/-- The similarity of two notes, when both have vectors that can be compared. -/
def noteSimilarity (A : Arithmetic K) (noteVectors : NoteMap (List K)) (noteId other : Uuid)
    : Option K :=
  (noteVectors.lookup noteId).bind fun candidateVec =>
    (noteVectors.lookup other).bind (cosineSimilarity A candidateVec)

/-- The largest similarity of a note to some candidates. -/
def maxSimilarity (A : Arithmetic K) (noteVectors : NoteMap (List K)) (noteId : Uuid)
    (selected : List (ScoredChunk K)) : Option K :=
  (selected.filterMap fun scored => noteSimilarity A noteVectors noteId scored.noteId).max?

variable {A : Arithmetic K} {policy : ResolvedDiversityPolicy K} {noteVectors : NoteMap (List K)}

theorem foldl_nearerSelected (candidateVec : List K) (selected : List (ScoredChunk K))
    (best : Option K × Option Uuid)
    : (selected.foldl (nearerSelected A candidateVec noteVectors) best).1
      = (best.1.toList ++ selected.filterMap fun scored =>
          (noteVectors.lookup scored.noteId).bind (cosineSimilarity A candidateVec)).max? := by
  induction selected generalizing best with
  | nil =>
    have ⟨largest, nearest⟩ := best
    cases largest with
    | none => rfl
    | some largest => rfl
  | cons scored selected ih =>
    have ⟨largest, nearest⟩ := best
    rw [List.foldl_cons, ih, List.filterMap_cons]
    unfold nearerSelected
    cases hsimilarity : (noteVectors.lookup scored.noteId).bind (cosineSimilarity A candidateVec) with
    | none =>
      unfold ScoredChunk.noteId at hsimilarity
      simp only [hsimilarity]
    | some similarity =>
      unfold ScoredChunk.noteId at hsimilarity
      simp only [hsimilarity]
      cases largest with
      | none => rfl
      | some largest =>
        simp only [Option.all_some, decide_eq_true_eq]
        have hmax : (largest :: similarity :: selected.filterMap fun scored =>
            (noteVectors.lookup scored.noteId).bind (cosineSimilarity A candidateVec)).max?
            = (max largest similarity :: selected.filterMap fun scored =>
              (noteVectors.lookup scored.noteId).bind (cosineSimilarity A candidateVec)).max? := by
          rw [List.max?_cons', List.max?_cons', List.foldl_cons]
        split
        next hlt =>
          rw [max_eq_right hlt.le] at hmax
          exact hmax.symm
        next hle =>
          rw [max_eq_left (le_of_not_gt hle)] at hmax
          exact hmax.symm

theorem nearestSelectedSimilarity_fst (noteId : Uuid) (selected : List (ScoredChunk K))
    : (nearestSelectedSimilarity A noteId selected noteVectors).1
      = maxSimilarity A noteVectors noteId selected := by
  unfold nearestSelectedSimilarity maxSimilarity noteSimilarity
  cases noteVectors.lookup noteId with
  | none => simp
  | some candidateVec =>
    simp only [foldl_nearerSelected]
    rfl

/-! ## One turn -/

omit [Field K] in
theorem strictWeak_betterThan : StrictWeak (@DiversityPick.betterThan K _) := by
  constructor
  . intro a b
    unfold DiversityPick.betterThan
    grind
  . intro a b c
    unfold DiversityPick.betterThan
    grind

/-- What a pick of the candidate scores after some candidates are selected. -/
def pickScore (A : Arithmetic K) (policy : ResolvedDiversityPolicy K)
    (noteVectors : NoteMap (List K)) (selected : List (ScoredChunk K)) (entry : RelevantCandidate K)
    : K :=
  mmrScore policy entry.relevance (maxSimilarity A noteVectors entry.noteId selected)

/-- A candidate is picked before another one: its score is larger, or else its retrieval rank is
smaller, or else it comes first. -/
def Preferred (A : Arithmetic K) (policy : ResolvedDiversityPolicy K)
    (noteVectors : NoteMap (List K)) (selected : List (ScoredChunk K))
    (entry other : RelevantCandidate K) : Prop :=
  pickScore A policy noteVectors selected other < pickScore A policy noteVectors selected entry
    ∨ pickScore A policy noteVectors selected other = pickScore A policy noteVectors selected entry
      ∧ (entry.candidate.item.retrievalRank < other.candidate.item.retrievalRank
        ∨ entry.candidate.item.retrievalRank = other.candidate.item.retrievalRank
          ∧ other.relevance < entry.relevance)

/-- The candidates come by decreasing relevance. -/
abbrev ByRelevance (entries : List (RelevantCandidate K)) : Prop :=
  entries.Pairwise fun entry other => other.relevance < entry.relevance

variable {selected : List (ScoredChunk K)} {remaining : List (RelevantCandidate K)}
  {pick : DiversityPick K}

theorem pickNextCandidate_eq_none (h : pickNextCandidate A policy remaining selected noteVectors = none)
    : remaining = [] := by
  have hkeeps := keeps_foldl strictWeak_betterThan
    (remaining.zipIdx.map (diversityPick A policy selected noteVectors))
  unfold pickNextCandidate at h
  change Keeps _ _ (List.foldl betterPick none _) at hkeeps
  rw [h] at hkeeps
  unfold Keeps at hkeeps
  simpa using hkeeps

theorem diversityPick_mmrScore (entry : RelevantCandidate K × Nat)
    : (diversityPick A policy selected noteVectors entry).mmrScore
      = pickScore A policy noteVectors selected entry.1 := by
  unfold pickScore
  rw [← nearestSelectedSimilarity_fst]
  rfl

theorem betterThan_diversityPick (entry other : RelevantCandidate K × Nat)
    : (diversityPick A policy selected noteVectors entry).betterThan
        (diversityPick A policy selected noteVectors other) = true
      ↔ pickScore A policy noteVectors selected other.1 < pickScore A policy noteVectors selected entry.1
        ∨ pickScore A policy noteVectors selected entry.1
            = pickScore A policy noteVectors selected other.1
          ∧ entry.1.candidate.item.retrievalRank < other.1.candidate.item.retrievalRank := by
  unfold DiversityPick.betterThan
  rw [diversityPick_mmrScore, diversityPick_mmrScore, Bool.or_eq_true, Bool.and_eq_true,
    decide_eq_true_iff, decide_eq_true_iff, decide_eq_true_iff]
  rfl

theorem preferred_of_before (entry other : RelevantCandidate K × Nat)
    (h : (diversityPick A policy selected noteVectors entry).betterThan
      (diversityPick A policy selected noteVectors other))
    : Preferred A policy noteVectors selected entry.1 other.1 := by
  rw [betterThan_diversityPick] at h
  cases h with
  | inl hscore => exact Or.inl hscore
  | inr hrank => exact Or.inr ⟨hrank.1.symm, Or.inl hrank.2⟩

theorem preferred_of_behind (entry other : RelevantCandidate K × Nat)
    (h : ¬ (diversityPick A policy selected noteVectors other).betterThan
      (diversityPick A policy selected noteVectors entry))
    (hrelevance : other.1.relevance < entry.1.relevance)
    : Preferred A policy noteVectors selected entry.1 other.1 := by
  rw [betterThan_diversityPick, not_or, not_lt] at h
  cases lt_or_eq_of_le h.1 with
  | inl hscore => exact Or.inl hscore
  | inr hscore =>
    right
    refine ⟨hscore, ?_⟩
    have hrank : ¬ other.1.candidate.item.retrievalRank < entry.1.candidate.item.retrievalRank :=
      fun hlt => h.2 ⟨hscore, hlt⟩
    cases Nat.lt_or_eq_of_le (Nat.le_of_not_lt hrank) with
    | inl hlt => exact Or.inl hlt
    | inr heq => exact Or.inr ⟨heq, hrelevance⟩

theorem pickNextCandidate_spec (hsorted : ByRelevance remaining)
    (h : pickNextCandidate A policy remaining selected noteVectors = some pick)
    : ∃ before entry behind, remaining = before ++ entry :: behind
      ∧ pick = diversityPick A policy selected noteVectors (entry, before.length)
      ∧ ∀ other ∈ before ++ behind, Preferred A policy noteVectors selected entry other := by
  have hkeeps := keeps_foldl strictWeak_betterThan
    (remaining.zipIdx.map (diversityPick A policy selected noteVectors))
  unfold pickNextCandidate at h
  change Keeps _ _ (List.foldl betterPick none _) at hkeeps
  rw [h] at hkeeps
  have ⟨picksBefore, picksBehind, hsplit, hfirst⟩ := hkeeps
  have ⟨zipBefore, zipRest, hzip, hbefore, hrest⟩ := List.map_eq_append_iff.mp hsplit
  have ⟨⟨entry, pos⟩, zipBehind, hcons, hpick, hbehind⟩ := List.map_eq_cons_iff.mp hrest
  rw [hcons] at hzip
  have hremaining := congrArg (List.map Prod.fst) hzip
  rw [List.zipIdx_map_fst, List.map_append, List.map_cons] at hremaining
  have hpos : pos = zipBefore.length := by
    have hget : remaining.zipIdx[zipBefore.length]? = some (entry, pos) := by
      rw [hzip]
      simp
    rw [List.getElem?_zipIdx] at hget
    have ⟨_, _, heq⟩ := Option.map_eq_some_iff.mp hget
    have hsnd := congrArg Prod.snd heq
    simp only [Nat.zero_add] at hsnd
    exact hsnd.symm
  refine ⟨zipBefore.map Prod.fst, entry, zipBehind.map Prod.fst, hremaining, ?_, ?_⟩
  . rw [List.length_map, ← hpos]
    exact hpick.symm
  . intro other hother
    rw [List.mem_append] at hother
    cases hother with
    | inl hother =>
      have ⟨zipped, hzipped, heq⟩ := List.mem_map.mp hother
      rw [← heq]
      apply preferred_of_before (entry, pos) zipped
      rw [hpick]
      apply hfirst.before
      rw [← hbefore]
      exact List.mem_map_of_mem hzipped
    | inr hother =>
      have ⟨zipped, hzipped, heq⟩ := List.mem_map.mp hother
      rw [← heq]
      apply preferred_of_behind (entry, pos) zipped
      . rw [hpick]
        apply hfirst.behind
        rw [← hbehind]
        exact List.mem_map_of_mem hzipped
      . rw [hremaining] at hsorted
        have ⟨_, hcons, _⟩ := List.pairwise_append.mp hsorted
        rw [heq]
        exact (List.pairwise_cons.mp hcons).1 other hother

/-- The decision about a candidate that a turn picks. -/
def chosenDecision (A : Arithmetic K) (policy : ResolvedDiversityPolicy K)
    (noteVectors : NoteMap (List K)) (selected : List (ScoredChunk K))
    (entry : RelevantCandidate K) : Uuid × DiversityDecision K :=
  let (similarity, nearestNoteId, missingEmbedding) :=
    nearestSelectedSimilarity A entry.noteId selected noteVectors
  (entry.noteId, {
    selected := true
    selectedRank := some (selected.length + 1)
    selectedReason := "mmr"
    skippedReason := none
    nearestSelectedNoteId := nearestNoteId
    similarity
    mmrScore := some (mmrScore policy entry.relevance similarity)
    missingEmbedding })

/-- The state after a turn that picks an entry and leaves the others. -/
def SelectionState.choose (A : Arithmetic K) (policy : ResolvedDiversityPolicy K)
    (noteVectors : NoteMap (List K)) (state : SelectionState K) (entry : RelevantCandidate K)
    (others : List (RelevantCandidate K)) : SelectionState K where
  selected := state.selected ++ [entry.candidate]
  remaining := others
  decisions := chosenDecision A policy noteVectors state.selected entry :: state.decisions

/-- What one turn does: it picks the preferred one of the remaining candidates, if there is one. -/
theorem pickCandidates_succ (turns : Nat) {state : SelectionState K}
    (hsorted : ByRelevance state.remaining)
    : state.remaining = [] ∧ pickCandidates A policy noteVectors (turns + 1) state = state
      ∨ ∃ before entry behind, state.remaining = before ++ entry :: behind
        ∧ (∀ other ∈ before ++ behind, Preferred A policy noteVectors state.selected entry other)
        ∧ pickCandidates A policy noteVectors (turns + 1) state
          = pickCandidates A policy noteVectors turns
            (state.choose A policy noteVectors entry (before ++ behind)) := by
  cases hnext : pickNextCandidate A policy state.remaining state.selected noteVectors with
  | none =>
    left
    refine ⟨pickNextCandidate_eq_none hnext, ?_⟩
    unfold pickCandidates
    rw [hnext]
  | some pick =>
    right
    rcases pickNextCandidate_spec hsorted hnext with ⟨before, entry, behind, hsplit, hpick, hpreferred⟩
    refine ⟨before, entry, behind, hsplit, hpreferred, ?_⟩
    have hpos : pick.remainingPos = before.length := by
      rw [hpick]
      rfl
    have hget : state.remaining[pick.remainingPos]? = some entry := by
      rw [hpos, hsplit]
      simp
    have herase : state.remaining.eraseIdx pick.remainingPos = before ++ behind := by
      rw [hpos, hsplit, List.eraseIdx_append_of_length_le (Nat.le_refl _), Nat.sub_self]
      rfl
    conv =>
      lhs
      unfold pickCandidates
    simp only [hnext, hget, herase]
    rw [hpick, List.length_append]
    rfl

/-! ## All turns -/

/-- What a decision says of a candidate with a place among the selected ones. -/
structure DecidedAt (A : Arithmetic K) (noteVectors : NoteMap (List K))
    (chosen : List (ScoredChunk K)) (i : Nat) (noteId : Uuid) (decision : DiversityDecision K)
    : Prop where
  selected : decision.selected = true
  rank : decision.selectedRank = some (i + 1)
  similarity : decision.similarity = maxSimilarity A noteVectors noteId (chosen.take i)

/-- Whoever has a place is preferred to every candidate that has no place up to there. -/
def PickedAt (A : Arithmetic K) (policy : ResolvedDiversityPolicy K)
    (noteVectors : NoteMap (List K)) (entries : List (RelevantCandidate K))
    (selected : List (ScoredChunk K)) (i : Nat) (scored : ScoredChunk K) : Prop :=
  ∃ entry ∈ entries, entry.candidate = scored
    ∧ ∀ other ∈ entries, other.noteId ∉ (selected.take (i + 1)).map (·.noteId) →
      Preferred A policy noteVectors (selected.take i) entry other

/-- What holds of a selection after every turn. -/
structure SelectionState.Greedy (A : Arithmetic K) (policy : ResolvedDiversityPolicy K)
    (noteVectors : NoteMap (List K)) (entries : List (RelevantCandidate K))
    (state : SelectionState K) : Prop where
  remaining : state.remaining.Sublist entries
  pool : ∀ entry ∈ entries, entry.noteId ∈ state.selected.map (·.noteId) ∨ entry ∈ state.remaining
  notes : state.decisions.map Prod.fst = (state.selected.map (·.noteId)).reverse
  decided : ∀ i (h : i < state.selected.length), ∃ decision,
    (state.selected[i].noteId, decision) ∈ state.decisions
      ∧ DecidedAt A noteVectors state.selected i state.selected[i].noteId decision
  picked : ∀ i (h : i < state.selected.length), 0 < i →
    PickedAt A policy noteVectors entries state.selected i state.selected[i]

variable {entries : List (RelevantCandidate K)} {state : SelectionState K}
  {entry : RelevantCandidate K} {before behind : List (RelevantCandidate K)}

theorem SelectionState.Greedy.choose (h : state.Greedy A policy noteVectors entries)
    (hsplit : state.remaining = before ++ entry :: behind)
    (hpreferred : ∀ other ∈ before ++ behind,
      Preferred A policy noteVectors state.selected entry other)
    : (state.choose A policy noteVectors entry (before ++ behind)).Greedy A policy noteVectors
        entries := by
  have hpool : ∀ other ∈ entries,
      other.noteId ∈ (state.selected ++ [entry.candidate]).map (·.noteId)
        ∨ other ∈ before ++ behind := by
    intro other hother
    rw [List.map_append, List.mem_append]
    cases h.pool other hother with
    | inl hselected => exact Or.inl (Or.inl hselected)
    | inr hremaining =>
      rw [hsplit, List.mem_append, List.mem_cons] at hremaining
      rw [List.mem_append]
      cases hremaining with
      | inl hbefore => exact Or.inr (Or.inl hbefore)
      | inr hrest =>
        cases hrest with
        | inl heq =>
          rw [heq]
          exact Or.inl (Or.inr (List.mem_singleton.mpr rfl))
        | inr hbehind => exact Or.inr (Or.inr hbehind)
  constructor
  . have hsublist := h.remaining
    rw [hsplit] at hsublist
    exact ((List.sublist_cons_self entry behind).append_left before).trans hsublist
  . exact hpool
  . unfold SelectionState.choose
    rw [List.map_cons, h.notes, List.map_append, List.reverse_append]
    rfl
  . intro i hi
    simp only [SelectionState.choose, List.length_append, List.length_singleton] at hi ⊢
    by_cases hlast : i = state.selected.length
    . subst hlast
      refine ⟨(chosenDecision A policy noteVectors state.selected entry).2, ?_, ?_⟩
      . rw [List.getElem_concat_length rfl]
        exact List.mem_cons_self
      . rw [List.getElem_concat_length rfl]
        constructor
        . rfl
        . rfl
        . rw [List.take_left]
          exact nearestSelectedSimilarity_fst _ _
    . have hlt : i < state.selected.length := by omega
      have ⟨decision, hmem, hdecided⟩ := h.decided i hlt
      rw [List.getElem_append_left hlt]
      refine ⟨decision, List.mem_cons_of_mem _ hmem, ?_⟩
      constructor
      . exact hdecided.selected
      . exact hdecided.rank
      . rw [List.take_append_of_le_length (by omega)]
        exact hdecided.similarity
  . intro i hi hpos
    simp only [SelectionState.choose, List.length_append, List.length_singleton] at hi ⊢
    by_cases hlast : i = state.selected.length
    . subst hlast
      rw [List.getElem_concat_length rfl]
      refine ⟨entry, ?_, rfl, ?_⟩
      . apply h.remaining.mem
        rw [hsplit]
        simp
      . intro other hother hnot
        rw [List.take_of_length_le (by simp)] at hnot
        rw [List.take_left]
        cases hpool other hother with
        | inl hselected => exact absurd hselected hnot
        | inr hremaining => exact hpreferred other hremaining
    . have hlt : i < state.selected.length := by omega
      rw [List.getElem_append_left hlt]
      unfold PickedAt
      rw [List.take_append_of_le_length (by omega), List.take_append_of_le_length (by omega)]
      exact h.picked i hlt hpos

theorem pickCandidates_greedy (hsorted : ByRelevance entries) (turns : Nat)
    (h : state.Greedy A policy noteVectors entries)
    : (pickCandidates A policy noteVectors turns state).Greedy A policy noteVectors entries := by
  induction turns generalizing state with
  | zero => exact h
  | succ turns ih =>
    have hturn := @pickCandidates_succ K _ _ A policy noteVectors turns state
      (hsorted.sublist h.remaining)
    cases hturn with
    | inl hdone =>
      rw [hdone.2]
      exact h
    | inr hpick =>
      have ⟨before, entry, behind, hsplit, hpreferred, heq⟩ := hpick
      rw [heq]
      exact ih (h.choose hsplit hpreferred)

theorem pickCandidates_length_eq (hsorted : ByRelevance state.remaining) (turns : Nat)
    : (pickCandidates A policy noteVectors turns state).selected.length
      = state.selected.length + min turns state.remaining.length := by
  induction turns generalizing state with
  | zero =>
    rw [Nat.zero_min]
    rfl
  | succ turns ih =>
    have hturn := @pickCandidates_succ K _ _ A policy noteVectors turns state hsorted
    cases hturn with
    | inl hdone =>
      rw [hdone.2, hdone.1, List.length_nil]
      omega
    | inr hpick =>
      have ⟨before, entry, behind, hsplit, _, heq⟩ := hpick
      rw [hsplit] at hsorted
      have hrest : ByRelevance (before ++ behind) :=
        hsorted.sublist ((List.sublist_cons_self entry behind).append_left before)
      rw [heq, ih hrest, hsplit]
      simp only [SelectionState.choose, List.length_append, List.length_cons, List.length_nil]
      omega

theorem pickCandidates_head (turns : Nat) (hsorted : ByRelevance state.remaining)
    (hne : state.selected ≠ [])
    : (pickCandidates A policy noteVectors turns state).selected.head? = state.selected.head? := by
  induction turns generalizing state with
  | zero => rfl
  | succ turns ih =>
    have hturn := @pickCandidates_succ K _ _ A policy noteVectors turns state hsorted
    cases hturn with
    | inl hdone => rw [hdone.2]
    | inr hpick =>
      have ⟨before, entry, behind, hsplit, _, heq⟩ := hpick
      rw [hsplit] at hsorted
      have hrest : ByRelevance (before ++ behind) :=
        hsorted.sublist ((List.sublist_cons_self entry behind).append_left before)
      rw [heq, ih hrest (by simp [SelectionState.choose])]
      exact List.head?_append_of_ne_nil _ hne

theorem pickScore_one (hlambda : policy.mmrLambda = 1) (selected : List (ScoredChunk K))
    (entry : RelevantCandidate K) : pickScore A policy noteVectors selected entry = entry.relevance := by
  unfold pickScore mmrScore
  rw [hlambda, one_mul, sub_self, zero_mul, sub_zero]

/-- Without a weight on the similarity, the candidates are picked as they come. -/
theorem pickCandidates_one (hlambda : policy.mmrLambda = 1) (hsorted : ByRelevance state.remaining)
    (turns : Nat)
    : (pickCandidates A policy noteVectors turns state).selected
      = state.selected ++ (state.remaining.take turns).map (·.candidate) := by
  induction turns generalizing state with
  | zero =>
    rw [List.take_zero, List.map_nil, List.append_nil]
    rfl
  | succ turns ih =>
    have hturn := @pickCandidates_succ K _ _ A policy noteVectors turns state hsorted
    cases hturn with
    | inl hdone =>
      rw [hdone.2, hdone.1, List.take_nil, List.map_nil, List.append_nil]
    | inr hpick =>
      have ⟨before, entry, behind, hsplit, hpreferred, heq⟩ := hpick
      rw [hsplit] at hsorted
      have hbefore : before = [] := by
        cases before with
        | nil => rfl
        | cons first before =>
          have hless := (List.pairwise_cons.mp hsorted).1 entry (by simp)
          have hfirst := hpreferred first (by simp)
          unfold Preferred at hfirst
          rw [pickScore_one hlambda, pickScore_one hlambda] at hfirst
          cases hfirst with
          | inl hlt => exact absurd hlt (lt_asymm hless)
          | inr hsame => exact absurd hsame.1.symm (ne_of_lt hless)
      subst hbefore
      have hrest : ByRelevance behind := (List.pairwise_cons.mp hsorted).2
      rw [heq, ih hrest, hsplit]
      simp [SelectionState.choose]

end Elf
