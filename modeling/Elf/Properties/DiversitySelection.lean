import Elf.Search.Lemmas.Greedy
import Elf.Search.Replay

/-!
This module contains that the selection of diverse results keeps as many candidates as it is asked for,
decides about each candidate once, and picks greedily.
-/

namespace Elf

open Lookup

variable {K : Type} [Field K] [LinearOrder K] {A : Arithmetic K}
  {policy : ResolvedDiversityPolicy K} {noteVectors : NoteMap (List K)}
  {candidates : List (ScoredChunk K)} {topK : Nat}

/-- Every place after the first one has the candidate that is preferred to all candidates that have
no place up to there. -/
def PicksGreedily (A : Arithmetic K) (policy : ResolvedDiversityPolicy K)
    (noteVectors : NoteMap (List K)) (candidates selected : List (ScoredChunk K)) : Prop :=
  ∀ i (h : i < selected.length), 0 < i →
    PickedAt A policy noteVectors (relevantCandidates candidates) selected i selected[i]

/-- The decisions have the similarities of the selected candidates to those selected before them, and
those of the other candidates to all selected ones. -/
structure RecordsSimilarity (A : Arithmetic K) (noteVectors : NoteMap (List K))
    (decisions : NoteMap (DiversityDecision K)) (selected rest : List (ScoredChunk K)) : Prop where
  ranked : ∀ i (h : i < selected.length), ∃ decision,
    decisions.lookup (selected[i]).noteId = some decision
      ∧ decision.similarity = maxSimilarity A noteVectors (selected[i]).noteId (selected.take i)
  skipped : ∀ scored ∈ rest, ∃ decision,
    decisions.lookup scored.noteId = some decision
      ∧ decision.similarity = maxSimilarity A noteVectors scored.noteId selected

/-- What a selection owes for its candidates. -/
structure Selects (candidates : List (ScoredChunk K)) (topK : Nat)
    (decisions : NoteMap (DiversityDecision K)) (selected rest : List (ScoredChunk K)) : Prop where
  perm : (selected ++ rest).Perm candidates
  length : selected.length = min topK candidates.length
  head : selected.head? = candidates.head?
  notes : (decisions.map Prod.fst).Perm (candidates.map (·.noteId))
  decides : Decides decisions selected rest

/-! ## Without diversity -/

omit [Field K] [LinearOrder K] in
theorem disabled_notes
    : ((selectDiverseResultsDisabled candidates topK noteVectors).2.map Prod.fst).Perm
        (candidates.map (·.noteId)) := by
  unfold selectDiverseResultsDisabled
  rw [List.map_reverse, List.map_map]
  apply (List.reverse_perm _).trans
  have hnotes := congrArg (List.map ScoredChunk.noteId) (List.zipIdx_map_fst 0 candidates)
  rw [List.map_map] at hnotes
  rw [← hnotes]
  apply List.Perm.refl

omit [Field K] [LinearOrder K] in
theorem lookup_disabled (hnodup : (candidates.map (·.noteId)).Nodup) {i : Nat}
    {scored : ScoredChunk K} (hi : candidates[i]? = some scored)
    : ∃ decision, (selectDiverseResultsDisabled candidates topK noteVectors).2.lookup scored.noteId
        = some decision
      ∧ decision.selected = decide (i < topK)
      ∧ decision.selectedRank = if i < topK then some (i + 1) else none := by
  have hkeys : ((selectDiverseResultsDisabled candidates topK noteVectors).2.map Prod.fst).Nodup :=
    disabled_notes.nodup_iff.mpr hnodup
  have hzip : (scored, i) ∈ candidates.zipIdx := List.mem_zipIdx_iff_getElem?.mpr hi
  unfold selectDiverseResultsDisabled at hkeys ⊢
  exact ⟨_, lookup_of_mem hkeys (List.mem_reverse.mpr (List.mem_map_of_mem hzip)), rfl, rfl⟩

omit [Field K] [LinearOrder K] in
theorem disabled_selects (hnodup : (candidates.map (·.noteId)).Nodup) (htop : 0 < topK)
    : Selects candidates topK (selectDiverseResultsDisabled candidates topK noteVectors).2
        (candidates.take topK) (candidates.drop topK) := by
  constructor
  . rw [List.take_append_drop]
  . apply List.length_take
  . rw [List.head?_take, if_neg (by omega)]
  . exact disabled_notes
  . constructor
    . intro i hi
      rw [List.length_take] at hi
      have hget : candidates[i]? = some (candidates.take topK)[i] := by
        rw [List.getElem_take]
        exact List.getElem?_eq_getElem _
      have ⟨decision, hlookup, hselected, hrank⟩ :=
        @lookup_disabled K noteVectors candidates topK hnodup i _ hget
      refine ⟨decision, hlookup, ?_, ?_⟩
      . rw [hselected, decide_eq_true_iff]
        omega
      . rw [hrank, if_pos (by omega)]
    . intro scored hscored
      have ⟨i, hi⟩ := List.mem_iff_getElem?.mp hscored
      rw [List.getElem?_drop] at hi
      have ⟨decision, hlookup, hselected, _⟩ :=
        @lookup_disabled K noteVectors candidates topK hnodup _ _ hi
      refine ⟨decision, hlookup, ?_⟩
      rw [hselected, decide_eq_false_iff_not]
      omega

/-! ## With diversity -/

theorem relevantCandidates_byRelevance [IsStrictOrderedRing K] (candidates : List (ScoredChunk K))
    : ByRelevance (relevantCandidates candidates) := by
  unfold ByRelevance relevantCandidates
  rw [List.pairwise_map, List.pairwise_iff_getElem]
  intro i j hi hj hij
  rw [List.length_zipIdx] at hi hj
  simp only [List.getElem_zipIdx, Nat.zero_add]
  apply rankNormalize_lt
  . omega
  . omega
  . omega

/-- The selection before its first turn. -/
def startSelection (noteVectors : NoteMap (List K)) (first : RelevantCandidate K)
    (others : List (RelevantCandidate K)) : SelectionState K where
  selected := [first.candidate]
  remaining := others
  decisions := [topRelevanceDecision noteVectors first]

theorem startSelection_greedy (first : RelevantCandidate K) (others : List (RelevantCandidate K))
    : (startSelection noteVectors first others).Greedy A policy noteVectors (first :: others) := by
  constructor
  . apply List.sublist_cons_self
  . intro entry hentry
    rw [List.mem_cons] at hentry
    cases hentry with
    | inl heq =>
      left
      rw [heq]
      exact List.mem_singleton.mpr rfl
    | inr hmem => exact Or.inr hmem
  . rfl
  . intro i hi
    have hzero : i = 0 := by
      simp only [startSelection, List.length_singleton] at hi
      omega
    subst hzero
    refine ⟨(topRelevanceDecision noteVectors first).2, List.mem_singleton.mpr rfl, ?_⟩
    constructor
    . rfl
    . rfl
    . rfl
  . intro i hi hpos
    simp only [startSelection, List.length_singleton] at hi
    omega

/-- The decisions at the end of a selection, with those about the candidates it leaves. -/
def SelectionState.allDecisions (A : Arithmetic K) (policy : ResolvedDiversityPolicy K)
    (noteVectors : NoteMap (List K)) (state : SelectionState K) : NoteMap (DiversityDecision K) :=
  (state.remaining.map (skippedDecision A policy noteVectors state.selected)).reverse
    ++ state.decisions

section AllDecisions

variable {state : SelectionState K} {entries : List (RelevantCandidate K)}

theorem allDecisions_notes (h : state.Greedy A policy noteVectors entries)
    : ((state.allDecisions A policy noteVectors).map Prod.fst).Perm
        (state.candidates.map (·.noteId)) := by
  unfold SelectionState.allDecisions SelectionState.candidates
  rw [List.map_append, h.notes, List.map_reverse, ← List.reverse_append]
  apply (List.reverse_perm _).trans
  rw [List.map_append, List.map_map, List.map_map]
  apply List.Perm.refl

theorem lookup_chosen (h : state.Greedy A policy noteVectors entries)
    (hnodup : (state.candidates.map (·.noteId)).Nodup) {i : Nat} (hi : i < state.selected.length)
    : ∃ decision, (state.allDecisions A policy noteVectors).lookup state.selected[i].noteId
        = some decision
      ∧ DecidedAt A noteVectors state.selected i state.selected[i].noteId decision := by
  have hkeys := (allDecisions_notes h).nodup_iff.mpr hnodup
  have ⟨decision, hmem, hdecided⟩ := h.decided i hi
  exact ⟨decision, lookup_of_mem hkeys (List.mem_append_right _ hmem), hdecided⟩

theorem lookup_skipped (h : state.Greedy A policy noteVectors entries)
    (hnodup : (state.candidates.map (·.noteId)).Nodup) {scored : ScoredChunk K}
    (hscored : scored ∈ state.remaining.map (·.candidate))
    : ∃ decision, (state.allDecisions A policy noteVectors).lookup scored.noteId = some decision
      ∧ decision.selected = false
      ∧ decision.similarity = maxSimilarity A noteVectors scored.noteId state.selected := by
  have hkeys := (allDecisions_notes h).nodup_iff.mpr hnodup
  have ⟨entry, hentry, heq⟩ := List.mem_map.mp hscored
  subst heq
  have hmem := List.mem_append_left state.decisions (List.mem_reverse.mpr
    (List.mem_map_of_mem (f := skippedDecision A policy noteVectors state.selected) hentry))
  exact ⟨_, lookup_of_mem hkeys hmem, rfl, nearestSelectedSimilarity_fst _ _⟩

end AllDecisions

theorem enabled_selects [IsStrictOrderedRing K] (hnodup : (candidates.map (·.noteId)).Nodup)
    (hne : candidates ≠ []) (htop : 0 < topK)
    : let result := selectDiverseResultsEnabled A candidates topK policy noteVectors
      ∃ rest, Selects candidates topK result.2 result.1 rest
        ∧ PicksGreedily A policy noteVectors candidates result.1
        ∧ RecordsSimilarity A noteVectors result.2 result.1 rest := by
  have hsorted := relevantCandidates_byRelevance candidates
  have hcandidates := relevantCandidates_candidates candidates
  intro result
  unfold PicksGreedily
  cases hentries : relevantCandidates candidates with
  | nil =>
    rw [hentries] at hcandidates
    exact absurd hcandidates.symm hne
  | cons first others =>
    rw [hentries] at hsorted hcandidates
    have hothers : ByRelevance others := (List.pairwise_cons.mp hsorted).2
    generalize hstart : startSelection noteVectors first others = start
    have hstartCandidates : start.candidates = candidates := by
      rw [← hstart, ← hcandidates]
      rfl
    generalize hfinal : pickCandidates A policy noteVectors (topK - 1) start = final
    have hresult : result = (final.selected, final.allDecisions A policy noteVectors) := by
      rw [← hfinal, ← hstart]
      unfold result selectDiverseResultsEnabled
      rw [hentries]
      rfl
    have hgreedy : final.Greedy A policy noteVectors (first :: others) := by
      rw [← hfinal, ← hstart]
      exact pickCandidates_greedy hsorted _ (startSelection_greedy first others)
    have hperm : final.candidates.Perm candidates := by
      rw [← hfinal, ← hstartCandidates]
      apply pickCandidates_perm
    have hfinalNodup := (hperm.map (·.noteId)).nodup_iff.mpr hnodup
    have hremaining : ByRelevance start.remaining := by
      rw [← hstart]
      exact hothers
    rw [hresult]
    refine ⟨final.remaining.map (·.candidate), ?_, hgreedy.picked, ?_⟩
    . constructor
      . exact hperm
      . have hlength :=
          @pickCandidates_length_eq K _ _ A policy noteVectors start hremaining (topK - 1)
        rw [hfinal, ← hstart] at hlength
        rw [hlength, ← hcandidates]
        simp only [startSelection, List.length_map, List.length_cons, List.length_nil]
        omega
      . have hhead := @pickCandidates_head K _ _ A policy noteVectors start (topK - 1) hremaining
          (by simp [← hstart, startSelection])
        rw [hfinal, ← hstart] at hhead
        rw [hhead, ← hcandidates]
        rfl
      . exact (allDecisions_notes hgreedy).trans (hperm.map _)
      . constructor
        . intro i hi
          have ⟨decision, hlookup, hdecided⟩ := lookup_chosen hgreedy hfinalNodup hi
          exact ⟨decision, hlookup, hdecided.selected, hdecided.rank⟩
        . intro scored hscored
          have ⟨decision, hlookup, hselected, _⟩ := lookup_skipped hgreedy hfinalNodup hscored
          exact ⟨decision, hlookup, hselected⟩
    . constructor
      . intro i hi
        have ⟨decision, hlookup, hdecided⟩ := lookup_chosen hgreedy hfinalNodup hi
        exact ⟨decision, hlookup, hdecided.similarity⟩
      . intro scored hscored
        have ⟨decision, hlookup, _, hsimilarity⟩ := lookup_skipped hgreedy hfinalNodup hscored
        exact ⟨decision, hlookup, hsimilarity⟩

/-- Without a weight on the similarity, the selection is that of the plain order. -/
theorem enabled_one [IsStrictOrderedRing K] (hlambda : policy.mmrLambda = 1) (htop : 0 < topK)
    : (selectDiverseResultsEnabled A candidates topK policy noteVectors).1
      = candidates.take topK := by
  have hsorted := relevantCandidates_byRelevance candidates
  have hcandidates := relevantCandidates_candidates candidates
  unfold selectDiverseResultsEnabled
  cases hentries : relevantCandidates candidates with
  | nil =>
    rw [hentries] at hcandidates
    rw [← hcandidates, List.map_nil, List.take_nil]
  | cons first others =>
    rw [hentries] at hsorted hcandidates
    have hothers : ByRelevance others := (List.pairwise_cons.mp hsorted).2
    have hpicks := @pickCandidates_one K _ _ A policy noteVectors
      (startSelection noteVectors first others) hlambda hothers (topK - 1)
    have htake : candidates.take topK
        = first.candidate :: (others.take (topK - 1)).map (·.candidate) := by
      rw [← hcandidates, ← List.map_take]
      cases topK with
      | zero => omega
      | succ k => rfl
    rw [htake]
    exact hpicks

theorem diversity_selection [IsStrictOrderedRing K] (A : Arithmetic K)
    (candidates : List (ScoredChunk K)) (topK : Nat) (policy : ResolvedDiversityPolicy K)
    (noteVectors : NoteMap (List K)) (hnodup : (candidates.map (·.noteId)).Nodup)
    (htop : 0 < topK)
    : let result := selectDiverseResults A candidates topK policy noteVectors
      let plain := selectDiverseResults A candidates topK { policy with enabled := false } noteVectors
      ∃ rest, Selects candidates topK result.2 result.1 rest
        ∧ (policy.enabled →
          PicksGreedily A policy noteVectors candidates result.1
          ∧ RecordsSimilarity A noteVectors result.2 result.1 rest
          ∧ (policy.mmrLambda = 1 → result.1 = plain.1)) := by
  intro result plain
  cases candidates with
  | nil =>
    have hresult : result = ([], []) := rfl
    have hplain : plain = ([], []) := rfl
    rw [hresult, hplain]
    refine ⟨[], ?_, ?_⟩
    . constructor
      . simp
      . simp
      . simp
      . simp
      . constructor
        . simp
        . simp
    . intro _
      refine ⟨?_, ?_, ?_⟩
      . simp [PicksGreedily]
      . constructor
        . simp
        . simp
      . simp
  | cons first others =>
    have hbranch : ¬ ((first :: others).isEmpty ∨ topK = 0) := by
      simp
      omega
    have hplain : plain = selectDiverseResultsDisabled (first :: others) topK noteVectors := by
      unfold plain selectDiverseResults
      rw [if_neg hbranch]
      rfl
    unfold result selectDiverseResults
    rw [if_neg hbranch, hplain]
    cases henabled : policy.enabled with
    | false =>
      refine ⟨(first :: others).drop topK, disabled_selects hnodup htop, ?_⟩
      intro h
      contradiction
    | true =>
      have ⟨rest, hselects, hgreedy, hrecords⟩ := @enabled_selects K _ _ A policy noteVectors
        (first :: others) topK _ hnodup (by simp) htop
      refine ⟨rest, hselects, ?_⟩
      intro _
      refine ⟨hgreedy, hrecords, ?_⟩
      intro hlambda
      have htake := @enabled_one K _ _ A policy noteVectors (first :: others) topK _ hlambda htop
      exact htake

/-! ## Three notes, of which two are alike -/

def sampleScored (noteId : Uuid) (retrievalRank : Nat) : ScoredChunk ℚ where
  item := sampleChunkSnippet noteId noteId 0 retrievalRank
  finalScore := 0
  rerankScore := .fin 0
  rerankRank := 1
  rerankNorm := 0
  retrievalNorm := 0
  blendRetrievalWeight := 0
  retrievalTerm := 0
  rerankTerm := 0
  tieBreakerScore := 0
  scopeContextBoost := 0
  ageDays := 0
  importance := .fin 0
  deterministicLexicalOverlapRatio := 0
  deterministicLexicalBonus := 0
  deterministicHitCount := 0
  deterministicLastHitAgeDays := none
  deterministicHitBoost := 0
  deterministicDecayPenalty := 0

def sampleVectors : NoteMap (List ℚ) := [(1, [1, 0]), (2, [1, 0]), (3, [0, 1])]

theorem diversity_selection_threeNotes
    : let candidates := [sampleScored 1 1, sampleScored 2 2, sampleScored 3 3]
      let result := selectDiverseResults rationalArithmetic candidates 2 ⟨true, 1 / 2⟩ sampleVectors
      result.1.map (·.noteId) = [1, 3]
        ∧ PicksGreedily rationalArithmetic ⟨true, 1 / 2⟩ sampleVectors candidates result.1 := by
  have ⟨_, _, henabled⟩ := diversity_selection rationalArithmetic
    [sampleScored 1 1, sampleScored 2 2, sampleScored 3 3] 2 ⟨true, 1 / 2⟩ sampleVectors
    (by decide) (by decide)
  have ⟨hgreedy, _, _⟩ := henabled rfl
  exact ⟨by decide +kernel, hgreedy⟩

end Elf
