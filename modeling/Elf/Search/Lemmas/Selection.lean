import Elf.Lib.Lookup
import Elf.Search.Replay
import Mathlib.Data.List.Perm.Basic

/-!
This module contains what the two selections of a ranking keep: the best chunk of each note, and the
diverse results among them.
-/

namespace Elf

open Lookup

/-! ## The best chunk of each note -/

section Best

variable {α β : Type} {noteId : α → Uuid} {better : α → α → Bool}

theorem mem_of_mem_insertBest {item x : α} {best : List α}
    (h : x ∈ insertBest noteId better item best) : x = item ∨ x ∈ best := by
  induction best with
  | nil =>
    left
    simpa [insertBest] using h
  | cons existing rest ih =>
    unfold insertBest at h
    split at h
    . rw [List.mem_cons] at h
      cases h with
      | inl heq =>
        rw [heq]
        split
        . left
          rfl
        . right
          apply List.mem_cons_self
      | inr hmem =>
        right
        exact List.mem_cons_of_mem _ hmem
    . rw [List.mem_cons] at h
      cases h with
      | inl heq =>
        right
        rw [heq]
        apply List.mem_cons_self
      | inr hmem =>
        cases ih hmem with
        | inl heq => exact Or.inl heq
        | inr hrest => exact Or.inr (List.mem_cons_of_mem _ hrest)

theorem mem_of_mem_foldl_insertBest {items best : List α} {x : α}
    (h : x ∈ items.foldl (fun best item => insertBest noteId better item best) best)
    : x ∈ best ∨ x ∈ items := by
  induction items generalizing best with
  | nil => exact Or.inl h
  | cons item rest ih =>
    cases ih h with
    | inl hbest =>
      cases mem_of_mem_insertBest hbest with
      | inl heq =>
        right
        rw [heq]
        apply List.mem_cons_self
      | inr hmem => exact Or.inl hmem
    | inr hrest => exact Or.inr (List.mem_cons_of_mem _ hrest)

theorem bestByNote_subset {items : List α} {x : α} (h : x ∈ bestByNote noteId better items)
    : x ∈ items := by
  cases mem_of_mem_foldl_insertBest h with
  | inl hmem => cases hmem
  | inr hmem => exact hmem

theorem insertBest_notes (item : α) (best : List α)
    : (insertBest noteId better item best).map noteId
        = if noteId item ∈ best.map noteId then best.map noteId
          else best.map noteId ++ [noteId item] := by
  induction best with
  | nil => rfl
  | cons existing rest ih =>
    unfold insertBest
    by_cases hnote : noteId existing = noteId item
    . have hmem : noteId item ∈ (existing :: rest).map noteId := by simp [hnote]
      rw [if_pos hnote]
      rw [if_pos hmem]
      cases better item existing with
      | true => simp [hnote]
      | false => simp
    . rw [if_neg hnote]
      rw [List.map_cons, ih]
      have hne : noteId item ≠ noteId existing := fun h => hnote h.symm
      simp only [List.map_cons, List.mem_cons, hne, false_or]
      split
      . rfl
      . rfl

theorem bestByNote_notes_nodup (items : List α)
    : ((bestByNote noteId better items).map noteId).Nodup := by
  unfold bestByNote
  have hgen : ∀ best : List α, (best.map noteId).Nodup →
      ((items.foldl (fun best item => insertBest noteId better item best) best).map
        noteId).Nodup := by
    induction items with
    | nil =>
      intro best h
      exact h
    | cons item rest ih =>
      intro best h
      apply ih
      rw [insertBest_notes]
      split
      . exact h
      . next hnew =>
        rw [List.nodup_append]
        refine ⟨h, List.nodup_singleton _, ?_⟩
        intro x hx y hy
        rw [List.mem_singleton] at hy
        rw [hy]
        intro heq
        rw [heq] at hx
        exact hnew hx
  exact hgen [] List.nodup_nil

variable {noteId' : β → Uuid} {better' : β → β → Bool} {f : α → β}

theorem insertBest_map (hnote : ∀ x, noteId' (f x) = noteId x) {item : α} {best : List α}
    (hbetter : ∀ existing ∈ best, better' (f item) (f existing) = better item existing)
    : (insertBest noteId better item best).map f
        = insertBest noteId' better' (f item) (best.map f) := by
  induction best with
  | nil => rfl
  | cons existing rest ih =>
    simp only [insertBest, List.map_cons, hnote]
    rw [hbetter existing List.mem_cons_self]
    split
    . split
      . rfl
      . rfl
    . rw [List.map_cons]
      rw [ih (fun x hx => hbetter x (List.mem_cons_of_mem _ hx))]

/-- Two ways to choose agree when they agree on an item and the items before it. -/
theorem bestByNote_map (hnote : ∀ x, noteId' (f x) = noteId x) {items : List α}
    (hbetter : items.Pairwise fun existing item =>
      better' (f item) (f existing) = better item existing)
    : (bestByNote noteId better items).map f = bestByNote noteId' better' (items.map f) := by
  unfold bestByNote
  have hgen : ∀ best : List α,
      (∀ existing ∈ best, ∀ item ∈ items,
        better' (f item) (f existing) = better item existing) →
      (items.foldl (fun best item => insertBest noteId better item best) best).map f
        = (items.map f).foldl (fun best item => insertBest noteId' better' item best)
            (best.map f) := by
    induction items with
    | nil =>
      intro best _
      rfl
    | cons item rest ih =>
      intro best hbest
      rw [List.pairwise_cons] at hbetter
      rw [List.map_cons, List.foldl_cons, List.foldl_cons]
      rw [ih hbetter.2]
      . rw [insertBest_map hnote]
        intro existing hexisting
        exact hbest existing hexisting item List.mem_cons_self
      . intro existing hexisting x hx
        cases mem_of_mem_insertBest hexisting with
        | inl heq =>
          rw [heq]
          exact hbetter.1 x hx
        | inr hmem => exact hbest existing hmem x (List.mem_cons_of_mem _ hx)
  exact hgen [] (fun _ h => absurd h List.not_mem_nil)

end Best

/-! ## The diverse results -/

variable {K : Type} [Field K] [LinearOrder K] {A : Arithmetic K}
  {policy : ResolvedDiversityPolicy K} {noteVectors : NoteMap (List K)}

/-- The candidates that a selection has chosen, and then those it has left. -/
def SelectionState.candidates (state : SelectionState K) : List (ScoredChunk K) :=
  state.selected ++ state.remaining.map (·.candidate)

theorem pickCandidates_perm (turns : Nat) (state : SelectionState K)
    : (pickCandidates A policy noteVectors turns state).candidates.Perm state.candidates := by
  induction turns generalizing state with
  | zero => exact List.Perm.refl _
  | succ turns ih =>
    unfold pickCandidates
    split
    . exact List.Perm.refl _
    . split
      . exact List.Perm.refl _
      . next picked hpicked =>
        apply List.Perm.trans (ih _)
        unfold SelectionState.candidates
        rw [List.append_assoc]
        apply List.Perm.append_left
        rw [List.singleton_append, ← List.map_cons]
        apply List.Perm.map
        have ⟨hlt, heq⟩ := List.getElem?_eq_some_iff.mp hpicked
        rw [← heq]
        exact List.getElem_cons_eraseIdx_perm hlt

theorem relevantCandidates_candidates (candidates : List (ScoredChunk K))
    : (relevantCandidates candidates).map (·.candidate) = candidates := by
  simp [relevantCandidates, Function.comp_def]

theorem selectDiverseResultsEnabled_subset {candidates : List (ScoredChunk K)} {topK : Nat}
    {scored : ScoredChunk K}
    (h : scored ∈ (selectDiverseResultsEnabled A candidates topK policy noteVectors).1)
    : scored ∈ candidates := by
  have hcandidates := relevantCandidates_candidates candidates
  unfold selectDiverseResultsEnabled at h
  split at h
  . cases h
  . next first rest hcons =>
    rw [hcons] at hcandidates
    rw [← hcandidates]
    exact (pickCandidates_perm _ _).mem_iff.mp (List.mem_append_left _ h :)

theorem selectDiverseResults_subset {candidates : List (ScoredChunk K)} {topK : Nat}
    {scored : ScoredChunk K}
    (h : scored ∈ (selectDiverseResults A candidates topK policy noteVectors).1)
    : scored ∈ candidates := by
  unfold selectDiverseResults at h
  split at h
  . cases h
  . split at h
    . exact List.mem_of_mem_take h
    . apply selectDiverseResultsEnabled_subset h

omit [Field K] in
theorem selectBestScoredChunks_subset {scored : List (ScoredChunk K)} {chunk : ScoredChunk K}
    (h : chunk ∈ selectBestScoredChunks scored) : chunk ∈ scored := by
  unfold selectBestScoredChunks at h
  rw [Sorting.mem_sortBy] at h
  exact bestByNote_subset h

omit [Field K] in
theorem bestScoredReplays_subset {scored : List (ScoredReplay K)} {replay : ScoredReplay K}
    (h : replay ∈ bestScoredReplays scored) : replay ∈ scored := by
  unfold bestScoredReplays at h
  rw [Sorting.mem_sortBy, Sorting.mem_sortBy] at h
  exact bestByNote_subset h

omit [Field K] [LinearOrder K] in
theorem applyReplayDiversitySelection_subset {results : List (ScoredReplay K)} {topK : Nat}
    {enabled : Bool} {decisions : NoteMap (DiversityDecision K)} {replay : ScoredReplay K}
    (h : replay ∈ applyReplayDiversitySelection results topK enabled decisions)
    : replay ∈ results := by
  unfold applyReplayDiversitySelection at h
  have h := List.mem_of_mem_take h
  split at h
  . dsimp only at h
    split at h
    . exact h
    . rw [Sorting.mem_sortBy] at h
      exact (List.mem_filter.mp h).1
  . exact h

/-- The decisions so far give the selected candidates their ranks. -/
def SelectionState.Ranked (state : SelectionState K) : Prop :=
  ∀ i (h : i < state.selected.length), ∃ decision,
    state.decisions.lookup (state.selected[i]).noteId = some decision
      ∧ decision.selected = true ∧ decision.selectedRank = some (i + 1)

theorem pickCandidates_ranked {turns : Nat} {state : SelectionState K}
    (hnodup : (state.candidates.map (·.noteId)).Nodup) (hranked : state.Ranked)
    : (pickCandidates A policy noteVectors turns state).Ranked := by
  induction turns generalizing state with
  | zero => exact hranked
  | succ turns ih =>
    have hperm : (pickCandidates A policy noteVectors 1 state).candidates.Perm state.candidates :=
      pickCandidates_perm 1 state
    unfold pickCandidates at hperm ⊢
    split
    . exact hranked
    . next pick hpick =>
      simp only [hpick] at hperm
      split
      . exact hranked
      . next picked hpicked =>
        simp only [hpicked, pickCandidates] at hperm
        have hnotes := hperm.map (·.noteId)
        have hnodup' := hnotes.nodup_iff.mpr hnodup
        apply ih hnodup'
        intro i hi
        rw [List.length_append, List.length_singleton] at hi
        by_cases hlast : i = state.selected.length
        . subst hlast
          simp [RelevantCandidate.noteId, ScoredChunk.noteId]
        . have hlt : i < state.selected.length := by omega
          have ⟨decision, hlookup, hdecision⟩ := hranked i hlt
          have hne : (state.selected[i]).noteId ≠ picked.noteId := by
            intro heq
            simp only [SelectionState.candidates, List.map_append, List.append_assoc] at hnodup'
            rw [List.nodup_append] at hnodup'
            apply hnodup'.2.2 (state.selected[i]).noteId _ picked.noteId _ heq
            . exact List.mem_map_of_mem (List.getElem_mem hlt)
            . simp [RelevantCandidate.noteId, ScoredChunk.noteId]
          refine ⟨decision, ?_, hdecision⟩
          simp only [List.getElem_append_left hlt]
          rw [List.lookup_cons]
          have hbeq : ((state.selected[i]).noteId == picked.noteId) = false := by
            simpa using hne
          simp only [hbeq]
          exact hlookup

theorem pickCandidates_length (turns : Nat) (state : SelectionState K)
    : (pickCandidates A policy noteVectors turns state).selected.length
        ≤ state.selected.length + turns := by
  induction turns generalizing state with
  | zero => exact Nat.le_refl _
  | succ turns ih =>
    unfold pickCandidates
    split
    . omega
    . split
      . omega
      . next picked _ =>
        apply Nat.le_trans (ih _)
        rw [List.length_append, List.length_singleton]
        omega

theorem pickCandidates_ne_nil {turns : Nat} {state : SelectionState K}
    (h : state.selected ≠ []) : (pickCandidates A policy noteVectors turns state).selected ≠ [] := by
  induction turns generalizing state with
  | zero => exact h
  | succ turns ih =>
    unfold pickCandidates
    split
    . exact h
    . split
      . exact h
      . apply ih
        simp

/-- The decisions about some candidates, of which the selected are in their order. -/
structure Decides (decisions : NoteMap (DiversityDecision K)) (selected rest : List (ScoredChunk K))
    : Prop where
  ranked : ∀ i (h : i < selected.length), ∃ decision,
    decisions.lookup (selected[i]).noteId = some decision
      ∧ decision.selected = true ∧ decision.selectedRank = some (i + 1)
  skipped : ∀ scored ∈ rest, ∃ decision,
    decisions.lookup scored.noteId = some decision ∧ decision.selected = false

/-- What a selection that is enabled returns. -/
theorem selectDiverseResultsEnabled_decides {candidates : List (ScoredChunk K)} {topK : Nat}
    (hnodup : (candidates.map (·.noteId)).Nodup) (hne : candidates ≠ []) (htop : 0 < topK)
    : ∃ rest,
        ((selectDiverseResultsEnabled A candidates topK policy noteVectors).1 ++ rest).Perm
          candidates
        ∧ (selectDiverseResultsEnabled A candidates topK policy noteVectors).1 ≠ []
        ∧ (selectDiverseResultsEnabled A candidates topK policy noteVectors).1.length ≤ topK
        ∧ Decides (selectDiverseResultsEnabled A candidates topK policy noteVectors).2
          (selectDiverseResultsEnabled A candidates topK policy noteVectors).1 rest := by
  have hcandidates := relevantCandidates_candidates candidates
  unfold selectDiverseResultsEnabled
  split
  . next hempty =>
    rw [hempty] at hcandidates
    exact absurd hcandidates.symm hne
  . next first rest hcons =>
    rw [hcons] at hcandidates
    generalize hstart : SelectionState.mk [first.candidate] rest
      [topRelevanceDecision noteVectors first] = start
    have hstartCandidates : start.candidates = candidates := by
      rw [← hstart, ← hcandidates]
      rfl
    have hstartRanked : start.Ranked := by
      rw [← hstart]
      intro i hi
      simp only [List.length_singleton] at hi
      have hzero : i = 0 := by omega
      subst hzero
      simp [topRelevanceDecision, RelevantCandidate.noteId, ScoredChunk.noteId]
    generalize hfinal : pickCandidates A policy noteVectors (topK - 1) start = final
    have hperm : final.candidates.Perm candidates := by
      rw [← hfinal, ← hstartCandidates]
      apply pickCandidates_perm
    have hranked : final.Ranked := by
      rw [← hfinal]
      apply pickCandidates_ranked _ hstartRanked
      rw [hstartCandidates]
      exact hnodup
    have hfinalNodup := (hperm.map (·.noteId)).nodup_iff.mpr hnodup
    simp only [SelectionState.candidates, List.map_append, List.nodup_append] at hfinalNodup
    have hskippedNotes : ((final.remaining.map (skippedDecision A policy noteVectors
        final.selected)).reverse.map Prod.fst) = (final.remaining.map (·.noteId)).reverse := by
      simp [skippedDecision, Function.comp_def]
    dsimp only
    refine ⟨final.remaining.map RelevantCandidate.candidate, hperm, ?_, ?_, ?_, ?_⟩
    . rw [← hfinal, ← hstart]
      apply pickCandidates_ne_nil
      simp
    . have hlength : (pickCandidates A policy noteVectors (topK - 1) start).selected.length
          ≤ start.selected.length + (topK - 1) := pickCandidates_length _ _
      rw [hfinal] at hlength
      rw [← hstart] at hlength
      simp only [List.length_singleton] at hlength
      omega
    . intro i hi
      have ⟨decision, hlookup, hdecision⟩ := hranked i hi
      refine ⟨decision, ?_, hdecision⟩
      rw [← hlookup]
      apply lookup_append_of_not_mem
      rw [hskippedNotes, List.mem_reverse]
      intro hmem
      have ⟨entry, hentry, heq⟩ := List.mem_map.mp hmem
      apply hfinalNodup.2.2 (final.selected[i]).noteId _ entry.noteId _ heq.symm
      . exact List.mem_map_of_mem (List.getElem_mem hi)
      . simp only [List.map_map]
        exact List.mem_map_of_mem hentry
    . intro scored hscored
      have ⟨entry, hentry, heq⟩ := List.mem_map.mp hscored
      have hmem : scored.noteId ∈ (final.remaining.map (skippedDecision A policy noteVectors
          final.selected)).reverse.map Prod.fst := by
        rw [hskippedNotes, List.mem_reverse, ← heq]
        exact List.mem_map_of_mem hentry
      have ⟨found, hfound, hlookup⟩ := lookup_isSome_of_mem hmem
      rw [List.mem_reverse] at hfound
      have ⟨source, _, hsource⟩ := List.mem_map.mp hfound
      refine ⟨found.2, ?_, ?_⟩
      . rw [List.lookup_append, hlookup]
        rfl
      . rw [← hsource]
        rfl

end Elf
