import Elf.Evidence.Recall
import Mathlib.Data.List.Nodup

/-!
This module contains what the selection of a recall is: first the rows that each refer to a document
none of the rows before them refers to, then the earliest of the others.
-/

namespace Elf

variable {rows : List RecallRow} {limit : Nat} {selected indices : List Nat}

/-- The row with the index refers to the document. -/
def Refers (rows : List RecallRow) (index : Nat) (id : String) : Prop :=
  ∃ row, rows[index]? = some row ∧ id ∈ sourceIds row.sourceRef

/-- The row refers to a document that none of the rows before it refers to. -/
def CoversNew (rows : List RecallRow) (before : List Nat) (index : Nat) : Prop :=
  ∃ id, Refers rows index id ∧ ∀ i ∈ before, ¬ Refers rows i id

/-! ## First pass -/

/-- Rows selected among the first `k`, each for a document of its own. -/
structure Picks (rows : List RecallRow) (k : Nat) (selected : List Nat) : Prop where
  lt : ∀ i ∈ selected, i < k
  sorted : selected.Pairwise (· < ·)
  coversNew : ∀ before i behind, selected = before ++ i :: behind → CoversNew rows before i

/-- The state of the pass behind the first `k` rows. -/
structure Passed (rows : List RecallRow) (limit k : Nat) (covered : List String)
    (selected : List Nat) : Prop where
  picks : Picks rows k selected
  mem_covered : ∀ id, id ∈ covered ↔ ∃ i ∈ selected, Refers rows i id
  complete : ∀ i < k, ∀ id, Refers rows i id → id ∈ covered
  room : selected.length < limit

theorem Picks.concat {k : Nat} (h : Picks rows k selected) (hnew : CoversNew rows selected k)
    : Picks rows (k + 1) (selected ++ [k]) := by
  constructor
  . intro i hi
    rw [List.mem_append, List.mem_singleton] at hi
    cases hi with
    | inl hi =>
      have := h.lt i hi
      omega
    | inr heq => omega
  . rw [List.pairwise_append]
    refine ⟨h.sorted, List.pairwise_singleton _ _, ?_⟩
    intro i hi j hj
    rw [List.mem_singleton] at hj
    have := h.lt i hi
    omega
  . intro before i behind hsplit
    cases behind using List.reverseRecOn with
    | nil =>
      have heq := List.append_inj' hsplit rfl
      rw [← heq.1, ← (List.cons.inj heq.2).1]
      exact hnew
    | append_singleton behind last =>
      rw [← List.cons_append, ← List.append_assoc] at hsplit
      exact h.coversNew before i behind (List.append_inj' hsplit rfl).1

variable {k : Nat} {covered : List String}

theorem Picks.mono (h : Picks rows k selected) {n : Nat} (hle : k ≤ n) : Picks rows n selected := by
  refine ⟨?_, h.sorted, h.coversNew⟩
  intro i hi
  have := h.lt i hi
  omega

theorem Passed.skip {row : RecallRow} (h : Passed rows limit k covered selected)
    (hrow : rows[k]? = some row) (hids : ∀ id ∈ sourceIds row.sourceRef, id ∈ covered)
    : Passed rows limit (k + 1) covered selected := by
  refine ⟨h.picks.mono (Nat.le_succ k), h.mem_covered, ?_, h.room⟩
  intro i hi id hrefers
  rcases Nat.lt_succ_iff_lt_or_eq.mp hi with hlt | heq
  . exact h.complete i hlt id hrefers
  . rcases hrefers with ⟨row', hrow', hid⟩
    rw [heq, hrow] at hrow'
    cases hrow'
    exact hids id hid

theorem Passed.select {row : RecallRow} (h : Passed rows limit k covered selected)
    (hrow : rows[k]? = some row) (hroom : (selected ++ [k]).length < limit)
    (hnew : CoversNew rows selected k)
    : Passed rows limit (k + 1) (covered ++ sourceIds row.sourceRef) (selected ++ [k]) := by
  refine ⟨h.picks.concat hnew, ?_, ?_, hroom⟩
  . intro id
    rw [List.mem_append, h.mem_covered]
    constructor
    . intro hid
      cases hid with
      | inl hid =>
        rcases hid with ⟨i, hi, hrefers⟩
        exact ⟨i, List.mem_append_left _ hi, hrefers⟩
      | inr hid => exact ⟨k, by simp, row, hrow, hid⟩
    . intro hid
      rcases hid with ⟨i, hi, hrefers⟩
      rw [List.mem_append, List.mem_singleton] at hi
      cases hi with
      | inl hi => exact Or.inl ⟨i, hi, hrefers⟩
      | inr heq =>
        rcases hrefers with ⟨row', hrow', hid⟩
        rw [heq, hrow] at hrow'
        cases hrow'
        exact Or.inr hid
  . intro i hi id hrefers
    rw [List.mem_append]
    rcases Nat.lt_succ_iff_lt_or_eq.mp hi with hlt | heq
    . exact Or.inl (h.complete i hlt id hrefers)
    . rcases hrefers with ⟨row', hrow', hid⟩
      rw [heq, hrow] at hrow'
      cases hrow'
      exact Or.inr hid

theorem Passed.coversNew {row : RecallRow} (h : Passed rows limit k covered selected)
    (hrow : rows[k]? = some row) (hnew : ¬ ∀ id ∈ sourceIds row.sourceRef, id ∈ covered)
    : CoversNew rows selected k := by
  simp only [not_forall] at hnew
  rcases hnew with ⟨id, hid, hcovered⟩
  refine ⟨id, ⟨row, hrow, hid⟩, ?_⟩
  intro i hi hrefers
  exact hcovered ((h.mem_covered id).mpr ⟨i, hi, hrefers⟩)

/-- What the pass returns: as many rows as the limit allows, or all that cover something new. -/
structure PassReturns (rows : List RecallRow) (limit : Nat) (result : List Nat × Bool) : Prop where
  picks : Picks rows rows.length result.1
  full : result.2 = true → result.1.length = limit
  ended : result.2 = false → ∃ covered, Passed rows limit rows.length covered result.1

theorem selectCovering_returns {done rest : List RecallRow} (hrows : rows = done ++ rest)
    (h : Passed rows limit done.length covered selected)
    : PassReturns rows limit (selectCovering limit covered selected (rest.zipIdx done.length)) := by
  induction rest generalizing done covered selected with
  | nil =>
    have hend : done.length = rows.length := by rw [hrows, List.append_nil]
    rw [hend] at h
    exact ⟨h.picks, fun hfull => absurd hfull (by simp [selectCovering]), fun _ => ⟨covered, h⟩⟩
  | cons row rest ih =>
    have hrow : rows[done.length]? = some row := by
      rw [hrows]
      simp
    have hnext : rows = (done ++ [row]) ++ rest := by
      rw [hrows, List.append_assoc, List.singleton_append]
    have hlength : (done ++ [row]).length = done.length + 1 := by
      rw [List.length_append, List.length_singleton]
    rw [List.zipIdx_cons]
    unfold selectCovering
    simp only
    split
    next hnew =>
      have hcovers : CoversNew rows selected done.length := by
        apply h.coversNew hrow
        intro hall
        simp only [Bool.and_eq_true, Bool.not_eq_true'] at hnew
        have : ((sourceIds row.sourceRef).all fun id => covered.contains id) = true := by
          simpa using hall
        rw [this] at hnew
        exact absurd hnew.2 (by simp)
      have hroom := h.room
      have hsucc : (selected ++ [done.length]).length = selected.length + 1 := by
        rw [List.length_append, List.length_singleton]
      split
      next hfull =>
        refine ⟨?_, fun _ => hfull, fun hended => absurd hended (by simp)⟩
        apply (h.picks.concat hcovers).mono
        rw [hrows]
        simp
      next hmore =>
        rw [← hlength]
        apply ih hnext
        rw [hlength]
        exact h.select hrow (by omega) hcovers
    next hold =>
      rw [← hlength]
      apply ih hnext
      rw [hlength]
      apply h.skip hrow
      intro id hid
      simp only [Bool.and_eq_true, Bool.not_eq_true', not_and_or] at hold
      cases hold with
      | inl hempty =>
        have : sourceIds row.sourceRef = [] := by simpa using hempty
        rw [this] at hid
        contradiction
      | inr hall =>
        have hall : ∀ id ∈ sourceIds row.sourceRef, id ∈ covered := by simpa using hall
        exact hall id hid

/-! ## Second pass -/

/-- The second pass takes the first indices that are not selected, as many as there is room for. -/
theorem selectRemaining_eq (hroom : selected.length < limit) (hnodup : indices.Nodup)
    : selectRemaining limit selected indices
        = selected ++ (indices.filter fun i => !selected.contains i).take (limit - selected.length) := by
  induction indices generalizing selected with
  | nil => simp [selectRemaining]
  | cons index indices ih =>
    rw [List.nodup_cons] at hnodup
    unfold selectRemaining
    by_cases hselected : selected.contains index
    . simp only [hselected, if_true, if_neg (Nat.ne_of_lt hroom)]
      rw [ih hroom hnodup.2, List.filter_cons_of_neg (by simpa using hselected)]
    . have hlength : (selected ++ [index]).length = selected.length + 1 := by
        rw [List.length_append, List.length_singleton]
      have hrest : (indices.filter fun i => !(selected ++ [index]).contains i)
          = indices.filter fun i => !selected.contains i := by
        apply List.filter_congr
        intro i hi
        have hne : i ≠ index := by
          intro heq
          rw [heq] at hi
          exact hnodup.1 hi
        simp [hne]
      have htake : limit - selected.length = (limit - (selected.length + 1)) + 1 := by omega
      rw [List.filter_cons_of_pos (by simpa using hselected), htake, List.take_succ_cons]
      simp only [if_neg hselected]
      split
      next hfull =>
        have hzero : limit - (selected.length + 1) = 0 := by omega
        rw [hzero, List.take_zero]
      next hmore =>
        rw [ih (by omega) hnodup.2, hrest, hlength, List.append_assoc, List.singleton_append]

/-! ## Selection -/

/-- The rows that the first pass selects. -/
def firstPass (rows : List RecallRow) (limit : Nat) : List Nat :=
  (selectCovering limit [] [] rows.zipIdx).1

/-- The selection is the first pass and, when there is room, the earliest of the other rows. -/
structure SourceDiverse (rows : List RecallRow) (limit : Nat) (selected : List Nat) : Prop where
  nodup : selected.Nodup
  lt : ∀ i ∈ selected, i < rows.length
  length : selected.length = min limit rows.length
  coversNew : ∀ before i behind, firstPass rows limit = before ++ i :: behind →
    CoversNew rows before i
  coversAll : (firstPass rows limit).length < limit → ∀ i < rows.length, ∀ id, Refers rows i id →
    ∃ j ∈ firstPass rows limit, Refers rows j id
  remaining : ∃ remaining, selected = firstPass rows limit ++ remaining
    ∧ remaining.Pairwise (· < ·)
    ∧ ∀ i < rows.length, i ∉ selected → ∀ j ∈ remaining, j < i

theorem passed_nil (hlimit : 1 ≤ limit) : Passed rows limit 0 [] [] := by
  refine ⟨⟨?_, List.Pairwise.nil, ?_⟩, ?_, ?_, ?_⟩
  . intro i hi
    contradiction
  . intro before i behind hsplit
    simp at hsplit
  . intro id
    simp
  . intro i hi
    omega
  . exact hlimit

theorem length_filter_range {n : Nat} (hnodup : selected.Nodup) (hlt : ∀ i ∈ selected, i < n)
    : ((List.range n).filter fun i => !selected.contains i).length = n - selected.length := by
  have hperm : ((List.range n).filter fun i => selected.contains i).Perm selected := by
    apply (List.perm_ext_iff_of_nodup (List.nodup_range.filter _) hnodup).mpr
    intro i
    rw [List.mem_filter, List.mem_range, List.contains_iff_mem]
    constructor
    . intro h
      exact h.2
    . intro h
      exact ⟨hlt i h, h⟩
  have hlength := List.length_eq_length_filter_add (l := List.range n) fun i => selected.contains i
  rw [hperm.length_eq, List.length_range] at hlength
  omega

/-- The earliest members of an increasing list come before the others. -/
theorem lt_of_mem_take {l : List Nat} {n i j : Nat} (hsorted : l.Pairwise (· < ·)) (hi : i ∈ l)
    (hnot : i ∉ l.take n) (hj : j ∈ l.take n) : j < i := by
  rw [← List.take_append_drop n l, List.pairwise_append] at hsorted
  rw [← List.take_append_drop n l, List.mem_append] at hi
  cases hi with
  | inl hi => contradiction
  | inr hi => exact hsorted.2.2 j hj i hi

/-- A selection of at least one row covers as many documents as its order allows. -/
theorem selectSourceDiverse_sourceDiverse (hlimit : 1 ≤ limit)
    : SourceDiverse rows limit (selectSourceDiverse rows limit) := by
  have hreturns := @selectCovering_returns rows limit [] [] [] rows rfl (passed_nil hlimit)
  rw [List.length_nil] at hreturns
  have hpicks := hreturns.picks
  have hfirst : (selectCovering limit [] [] rows.zipIdx).1 = firstPass rows limit := rfl
  rw [hfirst] at hpicks
  have hpicksNodup : (firstPass rows limit).Nodup := hpicks.sorted.imp fun h => Nat.ne_of_lt h
  have hle : (firstPass rows limit).length ≤ rows.length := by
    have hsubset : firstPass rows limit ⊆ List.range rows.length :=
      fun i hi => List.mem_range.mpr (hpicks.lt i hi)
    have := hpicksNodup.length_le_of_subset hsubset
    rwa [List.length_range] at this
  unfold selectSourceDiverse
  simp only [hfirst]
  split
  next hfull =>
    have hlength := hreturns.full hfull
    rw [hfirst] at hlength
    refine ⟨hpicksNodup, hpicks.lt, by omega, hpicks.coversNew, by omega, [], ?_,
      List.Pairwise.nil, ?_⟩
    . rw [List.append_nil]
    . intro i hi hnot j hj
      contradiction
  next hended =>
    rcases hreturns.ended (by simpa using hended) with ⟨covered, hpassed⟩
    rw [hfirst] at hpassed
    have hroom := hpassed.room
    rw [selectRemaining_eq hroom List.nodup_range]
    have hcount := length_filter_range hpicksNodup hpicks.lt
    have hmem : ∀ i, (i ∈ (List.range rows.length).filter fun i => !(firstPass rows limit).contains i)
        ↔ i < rows.length ∧ i ∉ firstPass rows limit := by
      intro i
      simp
    have hsorted : ((List.range rows.length).filter fun i =>
        !(firstPass rows limit).contains i).Pairwise (· < ·) :=
      List.pairwise_lt_range.filter _
    generalize ((List.range rows.length).filter fun i => !(firstPass rows limit).contains i)
      = others at hcount hmem hsorted
    refine ⟨?_, ?_, ?_, hpicks.coversNew, ?_, _, rfl, ?_, ?_⟩
    . rw [List.nodup_append]
      refine ⟨hpicksNodup, (hsorted.imp fun h => Nat.ne_of_lt h).sublist (List.take_sublist ..), ?_⟩
      intro i hi j hj heq
      rw [heq] at hi
      exact ((hmem j).mp (List.mem_of_mem_take hj)).2 hi
    . intro i hi
      rw [List.mem_append] at hi
      cases hi with
      | inl hi => exact hpicks.lt i hi
      | inr hi => exact ((hmem i).mp (List.mem_of_mem_take hi)).1
    . rw [List.length_append, List.length_take, hcount]
      omega
    . intro _ i hi id hrefers
      exact (hpassed.mem_covered id).mp (hpassed.complete i hi id hrefers)
    . exact hsorted.sublist (List.take_sublist ..)
    . intro i hi hnot j hj
      rw [List.mem_append, not_or] at hnot
      exact lt_of_mem_take hsorted ((hmem i).mpr ⟨hi, hnot.1⟩) hnot.2 hj

def recallRowOf (ids : List String) : RecallRow := {
  noteId := 1
  lexicalMatch := true
  entityIds := []
  sourceRef := .obj [("evidence", .arr (ids.map fun id =>
    .obj [("source", .obj [("document", .obj [("ref", .obj [("doc_id", .str id)])])])]))] }

theorem selectSourceDiverse_sourceDiverse_later
    : selectSourceDiverse [recallRowOf ["a"], recallRowOf ["a"], recallRowOf ["b", "a"]] 2 = [0, 2]
      ∧ SourceDiverse [recallRowOf ["a"], recallRowOf ["a"], recallRowOf ["b", "a"]] 2
          (selectSourceDiverse [recallRowOf ["a"], recallRowOf ["a"], recallRowOf ["b", "a"]] 2) :=
  ⟨by decide +kernel, selectSourceDiverse_sourceDiverse (by decide)⟩

end Elf
