import Mathlib.Data.List.Chain
import Mathlib.Data.List.Range

/-!
This module contains the windows of a size that cover a number of items from the first to the last,
where a window starts again with the last items of the one before it.
-/

namespace Windows

variable {n size overlap k : Nat} {windows : List (Nat × Nat)}

/-- The windows cover the items in order, and share as many of them as they should. -/
structure Tiles (n size overlap : Nat) (windows : List (Nat × Nat)) : Prop where
  inside : ∀ w ∈ windows, w.1 < w.2 ∧ w.2 ≤ n
  size : ∀ w ∈ windows, w.2 - w.1 ≤ size
  covers : ∀ item < n, ∃ w ∈ windows, w.1 ≤ item ∧ item < w.2
  shares : windows.IsChain fun w w' => w.1 < w'.1 ∧ w'.1 + overlap = w.2 ∧ w.2 < w'.2

/-- How many windows it takes. -/
def count (n size overlap : Nat) : Nat :=
  if n = 0 then 0 else (n - size + (size - overlap - 1)) / (size - overlap) + 1

def window (n size overlap k : Nat) : Nat × Nat :=
  (k * (size - overlap), min (k * (size - overlap) + size) n)

/-- The windows behind the first `k`. -/
def windowsFrom (n size overlap k : Nat) : List (Nat × Nat) :=
  (List.range' k (count n size overlap - k)).map (window n size overlap)

theorem succ_lt_count (hn : 0 < n) (h : overlap < size)
    : k + 1 < count n size overlap ↔ k * (size - overlap) + size < n := by
  unfold count
  rw [if_neg (by omega), Nat.add_lt_add_iff_right, ← Nat.succ_le_iff,
    Nat.le_div_iff_mul_le (by omega), Nat.succ_mul]
  generalize k * (size - overlap) = start
  omega

theorem count_pos (hn : 0 < n) : 0 < count n size overlap := by
  unfold count
  rw [if_neg (by omega)]
  exact Nat.succ_pos _

theorem windowsFrom_last (hlast : k + 1 = count n size overlap)
    : windowsFrom n size overlap k = [window n size overlap k] := by
  unfold windowsFrom
  rw [← hlast, Nat.add_sub_cancel_left]
  rfl

theorem windowsFrom_cons (hlt : k + 1 < count n size overlap)
    : windowsFrom n size overlap k
        = window n size overlap k :: windowsFrom n size overlap (k + 1) := by
  unfold windowsFrom
  have hlength : count n size overlap - k = (count n size overlap - (k + 1)) + 1 := by omega
  rw [hlength, List.range'_succ, List.map_cons]

theorem mem_windowsFrom_zero {w : Nat × Nat}
    : w ∈ windowsFrom n size overlap 0
        ↔ ∃ k < count n size overlap, window n size overlap k = w := by
  unfold windowsFrom
  simp

theorem length_windowsFrom_zero
    : (windowsFrom n size overlap 0).length = count n size overlap := by
  simp [windowsFrom]

/-- A window starts at an item. -/
theorem start_lt (h : overlap < size) (hk : k < count n size overlap)
    : k * (size - overlap) < n := by
  have hn : 0 < n := by
    apply Nat.pos_of_ne_zero
    intro hzero
    rw [hzero] at hk
    simp [count] at hk
  cases k with
  | zero => omega
  | succ k =>
    have := (succ_lt_count hn h).mp hk
    rw [Nat.succ_mul]
    omega

theorem tiles_windowsFrom (h : overlap < size) : Tiles n size overlap (windowsFrom n size overlap 0) := by
  constructor
  . intro w hw
    rcases mem_windowsFrom_zero.mp hw with ⟨k, hk, hwindow⟩
    have hstart := start_lt h hk
    rw [← hwindow]
    unfold window
    omega
  . intro w hw
    rcases mem_windowsFrom_zero.mp hw with ⟨k, -, hwindow⟩
    rw [← hwindow]
    unfold window
    omega
  . intro item hitem
    have hpos := @count_pos n size overlap (by omega)
    have hbelow := Nat.div_mul_le_self item (size - overlap)
    rcases Nat.lt_or_ge (item / (size - overlap)) (count n size overlap) with hlt | hge
    . refine ⟨_, mem_windowsFrom_zero.mpr ⟨_, hlt, rfl⟩, hbelow, ?_⟩
      have habove := Nat.lt_div_mul_add (a := item) (b := size - overlap) (by omega)
      unfold window
      dsimp only
      omega
    . -- The last window goes up to the last item.
      refine ⟨_, mem_windowsFrom_zero.mpr ⟨count n size overlap - 1, by omega, rfl⟩, ?_, ?_⟩
      . have := Nat.mul_le_mul_right (size - overlap) (show count n size overlap - 1
          ≤ item / (size - overlap) by omega)
        unfold window
        dsimp only
        omega
      . have hlast := (@succ_lt_count n size overlap (count n size overlap - 1) (by omega) h).not.mp
          (by omega)
        unfold window
        dsimp only
        omega
  . rw [List.isChain_iff_getElem]
    intro i hi
    rw [length_windowsFrom_zero] at hi
    have hn : 0 < n := by
      have := start_lt h hi
      omega
    have hfull := (succ_lt_count hn h).mp hi
    simp only [windowsFrom, List.getElem_map, List.getElem_range', Nat.zero_add, Nat.one_mul, window]
    rw [Nat.succ_mul]
    omega

/-- No fewer windows cover the items. -/
theorem count_le_length (h : overlap < size) (htiles : Tiles n size overlap windows)
    : count n size overlap ≤ windows.length := by
  rcases Nat.eq_zero_or_pos n with hzero | hn
  . rw [hzero]
    simp [count]
  have hchain := List.isChain_iff_getElem.mp htiles.shares
  have hstart : ∀ i, (hi : i < windows.length) → (windows[i]).1 ≤ i * (size - overlap) := by
    intro i
    induction i with
    | zero =>
      intro hi
      rcases htiles.covers 0 hn with ⟨w, hw, hle, -⟩
      rcases List.getElem_of_mem hw with ⟨j, hj, hwj⟩
      cases j with
      | zero =>
        rw [hwj]
        omega
      | succ j =>
        have := hchain j hj
        rw [hwj] at this
        omega
    | succ i ih =>
      intro hi
      have hnext := hchain i hi
      have hsize := htiles.size _ (List.getElem_mem (Nat.lt_of_succ_lt hi))
      have hprev := ih (Nat.lt_of_succ_lt hi)
      rw [Nat.succ_mul]
      omega
  rcases htiles.covers (n - 1) (by omega) with ⟨w, hw, -, hend⟩
  rcases List.getElem_of_mem hw with ⟨i, hi, hwi⟩
  have hsize := htiles.size w hw
  have hle := hstart i hi
  rw [hwi] at hle
  have hlast := (@succ_lt_count n size overlap i hn h).not.mpr (by omega)
  omega

end Windows
