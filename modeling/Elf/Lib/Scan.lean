import Mathlib.Data.List.Induction
import Mathlib.Order.Nat
import Mathlib.Data.Nat.Find
import Mathlib.Data.List.Infix
import Mathlib.Data.List.TakeDrop

/-!
This module contains the scan from left to right for the places where something of a given size
occurs. After a place that it takes, the scan goes on behind what it took, so that the places inside
of it are passed over. It also contains the search for a part of a list, and what a scan of a bounded
number of rows misses: some of the rows that satisfy a condition may lie behind the bound.
-/

namespace Scan

/-- The place is the first one from the bound on. -/
structure FirstFrom (occ : Nat → Prop) (bound p : Nat) : Prop where
  occurs : occ p
  le : bound ≤ p
  least : ∀ k, occ k → bound ≤ k → p ≤ k

theorem FirstFrom.exists_of_occurs {occ : Nat → Prop} (h : ∃ p, occ p) : ∃ p, FirstFrom occ 0 p := by
  classical
  refine ⟨Nat.find h, Nat.find_spec h, Nat.zero_le _, ?_⟩
  intro k hk _
  exact Nat.find_min' h hk

/-- The places that the scan takes. -/
inductive Taken (occ : Nat → Prop) (size : Nat) : Nat → Prop where
  | first {p : Nat} : FirstFrom occ 0 p → Taken occ size p
  | next {p q : Nat} : Taken occ size q → FirstFrom occ (q + size) p → Taken occ size p

variable {occ : Nat → Prop} {size p q : Nat} {places : List Nat}

theorem Taken.occurs (h : Taken occ size p) : occ p := by
  cases h with
  | first hfirst => exact hfirst.occurs
  | next _ hfirst => exact hfirst.occurs

/-- The place starts inside of what occurs at the other place. -/
def Inside (size q p : Nat) : Prop := q < p ∧ p < q + size

/-- A list of places as the scan yields it. -/
structure Yields (occ : Nat → Prop) (size : Nat) (places : List Nat) : Prop where
  occurs : ∀ p ∈ places, occ p
  apart : places.Pairwise fun p q => p + size ≤ q
  covers : ∀ p, occ p → p ∈ places ∨ ∃ q ∈ places, Inside size q p

namespace Yields

theorem pairwise_lt (h : Yields occ size places) (hsize : 0 < size)
    : places.Pairwise (· < ·) := by
  apply h.apart.imp
  intro p q hpq
  omega

theorem not_inside (h : Yields occ size places) (hp : p ∈ places) (hq : q ∈ places)
    : ¬ Inside size q p := by
  intro hinside
  rcases List.getElem_of_mem hp with ⟨i, hi, hpi⟩
  rcases List.getElem_of_mem hq with ⟨j, hj, hqj⟩
  unfold Inside at hinside
  rcases Nat.lt_trichotomy i j with hlt | heq | hgt
  . have := List.pairwise_iff_getElem.mp h.apart i j hi hj hlt
    omega
  . subst heq
    omega
  . have := List.pairwise_iff_getElem.mp h.apart j i hj hi hgt
    omega

/-- Two places of which one is before the other are a whole size apart. -/
theorem add_le (h : Yields occ size places) (hp : p ∈ places) (hq : q ∈ places) (hlt : q < p)
    : q + size ≤ p := by
  have hnot := h.not_inside hp hq
  unfold Inside at hnot
  omega

theorem firstFrom_mem (h : Yields occ size places) {bound : Nat}
    (hfirst : FirstFrom occ bound p) (hbefore : ∀ q ∈ places, Inside size q p → bound ≤ q)
    : p ∈ places := by
  cases h.covers p hfirst.occurs with
  | inl hp => exact hp
  | inr hinside =>
    rcases hinside with ⟨q, hq, hqp⟩
    have hle := hfirst.least q (h.occurs q hq) (hbefore q hq hqp)
    unfold Inside at hqp
    omega

theorem mem_of_taken (h : Yields occ size places) (htaken : Taken occ size p)
    : p ∈ places := by
  induction htaken with
  | first hfirst =>
    apply h.firstFrom_mem hfirst
    intro q hq hqp
    omega
  | @next p q _ hfirst hq =>
    apply h.firstFrom_mem hfirst
    intro k hk hkp
    have hle := hfirst.le
    unfold Inside at hkp
    rcases Nat.lt_trichotomy k q with hlt | heq | hgt
    . have := h.add_le hq hk hlt
      omega
    . omega
    . exact h.add_le hk hq hgt

/-- What the scan has not passed when it comes to a place that it takes. -/
theorem firstFrom_of_mem (h : Yields occ size places) (hsize : 0 < size) {bound : Nat}
    (hp : p ∈ places) (hle : bound ≤ p) (hbefore : ∀ q ∈ places, q < p → q + size ≤ bound)
    : FirstFrom occ bound p := by
  refine ⟨h.occurs p hp, hle, ?_⟩
  intro k hk hbound
  by_contra hlt
  cases h.covers k hk with
  | inl hmem =>
    have := hbefore k hmem (by omega)
    omega
  | inr hinside =>
    rcases hinside with ⟨q, hq, hqk⟩
    unfold Inside at hqk
    have := hbefore q hq (by omega)
    omega

theorem taken_of_mem (h : Yields occ size places) (hsize : 0 < size) (hp : p ∈ places)
    : Taken occ size p := by
  have hlt := h.pairwise_lt hsize
  rcases List.append_of_mem hp with ⟨before, behind, hplaces⟩
  induction before using List.reverseRecOn generalizing p behind with
  | nil =>
    apply Taken.first
    apply h.firstFrom_of_mem hsize hp (Nat.zero_le p)
    intro q hq hqp
    rw [hplaces, List.nil_append, List.pairwise_cons] at hlt
    rw [hplaces, List.nil_append, List.mem_cons] at hq
    cases hq with
    | inl heq => omega
    | inr hbehind =>
      have := hlt.1 q hbehind
      omega
  | append_singleton before last ih =>
    -- The place before this one has been taken, and the scan goes on behind it.
    have hsplit : places = before ++ last :: (p :: behind) := by
      rw [hplaces, List.append_assoc, List.singleton_append]
    have hlast : last ∈ places := by
      rw [hsplit]
      simp
    have hapart := h.apart
    rw [hsplit, List.pairwise_append, List.pairwise_cons] at hapart
    apply Taken.next (ih hlast (p :: behind) hsplit)
    have hle := hapart.2.1.1 p (List.mem_cons_self ..)
    apply h.firstFrom_of_mem hsize hp hle
    intro q hq hqp
    have hqlast : q ≤ last := by
      rw [hsplit, List.mem_append, List.mem_cons] at hq
      rcases hq with hq | hq | hq
      . have := hapart.2.2 q hq last (List.mem_cons_self ..)
        omega
      . omega
      . rw [List.mem_cons] at hq
        cases hq with
        | inl heq => omega
        | inr hbehind =>
          have := (List.pairwise_cons.mp hapart.2.1.2).1 q hbehind
          omega
    omega

theorem mem_iff (h : Yields occ size places) (hsize : 0 < size)
    : p ∈ places ↔ Taken occ size p :=
  ⟨h.taken_of_mem hsize, h.mem_of_taken⟩

end Yields

end Scan

/-! ## Parts of a list -/

namespace Occurrence

variable {α : Type} {part text : List α} {k : Nat}

/-- The part stands at the place. -/
def At (part text : List α) (k : Nat) : Prop := part <+: text.drop k

/-- The first place where the part stands. -/
def find [DecidableEq α] (part : List α) : List α → Option Nat
  | [] => if part = [] then some 0 else none
  | a :: text => if part.isPrefixOf (a :: text) then some 0 else (find part text).map (· + 1)

theorem At.add_length_le (h : At part text k) (hne : part ≠ [])
    : k + part.length ≤ text.length := by
  have hlength := List.IsPrefix.length_le h
  have hpos := List.length_pos_iff.mpr hne
  rw [List.length_drop] at hlength
  omega

variable [DecidableEq α]

theorem firstFrom_of_find (h : find part text = some k) : Scan.FirstFrom (At part text) 0 k := by
  induction text generalizing k with
  | nil =>
    rw [find, Option.ite_none_right_eq_some] at h
    rcases h with ⟨rfl, heq⟩
    cases heq
    exact ⟨List.nil_prefix, le_rfl, fun _ _ _ => Nat.zero_le _⟩
  | cons a text ih =>
    rw [find] at h
    split at h
    next hprefix =>
      cases h
      exact ⟨List.isPrefixOf_iff_prefix.mp hprefix, le_rfl, fun _ _ _ => Nat.zero_le _⟩
    next hprefix =>
      rcases Option.map_eq_some_iff.mp h with ⟨k, hk, rfl⟩
      have hfirst := ih hk
      refine ⟨hfirst.occurs, Nat.zero_le _, ?_⟩
      intro j hj _
      cases j with
      | zero => exact absurd (List.isPrefixOf_iff_prefix.mpr hj) hprefix
      | succ j => exact Nat.succ_le_succ (hfirst.least j hj (Nat.zero_le _))

end Occurrence

/-! ## Scans of a bounded number of rows -/

namespace BoundedScan

variable {α : Type u} {p : α → Bool} {l : List α} {n k : Nat}

theorem filter_take_append_drop (p : α → Bool) (l : List α) (n : Nat)
    : (l.take n).filter p ++ (l.drop n).filter p = l.filter p := by
  rw [← List.filter_append, List.take_append_drop]

theorem take_filter_take_prefix (p : α → Bool) (l : List α) (n k : Nat)
    : ((l.take n).filter p).take k <+: (l.filter p).take k := by
  rw [← filter_take_append_drop p l n, List.take_append]
  exact List.prefix_append _ _

/--
The first rows within the bound that satisfy a condition are the first ones at all exactly if there
are enough of them, or none behind the bound.
-/
theorem take_filter_take_iff
    : ((l.take n).filter p).take k = (l.filter p).take k
      ↔ k ≤ (l.take n).countP p ∨ ∀ a ∈ l.drop n, p a = false := by
  have hsplit : (l.filter p).take k = ((l.take n).filter p).take k
      ++ ((l.drop n).filter p).take (k - ((l.take n).filter p).length) := by
    rw [← filter_take_append_drop p l n, List.take_append]
  rw [hsplit, List.self_eq_append_right, List.take_eq_nil_iff, List.countP_eq_length_filter,
    List.filter_eq_nil_iff]
  simp only [Nat.sub_eq_zero_iff_le, Bool.not_eq_true]

end BoundedScan
