import Mathlib.Data.List.Basic
import Mathlib.Logic.Relation

/-!
This module contains loops that remove parts of a value until its size is within a limit, and that
fail when nothing is left to remove. A loop whose every round leaves less to remove ends.
-/

variable {R : Type u} {ε : Type v}

/-- The computation ends with `out` once it may make enough steps. -/
def Returns (run : Nat → Option α) (out : α) : Prop :=
  ∃ bound, ∀ fuel, bound ≤ fuel → run fuel = some out

theorem Returns.unique {run : Nat → Option α} (h : Returns run a) (h' : Returns run b) : a = b := by
  rcases h with ⟨m, hm⟩
  rcases h' with ⟨n, hn⟩
  have ha := hm (max m n) (Nat.le_max_left ..)
  rw [hn (max m n) (Nat.le_max_right ..)] at ha
  exact (Option.some.inj ha).symm

theorem Returns.const (out : α) : Returns (fun _ => some out) out := ⟨0, fun _ _ => rfl⟩

/-- `while maximum < size r { r = remove r }`, with at most `fuel` tests of the condition. -/
def shrink (size : R → Nat) (remove : R → Option R) (err : ε) (maximum : Nat)
    : Nat → R → Option (Except ε R)
  | 0, _ => none
  | fuel + 1, r =>
    if size r ≤ maximum then
      some (.ok r)
    else
      match remove r with
      | none => some (.error err)
      | some r => shrink size remove err maximum fuel r

/-- The values that the rounds before `r` leave are all over the limit. -/
inductive Shrinks (size : R → Nat) (remove : R → Option R) (maximum : Nat) : Nat → R → R → Prop where
  | refl (r : R) : Shrinks size remove maximum 0 r r
  | round (hover : maximum < size r) (hremove : remove r = some s)
    (h : Shrinks size remove maximum n s t) : Shrinks size remove maximum (n + 1) r t

section

variable {size : R → Nat} {remove : R → Option R} {err : ε} {maximum : Nat}

theorem shrink_isSome (measure : R → Nat)
    (hremove : ∀ r s, remove r = some s → measure s < measure r) (h : measure r < fuel)
    : ∃ out, shrink size remove err maximum fuel r = some out := by
  induction fuel generalizing r with
  | zero => omega
  | succ fuel ih =>
    unfold shrink
    split
    . exact ⟨_, rfl⟩
    . split
      . exact ⟨_, rfl⟩
      next s hs =>
        apply ih
        have := hremove r s hs
        omega

theorem shrink_mono (h : shrink size remove err maximum fuel r = some out) (hle : fuel ≤ fuel')
    : shrink size remove err maximum fuel' r = some out := by
  induction fuel generalizing r fuel' with
  | zero => cases h
  | succ fuel ih =>
    cases fuel' with
    | zero => omega
    | succ fuel' =>
      unfold shrink at h ⊢
      split at h
      next hsize =>
        rw [if_pos hsize]
        exact h
      next hsize =>
        rw [if_neg hsize]
        split at h
        . exact h
        next s hs => exact ih h (by omega)

/-- The loop ends: `measure` says how often a part can be removed. -/
theorem shrink_returns (measure : R → Nat)
    (hremove : ∀ r s, remove r = some s → measure s < measure r) (r : R)
    : ∃ out, Returns (fun fuel => shrink size remove err maximum fuel r) out := by
  rcases @shrink_isSome _ _ size remove err maximum r (measure r + 1) measure hremove
    (Nat.lt_succ_self _) with ⟨out, hout⟩
  exact ⟨out, measure r + 1, fun fuel hfuel => shrink_mono hout hfuel⟩

/-- What the loop returns is within the limit, and no value before it is. -/
theorem shrink_eq_ok (h : shrink size remove err maximum fuel r = some (.ok s))
    : size s ≤ maximum ∧ ∃ n, Shrinks size remove maximum n r s := by
  induction fuel generalizing r with
  | zero => cases h
  | succ fuel ih =>
    unfold shrink at h
    split at h
    next hsize =>
      cases h
      exact ⟨hsize, 0, .refl s⟩
    next hsize =>
      split at h
      . cases h
      next t ht =>
        rcases ih h with ⟨hlimit, n, hn⟩
        exact ⟨hlimit, n + 1, .round (by omega) ht hn⟩

theorem shrink_of_shrinks (h : Shrinks size remove maximum n r s) (hs : size s ≤ maximum)
    (hfuel : n < fuel) : shrink size remove err maximum fuel r = some (.ok s) := by
  induction h generalizing fuel with
  | refl r =>
    cases fuel with
    | zero => omega
    | succ fuel =>
      unfold shrink
      rw [if_pos hs]
  | round hover hremove h ih =>
    cases fuel with
    | zero => omega
    | succ fuel =>
      unfold shrink
      rw [if_neg (by omega), hremove]
      exact ih hs (by omega)

/-- The loop stops before a value that is within the limit. -/
theorem exists_shrinks (h : Relation.ReflTransGen (fun r s => remove r = some s) r s)
    (hs : size s ≤ maximum)
    : ∃ n t, Shrinks size remove maximum n r t ∧ size t ≤ maximum
      ∧ Relation.ReflTransGen (fun r s => remove r = some s) t s := by
  induction h using Relation.ReflTransGen.head_induction_on with
  | refl => exact ⟨0, s, .refl s, hs, .refl⟩
  | head hremove hrest ih =>
    rename_i r t
    rcases Nat.lt_or_ge maximum (size r) with hover | hfits
    . rcases ih with ⟨n, u, hrounds, hu, hrest'⟩
      exact ⟨n + 1, u, .round hover hremove hrounds, hu, hrest'⟩
    . exact ⟨0, r, .refl r, hfits, .head hremove hrest⟩

theorem Shrinks.removed (h : Shrinks size remove maximum n r s)
    : Relation.ReflTransGen (fun r s => remove r = some s) r s := by
  induction h with
  | refl r => exact .refl
  | round hover hremove h ih => exact .head hremove ih

/-- What every removal preserves, the loop preserves. -/
theorem Shrinks.invariant (Inv : R → Prop) (hremove : ∀ r s, remove r = some s → Inv r → Inv s)
    (h : Shrinks size remove maximum n r s) (hr : Inv r) : Inv s := by
  induction h with
  | refl r => exact hr
  | round hover hs h ih => exact ih (hremove _ _ hs hr)

end
