import Mathlib.Data.Rat.Defs
import Mathlib.Algebra.Order.Ring.Unbundled.Rat
import Mathlib.Algebra.Order.Ring.Rat
import Mathlib.Algebra.Order.Field.Power
import Mathlib.Data.Int.Log
import Mathlib.Data.Rat.Floor
import Mathlib.Tactic.Linarith
import Mathlib.Tactic.Positivity
import Mathlib.Tactic.Ring

/-!
This module contains single precision floats with exact arithmetic: a finite float is the rational
number it denotes, and results are not rounded. What is kept of the format is that there are values
that are not finite, on which comparisons are false and subtraction is not a number. A number is
rounded to the nearest float on its own: to the even one of two that are as near, and to an infinity
beyond the range.
-/

/-- A single precision float. -/
inductive F32 where
  | nan
  | inf (negative : Bool)
  | fin (q : ℚ)
deriving DecidableEq, Inhabited

namespace F32

/-- The largest finite float, `(2 ^ 24 - 1) * 2 ^ 104`. -/
def max : ℚ := 340282346638528859811704183484516925440

/-- The distance from one to the next float, `2 ^ (-23)`. -/
def epsilon : F32 := .fin (mkRat 1 8388608)

def isFinite : F32 → Bool
  | .fin _ => true
  | _ => false

/-- A finite float is at most the largest one. -/
def InRange : F32 → Prop
  | .fin q => -max ≤ q ∧ q ≤ max
  | _ => False

instance : DecidablePred InRange
  | .fin q => inferInstanceAs (Decidable (-max ≤ q ∧ q ≤ max))
  | .nan | .inf _ => isFalse id

def sub : F32 → F32 → F32
  | .fin a, .fin b => .fin (a - b)
  | .fin _, .inf s => .inf (!s)
  | .inf s, .fin _ => .inf s
  | .inf s, .inf t => if s = t then .nan else .inf s
  | .nan, _ | _, .nan => .nan

def abs : F32 → F32
  | .fin a => .fin (if a < 0 then -a else a)
  | .inf _ => .inf false
  | .nan => .nan

/-- `a < b`, which is false when either is not a number. -/
def lt : F32 → F32 → Bool
  | .fin a, .fin b => decide (a < b)
  | .fin _, .inf s => !s
  | .inf s, .fin _ => s
  | .inf s, .inf t => s && !t
  | .nan, _ | _, .nan => false

/-- `a ≤ b`, which is false when either is not a number. -/
def le : F32 → F32 → Bool
  | .fin a, .fin b => decide (a ≤ b)
  | .fin _, .inf s => !s
  | .inf s, .fin _ => s
  | .inf s, .inf t => s || !t
  | .nan, _ | _, .nan => false

theorem sub_self_of_isFinite {a : F32} (h : a.isFinite) : a.sub a = .fin 0 := by
  cases a with
  | fin q => simp [sub]
  | inf s => cases h
  | nan => cases h

theorem abs_sub_self_le {a : F32} (h : a.isFinite) {q : ℚ} (hq : 0 ≤ q)
    : (a.sub a).abs.le (.fin q) = true := by
  rw [sub_self_of_isFinite h]
  simpa [abs, le] using hq

end F32

/-! ## Rounding -/

/-- The nearest integer, which is the even one of two that are as near. -/
def roundHalfEven (x : ℚ) : ℤ :=
  if x - ⌊x⌋ < 1 / 2 then ⌊x⌋
  else if 1 / 2 < x - ⌊x⌋ then ⌊x⌋ + 1
  else if Even ⌊x⌋ then ⌊x⌋
  else ⌊x⌋ + 1

@[simp]
theorem roundHalfEven_intCast (n : ℤ) : roundHalfEven n = n := by
  unfold roundHalfEven
  rw [Int.floor_intCast, sub_self, if_pos (by norm_num)]

theorem roundHalfEven_cases (x : ℚ) : roundHalfEven x = ⌊x⌋ ∨ roundHalfEven x = ⌊x⌋ + 1 ∧ (⌊x⌋ : ℚ) < x := by
  unfold roundHalfEven
  split
  next => exact .inl rfl
  next h =>
    have hlt : (⌊x⌋ : ℚ) < x := by linarith
    split
    . exact .inr ⟨rfl, hlt⟩
    . split
      . exact .inl rfl
      . exact .inr ⟨rfl, hlt⟩

theorem abs_roundHalfEven_le {x : ℚ} {n : ℕ} (h : |x| ≤ n) : |roundHalfEven x| ≤ n := by
  rw [abs_le] at h ⊢
  have hlow : -(n : ℤ) ≤ ⌊x⌋ := Int.le_floor.mpr (by exact_mod_cast h.1)
  have hhigh : ⌊x⌋ ≤ n := by
    have hfloor := Int.floor_le x
    have hle : (⌊x⌋ : ℚ) ≤ (n : ℤ) := by
      push_cast
      linarith [h.2]
    exact_mod_cast hle
  rcases roundHalfEven_cases x with heq | ⟨heq, hlt⟩
  . rw [heq]
    exact ⟨hlow, hhigh⟩
  . have hbelow : (⌊x⌋ : ℚ) < (n : ℤ) := by
      push_cast
      linarith [h.2]
    have hbelow : ⌊x⌋ < n := by exact_mod_cast hbelow
    rw [heq]
    omega

namespace F32

/-- The exponent of the last place of the floats about a number, which is bounded from below. -/
def lastPlace (q : ℚ) : ℤ := (if Int.log 2 |q| < -126 then -126 else Int.log 2 |q|) - 23

def ofRat (q : ℚ) : F32 :=
  let rounded := roundHalfEven (q / 2 ^ lastPlace q) * (2 : ℚ) ^ lastPlace q
  if |rounded| < 2 ^ 128 then .fin rounded else .inf (q < 0)

/-- The finite floats. -/
def Representable (q : ℚ) : Prop :=
  ∃ (m : ℤ) (e : ℤ), q = m * (2 : ℚ) ^ e ∧ |m| < 2 ^ 24 ∧ -149 ≤ e ∧ |q| < 2 ^ 128

theorem abs_div_lastPlace_le (q : ℚ) : |q / 2 ^ lastPlace q| ≤ (2 ^ 24 : ℕ) := by
  have hpos : (0 : ℚ) < 2 ^ lastPlace q := by positivity
  rw [abs_div, abs_of_pos hpos, div_le_iff₀ hpos]
  have hlog : |q| < (2 : ℚ) ^ (Int.log 2 |q| + 1) := by
    exact_mod_cast Int.lt_zpow_succ_log_self (R := ℚ) Nat.one_lt_two |q|
  have hle : (2 : ℚ) ^ (Int.log 2 |q| + 1) ≤ 2 ^ (24 + lastPlace q) := by
    apply zpow_le_zpow_right₀ (by norm_num)
    unfold lastPlace
    split <;> omega
  have hsplit : (2 : ℚ) ^ (24 + lastPlace q) = 2 ^ (24 : ℤ) * 2 ^ lastPlace q :=
    zpow_add₀ (by norm_num) 24 _
  have hcast : ((2 ^ 24 : ℕ) : ℚ) = 2 ^ (24 : ℤ) := by norm_num
  rw [hcast, ← hsplit]
  exact (hlog.trans_le hle).le

/-- What a number is rounded to is a float. -/
theorem representable_of_ofRat {q r : ℚ} (h : ofRat q = .fin r) : Representable r := by
  unfold ofRat at h
  dsimp only at h
  split at h
  case isFalse => cases h
  case isTrue hbound =>
    cases h
    have habs := abs_roundHalfEven_le (abs_div_lastPlace_le q)
    have hplace : -149 ≤ lastPlace q := by
      unfold lastPlace
      split <;> omega
    rcases lt_or_eq_of_le habs with hlt | heq
    . exact ⟨_, _, rfl, by exact_mod_cast hlt, hplace, hbound⟩
    . -- The significand is carried over to the next exponent.
      rcases abs_eq (by positivity) |>.mp heq with hm | hm
      . refine ⟨2 ^ 23, lastPlace q + 1, ?_, by norm_num, by omega, hbound⟩
        rw [hm, zpow_add₀ (by norm_num)]
        push_cast
        ring
      . refine ⟨-2 ^ 23, lastPlace q + 1, ?_, by norm_num, by omega, hbound⟩
        rw [hm, zpow_add₀ (by norm_num)]
        push_cast
        ring

theorem lastPlace_le {m e : ℤ} (hm : |m| < 2 ^ 24) (hzero : m ≠ 0) (he : -149 ≤ e)
    : lastPlace (m * (2 : ℚ) ^ e) ≤ e := by
  have hpos : (0 : ℚ) < |m * (2 : ℚ) ^ e| := abs_pos.mpr (mul_ne_zero (by exact_mod_cast hzero) (by positivity))
  have hlt : |m * (2 : ℚ) ^ e| < (2 : ℚ) ^ (e + 24) := by
    have hcast : |(m : ℚ)| < 2 ^ 24 := by exact_mod_cast hm
    rw [abs_mul, abs_of_pos (by positivity : (0 : ℚ) < 2 ^ e), add_comm, zpow_add₀ (by norm_num)]
    exact mul_lt_mul_of_pos_right (by exact_mod_cast hcast) (by positivity)
  have hlog : Int.log 2 |m * (2 : ℚ) ^ e| < e + 24 :=
    (Int.lt_zpow_iff_log_lt Nat.one_lt_two hpos).mp (by exact_mod_cast hlt)
  unfold lastPlace
  split <;> omega

/-- A float is its own nearest float. -/
theorem ofRat_of_representable {r : ℚ} (h : Representable r) : ofRat r = .fin r := by
  rcases h with ⟨m, e, hr, hm, he, hbound⟩
  have hround : roundHalfEven (r / 2 ^ lastPlace r) * (2 : ℚ) ^ lastPlace r = r := by
    have hne : (2 : ℚ) ^ lastPlace r ≠ 0 := by positivity
    by_cases hzero : m = 0
    . have hr0 : r = 0 := by simp [hr, hzero]
      have hz := roundHalfEven_intCast 0
      rw [Int.cast_zero] at hz
      rw [hr0, zero_div, hz]
      simp
    . have hle : lastPlace r ≤ e := by
        rw [hr]
        exact lastPlace_le hm hzero he
      have hdiv : r / 2 ^ lastPlace r = ((m * 2 ^ (e - lastPlace r).toNat : ℤ) : ℚ) := by
        have hexp : ((e - lastPlace r).toNat : ℤ) = e - lastPlace r := Int.toNat_of_nonneg (by omega)
        push_cast
        rw [← zpow_natCast, hexp, zpow_sub₀ (by norm_num), ← mul_div_assoc, ← hr]
      rw [hdiv, roundHalfEven_intCast, ← hdiv, div_mul_cancel₀ _ hne]
  unfold ofRat
  dsimp only
  rw [hround, if_pos hbound]

theorem ofRat_idem {q r : ℚ} (h : ofRat q = .fin r) : ofRat r = .fin r :=
  ofRat_of_representable (representable_of_ofRat h)

end F32
