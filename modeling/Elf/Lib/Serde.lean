import Elf.Lib.F32
import Elf.Lib.Json

/-!
This module contains how values of a type are read from JSON and written to it, as a derived
implementation does: unknown fields are ignored, and an optional value is null or of its type.
-/

namespace JsonNumber

def value : JsonNumber → ℚ
  | .int n => n
  | .float negative magnitude => if negative then -magnitude else magnitude

/-- A finite float as a double of the same value. -/
def ofRatFloat (q : ℚ) : JsonNumber := .float (q < 0) |q|

@[simp]
theorem value_ofRatFloat (q : ℚ) : (ofRatFloat q).value = q := by
  unfold ofRatFloat value
  by_cases h : q < 0
  . simp [h, abs_of_neg h]
  . simp [h, abs_of_nonneg (not_lt.mp h)]

end JsonNumber

namespace Serde

/-- A reader of values, which fails on the JSON values that are not of the type. -/
abbrev Decoder (α : Type) := SpelledJson → Option α

variable {α : Type}

def value : Decoder SpelledJson := some

def string : Decoder String
  | .str s => some s
  | _ => none

def int (low high : ℤ) : Decoder ℤ
  | .num (.int n) => if low ≤ n ∧ n ≤ high then some n else none
  | _ => none

def i32 : Decoder ℤ := int (-2 ^ 31) (2 ^ 31 - 1)

def u64 : Decoder ℤ := int 0 (2 ^ 64 - 1)

def f32 : Decoder F32
  | .num n => some (F32.ofRat n.value)
  | _ => none

def list (decode : Decoder α) : Decoder (List α)
  | .arr items => items.mapM decode
  | _ => none

/-- An optional value is absent where it is null. -/
def option (decode : Decoder α) : Decoder (Option α)
  | .null => some none
  | v => (decode v).map some

/-- The value of a field, or what stands for a missing one. -/
def field (object : SpelledJson) (key : String) (decode : Decoder α) (missing : Option α)
    : Option α :=
  match object.get key with
  | some v => decode v
  | none => missing

/-- A field of an optional value, which may be missing. -/
def optionalField (object : SpelledJson) (key : String) (decode : Decoder α) : Option (Option α) :=
  field object key (option decode) (some none)

/-! ## Writing -/

def encodeInt (n : ℤ) : SpelledJson := .num (.int n)

/-- There is no number for a float that is not finite. -/
def encodeF32 : F32 → SpelledJson
  | .fin q => .num (.ofRatFloat q)
  | _ => .null

def encodeOption (encode : α → SpelledJson) : Option α → SpelledJson
  | some a => encode a
  | none => .null

/-! ## Lemmas -/

@[simp]
theorem option_null (decode : Decoder α) : option decode .null = some none := rfl

theorem option_eq_some_some {decode : Decoder α} {v : SpelledJson} {a : α}
    : option decode v = some (some a) ↔ v ≠ .null ∧ decode v = some a := by
  unfold option
  split
  . simp
  next hnull =>
    have hne : v ≠ .null := hnull
    simp [hne]

theorem option_eq_some_none {decode : Decoder α} {v : SpelledJson}
    : option decode v = some none ↔ v = .null := by
  unfold option
  split
  . simp
  next hnull =>
    have hne : v ≠ .null := hnull
    simp [hne]

theorem isSome_option {decode : Decoder α} {v : SpelledJson}
    : (option decode v).isSome = true ↔ v = .null ∨ (decode v).isSome = true := by
  unfold option
  split
  . simp
  next hnull =>
    have hne : v ≠ .null := hnull
    simp [hne]

theorem field_of_get {object : SpelledJson} {key : String} {v : SpelledJson}
    (h : object.get key = some v) (decode : Decoder α) (missing : Option α)
    : field object key decode missing = decode v := by
  unfold field
  rw [h]

theorem field_of_missing {object : SpelledJson} {key : String} (h : object.get key = none)
    (decode : Decoder α) (missing : Option α) : field object key decode missing = missing := by
  unfold field
  rw [h]

/-- A value that is written as something other than null is read again. -/
theorem option_encodeOption {decode : Decoder α} {encode : α → SpelledJson} {a : Option α}
    (h : ∀ b ∈ a, encode b ≠ .null ∧ decode (encode b) = some b)
    : option decode (encodeOption encode a) = some a := by
  cases a with
  | none => rfl
  | some b => exact option_eq_some_some.mpr (h b rfl)

theorem int_encodeInt {low high n : ℤ} (hlow : low ≤ n) (hhigh : n ≤ high)
    : int low high (encodeInt n) = some n := by
  simp [int, encodeInt, hlow, hhigh]

theorem int_eq_some {low high n : ℤ} {v : SpelledJson}
    : int low high v = some n ↔ v = encodeInt n ∧ low ≤ n ∧ n ≤ high := by
  unfold int encodeInt
  split
  next m =>
    split
    next h =>
      simp only [Option.some.injEq, SpelledJson.num.injEq, JsonNumber.int.injEq]
      constructor
      . rintro rfl
        exact ⟨rfl, h⟩
      . exact fun h => h.1
    next h =>
      simp only [reduceCtorEq, SpelledJson.num.injEq, JsonNumber.int.injEq, false_iff]
      rintro ⟨rfl, hrange⟩
      exact h hrange
  next hnot =>
    simp only [reduceCtorEq, false_iff]
    rintro ⟨rfl, -⟩
    exact hnot n rfl

/-- A list whose items are read again is read again. -/
theorem list_map {decode : Decoder α} {encode : α → SpelledJson} {as : List α}
    (h : ∀ a ∈ as, decode (encode a) = some a) : list decode (.arr (as.map encode)) = some as := by
  unfold list
  induction as with
  | nil => rfl
  | cons a as ih =>
    simp only at ih ⊢
    rw [List.map_cons, List.mapM_cons, h a (List.mem_cons_self ..),
      ih fun b hb => h b (List.mem_cons_of_mem a hb)]
    rfl

theorem f32_encodeF32 {q r : ℚ} (h : F32.ofRat q = .fin r)
    : f32 (encodeF32 (.fin r)) = some (.fin r) := by
  simp [f32, encodeF32, F32.ofRat_idem h]

end Serde
