import Elf.Lib.Json

/-!
This module contains the filters of a vector index: conditions on the payload of a point, and
filters that ask for all, some, none or a number of their conditions, and are conditions themselves.
-/

namespace PointFilter

mutual

inductive Condition where
  | keyword (field value : String)
  | keywords (field : String) (values : List String)
  | filter (f : Filter)

-- A filter that asks for no minimum asks for `minCount = 0`.
inductive Filter where
  | mk (must should mustNot : List Condition) (minCount : Nat) (minShould : List Condition)

end

/-- The filter that asks for all of the conditions. -/
def Filter.all (conditions : List Condition) : Filter := ⟨conditions, [], [], 0, []⟩

/-- A field of the payload is the keyword, or a list with it. -/
def hasKeyword (payload : Json) (field value : String) : Bool :=
  match payload.get field with
  | some (.str s) => s = value
  | some (.arr items) => items.contains (.str value)
  | _ => false

mutual

def Condition.accepts (payload : Json) : Condition → Bool
  | .keyword field value => hasKeyword payload field value
  | .keywords field values => values.any (hasKeyword payload field)
  | .filter f => f.accepts payload

def Filter.accepts (payload : Json) : Filter → Bool
  | ⟨must, should, mustNot, minCount, minShould⟩ =>
    countAccepts payload must = must.length
      && (should.isEmpty || 0 < countAccepts payload should)
      && countAccepts payload mustNot = 0
      && minCount ≤ countAccepts payload minShould

/-- How many of the conditions a payload meets. -/
def countAccepts (payload : Json) : List Condition → Nat
  | [] => 0
  | c :: cs => (c.accepts payload).toNat + countAccepts payload cs

end

variable {payload : Json}

theorem countAccepts_eq_countP (payload : Json) (cs : List Condition)
    : countAccepts payload cs = cs.countP (·.accepts payload) := by
  induction cs with
  | nil => rfl
  | cons c cs ih =>
    rw [countAccepts, ih, List.countP_cons]
    cases c.accepts payload with
    | true => simp [Nat.add_comm]
    | false => simp

/-- A filter with neither alternatives nor exceptions. -/
theorem accepts_mk (must minShould : List Condition) (minCount : Nat)
    : (Filter.mk must [] [] minCount minShould).accepts payload = true
      ↔ (∀ c ∈ must, c.accepts payload = true)
        ∧ minCount ≤ minShould.countP (·.accepts payload) := by
  simp [Filter.accepts, countAccepts_eq_countP, List.countP_eq_length]

theorem accepts_all (conditions : List Condition)
    : (Filter.all conditions).accepts payload = true
      ↔ ∀ c ∈ conditions, c.accepts payload = true := by
  unfold Filter.all
  rw [accepts_mk]
  simp

/-- One of the conditions is met. -/
theorem one_le_countP {cs : List Condition} {c : Condition} (hmem : c ∈ cs)
    (h : c.accepts payload = true) : 1 ≤ cs.countP (·.accepts payload) := by
  rw [Nat.one_le_iff_ne_zero, Nat.ne_zero_iff_zero_lt, List.countP_pos_iff]
  exact ⟨c, hmem, h⟩

end PointFilter
