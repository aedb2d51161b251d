import Mathlib.Algebra.Order.Group.Nat

/-!
This module contains arithmetic on machine words that stops where a word would wrap around.
-/

namespace Word

/-- The number of words. -/
def size : Nat := 2 ^ 64

def add (a b : Nat) : Option Nat := if a + b < size then some (a + b) else none

def sub (a b : Nat) : Option Nat := if b ≤ a then some (a - b) else none

def saturatingAdd (a b : Nat) : Nat := min (a + b) (size - 1)

theorem add_eq_some (h : a + b < size) : add a b = some (a + b) := by
  unfold add
  rw [if_pos h]

theorem sub_eq_some (h : b ≤ a) : sub a b = some (a - b) := by
  unfold sub
  rw [if_pos h]

theorem saturatingAdd_eq (h : a + b < size) : saturatingAdd a b = a + b := by
  unfold saturatingAdd
  omega

end Word
