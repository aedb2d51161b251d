import Elf.Lib.Run

/-!
This module contains the rule for a value that the steps of a run write, keep or drop: what is read at
the end is what the last step to write it wrote.
-/

namespace Run

variable {σ : Type u} {α : Type v} {ν : Type w} {step : σ → α → σ → Prop}

/-- What is read of a state is what the last step to write it wrote, unless a later step dropped it. -/
theorem read_iff {read : σ → Option ν} {writes : α → Option ν} {keeps : α → ν → Bool}
    (hstep : ∀ s a t, step s a t → read t = (writes a).or ((read s).filter (keeps a)))
    (h : Run step s as t) (hs : read s = none) (v : ν)
    : read t = some v ↔ ∃ before a after, as = before ++ a :: after ∧ writes a = some v
        ∧ ∀ b ∈ after, writes b = none ∧ keeps b v = true := by
  apply h.snoc_induction (P := fun as t => read t = some v ↔ ∃ before a after,
    as = before ++ a :: after ∧ writes a = some v ∧ ∀ b ∈ after, writes b = none ∧ keeps b v = true)
  . simp [hs]
  . intro as t a u hrun ih hlast
    rw [hstep t a u hlast, Option.or_eq_some_iff, Option.filter_eq_some_iff, ih]
    constructor
    . rintro (hwrites | ⟨hnone, ⟨before, b, after, rfl, hb, hafter⟩, hkeeps⟩)
      . exact ⟨as, a, [], rfl, hwrites, by simp⟩
      . refine ⟨before, b, after ++ [a], by simp, hb, ?_⟩
        intro c hc
        rcases List.mem_append.mp hc with hc | hc
        . exact hafter c hc
        . rw [List.mem_singleton] at hc
          subst hc
          exact ⟨hnone, hkeeps⟩
    . rintro ⟨before, b, after, heq, hb, hafter⟩
      rcases after.eq_nil_or_concat with rfl | ⟨after, c, rfl⟩
      . rcases List.append_inj' heq rfl with ⟨-, hlast⟩
        cases hlast
        left
        exact hb
      . rw [List.concat_eq_append] at heq hafter
        rw [← List.cons_append, ← List.append_assoc] at heq
        rcases List.append_inj' heq rfl with ⟨rfl, hlast⟩
        cases hlast
        rcases hafter a (by simp) with ⟨hnone, hkeeps⟩
        right
        exact ⟨hnone, ⟨before, b, after, rfl, hb, fun d hd => hafter d (by simp [hd])⟩, hkeeps⟩


end Run
