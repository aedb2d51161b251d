import Mathlib.Data.Set.Image
import Mathlib.Order.Basic

/-!
This module contains things that hold from a start on, up to an end or for good, and collections in
which each one ends where a later one starts. Of such a collection at most one thing holds at a time.
-/

variable {α : Type u} {T : Type v} [LinearOrder T] {start stop : α → Option T}

/-- `a` has started at `t` and has not ended. -/
def HoldsAt (start stop : α → Option T) (a : α) (t : T) : Prop :=
  (∃ s, start a = some s ∧ s ≤ t) ∧ ∀ e, stop a = some e → t < e

structure Succession (start stop : α → Option T) (S : Set α) : Prop where
  known : ∀ a ∈ S, ∃ s, start a = some s
  ends : ∀ a ∈ S, ∀ e, stop a = some e → ∃ b ∈ S, start b = some e
  ordered : ∀ a ∈ S, ∀ b ∈ S, a ≠ b → ∀ s t, start a = some s → start b = some t → s ≤ t →
    ∃ e, stop a = some e ∧ e ≤ t

/-- What has ended by the start of another thing does not hold with it. -/
theorem HoldsAt.not_of_ended {a b : α} {e t : T} (ha : HoldsAt start stop a t)
    (hend : stop a = some e) (hstart : start b = some e) : ¬HoldsAt start stop b t := by
  rintro ⟨⟨s, hs, hle⟩, -⟩
  have hs : s = e := Option.some.inj (hs.symm.trans hstart)
  have hlt := ha.2 e hend
  rw [hs] at hle
  exact absurd hlt (not_lt_of_ge hle)

namespace Succession

variable {S : Set α}

theorem empty : Succession start stop (∅ : Set α) := ⟨by simp, by simp, by simp⟩

theorem unique_of_le (h : Succession start stop S) (ha : a ∈ S) (hb : b ∈ S)
    (hat : HoldsAt start stop a t) (hbt : HoldsAt start stop b t) (hs : start a = some s)
    (hs' : start b = some s') (hle : s ≤ s') : a = b := by
  by_contra hne
  rcases h.ordered a ha b hb hne s s' hs hs' hle with ⟨e, he, hle'⟩
  rcases hbt.1 with ⟨r, hr, hrt⟩
  have hr : s' = r := Option.some.inj (hs'.symm.trans hr)
  have hlt := hat.2 e he
  rw [hr] at hle'
  exact absurd hlt (not_lt_of_ge (hle'.trans hrt))

/-- At most one thing holds at a time. -/
theorem unique (h : Succession start stop S) (ha : a ∈ S) (hb : b ∈ S)
    (hat : HoldsAt start stop a t) (hbt : HoldsAt start stop b t) : a = b := by
  rcases h.known a ha with ⟨s, hs⟩
  rcases h.known b hb with ⟨s', hs'⟩
  rcases le_total s s' with hle | hle
  . exact h.unique_of_le ha hb hat hbt hs hs' hle
  . exact (h.unique_of_le hb ha hbt hat hs' hs hle).symm

/-- A thing without an end starts after all the others. -/
theorem open_last (h : Succession start stop S) (ha : a ∈ S) (hb : b ∈ S) (hne : a ≠ b)
    (hopen : stop a = none) (hs : start a = some s) (hs' : start b = some s') : s' < s := by
  by_contra hle
  rcases h.ordered a ha b hb hne s s' hs hs' (le_of_not_gt hle) with ⟨e, he, -⟩
  rw [hopen] at he
  cases he

/-- A thing that starts after all the others and ends those that have no end is the last one. -/
theorem supersede (h : Succession start stop S) (new : α) (endAt : α → α)
    (hnew : start new = some s) (hopen : stop new = none)
    (hlate : ∀ a ∈ S, ∀ r, start a = some r → r < s)
    (hclosed : ∀ a ∈ S, ∀ e, stop a = some e → endAt a = a)
    (hended : ∀ a ∈ S, stop a = none → start (endAt a) = start a ∧ stop (endAt a) = some s)
    : Succession start stop (insert new (endAt '' S)) := by
  have hstart : ∀ a ∈ S, start (endAt a) = start a := by
    intro a ha
    cases hstop : stop a with
    | none => exact (hended a ha hstop).1
    | some e => rw [hclosed a ha e hstop]
  constructor
  . rintro a (rfl | ⟨b, hb, rfl⟩)
    . exact ⟨s, hnew⟩
    . rw [hstart b hb]
      exact h.known b hb
  . rintro a (rfl | ⟨b, hb, rfl⟩) e he
    . rw [hopen] at he
      cases he
    . cases hstop : stop b with
      | none =>
        rw [(hended b hb hstop).2] at he
        cases he
        exact ⟨new, Set.mem_insert _ _, hnew⟩
      | some e' =>
        rw [hclosed b hb e' hstop] at he
        rcases h.ends b hb e he with ⟨c, hc, hce⟩
        refine ⟨endAt c, Set.mem_insert_of_mem _ ⟨c, hc, rfl⟩, ?_⟩
        rw [hstart c hc, hce]
  . rintro a (rfl | ⟨b, hb, rfl⟩) c (rfl | ⟨d, hd, rfl⟩) hne r t hr ht hle
    . exact absurd rfl hne
    . rw [hstart d hd] at ht
      have hlt := hlate d hd t ht
      rw [hnew] at hr
      cases hr
      exact absurd hlt (not_lt_of_ge hle)
    . rw [hnew] at ht
      cases ht
      cases hstop : stop b with
      | none => exact ⟨s, (hended b hb hstop).2, le_refl s⟩
      | some e =>
        rw [hclosed b hb e hstop]
        rcases h.ends b hb e hstop with ⟨d, hd, hde⟩
        exact ⟨e, hstop, le_of_lt (hlate d hd e hde)⟩
    . have hne' : b ≠ d := by
        rintro rfl
        exact hne rfl
      rw [hstart b hb] at hr
      rw [hstart d hd] at ht
      rcases h.ordered b hb d hd hne' r t hr ht hle with ⟨e, he, hle'⟩
      rw [hclosed b hb e he]
      exact ⟨e, he, hle'⟩

end Succession
