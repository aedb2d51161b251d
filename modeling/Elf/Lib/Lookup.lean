import Mathlib.Data.List.Nodup
import Mathlib.Data.List.Basic

/-!
This module contains association lists, in which the first entry of a key is its value, and lists
that grow by items of which some have a key: an item whose key is in the list already is left out,
and an item without a key never is.
-/

namespace Lookup

variable {κ α : Type} [DecidableEq κ] {l l' : List (κ × α)} {key : κ}

theorem lookup_of_mem {entry : κ × α} (h : (l.map Prod.fst).Nodup) (hmem : entry ∈ l)
    : l.lookup entry.1 = some entry.2 := by
  have ⟨before, behind, hsplit⟩ := List.append_of_mem hmem
  rw [List.lookup_eq_some_iff]
  refine ⟨before, behind, hsplit, ?_⟩
  intro other hother
  rw [hsplit, List.map_append, List.nodup_append] at h
  rw [bne_iff_ne]
  have hne := h.2.2 _ (List.mem_map_of_mem hother) entry.1 (by simp)
  exact Ne.symm hne

theorem mem_of_lookup {value : α} (h : l.lookup key = some value) : (key, value) ∈ l := by
  have ⟨before, behind, hsplit, _⟩ := List.lookup_eq_some_iff.mp h
  rw [hsplit]
  simp

theorem lookup_isSome_of_mem (h : key ∈ l.map Prod.fst)
    : ∃ entry ∈ l, l.lookup key = some entry.2 := by
  cases hlookup : l.lookup key with
  | none =>
    rw [List.lookup_eq_none_iff] at hlookup
    have ⟨entry, hentry, heq⟩ := List.mem_map.mp h
    have hne := hlookup entry hentry
    simp [heq] at hne
  | some value => exact ⟨(key, value), mem_of_lookup hlookup, rfl⟩

theorem lookup_eq_none (h : key ∉ l.map Prod.fst) : l.lookup key = none := by
  rw [List.lookup_eq_none_iff]
  intro entry hentry
  have hne : key ≠ entry.1 := by
    intro heq
    apply h
    rw [heq]
    exact List.mem_map_of_mem hentry
  simpa using hne

theorem lookup_append_of_not_mem (h : key ∉ l.map Prod.fst)
    : (l ++ l').lookup key = l'.lookup key := by
  rw [List.lookup_append, lookup_eq_none h]
  rfl

theorem lookup_eq_some_iff {value : α} (h : (l.map Prod.fst).Nodup)
    : l.lookup key = some value ↔ (key, value) ∈ l := by
  constructor
  . intro hlookup
    exact mem_of_lookup hlookup
  . intro hmem
    exact lookup_of_mem h hmem

/-- A map that is filled from a function on some keys. -/
theorem lookup_filterMap (f : κ → Option α) (keys : List κ) (key : κ)
    : (keys.filterMap fun k => (f k).map fun value => (k, value)).lookup key
        = if key ∈ keys then f key else none := by
  induction keys with
  | nil => rfl
  | cons k keys ih =>
    rw [List.filterMap_cons]
    by_cases hkey : key = k
    . subst hkey
      rw [if_pos List.mem_cons_self]
      cases hvalue : f key with
      | none =>
        rw [Option.map_none, ih, hvalue, ite_self]
      | some value =>
        rw [Option.map_some, List.lookup_cons_self]
    . have hmem : key ∈ k :: keys ↔ key ∈ keys := by simp [hkey]
      simp only [hmem]
      cases f k with
      | none => rw [Option.map_none, ih]
      | some value =>
        rw [Option.map_some, List.lookup_cons, beq_false_of_ne hkey]
        exact ih

theorem lookup_map {β : Type} (f : α → β) (l : List (κ × α)) (key : κ)
    : (l.map fun entry => (entry.1, f entry.2)).lookup key = (l.lookup key).map f := by
  induction l with
  | nil => rfl
  | cons entry l ih =>
    rw [List.map_cons, List.lookup_cons, List.lookup_cons, ih]
    split
    . rfl
    . rfl

end Lookup

/-! ## Lists that grow by new keys -/

namespace AppendNew

variable {α κ : Type} {key : α → Option κ} {acc as : List α} {a : α}

def pushNew [DecidableEq κ] (key : α → Option κ) (acc : List α) (a : α) : List α :=
  if (key a).isSome && (acc.map key).contains (key a) then acc else acc ++ [a]

def appendNew [DecidableEq κ] (key : α → Option κ) (acc as : List α) : List α := as.foldl (pushNew key) acc

/-- What is appended to a list of the items that are there to be appended. -/
structure Appends (key : α → Option κ) (acc as added : List α) : Prop where
  sublist : added.Sublist as
  keyless : (added.filter fun a => (key a).isNone) = as.filter fun a => (key a).isNone
  present : ∀ a ∈ as, key a ∈ (acc ++ added).map key
  new : ∀ a ∈ added, (key a).isSome → key a ∉ acc.map key
  nodup : (added.filterMap key).Nodup

theorem Appends.nil : Appends key acc [] [] := by
  constructor
  . exact List.Sublist.refl _
  . rfl
  . intro a ha
    contradiction
  . intro a ha
    contradiction
  . exact List.nodup_nil

theorem Appends.skip {added : List α} (h : Appends key acc as added) (hkey : (key a).isSome)
    (hmem : key a ∈ acc.map key) : Appends key acc (a :: as) added := by
  refine ⟨h.sublist.cons a, ?_, ?_, h.new, h.nodup⟩
  . rw [h.keyless, List.filter_cons_of_neg]
    simpa using Option.isSome_iff_ne_none.mp hkey
  . intro b hb
    rw [List.mem_cons] at hb
    cases hb with
    | inl heq =>
      rw [heq, List.map_append, List.mem_append]
      exact Or.inl hmem
    | inr hb => exact h.present b hb

theorem Appends.cons {added : List α} (h : Appends key (acc ++ [a]) as added)
    (hnew : (key a).isSome → key a ∉ acc.map key) : Appends key acc (a :: as) (a :: added) := by
  refine ⟨h.sublist.cons_cons a, ?_, ?_, ?_, ?_⟩
  . rw [List.filter_cons, List.filter_cons, h.keyless]
  . intro b hb
    have hpresent : ∀ b, key b ∈ ((acc ++ [a]) ++ added).map key
        → key b ∈ (acc ++ a :: added).map key := by
      intro b hb
      rwa [List.append_assoc, List.singleton_append] at hb
    rw [List.mem_cons] at hb
    cases hb with
    | inl heq =>
      rw [heq]
      exact List.mem_map_of_mem (by simp)
    | inr hb => exact hpresent b (h.present b hb)
  . intro b hb hkey
    rw [List.mem_cons] at hb
    cases hb with
    | inl heq =>
      rw [heq] at hkey ⊢
      exact hnew hkey
    | inr hb =>
      intro hmem
      apply h.new b hb hkey
      rw [List.map_append, List.mem_append]
      exact Or.inl hmem
  . rw [List.filterMap_cons]
    cases hkey : key a with
    | none => exact h.nodup
    | some k =>
      apply List.nodup_cons.mpr
      refine ⟨?_, h.nodup⟩
      intro hk
      rcases List.mem_filterMap.mp hk with ⟨b, hb, hbk⟩
      apply h.new b hb (by rw [hbk]; rfl)
      rw [hbk, ← hkey]
      exact List.mem_map_of_mem (by simp)

theorem appendNew_appends [DecidableEq κ]
    : ∃ added, appendNew key acc as = acc ++ added ∧ Appends key acc as added := by
  induction as generalizing acc with
  | nil => exact ⟨[], by simp [appendNew], Appends.nil⟩
  | cons a as ih =>
    have hfold : appendNew key acc (a :: as) = appendNew key (pushNew key acc a) as := rfl
    rw [hfold]
    unfold pushNew
    split
    next hold =>
      rw [Bool.and_eq_true, List.contains_iff_mem] at hold
      rcases @ih acc with ⟨added, heq, hadded⟩
      exact ⟨added, heq, hadded.skip hold.1 hold.2⟩
    next hnew =>
      rw [Bool.and_eq_true, List.contains_iff_mem, not_and] at hnew
      rcases @ih (acc ++ [a]) with ⟨added, heq, hadded⟩
      refine ⟨a :: added, ?_, hadded.cons hnew⟩
      rw [heq, List.append_assoc, List.singleton_append]

end AppendNew
