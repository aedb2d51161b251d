import Mathlib.Init
import Mathlib.Data.List.Count
import Mathlib.Data.List.Nodup
import Mathlib.Logic.Relation
import Mathlib.Order.Basic

/-!
This module contains passes over a list: one that keeps a member until it meets a better one, one that
counts how often the keys of the list occur, and one that marks what is reached from given nodes, when
every edge leads to a smaller node, from the greatest node down.
-/

namespace FirstBest

variable {α : Type} {better : α → α → Bool}

def keep (better : α → α → Bool) (best : Option α) (a : α) : Option α :=
  if best.all (better a ·) then some a else best

/-- To be better is an order, in which the members that are not told apart are alike. -/
structure StrictWeak (better : α → α → Bool) : Prop where
  asymm : ∀ a b, better a b → ¬ better b a
  cotrans : ∀ a b c, better a b → better a c ∨ better c b

/-- Better than what is before it, and not worse than what is behind it. -/
structure IsFirstBest (better : α → α → Bool) (before : List α) (a : α) (behind : List α) : Prop
    where
  before : ∀ b ∈ before, better a b
  behind : ∀ b ∈ behind, ¬ better b a

theorem IsFirstBest.replace {before behind : List α} {a b : α} (hweak : StrictWeak better)
    (h : IsFirstBest better before a behind) (hbetter : better b a)
    : IsFirstBest better (before ++ a :: behind) b [] := by
  constructor
  . intro c hc
    rw [List.mem_append, List.mem_cons] at hc
    cases hc with
    | inl hc =>
      cases hweak.cotrans b a c hbetter with
      | inl hbc => exact hbc
      | inr hca => exact absurd hca (hweak.asymm a c (h.before c hc))
    | inr hc =>
      cases hc with
      | inl heq =>
        rw [heq]
        exact hbetter
      | inr hc =>
        cases hweak.cotrans b a c hbetter with
        | inl hbc => exact hbc
        | inr hca => exact absurd hca (h.behind c hc)
  . intro c hc
    contradiction

theorem IsFirstBest.concat {before behind : List α} {a b : α}
    (h : IsFirstBest better before a behind) (hbetter : ¬ better b a)
    : IsFirstBest better before a (behind ++ [b]) := by
  constructor
  . exact h.before
  . intro c hc
    rw [List.mem_append, List.mem_singleton] at hc
    cases hc with
    | inl hc => exact h.behind c hc
    | inr heq =>
      rw [heq]
      exact hbetter

/-- What the scan of a list keeps. -/
def Keeps (better : α → α → Bool) (l : List α) : Option α → Prop
  | none => l = []
  | some a => ∃ before behind, l = before ++ a :: behind ∧ IsFirstBest better before a behind

theorem Keeps.keep (hweak : StrictWeak better) {l : List α} {best : Option α}
    (h : Keeps better l best) (b : α) : Keeps better (l ++ [b]) (keep better best b) := by
  unfold FirstBest.keep
  cases best with
  | none =>
    unfold Keeps at h
    subst h
    refine ⟨[], [], rfl, ?_⟩
    constructor
    . intro c hc
      contradiction
    . intro c hc
      contradiction
  | some a =>
    have ⟨before, behind, hsplit, hfirst⟩ := h
    rw [hsplit]
    cases hbetter : better b a with
    | true =>
      simp only [Option.all_some, hbetter, if_true]
      exact ⟨before ++ a :: behind, [], rfl, hfirst.replace hweak hbetter⟩
    | false =>
      simp only [Option.all_some, hbetter, Bool.false_eq_true, if_false]
      refine ⟨before, behind ++ [b], ?_, hfirst.concat (by simp [hbetter])⟩
      rw [List.append_assoc, List.cons_append]

theorem Keeps.foldl (hweak : StrictWeak better) {l l' : List α} {best : Option α}
    (h : Keeps better l best) : Keeps better (l ++ l') (l'.foldl (FirstBest.keep better) best) := by
  induction l' generalizing l best with
  | nil =>
    rw [List.append_nil]
    exact h
  | cons b l' ih =>
    have hstep := ih (h.keep hweak b)
    rw [List.append_assoc] at hstep
    exact hstep

theorem keeps_foldl (hweak : StrictWeak better) (l : List α)
    : Keeps better l (l.foldl (keep better) none) := by
  have hempty : Keeps better [] none := rfl
  exact hempty.foldl hweak

end FirstBest

/-! ## Counts -/

namespace Tally

variable {κ : Type u} [DecidableEq κ]

/-- One more occurrence of the key. -/
def bump (key : κ) : List (κ × Nat) → List (κ × Nat)
  | [] => [(key, 1)]
  | (other, n) :: counts =>
    if other = key then
      (other, n + 1) :: counts
    else
      (other, n) :: bump key counts

def tally (keys : List κ) : List (κ × Nat) := keys.foldl (fun counts key => bump key counts) []

/-- A key without an entry does not occur. -/
def get (counts : List (κ × Nat)) (key : κ) : Nat := (counts.lookup key).getD 0

@[simp]
theorem get_nil (key : κ) : get [] key = 0 := rfl

theorem get_cons (other : κ) (n : Nat) (counts : List (κ × Nat)) (key : κ)
    : get ((other, n) :: counts) key = if other = key then n else get counts key := by
  unfold get
  rw [List.lookup_cons]
  by_cases h : other = key
  . simp [h]
  . have hne : (key == other) = false := beq_eq_false_iff_ne.mpr (Ne.symm h)
    rw [hne, if_neg h]

theorem get_bump (counts : List (κ × Nat)) (key key' : κ)
    : get (bump key counts) key' = get counts key' + if key = key' then 1 else 0 := by
  induction counts with
  | nil =>
    rw [bump, get_cons]
    simp
  | cons entry counts ih =>
    rcases entry with ⟨other, n⟩
    unfold bump
    split
    next h =>
      subst h
      rw [get_cons, get_cons]
      split <;> simp
    next h =>
      rw [get_cons, get_cons, ih]
      split
      next hother =>
        subst hother
        rw [if_neg (Ne.symm h), Nat.add_zero]
      next => rfl

theorem get_foldl_bump (keys : List κ) (counts : List (κ × Nat)) (key : κ)
    : get (keys.foldl (fun counts key => bump key counts) counts) key
      = get counts key + keys.count key := by
  induction keys generalizing counts with
  | nil => simp
  | cons first keys ih =>
    rw [List.foldl_cons, ih, get_bump, List.count_cons]
    simp only [beq_iff_eq]
    omega

theorem get_tally (keys : List κ) (key : κ) : get (tally keys) key = keys.count key := by
  unfold tally
  rw [get_foldl_bump]
  simp [get]

/-! ## Elements with keys of their own -/

variable {α ι : Type u} {id : α → ι} {p : α → Bool} {l kept : List α}

/-- Several elements satisfy a condition if one does and another one as well. -/
theorem one_lt_countP_iff (hnodup : (l.map id).Nodup) (ha : a ∈ l) (hp : p a = true)
    : 1 < l.countP p ↔ ∃ b ∈ l, id b ≠ id a ∧ p b = true := by
  classical
  have hself : a ∈ l.filter p := List.mem_filter.mpr ⟨ha, hp⟩
  have hfilter : (l.filter p).Nodup := (List.Nodup.of_map id hnodup).filter p
  have hmem (b : α) : b ∈ (l.filter p).erase a ↔ b ∈ l ∧ b ≠ a ∧ p b = true := by
    rw [hfilter.mem_erase_iff, List.mem_filter]
    tauto
  have hlength := List.length_erase_of_mem hself
  rw [List.countP_eq_length_filter]
  constructor
  . intro h
    have hpos : 0 < ((l.filter p).erase a).length := by omega
    rcases List.exists_mem_of_length_pos hpos with ⟨b, hb⟩
    rcases (hmem b).mp hb with ⟨hbl, hne, hpb⟩
    exact ⟨b, hbl, fun heq => hne (List.inj_on_of_nodup_map hnodup hbl ha heq), hpb⟩
  . rintro ⟨b, hbl, hne, hpb⟩
    have hb := (hmem b).mpr ⟨hbl, fun heq => hne (congrArg id heq), hpb⟩
    have hpos := List.length_pos_of_mem hb
    omega

/--
A part of a list shows for each of its elements that satisfy a condition whether the list has others
if and only if it does not hold exactly one of several.
-/
theorem shows_others_iff (hsub : kept.Sublist l)
    : (∀ a ∈ kept, p a = true → (1 < kept.countP p ↔ 1 < l.countP p))
      ↔ (1 < l.countP p → kept.countP p ≠ 1) := by
  have hle : kept.countP p ≤ l.countP p := hsub.countP_le
  constructor
  . intro h hl hone
    have hpos : 0 < kept.countP p := by omega
    rcases List.countP_pos_iff.mp hpos with ⟨a, ha, hp⟩
    have hkept := (h a ha hp).mpr hl
    omega
  . intro h a ha hp
    have hpos : 0 < kept.countP p := List.countP_pos_iff.mpr ⟨a, ha, hp⟩
    constructor
    . intro hkept
      omega
    . intro hl
      have hne := h hl
      omega

end Tally

/-! ## Marks -/

namespace Backward

variable {edges : Nat → List Nat} {marked : Nat → Bool} {n d : Nat}

def Edge (edges : Nat → List Nat) (a b : Nat) : Prop := b ∈ edges a

/-- Passes on the marks of the nodes below `n`, the greatest first. -/
def sweep (edges : Nat → List Nat) : Nat → (Nat → Bool) → Nat → Bool
  | 0, marked => marked
  | n + 1, marked =>
    sweep edges n (if marked n then fun d => marked d || (edges n).contains d else marked)

/-- The marks of the nodes from `n` on have been passed on. -/
def ClosedFrom (edges : Nat → List Nat) (n : Nat) (marked : Nat → Bool) : Prop :=
  ∀ a, n ≤ a → marked a = true → ∀ b ∈ edges a, marked b = true

theorem ClosedFrom.reaches (h : ClosedFrom edges 0 marked) {a b : Nat} (ha : marked a = true)
    (hreaches : Relation.ReflTransGen (Edge edges) a b) : marked b = true := by
  induction hreaches with
  | refl => exact ha
  | tail _ hedge ih => exact h _ (Nat.zero_le _) ih _ hedge

/-- A sweep over edges that lead down marks what is reached from a mark, and nothing else. -/
theorem sweep_iff (hdown : ∀ a, ∀ b ∈ edges a, b < a) (hclosed : ClosedFrom edges n marked)
    : sweep edges n marked d = true
        ↔ ∃ a, marked a = true ∧ Relation.ReflTransGen (Edge edges) a d := by
  induction n generalizing marked with
  | zero =>
    constructor
    . intro h
      exact ⟨d, h, Relation.ReflTransGen.refl⟩
    . intro h
      rcases h with ⟨a, ha, hreaches⟩
      exact hclosed.reaches ha hreaches
  | succ n ih =>
    unfold sweep
    split
    next hmarked =>
      have hnext : ClosedFrom edges n fun d => marked d || (edges n).contains d := by
        intro a ha hmark b hb
        rw [Bool.or_eq_true, List.contains_iff_mem] at hmark ⊢
        rcases Nat.eq_or_lt_of_le ha with heq | hlt
        . right
          rw [heq]
          exact hb
        . left
          cases hmark with
          | inl hmark => exact hclosed a hlt hmark b hb
          | inr hedge =>
            have := hdown n a hedge
            omega
      rw [ih hnext]
      constructor
      . intro h
        rcases h with ⟨a, ha, hreaches⟩
        rw [Bool.or_eq_true, List.contains_iff_mem] at ha
        cases ha with
        | inl ha => exact ⟨a, ha, hreaches⟩
        | inr hedge => exact ⟨n, hmarked, Relation.ReflTransGen.head hedge hreaches⟩
      . intro h
        rcases h with ⟨a, ha, hreaches⟩
        exact ⟨a, by rw [ha, Bool.true_or], hreaches⟩
    next hmarked =>
      apply ih
      intro a ha hmark
      apply hclosed a _ hmark
      apply Nat.lt_of_le_of_ne ha
      intro heq
      rw [heq] at hmarked
      exact hmarked hmark

/-- What a sweep marks from the ends of the edges of a node is what the node leads to. -/
theorem sweep_edges_iff (hdown : ∀ a, ∀ b ∈ edges a, b < a)
    : sweep edges n (fun d => (edges n).contains d) d = true
        ↔ Relation.TransGen (Edge edges) n d := by
  rw [sweep_iff hdown]
  . constructor
    . intro h
      rcases h with ⟨a, ha, hreaches⟩
      rw [List.contains_iff_mem] at ha
      exact Relation.TransGen.head' ha hreaches
    . intro h
      rcases Relation.TransGen.head'_iff.mp h with ⟨a, hedge, hreaches⟩
      exact ⟨a, List.contains_iff_mem.mpr hedge, hreaches⟩
  . intro a ha hmark
    have := hdown n a (List.contains_iff_mem.mp hmark)
    omega

theorem lt_of_transGen (hdown : ∀ a, ∀ b ∈ edges a, b < a)
    (h : Relation.TransGen (Edge edges) n d) : d < n := by
  induction h with
  | single hedge => exact hdown _ _ hedge
  | tail _ hedge ih => exact Nat.lt_trans (hdown _ _ hedge) ih

end Backward
