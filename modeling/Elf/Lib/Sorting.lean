import Mathlib.Data.List.Sort
import Mathlib.Order.Compare
import Mathlib.Data.List.Destutter

/-!
This module contains stable sorting by a comparison that returns an ordering, and lists that are
sorted and then rid of neighbours that are equal. Under a total order, what remains is determined by
the members.
-/

namespace Sorting

variable {α β : Type} {cmp : α → α → Ordering}

def sortBy (cmp : α → α → Ordering) (l : List α) : List α :=
  l.insertionSort fun a b => (cmp a b).isLE

theorem sortBy_perm (l : List α) : (sortBy cmp l).Perm l := by
  apply List.perm_insertionSort

@[simp]
theorem mem_sortBy {l : List α} {a : α} : a ∈ sortBy cmp l ↔ a ∈ l := by
  apply (sortBy_perm l).mem_iff

@[simp]
theorem length_sortBy (l : List α) : (sortBy cmp l).length = l.length := by
  apply (sortBy_perm l).length_eq

/-- A sort commutes with a map that the comparison does not notice. -/
theorem map_sortBy {cmp' : β → β → Ordering} {f : α → β} {l : List α}
    (h : ∀ a ∈ l, ∀ b ∈ l, cmp' (f a) (f b) = cmp a b)
    : (sortBy cmp l).map f = sortBy cmp' (l.map f) := by
  apply List.map_insertionSort
  intro a ha b hb
  rw [h a ha b hb]

theorem sortBy_congr {cmp' : α → α → Ordering} {l : List α}
    (h : ∀ a ∈ l, ∀ b ∈ l, cmp' a b = cmp a b) : sortBy cmp l = sortBy cmp' l := by
  have hmap : (sortBy cmp l).map id = sortBy cmp' (l.map id) := map_sortBy h
  simpa using hmap

theorem isLE_swap [Std.OrientedCmp cmp] (a b : α) : (cmp b a).isLE = (cmp a b).swap.isLE := by
  have hswap : cmp b a = (cmp a b).swap := Std.OrientedCmp.eq_swap
  rw [hswap]

theorem sortBy_pairwise [Std.TransCmp cmp] (l : List α)
    : (sortBy cmp l).Pairwise fun a b => (cmp a b).isLE := by
  have : Std.Total fun a b => ((cmp a b).isLE : Prop) := by
    constructor
    intro a b
    rw [isLE_swap a b]
    cases cmp a b <;> simp
  have : IsTrans α fun a b => (cmp a b).isLE := by
    constructor
    intro a b c hab hbc
    exact Std.TransCmp.isLE_trans hab hbc
  apply List.pairwise_insertionSort

/-- A member that is before another one is placed before it. -/
theorem getElem?_sortBy_of_lt [Std.TransCmp cmp] {l : List α} {a b : α} {j : Nat} (ha : a ∈ l)
    (hlt : cmp a b = .lt) (hj : (sortBy cmp l)[j]? = some b)
    : ∃ i, i < j ∧ (sortBy cmp l)[i]? = some a := by
  have ⟨i, hi⟩ := List.mem_iff_getElem?.mp (mem_sortBy.mpr ha : a ∈ sortBy cmp l)
  refine ⟨i, ?_, hi⟩
  have ⟨hilen, hia⟩ := List.getElem?_eq_some_iff.mp hi
  have ⟨hjlen, hjb⟩ := List.getElem?_eq_some_iff.mp hj
  apply Classical.byContradiction
  intro hnot
  have hisle : (cmp b a).isLE := by
    by_cases heq : i = j
    . subst heq
      rw [hia] at hjb
      have hself : cmp b b = .eq := Std.ReflCmp.compare_self
      rw [hjb, hself]
      rfl
    . have hpairwise := List.pairwise_iff_getElem.mp (@sortBy_pairwise _ cmp _ l)
      rw [← hia, ← hjb]
      exact hpairwise j i hjlen hilen (by omega)
  rw [isLE_swap a b, hlt] at hisle
  contradiction

/-- Members that are equal to the comparison stay in their order. -/
theorem filter_sortBy [Std.TransCmp cmp] (a : α) (l : List α)
    : (sortBy cmp l).filter (fun b => cmp a b == .eq) = l.filter fun b => cmp a b == .eq := by
  have hsublist : (l.filter fun b => cmp a b == .eq).Sublist (sortBy cmp l) := by
    apply List.sublist_insertionSort _ List.filter_sublist
    apply List.pairwise_of_forall_mem_list
    intro b hb c hc
    have hb := eq_of_beq (List.mem_filter.mp hb).2
    have hc := eq_of_beq (List.mem_filter.mp hc).2
    have hba : cmp b a = .eq := Std.OrientedCmp.eq_comm.mp hb
    rw [Std.TransCmp.eq_trans hba hc]
    rfl
  have hfilter := hsublist.filter fun b => cmp a b == .eq
  rw [List.filter_filter] at hfilter
  simp only [Bool.and_self] at hfilter
  apply (hfilter.eq_of_length _).symm
  apply ((sortBy_perm l).symm.filter _).length_eq

theorem orderedInsert_eq_cons {r : α → α → Prop} [DecidableRel r] {l : List α} {a : α}
    (h : ∀ b ∈ l, r a b) : l.orderedInsert r a = a :: l := by
  cases l with
  | nil => rfl
  | cons b l => rw [List.orderedInsert_cons, if_pos (h b List.mem_cons_self)]

theorem filter_orderedInsert {r : α → α → Prop} [DecidableRel r] [IsTrans α r] {l : List α}
    (hsorted : l.Pairwise r) (p : α → Bool) (a : α)
    : (l.orderedInsert r a).filter p
        = if p a then (l.filter p).orderedInsert r a else l.filter p := by
  induction l with
  | nil =>
    rw [List.orderedInsert_nil, List.filter_cons, List.filter_nil]
    split
    . rfl
    . rfl
  | cons b l ih =>
    have htail := ih (List.pairwise_cons.mp hsorted).2
    rw [List.orderedInsert_cons]
    split
    next hab =>
      rw [List.filter_cons]
      split
      . symm
        apply orderedInsert_eq_cons
        intro c hc
        rcases List.mem_cons.mp (List.mem_filter.mp hc).1 with rfl | hc
        . exact hab
        . exact IsTrans.trans a b c hab ((List.pairwise_cons.mp hsorted).1 c hc)
      . rfl
    next hab =>
      rw [List.filter_cons, List.filter_cons, htail]
      cases p a with
      | false =>
        simp only [Bool.false_eq_true, if_false]
      | true =>
        simp only [if_true]
        split
        . rw [List.orderedInsert_cons, if_neg hab]
        . rfl

/-- What satisfies a condition is sorted among itself. -/
theorem sortBy_filter [Std.TransCmp cmp] (p : α → Bool) (l : List α)
    : (sortBy cmp l).filter p = sortBy cmp (l.filter p) := by
  have : IsTrans α fun a b => (cmp a b).isLE := ⟨fun a b c => Std.TransCmp.isLE_trans⟩
  induction l with
  | nil => rfl
  | cons a l ih =>
    change ((sortBy cmp l).orderedInsert _ a).filter p = _
    rw [filter_orderedInsert (sortBy_pairwise l), ih, List.filter_cons]
    split
    . rfl
    . rfl

/-- The comparison tells the members of a list apart, so that there is one way to sort them. -/
theorem eq_sortBy_of_perm [Std.TransCmp cmp] {l sorted : List α}
    (heq : ∀ a ∈ l, ∀ b ∈ l, cmp a b = .eq → a = b) (hperm : sorted.Perm l)
    (hsorted : sorted.Pairwise fun a b => (cmp a b).isLE) : sorted = sortBy cmp l := by
  apply List.Perm.eq_of_pairwise _ hsorted (sortBy_pairwise l)
  . exact hperm.trans (sortBy_perm l).symm
  . intro a b ha hb hab hba
    apply heq a (hperm.mem_iff.mp ha) b (mem_sortBy.mp hb)
    rw [isLE_swap a b] at hba
    cases h : cmp a b with
    | eq => rfl
    | lt => simp [h] at hba
    | gt => simp [h] at hab

theorem sortBy_eq_of_perm [Std.TransCmp cmp] {l l' : List α}
    (heq : ∀ a ∈ l, ∀ b ∈ l, cmp a b = .eq → a = b) (hperm : l'.Perm l)
    : sortBy cmp l' = sortBy cmp l := by
  apply eq_sortBy_of_perm heq
  . exact (sortBy_perm l').trans hperm
  . exact sortBy_pairwise l'

/-! ## Strict orders on a list -/

/-- On the members of the list, the comparison is a strict total order. -/
structure StrictOn (cmp : α → α → Ordering) (l : List α) : Prop where
  swap : ∀ a ∈ l, ∀ b ∈ l, cmp b a = (cmp a b).swap
  eq : ∀ a ∈ l, ∀ b ∈ l, cmp a b = .eq → a = b
  trans : ∀ a ∈ l, ∀ b ∈ l, ∀ c ∈ l, cmp a b = .lt → cmp b c = .lt → cmp a c = .lt

/-- How many members of the list are before one of them. -/
def below (cmp : α → α → Ordering) (l : List α) (a : α) : Nat := l.countP fun b => cmp b a == .lt

theorem below_of_perm {l l' : List α} (hperm : l'.Perm l) (a : α) : below cmp l' a = below cmp l a :=
  hperm.countP_eq _

theorem countP_lt_countP {p q : α → Bool} {l : List α} {a : α} (himp : ∀ b ∈ l, p b → q b)
    (ha : a ∈ l) (hp : p a = false) (hq : q a = true) : l.countP p < l.countP q := by
  induction l with
  | nil => contradiction
  | cons b l ih =>
    have htail : ∀ c ∈ l, p c → q c := fun c hc => himp c (List.mem_cons_of_mem b hc)
    have hle := List.countP_mono_left htail
    have hhead := himp b List.mem_cons_self
    rw [List.countP_cons, List.countP_cons]
    cases ha with
    | head =>
      rw [hp, hq]
      simp only [if_true, Bool.false_eq_true, if_false]
      omega
    | tail _ ha =>
      have hlt := ih htail ha
      cases hb : p b with
      | false =>
        simp only [Bool.false_eq_true, if_false]
        omega
      | true =>
        rw [hhead hb]
        simp only [if_true]
        omega

namespace StrictOn

variable {l : List α}

theorem self (h : StrictOn cmp l) {a : α} (ha : a ∈ l) : cmp a a = .eq := by
  have hswap := h.swap a ha a ha
  cases hcmp : cmp a a with
  | eq => rfl
  | lt => simp [hcmp] at hswap
  | gt => simp [hcmp] at hswap

theorem below_lt (h : StrictOn cmp l) {a b : α} (ha : a ∈ l) (hb : b ∈ l) (hlt : cmp a b = .lt)
    : below cmp l a < below cmp l b := by
  apply countP_lt_countP (a := a)
  . intro c hc hca
    rw [beq_iff_eq] at hca
    rw [h.trans c hc a ha b hb hca hlt]
    rfl
  . exact ha
  . rw [h.self ha]
    rfl
  . rw [hlt]
    rfl

theorem transCmp (h : StrictOn cmp l)
    : Std.TransCmp fun a b : { a // a ∈ l } => cmp a.1 b.1 where
  eq_swap {a b} := h.swap b.1 b.2 a.1 a.2
  isLE_trans {a b c} hab hbc := by
    cases hcmp : cmp a.1 b.1 with
    | gt => simp [hcmp] at hab
    | eq =>
      rw [h.eq a.1 a.2 b.1 b.2 hcmp]
      exact hbc
    | lt =>
      cases hcmp' : cmp b.1 c.1 with
      | gt => simp [hcmp'] at hbc
      | eq =>
        rw [← h.eq b.1 b.2 c.1 c.2 hcmp', hcmp]
        rfl
      | lt =>
        rw [h.trans a.1 a.2 b.1 b.2 c.1 c.2 hcmp hcmp']
        rfl

theorem pairwise_sortBy (h : StrictOn cmp l)
    : (sortBy cmp l).Pairwise fun a b => (cmp a b).isLE := by
  have hsorted := @sortBy_pairwise _ (fun a b : { a // a ∈ l } => cmp a.1 b.1) h.transCmp l.attach
  have hmap : (sortBy (fun a b : { a // a ∈ l } => cmp a.1 b.1) l.attach).map Subtype.val
      = sortBy cmp (l.attach.map Subtype.val) := by
    apply map_sortBy
    intro a _ b _
    rfl
  rw [List.attach_map_subtype_val] at hmap
  rw [← hmap, List.pairwise_map]
  exact hsorted

/-- The place of a member in the sorted list is the number of those before it. -/
theorem idxOf_sortBy [DecidableEq α] (h : StrictOn cmp l) (hnodup : l.Nodup) {a : α} (ha : a ∈ l)
    : (sortBy cmp l).idxOf a = below cmp l a := by
  have hsortBy : a ∈ sortBy cmp l := mem_sortBy.mpr ha
  have ⟨before, behind, hsplit⟩ := List.append_of_mem hsortBy
  have hperm : (sortBy cmp l).Perm l := sortBy_perm l
  have hnodup' := hperm.nodup_iff.mpr hnodup
  have hsorted := h.pairwise_sortBy
  rw [← below_of_perm hperm]
  rw [hsplit] at hnodup' hsorted ⊢
  have ⟨_, hbehind, hnot⟩ := List.nodup_append.mp hnodup'
  have ⟨_, hle, hcross⟩ := List.pairwise_append.mp hsorted
  have hmem {b : α} (hb : b ∈ before ++ a :: behind) : b ∈ l := by
    rw [← hsplit] at hb
    exact mem_sortBy.mp hb
  have hbefore : ∀ b ∈ before, cmp b a == .lt := by
    intro b hb
    have hisle := hcross b hb a List.mem_cons_self
    have hne := hnot b hb a List.mem_cons_self
    cases hcmp : cmp b a with
    | lt => rfl
    | eq => exact absurd (h.eq b (hmem (List.mem_append_left _ hb)) a ha hcmp) hne
    | gt => simp [hcmp] at hisle
  have hafter : ∀ b ∈ a :: behind, ¬ (cmp b a == .lt) := by
    intro b hb hlt
    rw [beq_iff_eq] at hlt
    cases hb with
    | head => simp [h.self ha] at hlt
    | tail _ hb =>
      have hisle := (List.pairwise_cons.mp hle).1 b hb
      rw [h.swap b (hmem (List.mem_append_right _ (List.mem_cons_of_mem a hb))) a ha, hlt] at hisle
      contradiction
  have hnotmem : a ∉ before := by
    intro hin
    exact hnot a hin a List.mem_cons_self rfl
  unfold below
  rw [List.idxOf_append_of_notMem hnotmem, List.idxOf_cons_self, List.countP_append,
    List.countP_eq_length.mpr hbefore, List.countP_eq_zero.mpr hafter]

end StrictOn

end Sorting

/-! ## Sorted lists without equal neighbours -/

namespace SortDedup

variable {α : Type} {r : α → α → Prop} {l l' : List α} {a b : α}

/-- In a sorted list, equal members are neighbours. -/
theorem nodup_of_isChain_ne [Std.Antisymm r] (hsorted : l.Pairwise r) (hchain : l.IsChain (· ≠ ·))
    : l.Nodup := by
  induction l with
  | nil => exact List.nodup_nil
  | cons a l ih =>
    rw [List.pairwise_cons] at hsorted
    rw [List.nodup_cons]
    refine ⟨?_, ih hsorted.2 hchain.tail⟩
    intro hmem
    cases l with
    | nil => cases hmem
    | cons b l =>
      have hne := (List.isChain_cons_cons.mp hchain).1
      have hab := hsorted.1 b List.mem_cons_self
      cases hmem with
      | head => exact hne rfl
      | tail _ hmem =>
        have hba := (List.pairwise_cons.mp hsorted.2).1 a hmem
        exact hne (Std.Antisymm.antisymm a b hab hba)

variable [DecidableEq α]

theorem mem_destutter' : a ∈ l.destutter' (· ≠ ·) b ↔ a = b ∨ a ∈ l := by
  induction l generalizing b with
  | nil => simp
  | cons c l ih =>
    rw [List.destutter'_cons]
    split
    . rw [List.mem_cons, ih, List.mem_cons]
    next h =>
      rw [not_not] at h
      rw [ih, List.mem_cons, h]
      tauto

theorem mem_destutter : a ∈ l.destutter (· ≠ ·) ↔ a ∈ l := by
  cases l with
  | nil => simp
  | cons b l => rw [List.destutter_cons', mem_destutter', List.mem_cons]

variable [DecidableRel r]

def sortDedup (r : α → α → Prop) [DecidableRel r] (l : List α) : List α :=
  (l.insertionSort r).destutter (· ≠ ·)

theorem mem_sortDedup : a ∈ sortDedup r l ↔ a ∈ l := by
  unfold sortDedup
  rw [mem_destutter, List.mem_insertionSort]

theorem pairwise_sortDedup [Std.Total r] [IsTrans α r] (l : List α)
    : (sortDedup r l).Pairwise r := by
  exact (List.pairwise_insertionSort r l).sublist (List.destutter_sublist _ _)

theorem sortDedup_eq_iff [Std.Total r] [IsTrans α r] [Std.Antisymm r]
    : sortDedup r l = sortDedup r l' ↔ ∀ a, a ∈ l ↔ a ∈ l' := by
  constructor
  . intro h a
    rw [← mem_sortDedup (r := r), h, mem_sortDedup]
  . intro h
    have hnodup (l : List α) : (sortDedup r l).Nodup :=
      nodup_of_isChain_ne (pairwise_sortDedup l) (List.isChain_destutter _ _)
    have hperm : (sortDedup r l).Perm (sortDedup r l') := by
      rw [List.perm_ext_iff_of_nodup (hnodup l) (hnodup l')]
      intro a
      rw [mem_sortDedup, mem_sortDedup]
      exact h a
    exact hperm.eq_of_pairwise' (pairwise_sortDedup l) (pairwise_sortDedup l')

/-- A list that is rid of its repetitions and sorted is determined by its members. -/
theorem insertionSort_dedup_congr [Std.Total r] [IsTrans α r] [Std.Antisymm r]
    (h : ∀ a, a ∈ l ↔ a ∈ l') : l.dedup.insertionSort r = l'.dedup.insertionSort r := by
  have hperm : l.dedup.Perm l'.dedup := by
    rw [List.perm_ext_iff_of_nodup l.nodup_dedup l'.nodup_dedup]
    intro a
    rw [List.mem_dedup, List.mem_dedup]
    exact h a
  apply List.Perm.eq_of_pairwise' (List.pairwise_insertionSort r _) (List.pairwise_insertionSort r _)
  exact ((List.perm_insertionSort r _).trans hperm).trans (List.perm_insertionSort r _).symm

end SortDedup
