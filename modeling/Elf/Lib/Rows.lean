import Mathlib.Data.List.Sort
import Mathlib.Data.List.TakeDrop
import Mathlib.Data.List.Induction

/-!
This module contains what is done with the rows of a query: they are put in the order of a key, they are
grouped, and they are handed out page by page.
-/

/-! ## Order -/

namespace OrderBy

variable {α κ : Type} [LinearOrder κ] {key : α → κ} {rows : List α}

/-- The rows in the order of a key, where those with one key stay as they are. -/
def orderBy (key : α → κ) (rows : List α) : List α := rows.insertionSort fun a b => key a ≤ key b

theorem orderBy_perm (key : α → κ) (rows : List α) : (orderBy key rows).Perm rows :=
  List.perm_insertionSort ..

@[simp]
theorem mem_orderBy : a ∈ orderBy key rows ↔ a ∈ rows := (orderBy_perm key rows).mem_iff

@[simp]
theorem length_orderBy : (orderBy key rows).length = rows.length := (orderBy_perm key rows).length_eq

theorem orderBy_pairwise (key : α → κ) (rows : List α)
    : (orderBy key rows).Pairwise fun a b => key a ≤ key b := by
  have htotal : Std.Total fun a b : α => key a ≤ key b := ⟨fun a b => le_total (key a) (key b)⟩
  have htrans : IsTrans α fun a b => key a ≤ key b := ⟨fun a b c hab hbc => hab.trans hbc⟩
  exact List.pairwise_insertionSort (fun a b : α => key a ≤ key b) rows

theorem orderBy_pairwise_lt (hrows : (rows.map key).Nodup)
    : (orderBy key rows).Pairwise fun a b => key a < key b := by
  have hnodup : ((orderBy key rows).map key).Nodup := by
    rw [((orderBy_perm key rows).map key).nodup_iff]
    exact hrows
  rw [List.Nodup, List.pairwise_map] at hnodup
  exact hnodup.imp₂ (fun a b hne hle => lt_of_le_of_ne hle hne) (orderBy_pairwise key rows)

theorem le_of_head? (h : (orderBy key rows).head? = some a) : ∀ b ∈ rows, key a ≤ key b := by
  intro b hb
  have hsorted := orderBy_pairwise key rows
  have hb := (mem_orderBy : b ∈ orderBy key rows ↔ _).mpr hb
  cases hlist : orderBy key rows with
  | nil =>
    rw [hlist] at h
    cases h
  | cons head tail =>
    rw [hlist] at h hb hsorted
    cases h
    rcases List.mem_cons.mp hb with rfl | hb
    . exact le_refl _
    . exact List.rel_of_pairwise_cons hsorted hb

/-- Rows of different keys can be put in order in one way. -/
theorem eq_orderBy {sorted : List α} (hperm : sorted.Perm rows)
    (hsorted : sorted.Pairwise fun a b => key a < key b) : sorted = orderBy key rows := by
  have hrows : (rows.map key).Nodup := by
    rw [← (hperm.map key).nodup_iff, List.Nodup, List.pairwise_map]
    exact hsorted.imp ne_of_lt
  apply (hperm.trans (orderBy_perm key rows).symm).eq_of_pairwise _ hsorted (orderBy_pairwise_lt hrows)
  intro a b _ _ hab hba
  exact absurd hab hba.not_gt

end OrderBy

/-! ## Groups -/

namespace Grouping

variable {ρ κ β : Type} [DecidableEq κ]

/-- The groups of some rows, in the order in which they begin, with one more row. -/
def addRow (key : ρ → κ) (start : ρ → β) (add : β → ρ → β) (groups : List (κ × β)) (row : ρ)
    : List (κ × β) :=
  if (groups.map Prod.fst).contains (key row) then
    groups.map fun group => if group.1 = key row then (group.1, add group.2 row) else group
  else
    groups ++ [(key row, add (start row) row)]

def groupBy (key : ρ → κ) (start : ρ → β) (add : β → ρ → β) (rows : List ρ) : List (κ × β) :=
  rows.foldl (addRow key start add) []

variable {key : ρ → κ} {start : ρ → β} {add : β → ρ → β} {rows : List ρ}

theorem groupBy_snoc (rows : List ρ) (row : ρ)
    : groupBy key start add (rows ++ [row]) = addRow key start add (groupBy key start add rows) row := by
  unfold groupBy
  rw [List.foldl_append]
  rfl

theorem keys_addRow (groups : List (κ × β)) (row : ρ)
    : (addRow key start add groups row).map Prod.fst
        = if (groups.map Prod.fst).contains (key row) then groups.map Prod.fst
          else groups.map Prod.fst ++ [key row] := by
  unfold addRow
  split
  . rw [List.map_map]
    apply List.map_congr_left
    intro group _
    rw [Function.comp_apply]
    split <;> rfl
  . rw [List.map_append]
    rfl

/-- Every key has one group, and the groups are in the order in which they begin. -/
theorem keys_groupBy (key : ρ → κ) (start : ρ → β) (add : β → ρ → β) (rows : List ρ)
    : ((groupBy key start add rows).map Prod.fst).Nodup
      ∧ ((groupBy key start add rows).map Prod.fst).Sublist (rows.map key)
      ∧ ∀ row ∈ rows, key row ∈ (groupBy key start add rows).map Prod.fst := by
  induction rows using List.reverseRecOn with
  | nil => exact ⟨List.nodup_nil, List.Sublist.refl _, nofun⟩
  | append_singleton rows row ih =>
    rcases ih with ⟨hnodup, hsublist, hmem⟩
    rw [groupBy_snoc, keys_addRow, List.map_append]
    split
    next hknown =>
      rw [List.contains_iff_mem] at hknown
      refine ⟨hnodup, hsublist.trans (List.sublist_append_left ..), ?_⟩
      intro other hother
      rcases List.mem_append.mp hother with hother | hother
      . exact hmem other hother
      . rw [List.mem_singleton.mp hother]
        exact hknown
    next hnew =>
      rw [List.contains_iff_mem] at hnew
      refine ⟨?_, hsublist.append (List.Sublist.refl _), ?_⟩
      . rw [List.nodup_append_comm]
        exact List.nodup_cons.mpr ⟨hnew, hnodup⟩
      . intro other hother
        rw [List.mem_append]
        rcases List.mem_append.mp hother with hother | hother
        . exact .inl (hmem other hother)
        . rw [List.mem_singleton.mp hother]
          exact .inr (List.mem_singleton_self _)

/-- A group is made of the rows of its key, and begins with the first of them. -/
theorem group_of_mem (hgroup : (k, b) ∈ groupBy key start add rows)
    : ∃ first more, rows.filter (key · = k) = first :: more
        ∧ b = (first :: more).foldl add (start first) := by
  induction rows using List.reverseRecOn generalizing b with
  | nil => cases hgroup
  | append_singleton rows row ih =>
    rw [groupBy_snoc] at hgroup
    rw [List.filter_append]
    unfold addRow at hgroup
    split at hgroup
    next hknown =>
      rcases List.mem_map.mp hgroup with ⟨⟨k', b'⟩, hbefore, heq⟩
      dsimp only at heq
      split at heq
      next hkey =>
        cases heq
        rcases ih hbefore with ⟨first, more, hfilter, hfold⟩
        refine ⟨first, more ++ [row], ?_, ?_⟩
        . rw [hfilter, List.filter_singleton, decide_eq_true hkey.symm]
          rfl
        . rw [← List.cons_append, List.foldl_append, hfold]
          rfl
      next hother =>
        cases heq
        rcases ih hbefore with ⟨first, more, hfilter, hfold⟩
        refine ⟨first, more, ?_, hfold⟩
        rw [hfilter, List.filter_singleton, decide_eq_false (Ne.symm hother)]
        exact List.append_nil _
    next hnew =>
      rw [List.contains_iff_mem] at hnew
      have hkeys := keys_groupBy key start add rows
      rcases List.mem_append.mp hgroup with hbefore | hlast
      . rcases ih hbefore with ⟨first, more, hfilter, hfold⟩
        have hother : key row ≠ k := by
          rintro rfl
          exact hnew (List.mem_map_of_mem hbefore)
        refine ⟨first, more, ?_, hfold⟩
        rw [hfilter, List.filter_singleton, decide_eq_false hother]
        exact List.append_nil _
      . cases List.mem_singleton.mp hlast
        refine ⟨row, [], ?_, rfl⟩
        have hnone : rows.filter (key · = key row) = [] := by
          rw [List.filter_eq_nil_iff]
          intro other hmem heq
          rw [decide_eq_true_eq] at heq
          exact hnew (heq ▸ hkeys.2.2 other hmem)
        rw [hnone, List.filter_singleton, decide_eq_true rfl]
        rfl

end Grouping

/-! ## Pages

A page goes on from the key that the one before it ended with, and the collection may change between
two pages. Whoever asks for page after page, to the last one, lists nothing twice and everything that is
in the collection all the while. -/

namespace Paging

open OrderBy

variable {α κ : Type} [LinearOrder κ] (key : α → κ)

/-- The rows after the cursor, the greatest first. -/
def rest (cursor : Option κ) (rows : List α) : List α :=
  orderBy (fun a => OrderDual.toDual (key a)) (rows.filter fun a => cursor.all (key a < ·))

/-- A page, and the cursor for the next one. -/
structure Page (α κ : Type) where
  rows : List α
  next : Option κ

/-- One row more than the page holds is looked up, to see whether there is a next one. -/
def page (limit : Nat) (cursor : Option κ) (rows : List α) : Page α κ :=
  let found := (rest key cursor rows).take (limit + 1)
  { rows := found.take limit
    next := if limit < found.length then found[limit - 1]?.map key else none }

/-- Page after page, to the last one, each of the collection as it is then. -/
inductive Walk (limit : Nat) : Option κ → List (List α) → List α → Prop where
  | last (hend : (page key limit cursor rows).next = none)
    : Walk limit cursor [rows] (page key limit cursor rows).rows
  | more (hnext : (page key limit cursor rows).next = some k) (later : Walk limit (some k) collections listed)
    : Walk limit cursor (rows :: collections) ((page key limit cursor rows).rows ++ listed)

variable {key} {limit : Nat} {cursor : Option κ} {rows : List α} {k : κ}

theorem mem_rest : a ∈ rest key cursor rows ↔ a ∈ rows ∧ ∀ k, cursor = some k → key a < k := by
  unfold rest
  rw [mem_orderBy, List.mem_filter, Option.all_eq_true]
  simp

theorem rest_pairwise (hrows : (rows.map key).Nodup)
    : (rest key cursor rows).Pairwise fun a b => key b < key a := by
  unfold rest
  have hnodup : ((rows.filter fun a => cursor.all fun k => key a < k).map
      fun a => OrderDual.toDual (key a)).Nodup :=
    (List.filter_sublist.map key).nodup hrows
  exact orderBy_pairwise_lt hnodup

theorem rows_page : (page key limit cursor rows).rows = (rest key cursor rows).take limit := by
  unfold page
  dsimp only
  rw [List.take_take, Nat.min_eq_left (Nat.le_succ limit)]

theorem mem_page (ha : a ∈ (page key limit cursor rows).rows) : a ∈ rest key cursor rows := by
  rw [rows_page] at ha
  exact List.mem_of_mem_take ha

/-- The last page holds all the rest. -/
theorem page_last (h : (page key limit cursor rows).next = none)
    : (page key limit cursor rows).rows = rest key cursor rows := by
  rw [rows_page]
  unfold page at h
  dsimp only at h
  split at h
  next hmore =>
    rw [Option.map_eq_none_iff, List.getElem?_eq_none_iff] at h
    omega
  next hend =>
    rw [List.length_take] at hend
    apply List.take_of_length_le
    omega

/-- The key of the last row of a page is the cursor for the next one. -/
theorem page_next (hlimit : 0 < limit) (h : (page key limit cursor rows).next = some k)
    : limit < (rest key cursor rows).length
      ∧ ∃ a, (rest key cursor rows)[limit - 1]? = some a ∧ key a = k := by
  unfold page at h
  dsimp only at h
  split at h
  next hmore =>
    rw [List.length_take] at hmore
    rw [List.getElem?_take_of_lt (by omega), Option.map_eq_some_iff] at h
    exact ⟨by omega, h⟩
  next => cases h

/-- A page that is not the last one holds the rows down to its cursor, and the others come after. -/
theorem page_more (hlimit : 0 < limit) (hrows : (rows.map key).Nodup)
    (h : (page key limit cursor rows).next = some k)
    : (∀ a ∈ (page key limit cursor rows).rows, k ≤ key a)
      ∧ ∀ a ∈ rest key cursor rows, a ∈ (page key limit cursor rows).rows ∨ key a < k := by
  have hsorted : (rest key cursor rows).Pairwise fun a b => key b < key a := rest_pairwise hrows
  rcases page_next hlimit h with ⟨hlength, last, hlast, rfl⟩
  rw [rows_page]
  rw [List.pairwise_iff_getElem] at hsorted
  rcases List.getElem?_eq_some_iff.mp hlast with ⟨hbound, rfl⟩
  constructor
  . intro a ha
    rcases List.mem_take_iff_getElem.mp ha with ⟨i, hi, rfl⟩
    rcases Nat.lt_or_ge i (limit - 1) with hlt | hge
    . exact (hsorted i (limit - 1) _ _ hlt).le
    . have heq : i = limit - 1 := by omega
      subst heq
      exact le_rfl
  . intro a ha
    rcases List.mem_iff_getElem.mp ha with ⟨i, hi, rfl⟩
    rcases Nat.lt_or_ge i limit with hlt | hge
    . exact .inl (List.mem_take_iff_getElem.mpr ⟨i, by omega, rfl⟩)
    . exact .inr (hsorted (limit - 1) i _ _ (by omega))

/-- A page that is not the last one is full. -/
theorem length_rest_next (hlimit : 0 < limit) (hrows : (rows.map key).Nodup)
    (h : (page key limit cursor rows).next = some k)
    : (rest key (some k) rows).length + limit ≤ (rest key cursor rows).length := by
  rcases page_next hlimit h with ⟨hlength, last, hlast, rfl⟩
  have hpassed := (mem_rest.mp (List.mem_of_getElem? hlast)).2
  have hsubset : rest key (some (key last)) rows ⊆ (rest key cursor rows).drop limit := by
    intro a ha
    rw [mem_rest] at ha
    have hafter := ha.2 _ rfl
    have hmem : a ∈ rest key cursor rows :=
      mem_rest.mpr ⟨ha.1, fun k hk => hafter.trans (hpassed k hk)⟩
    rw [← List.take_append_drop limit (rest key cursor rows), List.mem_append] at hmem
    rcases hmem with hpage | hdrop
    . rw [← rows_page] at hpage
      exact absurd ((page_more hlimit hrows h).1 a hpage) (not_le.mpr hafter)
    . exact hdrop
  have hnodup : (rest key (some (key last)) rows).Nodup := by
    apply (rest_pairwise hrows).imp
    rintro a b hlt rfl
    exact lt_irrefl _ hlt
  have hle := (List.subperm_of_subset hnodup hsubset).length_le
  rw [List.length_drop] at hle
  omega

namespace Walk

variable {collections : List (List α)} {listed : List α}

theorem lt_cursor (hlimit : 0 < limit) (h : Walk key limit cursor collections listed)
    : ∀ a ∈ listed, ∀ k, cursor = some k → key a < k := by
  induction h with
  | last hend => exact fun a ha => (mem_rest.mp (mem_page ha)).2
  | more hnext later ih =>
    intro a ha k hk
    rcases List.mem_append.mp ha with ha | ha
    . exact (mem_rest.mp (mem_page ha)).2 k hk
    . rcases page_next hlimit hnext with ⟨-, last, hlast, rfl⟩
      have hpassed := (mem_rest.mp (List.mem_of_getElem? hlast)).2 k hk
      exact (ih a ha _ rfl).trans hpassed

/-- The pages are in the order of the key, and so nothing is listed twice. -/
theorem pairwise (hlimit : 0 < limit) (hrows : ∀ rows ∈ collections, (rows.map key).Nodup)
    (h : Walk key limit cursor collections listed) : listed.Pairwise fun a b => key b < key a := by
  induction h with
  | last hend =>
    rw [rows_page]
    exact (rest_pairwise (hrows _ List.mem_cons_self)).sublist (List.take_sublist ..)
  | more hnext later ih =>
    rw [List.pairwise_append]
    refine ⟨?_, ih fun rows hmem => hrows rows (List.mem_cons_of_mem _ hmem), ?_⟩
    . rw [rows_page]
      exact (rest_pairwise (hrows _ List.mem_cons_self)).sublist (List.take_sublist ..)
    . intro a ha b hb
      have hdown := (page_more hlimit (hrows _ List.mem_cons_self) hnext).1 a ha
      exact (later.lt_cursor hlimit b hb _ rfl).trans_le hdown

theorem mem_collection (h : Walk key limit cursor collections listed)
    : ∀ a ∈ listed, ∃ rows ∈ collections, a ∈ rows := by
  induction h with
  | last hend => exact fun a ha => ⟨_, List.mem_cons_self, (mem_rest.mp (mem_page ha)).1⟩
  | more hnext later ih =>
    intro a ha
    rcases List.mem_append.mp ha with ha | ha
    . exact ⟨_, List.mem_cons_self, (mem_rest.mp (mem_page ha)).1⟩
    . rcases ih a ha with ⟨rows, hmem, hrow⟩
      exact ⟨rows, List.mem_cons_of_mem _ hmem, hrow⟩

/-- What is there all the while is listed. -/
theorem mem_of_forall_mem (hlimit : 0 < limit) (hrows : ∀ rows ∈ collections, (rows.map key).Nodup)
    (h : Walk key limit cursor collections listed) (ha : ∀ rows ∈ collections, a ∈ rows)
    (hcursor : ∀ k, cursor = some k → key a < k) : a ∈ listed := by
  induction h with
  | last hend =>
    rw [page_last hend, mem_rest]
    exact ⟨ha _ List.mem_cons_self, hcursor⟩
  | more hnext later ih =>
    rw [List.mem_append]
    have hmem := mem_rest.mpr ⟨ha _ List.mem_cons_self, hcursor⟩
    rcases (page_more hlimit (hrows _ List.mem_cons_self) hnext).2 a hmem with hpage | hafter
    . exact .inl hpage
    . apply Or.inr
      apply ih
      . exact fun rows hmem => hrows rows (List.mem_cons_of_mem _ hmem)
      . exact fun rows hmem => ha rows (List.mem_cons_of_mem _ hmem)
      . rintro _ ⟨⟩
        exact hafter

/-- The pages of a collection that stays as it is come to an end. -/
theorem exists_of_const (hlimit : 0 < limit) (hrows : (rows.map key).Nodup) (cursor : Option κ)
    : ∃ n listed, n * limit ≤ (rest key cursor rows).length
      ∧ Walk key limit cursor (List.replicate (n + 1) rows) listed := by
  cases hnext : (page key limit cursor rows).next with
  | none => exact ⟨0, _, by omega, .last hnext⟩
  | some k =>
    have hlength := length_rest_next hlimit hrows hnext
    rcases exists_of_const hlimit hrows (some k) with ⟨n, listed, hle, hwalk⟩
    refine ⟨n + 1, _, ?_, .more hnext hwalk⟩
    rw [Nat.succ_mul]
    omega
termination_by (rest key cursor rows).length

end Walk

end Paging
