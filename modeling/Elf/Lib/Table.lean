import Mathlib.Data.List.Nodup

/-!
This module contains finite tables with a primary key: a list of rows, in insertion order, whose
keys are pairwise distinct. The operations are those of SQL: look a row up by its key, insert a row
unless its key is taken, update the row under a key, delete the rows that satisfy a condition.
-/

/--
A table of rows `α` with primary key `key`.
-/
structure Table (α : Type u) {κ : Type v} (key : α → κ) where
  /-- The rows, oldest first. -/
  rows : List α
  /-- No two rows share a key. -/
  nodup : (rows.map key).Nodup

namespace Table

variable {α : Type u} {κ : Type v} {key : α → κ}

@[ext]
theorem ext {t u : Table α key} (h : t.rows = u.rows) : t = u := by
  cases t
  cases u
  cases h
  rfl

instance [DecidableEq α] : DecidableEq (Table α key) :=
  fun t u => decidable_of_iff (t.rows = u.rows) ⟨ext, fun h => h ▸ rfl⟩

/-- The table without rows. -/
def empty : Table α key := ⟨[], by simp⟩

@[simp]
theorem rows_empty : (empty : Table α key).rows = [] := rfl

instance : Membership α (Table α key) := ⟨fun t a => a ∈ t.rows⟩

theorem mem_def (t : Table α key) (a : α) : a ∈ t ↔ a ∈ t.rows := Iff.rfl

@[simp]
theorem not_mem_empty (a : α) : ¬ a ∈ (empty : Table α key) := by
  simp [mem_def]

theorem eq_of_key_eq (t : Table α key) (ha : a ∈ t) (hb : b ∈ t) (h : key a = key b)
    : a = b := by
  exact List.inj_on_of_nodup_map t.nodup ha hb h

/-- Delete the rows that satisfy `p`. -/
def deleteWhere (t : Table α key) (p : α → Bool) : Table α key :=
  ⟨t.rows.filter (fun row => !p row), (List.filter_sublist.map key).nodup t.nodup⟩

theorem rows_deleteWhere (t : Table α key) (p : α → Bool)
    : (t.deleteWhere p).rows = t.rows.filter (fun row => !p row) := rfl

theorem mem_deleteWhere (t : Table α key) (p : α → Bool) (a : α)
    : a ∈ t.deleteWhere p ↔ a ∈ t ∧ p a = false := by
  simp [mem_def, rows_deleteWhere]

/--
Update the rows that satisfy `p` with `f`, which leaves the keys alone.
-/
def updateWhere (t : Table α key) (p : α → Bool) (f : α → α)
    (hf : ∀ a, key (f a) = key a := by intro _; rfl) : Table α key :=
  ⟨t.rows.map (fun row => if p row then f row else row), by
    have hkey : (key ∘ fun row => if p row then f row else row) = key := by
      funext row
      dsimp only [Function.comp]
      split
      . exact hf row
      . rfl
    rw [List.map_map, hkey]
    exact t.nodup⟩

theorem rows_updateWhere (t : Table α key) (p : α → Bool) (f : α → α) (hf)
    : (t.updateWhere p f hf).rows = t.rows.map (fun row => if p row then f row else row) := rfl

theorem mem_updateWhere (t : Table α key) (p : α → Bool) (f : α → α) (hf) (b : α)
    : b ∈ t.updateWhere p f hf ↔ ∃ a ∈ t, b = if p a then f a else a := by
  simp only [mem_def, rows_updateWhere, List.mem_map]
  constructor
  . rintro ⟨a, ha, rfl⟩
    exact ⟨a, ha, rfl⟩
  . rintro ⟨a, ha, rfl⟩
    exact ⟨a, ha, rfl⟩

/-! ## Rows that make up a set -/

/-- The rows are those of the members of a set, each of which has a list of them. -/
def Holds (t : Table α key) (f : β → List α) (S : Set β) : Prop :=
  ∀ row, row ∈ t ↔ ∃ b ∈ S, row ∈ f b

theorem Holds.empty (f : β → List α) : (empty : Table α key).Holds f ∅ := by
  intro row
  constructor
  . intro hrow
    exact (not_mem_empty row hrow).elim
  . rintro ⟨b, hb, -⟩
    exact hb.elim

/-- The rows of some of the members are deleted. -/
theorem Holds.deleteWhere {t : Table α key} {f : β → List α} {S D : Set β} {p : α → Bool}
    (h : t.Holds f S) (hp : ∀ b ∈ S, ∀ row ∈ f b, p row = true ↔ b ∈ D)
    : (t.deleteWhere p).Holds f (S \ D) := by
  intro row
  rw [mem_deleteWhere, h row, ← Bool.not_eq_true]
  constructor
  . rintro ⟨⟨b, hb, hrow⟩, hkept⟩
    exact ⟨b, ⟨hb, fun hD => hkept ((hp b hb row hrow).mpr hD)⟩, hrow⟩
  . rintro ⟨b, ⟨hb, hD⟩, hrow⟩
    exact ⟨⟨b, hb, hrow⟩, fun hp' => hD ((hp b hb row hrow).mp hp')⟩

/-- The rows that satisfy a condition are those of a list. -/
theorem Holds.filter_perm {t : Table α key} {f : β → List α} {S : Set β} (h : t.Holds f S)
    {q : α → Bool} {as : List α} (hnodup : (as.map key).Nodup)
    (has : ∀ a, a ∈ as ↔ (∃ b ∈ S, a ∈ f b) ∧ q a = true) : (t.rows.filter q).Perm as := by
  rw [List.perm_ext_iff_of_nodup ((t.nodup.of_map).filter q) hnodup.of_map]
  intro a
  rw [List.mem_filter, has, ← h a]
  rfl

/-! ## Keys -/

variable [DecidableEq κ]

/-- The row under the key `k`. -/
def find? (t : Table α key) (k : κ) : Option α :=
  t.rows.find? (fun row => key row = k)

theorem mem_of_find? {t : Table α key} (h : t.find? k = some a) : a ∈ t := by
  exact List.mem_of_find?_eq_some h

theorem key_of_find? {t : Table α key} (h : t.find? k = some a) : key a = k := by
  simpa using List.find?_some h

theorem find?_key (t : Table α key) (ha : a ∈ t) : t.find? (key a) = some a := by
  cases hfind : t.find? (key a) with
  | none =>
    have := List.find?_eq_none.mp hfind a ha
    simp at this
  | some b =>
    have hkey := key_of_find? hfind
    rw [t.eq_of_key_eq (mem_of_find? hfind) ha hkey]

theorem find?_eq_some_iff (t : Table α key) (k : κ) (a : α)
    : t.find? k = some a ↔ a ∈ t ∧ key a = k := by
  constructor
  . intro h
    exact ⟨mem_of_find? h, key_of_find? h⟩
  . rintro ⟨ha, rfl⟩
    exact t.find?_key ha

theorem find?_eq_none_iff (t : Table α key) (k : κ)
    : t.find? k = none ↔ ∀ a ∈ t, key a ≠ k := by
  simp [find?, mem_def]

theorem find?_eq_none_iff_notMem (t : Table α key) (k : κ)
    : t.find? k = none ↔ k ∉ t.rows.map key := by
  rw [find?_eq_none_iff, List.mem_map]
  constructor
  . rintro hne ⟨a, ha, hkey⟩
    exact hne a ha hkey
  . intro hnot a ha hkey
    exact hnot ⟨a, ha, hkey⟩

theorem countP_key (t : Table α key) (k : κ)
    : t.rows.countP (fun row => key row = k) = if (t.find? k).isSome then 1 else 0 := by
  have hcount : t.rows.countP (fun row => key row = k) = (t.rows.map key).count k := by
    rw [List.count, List.countP_map]
    rfl
  rw [hcount, t.nodup.count]
  cases hfind : t.find? k with
  | none =>
    rw [if_neg]
    . simp
    intro hmem
    rcases List.mem_map.mp hmem with ⟨row, hrow, hkey⟩
    exact (t.find?_eq_none_iff k).mp hfind row hrow hkey
  | some row =>
    rw [if_pos]
    . simp
    rw [← key_of_find? hfind]
    exact List.mem_map_of_mem (mem_of_find? hfind)

/-- Rows of other keys are appended. -/
theorem find?_append_of_ne {t u : Table α key} (h : u.rows = t.rows ++ new)
    (hnew : ∀ a ∈ new, key a ≠ k) : u.find? k = t.find? k := by
  have hnone : new.find? (fun row => key row = k) = none := by
    rw [List.find?_eq_none]
    intro a ha
    simpa using hnew a ha
  unfold find?
  rw [h, List.find?_append, hnone, Option.or_none]

/--
Append a row, unless a row with its key exists already.
-/
def insert? (t : Table α key) (a : α) : Option (Table α key) :=
  if h : key a ∈ t.rows.map key then
    none
  else
    some ⟨t.rows ++ [a], by
      rw [List.map_append, List.nodup_append]
      refine ⟨t.nodup, by simp, ?_⟩
      intro k hk l hl hkl
      simp only [List.map_cons, List.map_nil, List.mem_singleton] at hl
      subst hl
      subst hkl
      exact h hk⟩

theorem rows_insert? {t u : Table α key} (h : t.insert? a = some u)
    : u.rows = t.rows ++ [a] := by
  unfold insert? at h
  split at h
  . cases h
  . cases h
    rfl

theorem insert?_fresh {t u : Table α key} (h : t.insert? a = some u)
    : t.find? (key a) = none := by
  unfold insert? at h
  split at h
  . cases h
  next hfresh =>
    rw [find?_eq_none_iff]
    intro b hb hkey
    apply hfresh
    rw [← hkey]
    exact List.mem_map_of_mem hb

theorem insert?_isSome (t : Table α key) (h : t.find? (key a) = none)
    : ∃ u, t.insert? a = some u := by
  rw [find?_eq_none_iff] at h
  refine ⟨_, dif_neg ?_⟩
  intro hmem
  rcases List.mem_map.mp hmem with ⟨b, hb, hkey⟩
  exact h b hb hkey

theorem mem_insert? {t u : Table α key} (h : t.insert? a = some u) (b : α)
    : b ∈ u ↔ b ∈ t ∨ b = a := by
  simp [mem_def, rows_insert? h]

theorem find?_insert? {t u : Table α key} (h : t.insert? a = some u) (k : κ)
    : u.find? k = if key a = k then some a else t.find? k := by
  have hfresh := insert?_fresh h
  unfold find? at hfresh ⊢
  rw [rows_insert? h, List.find?_append]
  split
  next hk =>
    subst hk
    rw [hfresh]
    simp
  next hk =>
    simp [hk]

/--
Update the row under the key `k` with `f`, which leaves the keys alone.
-/
def modify (t : Table α key) (k : κ) (f : α → α)
    (hf : ∀ a, key (f a) = key a := by intro _; rfl) : Table α key :=
  ⟨t.rows.map (fun row => if key row = k then f row else row), by
    have hkey : (key ∘ fun row => if key row = k then f row else row) = key := by
      funext row
      dsimp only [Function.comp]
      split
      . exact hf row
      . rfl
    rw [List.map_map, hkey]
    exact t.nodup⟩

theorem rows_modify (t : Table α key) (k : κ) (f : α → α) (hf)
    : (t.modify k f hf).rows = t.rows.map (fun row => if key row = k then f row else row) := rfl

theorem find?_modify (t : Table α key) (k l : κ) (f : α → α) (hf)
    : (t.modify k f hf).find? l = if k = l then (t.find? l).map f else t.find? l := by
  have hkey : ∀ row, key (if key row = k then f row else row) = key row := by
    intro row
    split
    . exact hf row
    . rfl
  unfold find?
  rw [rows_modify, List.find?_map]
  have hcomp : (fun row => decide (key row = l)) ∘ (fun row => if key row = k then f row else row)
      = fun row => decide (key row = l) := by
    funext row
    simp only [Function.comp, hkey]
  rw [hcomp]
  cases hfind : t.rows.find? (fun row => decide (key row = l)) with
  | none => simp
  | some row =>
    have hrow : key row = l := by simpa using List.find?_some hfind
    subst hrow
    by_cases hk : k = key row
    . simp [hk]
    . have : key row ≠ k := fun h => hk h.symm
      simp [hk, this]

/-- Updating a row that is there sets it. -/
theorem find?_modify_of_find? {t : Table α key} (h : t.find? k = some a) (f : α → α) (hf) (l : κ)
    : (t.modify k f hf).find? l = if k = l then some (f a) else t.find? l := by
  rw [find?_modify]
  split
  next hk =>
    subst hk
    rw [h]
    rfl
  next => rfl

theorem find?_updateWhere (t : Table α key) (p : α → Bool) (f : α → α) (hf) (k : κ)
    : (t.updateWhere p f hf).find? k = (t.find? k).map fun row => if p row then f row else row := by
  unfold find?
  rw [rows_updateWhere, List.find?_map]
  congr 2
  funext row
  have hkey : key (if p row then f row else row) = key row := by
    split
    . exact hf row
    . rfl
  simp only [Function.comp, hkey]

theorem mem_modify (t : Table α key) (k : κ) (f : α → α) (hf) (b : α)
    : b ∈ t.modify k f hf ↔ ∃ a ∈ t, b = if key a = k then f a else a := by
  simp only [mem_def, rows_modify, List.mem_map]
  constructor
  . rintro ⟨a, ha, rfl⟩
    exact ⟨a, ha, rfl⟩
  . rintro ⟨a, ha, rfl⟩
    exact ⟨a, ha, rfl⟩

/--
Append a row or, where a row with its key exists already, update that one with `f`.
-/
def upsert (t : Table α key) (a : α) (f : α → α)
    (hf : ∀ a, key (f a) = key a := by intro _; rfl) : Table α key :=
  if h : key a ∈ t.rows.map key then
    t.modify (key a) f hf
  else
    ⟨t.rows ++ [a], by
      rw [List.map_append, List.nodup_append]
      refine ⟨t.nodup, by simp, ?_⟩
      intro k hk l hl hkl
      simp only [List.map_cons, List.map_nil, List.mem_singleton] at hl
      subst hl
      subst hkl
      exact h hk⟩

theorem find?_upsert (t : Table α key) (a : α) (f : α → α) (hf) (k : κ)
    : (t.upsert a f hf).find? k
        =
      if key a = k then some (((t.find? k).map f).getD a) else t.find? k := by
  unfold upsert
  split
  next h =>
    rcases List.mem_map.mp h with ⟨b, hb, hkey⟩
    rw [find?_modify]
    split
    next hk =>
      rw [← hk, ← hkey, t.find?_key hb]
      rfl
    next => rfl
  next h =>
    have hnone : t.find? (key a) = none := by
      rw [find?_eq_none_iff]
      intro b hb hkey
      apply h
      rw [← hkey]
      exact List.mem_map_of_mem hb
    unfold find? at hnone ⊢
    dsimp only
    rw [List.find?_append]
    split
    next hk =>
      subst hk
      rw [hnone]
      simp
    next hk => simp [hk]

theorem find?_deleteWhere (t : Table α key) (p : α → Bool) (k : κ)
    : (t.deleteWhere p).find? k = (t.find? k).filter fun row => !p row := by
  cases hfind : (t.deleteWhere p).find? k with
  | none =>
    cases hold : t.find? k with
    | none => rfl
    | some row =>
      rw [find?_eq_none_iff] at hfind
      cases hp : p row with
      | true => rw [Option.filter_some, hp, if_neg (by decide)]
      | false =>
        have hmem := (t.mem_deleteWhere p row).mpr ⟨mem_of_find? hold, hp⟩
        exact (hfind row hmem (key_of_find? hold)).elim
  | some row =>
    have hmem := (t.mem_deleteWhere p row).mp (mem_of_find? hfind)
    have hold := t.find?_key hmem.1
    rw [key_of_find? hfind] at hold
    rw [hold, Option.filter_some, hmem.2, if_pos (by decide)]

/-- Set the row under the key of `a` to `a`. -/
def replace (t : Table α key) (a : α) : Table α key :=
  ⟨(t.deleteWhere fun row => key row = key a).rows ++ [a], by
    rw [List.map_append, List.nodup_append]
    refine ⟨(t.deleteWhere _).nodup, by simp, ?_⟩
    intro k hk l hl hkl
    simp only [List.map_cons, List.map_nil, List.mem_singleton] at hl
    rcases List.mem_map.mp hk with ⟨row, hrow, hkey⟩
    have hne := ((t.mem_deleteWhere _ row).mp hrow).2
    rw [hkey, hkl, hl] at hne
    simp at hne⟩

theorem find?_replace (t : Table α key) (a : α) (k : κ)
    : (t.replace a).find? k = if key a = k then some a else t.find? k := by
  have hdelete := t.find?_deleteWhere (fun row => key row = key a) k
  unfold find? at hdelete ⊢
  unfold replace
  dsimp only
  rw [List.find?_append, hdelete]
  split
  next hk =>
    subst hk
    have hnone : ((t.rows.find? fun row => decide (key row = key a)).filter
        fun row => !decide (key row = key a)) = none := by
      rw [Option.filter_eq_none_iff]
      intro row hrow
      have hkey := List.find?_some hrow
      simpa using hkey
    rw [hnone]
    simp
  next hk =>
    cases hfind : t.rows.find? (fun row => decide (key row = k)) with
    | none => simp [hk]
    | some row =>
      have hkey : key row = k := by simpa using List.find?_some hfind
      have hne : key row ≠ key a := fun h => hk (h.symm.trans hkey)
      simp [hne]

theorem mem_replace (t : Table α key) (a b : α)
    : b ∈ t.replace a ↔ b = a ∨ (b ∈ t ∧ key b ≠ key a) := by
  unfold replace
  simp only [mem_def, rows_deleteWhere, List.mem_append, List.mem_singleton, List.mem_filter,
    Bool.not_eq_true', decide_eq_false_iff_not]
  exact or_comm

/-- Set one row after the other. -/
def replaceAll (t : Table α key) : List α → Table α key
  | [] => t
  | a :: as => (t.replace a).replaceAll as

theorem mem_replaceAll (t : Table α key) (as : List α) (hnodup : (as.map key).Nodup) (b : α)
    : b ∈ t.replaceAll as ↔ b ∈ as ∨ (b ∈ t ∧ key b ∉ as.map key) := by
  induction as generalizing t with
  | nil => simp [replaceAll]
  | cons a as ih =>
    rw [List.map_cons, List.nodup_cons] at hnodup
    unfold replaceAll
    rw [ih (t.replace a) hnodup.2, mem_replace, List.mem_cons, List.map_cons, List.mem_cons, not_or]
    constructor
    . rintro (hb | ⟨rfl | ⟨hb, hne⟩, hnot⟩)
      . exact .inl (.inr hb)
      . exact .inl (.inl rfl)
      . exact .inr ⟨hb, hne, hnot⟩
    . rintro ((rfl | hb) | ⟨hb, hne, hnot⟩)
      . exact .inr ⟨.inl rfl, hnodup.1⟩
      . exact .inl hb
      . exact .inr ⟨.inr ⟨hb, hne⟩, hnot⟩

/-- A row of a key that is not taken is appended. -/
theorem rows_upsert_of_none {t : Table α key} {a : α} {f : α → α} {hf} (h : t.find? (key a) = none)
    : (t.upsert a f hf).rows = t.rows ++ [a] := by
  unfold upsert
  split
  next hmem =>
    rcases List.mem_map.mp hmem with ⟨b, hb, hkey⟩
    exact ((t.find?_eq_none_iff (key a)).mp h b hb hkey).elim
  next => rfl

/-! ## Rows that satisfy a condition -/

theorem filter_insert? {t u : Table α key} {p : α → Bool} (h : t.insert? a = some u)
    (ha : p a = false) : u.rows.filter p = t.rows.filter p := by
  rw [rows_insert? h, List.filter_append]
  simp [ha]

theorem filter_modify (t : Table α key) (k : κ) (f : α → α) (hf) (p : α → Bool)
    (h : ∀ a ∈ t, key a = k → p a = false ∧ p (f a) = false)
    : (t.modify k f hf).rows.filter p = t.rows.filter p := by
  rw [rows_modify]
  have hrows : ∀ a ∈ t.rows, key a = k → p a = false ∧ p (f a) = false := h
  generalize t.rows = rows at hrows
  induction rows with
  | nil => rfl
  | cons a rows ih =>
    rw [List.map_cons, List.filter_cons, List.filter_cons,
      ih fun b hb => hrows b (List.mem_cons_of_mem a hb)]
    split
    next hk =>
      rcases hrows a List.mem_cons_self hk with ⟨ha, hfa⟩
      rw [ha, hfa]
      rfl
    next => rfl

theorem filter_upsert (t : Table α key) (a : α) (f : α → α) (hf) (p : α → Bool) (ha : p a = false)
    (h : ∀ b ∈ t, key b = key a → p b = false ∧ p (f b) = false)
    : (t.upsert a f hf).rows.filter p = t.rows.filter p := by
  unfold upsert
  split
  . exact filter_modify t (key a) f hf p h
  . rw [List.filter_append]
    simp [ha]

/-! ## Conditions on every row -/

variable {p : α → Prop}

theorem forall_insert? {t u : Table α key} (h : t.insert? a = some u) (ht : ∀ b ∈ t, p b) (ha : p a)
    : ∀ b ∈ u, p b := by
  intro b hb
  rcases (mem_insert? h b).mp hb with hb | rfl
  . exact ht b hb
  . exact ha

theorem forall_modify {t : Table α key} {k : κ} {f : α → α} (ht : ∀ b ∈ t, p b)
    (hp : ∀ b ∈ t, p (f b)) (hf : ∀ a, key (f a) = key a := by intro _; rfl)
    : ∀ b ∈ t.modify k f hf, p b := by
  intro b hb
  rcases (t.mem_modify k f hf b).mp hb with ⟨a, ha, rfl⟩
  split
  . exact hp a ha
  . exact ht a ha

omit [DecidableEq κ] in
theorem forall_updateWhere {t : Table α key} {q : α → Bool} {f : α → α} (ht : ∀ b ∈ t, p b)
    (hp : ∀ b ∈ t, p (f b)) (hf : ∀ a, key (f a) = key a := by intro _; rfl)
    : ∀ b ∈ t.updateWhere q f hf, p b := by
  intro b hb
  rcases (t.mem_updateWhere q f hf b).mp hb with ⟨a, ha, rfl⟩
  split
  . exact hp a ha
  . exact ht a ha

theorem forall_upsert {t : Table α key} {a : α} {f : α → α} (ht : ∀ b ∈ t, p b) (ha : p a)
    (hp : ∀ b ∈ t, p (f b)) (hf : ∀ a, key (f a) = key a := by intro _; rfl)
    : ∀ b ∈ t.upsert a f hf, p b := by
  unfold upsert
  split
  . exact forall_modify ht hp hf
  . intro b hb
    rcases List.mem_append.mp hb with hb | hb
    . exact ht b hb
    . rw [List.mem_singleton.mp hb]
      exact ha

theorem filter_insert?_append {t u : Table α key} (h : t.insert? a = some u) (q : α → Bool)
    : u.rows.filter q = t.rows.filter q ++ if q a then [a] else [] := by
  rw [rows_insert? h, List.filter_append, List.filter_cons, List.filter_nil]

/-! ## Partial unique indexes -/

variable {ι : Type w} {k : α → ι}

/-- Among the rows that satisfy a condition, no two agree on the index. -/
def UniqueOn (t : Table α key) (p : α → Prop) (k : α → ι) : Prop :=
  ∀ a ∈ t, ∀ b ∈ t, p a → p b → k a = k b → a = b

omit [DecidableEq κ] in
theorem UniqueOn.empty : (empty : Table α key).UniqueOn p k := by
  intro a ha
  cases ha

theorem UniqueOn.insert? {t u : Table α key} (ht : t.UniqueOn p k) (h : t.insert? a = some u)
    (ha : p a → ∀ b ∈ t, p b → k b ≠ k a) : u.UniqueOn p k := by
  intro b hb c hc hpb hpc heq
  rcases (mem_insert? h b).mp hb with hb | rfl
  . rcases (mem_insert? h c).mp hc with hc | rfl
    . exact ht b hb c hc hpb hpc heq
    . exact absurd heq (ha hpc b hb hpb)
  . rcases (mem_insert? h c).mp hc with hc | rfl
    . exact absurd heq.symm (ha hpb c hc hpc)
    . rfl

theorem modified_mem_modify (t : Table α key) (l : κ) (f : α → α) (ha : a ∈ t)
    (hf : ∀ a, key (f a) = key a := by intro _; rfl)
    : (if key a = l then f a else a) ∈ t.modify l f hf := by
  rw [mem_modify]
  exact ⟨a, ha, rfl⟩

theorem updated_mem_modify {t : Table α key} {f : α → α} (ha : a ∈ t)
    (hf : ∀ a, key (f a) = key a := by intro _; rfl) : f a ∈ t.modify (key a) f hf := by
  rw [mem_modify]
  exact ⟨a, ha, (if_pos rfl).symm⟩

/-- The row that is updated may not come to agree with another one. -/
theorem UniqueOn.modify {t : Table α key} {l : κ} {f : α → α} (ht : t.UniqueOn p k)
    (h : ∀ a ∈ t, key a = l → p (f a) → ∀ b ∈ t, key b ≠ l → p b → k b ≠ k (f a))
    (hf : ∀ a, key (f a) = key a := by intro _; rfl) : (t.modify l f hf).UniqueOn p k := by
  intro b hb c hc hpb hpc heq
  rw [mem_modify] at hb hc
  rcases hb with ⟨b, hb, rfl⟩
  rcases hc with ⟨c, hc, rfl⟩
  split at hpb
  next hkb =>
    split at hpc
    next hkc => rw [t.eq_of_key_eq hb hc (hkb.trans hkc.symm)]
    next hkc =>
      rw [if_pos hkb, if_neg hkc] at heq
      exact absurd heq.symm (h b hb hkb hpb c hc hkc hpc)
  next hkb =>
    split at hpc
    next hkc =>
      rw [if_neg hkb, if_pos hkc] at heq
      exact absurd heq (h c hc hkc hpc b hb hkb hpb)
    next hkc =>
      rw [if_neg hkb, if_neg hkc] at heq ⊢
      exact ht b hb c hc hpb hpc heq

/-! ## Rows that are inserted once -/

/-- `INSERT … ON CONFLICT DO NOTHING`. -/
def insertNew (t : Table α key) (a : α) : Table α key := (t.insert? a).getD t

/-- One row after the other. -/
def insertAllNew (t : Table α key) (as : List α) : Table α key := as.foldl insertNew t

theorem mem_insertNew {t : Table α key} (h : ∀ b ∈ t, key b = key a → b = a) (b : α)
    : b ∈ t.insertNew a ↔ b ∈ t ∨ b = a := by
  unfold insertNew
  cases hinsert : t.insert? a with
  | some u => exact mem_insert? hinsert b
  | none =>
    -- The row that has the key is the one that is inserted.
    have hmem : a ∈ t := by
      cases hfind : t.find? (key a) with
      | none =>
        rcases t.insert?_isSome hfind with ⟨u, hu⟩
        rw [hinsert] at hu
        cases hu
      | some c =>
        rw [← h c (mem_of_find? hfind) (key_of_find? hfind)]
        exact mem_of_find? hfind
    constructor
    . exact .inl
    . rintro (hb | rfl)
      . exact hb
      . exact hmem

/-- Rows of which the table has none, or the very same. -/
theorem mem_insertAllNew {t : Table α key} (hnodup : (as.map key).Nodup)
    (h : ∀ a ∈ as, ∀ b ∈ t, key b = key a → b = a) (b : α)
    : b ∈ t.insertAllNew as ↔ b ∈ t ∨ b ∈ as := by
  induction as generalizing t with
  | nil => simp [insertAllNew]
  | cons a as ih =>
    rw [List.map_cons, List.nodup_cons] at hnodup
    have hhead := mem_insertNew (h a List.mem_cons_self)
    have htail := ih (t := t.insertNew a) hnodup.2 (by
      intro c hc d hd hkey
      rcases (hhead d).mp hd with hd | rfl
      . exact h c (List.mem_cons_of_mem a hc) d hd hkey
      . refine absurd ?_ hnodup.1
        rw [hkey]
        exact List.mem_map_of_mem hc)
    change b ∈ (t.insertNew a).insertAllNew as ↔ _
    rw [htail, hhead, List.mem_cons, or_assoc]

/-- A member's rows are inserted, unless they are there. -/
theorem Holds.insertAllNew {t : Table α key} {f : β → List α} {S : Set β} (h : t.Holds f S)
    (hnodup : ((f b).map key).Nodup)
    (hkeys : ∀ c ∈ S, ∀ x ∈ f b, ∀ y ∈ f c, key y = key x → y = x)
    : (t.insertAllNew (f b)).Holds f (insert b S) := by
  intro row
  rw [mem_insertAllNew hnodup, h row]
  . constructor
    . rintro (⟨c, hc, hrow⟩ | hrow)
      . exact ⟨c, .inr hc, hrow⟩
      . exact ⟨b, .inl rfl, hrow⟩
    . rintro ⟨c, rfl | hc, hrow⟩
      . exact .inr hrow
      . exact .inl ⟨c, hc, hrow⟩
  . intro x hx y hy hkey
    rcases (h y).mp hy with ⟨c, hc, hyc⟩
    exact hkeys c hc x hx y hyc hkey

end Table
