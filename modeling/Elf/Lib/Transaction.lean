import Elf.Lib.Table

/-!
This module contains transactions: functions from a state to an error or to a result and the next
state. A transaction that ends in an error is rolled back. It also contains what a fallible function
that is run over a list returns, item by item.
-/

theorem Except.bind_eq_ok {x : Except ε α} {f : α → Except ε β}
    : (x >>= f) = .ok b ↔ ∃ a, x = .ok a ∧ f a = .ok b := by
  cases x with
  | ok a => simp [bind, Except.bind]
  | error e => simp [bind, Except.bind]

theorem Except.exists_bind {x : Except ε α} {f : α → Except ε β} (hx : ∃ a, x = .ok a)
    (hf : ∀ a, x = .ok a → ∃ b, f a = .ok b) : ∃ b, (x >>= f) = .ok b := by
  rcases hx with ⟨a, ha⟩
  rcases hf a ha with ⟨b, hb⟩
  exact ⟨b, bind_eq_ok.mpr ⟨a, ha, hb⟩⟩

theorem Except.pure_eq_ok {a b : α} : (pure a : Except ε α) = .ok b ↔ b = a := by
  constructor
  . intro h
    cases h
    rfl
  . intro h
    rw [h]
    rfl

theorem Except.toOption_eq_some_iff {x : Except ε α} {a : α}
    : x.toOption = some a ↔ x = .ok a := by
  cases x with
  | ok b => simp [Except.toOption]
  | error e => simp [Except.toOption]

/-- A guard: the error `err` when the condition holds. -/
def Except.rejectIf (c : Bool) (err : ε) : Except ε Unit :=
  if c then .error err else .ok ()

theorem Except.rejectIf_eq_ok {c : Bool} {err : ε} {u : Unit}
    : Except.rejectIf c err = .ok u ↔ c = false := by
  cases c with
  | false => simp [rejectIf]
  | true => simp [rejectIf]

/-- The value of a lookup, or the error `err` when there is none. -/
def Except.ofOption (err : ε) : Option α → Except ε α
  | some a => .ok a
  | none => .error err

theorem Except.ofOption_eq_ok {err : ε} {o : Option α} {a : α}
    : Except.ofOption err o = .ok a ↔ o = some a := by
  cases o with
  | none => simp [ofOption]
  | some b => simp [ofOption]

theorem Except.map_eq_ok {x : Except ε α} {f : α → β}
    : (f <$> x) = .ok b ↔ ∃ a, x = .ok a ∧ f a = b := by
  cases x with
  | ok a => simp [Functor.map, Except.map]
  | error e => simp [Functor.map, Except.map]

theorem Except.mapError_eq_ok {x : Except ε α} {f : ε → ε'} {a : α}
    : x.mapError f = .ok a ↔ x = .ok a := by
  cases x with
  | ok b => simp [Except.mapError]
  | error e => simp [Except.mapError]

abbrev Transaction (ε : Type u) (σ : Type v) (α : Type w) := σ → Except ε (α × σ)

namespace Transaction

variable {ε : Type u} {σ : Type v} {α : Type w}

/-- The state once the transaction is over, committed or rolled back. -/
def next (tx : Transaction ε σ α) (s : σ) : σ :=
  match tx s with
  | .ok (_, t) => t
  | .error _ => s

theorem next_of_ok {tx : Transaction ε σ α} (h : tx s = .ok (a, t)) : tx.next s = t := by
  simp only [next, h]

theorem next_of_error {tx : Transaction ε σ α} (h : tx s = .error e) : tx.next s = s := by
  simp only [next, h]

theorem next_cases (tx : Transaction ε σ α) (s : σ)
    : (∃ a, tx s = .ok (a, tx.next s)) ∨ ∃ e, tx s = .error e ∧ tx.next s = s := by
  cases h : tx s with
  | ok out =>
    left
    exact ⟨out.1, by rw [next_of_ok h]⟩
  | error e =>
    right
    exact ⟨e, rfl, next_of_error h⟩

theorem eq_ok_next {tx : Transaction ε σ Unit} (h : (tx s).isOk = true)
    : tx s = .ok ((), tx.next s) := by
  rcases next_cases tx s with ⟨_, hok⟩ | ⟨e, herr, -⟩
  . exact hok
  . rw [herr] at h
    cases h

end Transaction

namespace Table

variable {α : Type u} {κ : Type v} {key : α → κ} [DecidableEq κ]

/-- Insert a row, with the error `err` where its key is taken. -/
def insert (t : Table α key) (a : α) (err : ε) : Except ε (Table α key) :=
  match t.insert? a with
  | some u => .ok u
  | none => .error err

theorem insert_eq_ok {t u : Table α key} {err : ε}
    : t.insert a err = .ok u ↔ t.insert? a = some u := by
  unfold insert
  cases t.insert? a with
  | some v => simp
  | none => simp

theorem insert_exists (t : Table α key) (a : α) (h : t.find? (key a) = none) (err : ε)
    : ∃ u, t.insert a err = .ok u := by
  rcases t.insert?_isSome h with ⟨u, hu⟩
  exact ⟨u, insert_eq_ok.mpr hu⟩

/-- Rows are inserted one after the other, unless two of them share a key. -/
def insertAll (t : Table α key) (as : List α) (err : ε) : Except ε (Table α key) :=
  as.foldlM (fun t a => t.insert a err) t

variable {t u : Table α key} {a : α}

theorem rows_insertAll {as : List α} {err : ε} (h : t.insertAll as err = .ok u)
    : u.rows = t.rows ++ as := by
  unfold insertAll at h
  induction as generalizing t with
  | nil =>
    cases h
    exact (List.append_nil _).symm
  | cons a as ih =>
    rcases Except.bind_eq_ok.mp h with ⟨mid, hmid, hrest⟩
    rw [ih hrest, rows_insert? (insert_eq_ok.mp hmid), List.append_assoc, List.singleton_append]

theorem insert_of_nodup (h : ((t.rows ++ [a]).map key).Nodup) (err : ε)
    : ∃ u, t.insert a err = .ok u := by
  rw [List.map_append, List.nodup_append] at h
  apply insert_exists
  rw [find?_eq_none_iff]
  intro b hb
  exact h.2.2 (key b) (List.mem_map_of_mem hb) (key a) (List.mem_map_of_mem List.mem_cons_self)

theorem insertAll_of_nodup {as : List α} (h : ((t.rows ++ as).map key).Nodup) (err : ε)
    : ∃ u, t.insertAll as err = .ok u := by
  unfold insertAll
  induction as generalizing t with
  | nil => exact ⟨t, rfl⟩
  | cons a as ih =>
    have hcons : t.rows ++ a :: as = (t.rows ++ [a]) ++ as := by simp
    rw [hcons] at h
    have hfirst : ((t.rows ++ [a]).map key).Nodup := by
      rw [List.map_append] at h
      exact h.of_append_left
    rcases insert_of_nodup hfirst err with ⟨mid, hmid⟩
    rw [← rows_insert? (insert_eq_ok.mp hmid)] at h
    rcases ih h with ⟨u, hu⟩
    exact ⟨u, Except.bind_eq_ok.mpr ⟨mid, hmid, hu⟩⟩

/-- Keys that are different from each other and new to the table do not clash. -/
theorem nodup_append_of_unused {as : List α} (hnodup : (as.map key).Nodup)
    (hunused : ∀ a ∈ as, t.find? (key a) = none) : ((t.rows ++ as).map key).Nodup := by
  rw [List.map_append, List.nodup_append]
  refine ⟨t.nodup, hnodup, ?_⟩
  intro k hk k' hk' heq
  rcases List.mem_map.mp hk with ⟨b, hb, rfl⟩
  rcases List.mem_map.mp hk' with ⟨a, ha, rfl⟩
  exact (t.find?_eq_none_iff (key a)).mp (hunused a ha) b hb heq

end Table

/-! ## Fallible functions over lists -/

namespace Except

variable {ε : Type u} {α : Type v} {β : Type w} {f : α → Except ε β} {xs : List α} {ys : List β}

theorem mapM_cons_eq_ok {x : α}
    : (x :: xs).mapM f = .ok ys ↔ ∃ y rest, f x = .ok y ∧ xs.mapM f = .ok rest ∧ ys = y :: rest := by
  rw [List.mapM_cons, bind_eq_ok]
  constructor
  . rintro ⟨y, hy, h⟩
    rcases bind_eq_ok.mp h with ⟨rest, hrest, hys⟩
    exact ⟨y, rest, hy, hrest, pure_eq_ok.mp hys⟩
  . rintro ⟨y, rest, hy, hrest, hys⟩
    exact ⟨y, hy, bind_eq_ok.mpr ⟨rest, hrest, pure_eq_ok.mpr hys⟩⟩

theorem length_mapM (h : xs.mapM f = .ok ys) : ys.length = xs.length := by
  induction xs generalizing ys with
  | nil =>
    cases h
    rfl
  | cons x xs ih =>
    rcases mapM_cons_eq_ok.mp h with ⟨y, rest, -, hrest, rfl⟩
    rw [List.length_cons, List.length_cons, ih hrest]

theorem getElem?_mapM {n : Nat} {y : β} (h : xs.mapM f = .ok ys) (hy : ys[n]? = some y)
    : ∃ x, xs[n]? = some x ∧ f x = .ok y := by
  induction xs generalizing ys n with
  | nil =>
    cases h
    simp at hy
  | cons x xs ih =>
    rcases mapM_cons_eq_ok.mp h with ⟨z, rest, hz, hrest, rfl⟩
    cases n with
    | zero =>
      rw [List.getElem?_cons_zero, Option.some.injEq] at hy
      rw [hy] at hz
      exact ⟨x, rfl, hz⟩
    | succ n =>
      rw [List.getElem?_cons_succ] at hy
      exact ih hrest hy

theorem getElem?_of_mapM {n : Nat} {x : α} (h : xs.mapM f = .ok ys) (hx : xs[n]? = some x)
    : ∃ y, ys[n]? = some y ∧ f x = .ok y := by
  have hn : n < ys.length := by
    rw [length_mapM h]
    exact (List.getElem?_eq_some_iff.mp hx).1
  have hy : ys[n]? = some ys[n] := List.getElem?_eq_getElem hn
  rcases getElem?_mapM h hy with ⟨x', hx', hf⟩
  rw [hx, Option.some.injEq] at hx'
  rw [← hx'] at hf
  exact ⟨_, hy, hf⟩

theorem of_forM {g : α → Except ε PUnit} {x : α} (h : xs.forM g = .ok ()) (hx : x ∈ xs)
    : g x = .ok () := by
  induction xs with
  | nil => cases hx
  | cons y xs ih =>
    rcases bind_eq_ok.mp h with ⟨⟨⟩, hy, hrest⟩
    rcases List.mem_cons.mp hx with rfl | hx
    . exact hy
    . exact ih hrest hx

theorem forM_eq_ok {g : α → Except ε PUnit} (h : ∀ x ∈ xs, g x = .ok ()) : xs.forM g = .ok () := by
  induction xs with
  | nil => rfl
  | cons x xs ih =>
    apply bind_eq_ok.mpr
    exact ⟨(), h x List.mem_cons_self, ih fun y hy => h y (List.mem_cons_of_mem x hy)⟩

theorem forall₂_mapM (h : xs.mapM f = .ok ys) : List.Forall₂ (fun x y => f x = .ok y) xs ys := by
  induction xs generalizing ys with
  | nil =>
    cases h
    exact List.Forall₂.nil
  | cons x xs ih =>
    rcases mapM_cons_eq_ok.mp h with ⟨y, rest, hy, hrest, rfl⟩
    exact List.Forall₂.cons hy (ih hrest)

/-- `mapM` of a function that may also stop the program. -/
def mapChecked (g : α → Option (Except ε β)) : List α → Option (Except ε (List β))
  | [] => some (.ok [])
  | x :: xs =>
    match g x with
    | none => none
    | some (.error e) => some (.error e)
    | some (.ok y) => (mapChecked g xs).map (Except.map (y :: ·))

theorem mapChecked_eq {g : α → Option (Except ε β)} (h : ∀ x ∈ xs, g x = some (f x))
    : mapChecked g xs = some (xs.mapM f) := by
  induction xs with
  | nil => rfl
  | cons x xs ih =>
    unfold mapChecked
    rw [h x (List.mem_cons_self ..), ih fun y hy => h y (List.mem_cons_of_mem _ hy), List.mapM_cons]
    cases f x with
    | error e => rfl
    | ok y =>
      cases xs.mapM f with
      | error e => rfl
      | ok ys => rfl

theorem mapM_eq_error_iff : (∃ e, xs.mapM f = .error e) ↔ ∃ x ∈ xs, ∃ e, f x = .error e := by
  induction xs with
  | nil =>
    constructor
    . rintro ⟨e, h⟩
      cases h
    . rintro ⟨x, h, -⟩
      cases h
  | cons x xs ih =>
    rw [List.mapM_cons, List.exists_mem_cons_iff, ← ih]
    cases f x with
    | error e => exact ⟨fun _ => Or.inl ⟨e, rfl⟩, fun _ => ⟨e, rfl⟩⟩
    | ok y =>
      cases xs.mapM f with
      | error e => exact ⟨fun _ => Or.inr ⟨e, rfl⟩, fun _ => ⟨e, rfl⟩⟩
      | ok ys =>
        constructor
        . rintro ⟨e, h⟩
          cases h
        . rintro (⟨e, h⟩ | ⟨e, h⟩)
          . cases h
          . cases h

theorem mapM_eq_ok_iff : (∃ ys, xs.mapM f = .ok ys) ↔ ∀ x ∈ xs, ∃ y, f x = .ok y := by
  have herror := @mapM_eq_error_iff ε α β f xs
  constructor
  . rintro ⟨ys, hys⟩ x hx
    cases hf : f x with
    | ok y => exact ⟨y, rfl⟩
    | error e =>
      rcases herror.mpr ⟨x, hx, e, hf⟩ with ⟨e', he'⟩
      rw [hys] at he'
      cases he'
  . intro h
    cases hmap : xs.mapM f with
    | ok ys => exact ⟨ys, rfl⟩
    | error e =>
      rcases herror.mp ⟨e, hmap⟩ with ⟨x, hx, e', he'⟩
      rcases h x hx with ⟨y, hy⟩
      rw [hy] at he'
      cases he'

/-- What each step of a fold keeps, the fold keeps. -/
theorem foldlM_keeps {σ : Type w} {p : σ → Prop} {step : σ → α → Except ε σ} {s t : σ}
    (hstep : ∀ s a t, a ∈ xs → p s → step s a = .ok t → p t) (hs : p s)
    (h : xs.foldlM step s = .ok t) : p t := by
  induction xs generalizing s with
  | nil =>
    cases h
    exact hs
  | cons x xs ih =>
    rw [List.foldlM_cons, bind_eq_ok] at h
    rcases h with ⟨next, hnext, hrest⟩
    apply ih _ _ hrest
    . intro s a t ha
      exact hstep s a t (List.mem_cons_of_mem x ha)
    . exact hstep s x next List.mem_cons_self hs hnext

end Except
