import Mathlib.Logic.Relation
import Mathlib.Data.List.Induction

/-!
This module contains the runs of a labelled transition relation and the induction rules for them:
an invariant of the steps is an invariant of the runs, also of the runs whose steps all meet a
guard, and a run cut at any place is two runs. It also contains trails: lists of events that each
lead from one state to another, where every event starts where the one before it ended.
-/

variable {σ : Type u} {α : Type v}

/--
`Run step s as s'`: from `s` the actions `as`, one step each, lead to `s'`.
-/
inductive Run (step : σ → α → σ → Prop) : σ → List α → σ → Prop where
  | nil (s : σ) : Run step s [] s
  | cons {s t u : σ} {a : α} {as : List α} (head : step s a t) (tail : Run step t as u)
    : Run step s (a :: as) u

namespace Run

variable {step : σ → α → σ → Prop}

/-- The steps that meet a guard on the state before the step and the action. -/
def Guarded (guard : σ → α → Prop) (step : σ → α → σ → Prop) (s : σ) (a : α) (t : σ) : Prop :=
  guard s a ∧ step s a t

theorem single (h : step s a t) : Run step s [a] t := .cons h (.nil t)

theorem append (h : Run step s as t) (h' : Run step t bs u) : Run step s (as ++ bs) u := by
  induction h with
  | nil s => exact h'
  | cons head tail ih => exact .cons head (ih h')

theorem snoc (h : Run step s as t) (h' : step t a u) : Run step s (as ++ [a]) u := by
  exact h.append (single h')

theorem of_append (h : Run step s (as ++ bs) u) : ∃ t, Run step s as t ∧ Run step t bs u := by
  induction as generalizing s with
  | nil => exact ⟨s, .nil s, h⟩
  | cons a as ih =>
    cases h with
    | cons head tail =>
      rcases ih tail with ⟨t, hleft, hright⟩
      exact ⟨t, .cons head hleft, hright⟩

theorem mono {step' : σ → α → σ → Prop} (hstep : ∀ s a t, step s a t → step' s a t)
    (h : Run step s as t) : Run step' s as t := by
  induction h with
  | nil s => exact .nil s
  | cons head tail ih => exact .cons (hstep _ _ _ head) ih

theorem of_guarded {guard : σ → α → Prop} (h : Run (Guarded guard step) s as t)
    : Run step s as t := by
  exact h.mono fun _ _ _ hstep => hstep.2

/-- What every step preserves, every run preserves. -/
theorem invariant {Inv : σ → Prop} (hstep : ∀ s a t, Inv s → step s a t → Inv t)
    (h : Run step s as t) (hs : Inv s) : Inv t := by
  induction h with
  | nil s => exact hs
  | cons head tail ih => exact ih (hstep _ _ _ hs head)

/-- A reflexive and transitive relation that contains the steps contains the runs. -/
theorem relation {R : σ → σ → Prop} (hrefl : ∀ s, R s s) (htrans : ∀ s t u, R s t → R t u → R s u)
    (hstep : ∀ s a t, step s a t → R s t) (h : Run step s as t) : R s t := by
  induction h with
  | nil s => exact hrefl s
  | cons head tail ih => exact htrans _ _ _ (hstep _ _ _ head) ih

/-- A run to states of a kind has a step that leads to the first of them. -/
theorem exists_first {P : σ → Prop} (h : Run step s as t) (hs : ¬ P s) (ht : P t)
    : ∃ before a after u v, as = before ++ a :: after ∧ Run step s before u ∧ ¬ P u ∧ step u a v
        ∧ P v ∧ Run step v after t := by
  induction h with
  | nil s => exact absurd ht hs
  | @cons s u t a as head tail ih =>
    by_cases hu : P u
    . exact ⟨[], a, as, s, u, rfl, .nil s, hs, head, hu, tail⟩
    . rcases ih hu ht with ⟨before, b, after, v, w, rfl, hbefore, hv, hstep, hw, hafter⟩
      exact ⟨a :: before, b, after, v, w, rfl, .cons head hbefore, hv, hstep, hw, hafter⟩

/-- An induction on the last step of a run. -/
theorem snoc_induction {P : List α → σ → Prop} (hnil : P [] s)
    (hsnoc : ∀ as t a u, Run step s as t → P as t → step t a u → P (as ++ [a]) u)
    (h : Run step s as t) : P as t := by
  induction as using List.reverseRecOn generalizing t with
  | nil =>
    cases h
    exact hnil
  | append_singleton as a ih =>
    rcases h.of_append with ⟨u, hrun, hlast⟩
    cases hlast with
    | cons head tail =>
      cases tail
      exact hsnoc as u a _ hrun (ih hrun) head

/-- Actions that each lead to one state lead to the state they fold to. -/
theorem of_foldl {next : σ → α → σ} (hstep : ∀ s a, step s a (next s a)) (s : σ) (as : List α)
    : Run step s as (as.foldl next s) := by
  induction as generalizing s with
  | nil => exact .nil s
  | cons a as ih => exact .cons (hstep s a) (ih (next s a))

/-- The state that a list of actions leads to. -/
def eval (exec : σ → α → Option σ) (s : σ) : List α → Option σ
  | [] => some s
  | a :: as => (exec s a).bind fun t => eval exec t as

theorem of_eval {exec : σ → α → Option σ} (hexec : ∀ s a t, exec s a = some t → step s a t)
    (h : eval exec s as = some t) : Run step s as t := by
  induction as generalizing s with
  | nil =>
    cases h
    exact .nil t
  | cons a as ih =>
    unfold eval at h
    rcases Option.bind_eq_some_iff.mp h with ⟨next, hnext, htail⟩
    exact .cons (hexec s a next hnext) (ih htail)

/-- The steps may make use of what those before them preserve. -/
theorem of_eval_invariant {exec : σ → α → Option σ} (Inv : σ → Prop)
    (hexec : ∀ s a t, Inv s → exec s a = some t → step s a t ∧ Inv t) (hs : Inv s)
    (h : eval exec s as = some t) : Run step s as t := by
  induction as generalizing s with
  | nil =>
    cases h
    exact .nil t
  | cons a as ih =>
    unfold eval at h
    rcases Option.bind_eq_some_iff.mp h with ⟨next, hnext, htail⟩
    rcases hexec s a next hs hnext with ⟨hstep, hnext⟩
    exact .cons hstep (ih hnext htail)

end Run

/-- The states that runs from `init` reach. -/
def Reachable (init : σ) (step : σ → α → σ → Prop) (s : σ) : Prop :=
  ∃ as, Run step init as s

namespace Reachable

variable {step : σ → α → σ → Prop}

theorem refl (init : σ) : Reachable init step init := ⟨[], .nil init⟩

theorem tail (h : Reachable init step s) (hstep : step s a t) : Reachable init step t := by
  rcases h with ⟨as, h⟩
  exact ⟨as ++ [a], h.snoc hstep⟩

theorem invariant {Inv : σ → Prop} (hinit : Inv init) (hstep : ∀ s a t, Inv s → step s a t → Inv t)
    (h : Reachable init step s) : Inv s := by
  rcases h with ⟨as, h⟩
  exact h.invariant hstep hinit

end Reachable

/-! ## Trails -/

variable {ε : Type u} {α : Type v}

inductive Trail (src dst : ε → α) : α → List ε → α → Prop where
  | nil (a : α) : Trail src dst a [] a
  | cons {a b : α} {e : ε} {es : List ε} (head : src e = a) (tail : Trail src dst (dst e) es b)
    : Trail src dst a (e :: es) b

namespace Trail

variable {src dst : ε → α}

theorem append (h : Trail src dst a es b) (h' : Trail src dst b fs c)
    : Trail src dst a (es ++ fs) c := by
  induction h with
  | nil a => exact h'
  | cons head tail ih =>
    apply Trail.cons head
    exact ih h'

theorem snoc (h : Trail src dst a es b) (he : src e = b) : Trail src dst a (es ++ [e]) (dst e) := by
  apply append h
  apply Trail.cons he
  apply Trail.nil

/-- Neighbouring events of a trail meet. -/
theorem isChain (h : Trail src dst a es b) : es.IsChain (fun e f => dst e = src f) := by
  induction h with
  | nil a => exact .nil
  | cons head tail ih =>
    cases tail with
    | nil => exact .singleton _
    | cons head' tail => exact .cons_cons head'.symm ih

/-- A trail with an event ends where one of its events does. -/
theorem exists_dst (h : Trail src dst a es b) (hne : es ≠ []) : ∃ e ∈ es, dst e = b := by
  induction h with
  | nil a => exact absurd rfl hne
  | @cons a b e es head tail ih =>
    cases es with
    | nil =>
      cases tail with
      | nil => exact ⟨e, List.mem_cons_self, rfl⟩
    | cons f es =>
      rcases ih (List.cons_ne_nil f es) with ⟨g, hmem, hg⟩
      exact ⟨g, List.mem_cons_of_mem e hmem, hg⟩

variable {c : α}

/-- Nothing follows a state that no event leaves. -/
theorem eq_nil_of_terminal (h : Trail src dst c es b) (hexit : ∀ e ∈ es, src e ≠ c) : es = [] := by
  cases h with
  | nil => rfl
  | cons head tail => exact absurd head (hexit _ List.mem_cons_self)

/-- A trail that gets to a state that no event leaves ends there. -/
theorem dst_of_terminal (h : Trail src dst a es b) (hexit : ∀ e ∈ es, src e ≠ c)
    (hmem : ∃ e ∈ es, dst e = c) : b = c := by
  induction h with
  | nil a =>
    rcases hmem with ⟨e, hmem, -⟩
    cases hmem
  | @cons a b e es head tail ih =>
    have hexit' : ∀ f ∈ es, src f ≠ c := fun f hf => hexit f (List.mem_cons_of_mem e hf)
    rcases hmem with ⟨f, hf, hdst⟩
    rcases List.mem_cons.mp hf with rfl | hf
    . rw [hdst] at tail
      rw [eq_nil_of_terminal tail hexit'] at tail
      cases tail with
      | nil => rfl
    . exact ih hexit' ⟨f, hf, hdst⟩

/-- A state that no event leaves is entered once at most. -/
theorem countP_terminal_le_one [DecidableEq α] (h : Trail src dst a es b) (hexit : ∀ e ∈ es, src e ≠ c)
    : es.countP (fun e => dst e = c) ≤ 1 := by
  induction h with
  | nil a => simp
  | @cons a b e es head tail ih =>
    have hexit' : ∀ f ∈ es, src f ≠ c := fun f hf => hexit f (List.mem_cons_of_mem e hf)
    rw [List.countP_cons]
    split
    next hdst =>
      rw [decide_eq_true_eq] at hdst
      rw [hdst] at tail
      rw [eq_nil_of_terminal tail hexit']
      simp
    next hdst =>
      have := ih hexit'
      omega

end Trail
