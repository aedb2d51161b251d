import Elf.Lib.Table
import Mathlib.Data.List.Sort

/-!
This module contains queues of jobs that any number of workers share: how the next job is claimed, and
when a job that is not done is still owed, which is when no worker that runs it has given up on its
effect. A job that is owed stays owed through the steps of the workers.
-/

variable {α : Type u} {κ : Type v} {τ : Type w} {key : α → κ}

/-! ## Claims -/

/-- `ORDER BY time ASC LIMIT 1` -/
def Table.earliest (t : Table α key) (p : α → Bool) (time : α → Nat) : Option α :=
  ((t.rows.filter p).insertionSort fun a b => time a ≤ time b).head?

theorem Table.earliest_spec {t : Table α key} (h : t.earliest p time = some a)
    : a ∈ t ∧ p a = true ∧ ∀ b ∈ t, p b = true → time a ≤ time b := by
  unfold Table.earliest at h
  have hmem := List.mem_of_mem_head? h
  rw [List.mem_insertionSort, List.mem_filter] at hmem
  refine ⟨hmem.1, hmem.2, ?_⟩
  intro b hb hp
  have hsorted := List.pairwise_insertionSort (fun a b => time a ≤ time b) (t.rows.filter p)
  have hb : b ∈ (t.rows.filter p).insertionSort fun a b => time a ≤ time b := by
    rw [List.mem_insertionSort, List.mem_filter]
    exact ⟨hb, hp⟩
  cases hlist : (t.rows.filter p).insertionSort fun a b => time a ≤ time b with
  | nil =>
    rw [hlist] at hb
    cases hb
  | cons head tail =>
    rw [hlist] at h hb hsorted
    cases h
    rcases List.mem_cons.mp hb with rfl | hb
    . exact le_refl _
    . exact List.rel_of_pairwise_cons hsorted hb

/-! ## Workers -/

/-- What each worker is doing, if anything. -/
abbrev Attempts (τ : Type w) := Nat → Option τ

def Attempts.set (attempts : Attempts τ) (worker : Nat) (attempt : Option τ) : Attempts τ :=
  fun other => if other = worker then attempt else attempts other

theorem Attempts.eq_some_set {attempts : Attempts τ} {attempt : Option τ}
    (h : attempts.set worker attempt other = some a) : attempt = some a ∨ attempts other = some a := by
  unfold set at h
  split at h
  . exact .inl h
  . exact .inr h

/-- Nothing changes for a worker that does what it did. -/
theorem Attempts.set_of_eq {attempts : Attempts τ} {attempt : Option τ}
    (h : attempts worker = attempt) : attempts.set worker attempt = attempts := by
  funext other
  unfold set
  split
  next heq => rw [heq, h]
  next => rfl

variable {jobOf : τ → κ} {jobs jobs' : Table α key} {attempts : Attempts τ} {P P' : α → Prop}
  {G G' : τ → Prop}

/-- Every attempt is one at a job of the queue. -/
def Attempts.Known (jobOf : τ → κ) (jobs : Table α key) (attempts : Attempts τ) : Prop :=
  ∀ worker a, attempts worker = some a → ∃ row ∈ jobs, key row = jobOf a

/-- A job for which `P` holds, and for every attempt at it `G`. -/
def Owed (jobOf : τ → κ) (jobs : Table α key) (attempts : Attempts τ) (P : α → Prop)
    (G : τ → Prop) : Prop :=
  ∃ row ∈ jobs, P row ∧ ∀ worker a, attempts worker = some a → jobOf a = key row → G a

namespace Owed

theorem mono (hP : ∀ row ∈ jobs, P row → P' row)
    (hG : ∀ worker a, attempts worker = some a → G a → G' a) (h : Owed jobOf jobs attempts P G)
    : Owed jobOf jobs attempts P' G' := by
  rcases h with ⟨row, hmem, hrow, hattempts⟩
  refine ⟨row, hmem, hP row hmem hrow, ?_⟩
  intro worker a ha hjob
  exact hG worker a ha (hattempts worker a ha hjob)

/-- Jobs that are added change nothing for those that are there. -/
theorem append (hrows : jobs'.rows = jobs.rows ++ new) (h : Owed jobOf jobs attempts P G)
    : Owed jobOf jobs' attempts P G := by
  rcases h with ⟨row, hmem, hrow, hattempts⟩
  refine ⟨row, ?_, hrow, hattempts⟩
  rw [Table.mem_def, hrows]
  exact List.mem_append_left new hmem

/-- No worker has a job yet that is only just added. -/
theorem fresh (hknown : attempts.Known jobOf jobs) (hrows : jobs'.rows = jobs.rows ++ new)
    (hmem : row ∈ new) (hrow : P row) : Owed jobOf jobs' attempts P G := by
  refine ⟨row, ?_, hrow, ?_⟩
  . rw [Table.mem_def, hrows]
    exact List.mem_append_right jobs.rows hmem
  . intro worker a ha hjob
    rcases hknown worker a ha with ⟨old, hold, hkey⟩
    have hnodup := jobs'.nodup
    rw [hrows, List.map_append, List.nodup_append] at hnodup
    have hne := hnodup.2.2 (key old) (List.mem_map_of_mem hold) (key row) (List.mem_map_of_mem hmem)
    exact (hne (hkey.trans hjob)).elim

/-- A worker takes a job up. -/
theorem start (worker : Nat) (hG : G attempt) (h : Owed jobOf jobs attempts P G)
    : Owed jobOf jobs (attempts.set worker (some attempt)) P G := by
  rcases h with ⟨row, hmem, hrow, hattempts⟩
  refine ⟨row, hmem, hrow, ?_⟩
  intro other b hb hkey
  rcases Attempts.eq_some_set hb with heq | hb
  . cases heq
    exact hG
  . exact hattempts other b hb hkey

/-- A worker goes on with its job. -/
theorem advance (ha : attempts worker = some a) (hjob : jobOf a' = jobOf a)
    (hG : ∀ row ∈ jobs, P row → key row = jobOf a → G a → G a') (h : Owed jobOf jobs attempts P G)
    : Owed jobOf jobs (attempts.set worker (some a')) P G := by
  rcases h with ⟨row, hmem, hrow, hattempts⟩
  refine ⟨row, hmem, hrow, ?_⟩
  intro other b hb hkey
  rcases Attempts.eq_some_set hb with heq | hb
  . cases heq
    rw [hjob] at hkey
    exact hG row hmem hrow hkey.symm (hattempts worker a ha hkey)
  . exact hattempts other b hb hkey

/-- A worker goes on with its job, which is the one that is owed or another. -/
theorem advance_cases (ha : attempts worker = some a) (hjob : jobOf a' = jobOf a)
    (h : Owed jobOf jobs attempts P G)
    : (∃ row ∈ jobs, P row ∧ key row = jobOf a ∧ G a)
      ∨ Owed jobOf jobs (attempts.set worker (some a')) P G := by
  rcases h with ⟨row, hmem, hrow, hattempts⟩
  by_cases hkey : jobOf a = key row
  . exact .inl ⟨row, hmem, hrow, hkey.symm, hattempts worker a ha hkey⟩
  . refine .inr ⟨row, hmem, hrow, ?_⟩
    intro other b hb hother
    rcases Attempts.eq_some_set hb with heq | hb
    . cases heq
      rw [hjob] at hother
      exact (hkey hother).elim
    . exact hattempts other b hb hother

theorem forget (worker : Nat) (h : Owed jobOf jobs attempts P G)
    : Owed jobOf jobs (attempts.set worker none) P G := by
  rcases h with ⟨row, hmem, hrow, hattempts⟩
  refine ⟨row, hmem, hrow, ?_⟩
  intro other b hb hkey
  rcases Attempts.eq_some_set hb with heq | hb
  . cases heq
  . exact hattempts other b hb hkey

/-- A job is updated, in a way that may depend on the attempts at it. -/
theorem modify [DecidableEq κ] {f : α → α} {hf}
    (hP : ∀ row, P row → (∀ worker a, attempts worker = some a → jobOf a = k → G a) → P (f row))
    (h : Owed jobOf jobs attempts P G) : Owed jobOf (jobs.modify k f hf) attempts P G := by
  rcases h with ⟨row, hmem, hrow, hattempts⟩
  have hmodified : (if key row = k then f row else row) ∈ jobs.modify k f hf := by
    rw [Table.mem_modify]
    exact ⟨row, hmem, rfl⟩
  split at hmodified
  next hk =>
    refine ⟨f row, hmodified, ?_, ?_⟩
    . apply hP row hrow
      rw [← hk]
      exact hattempts
    . rw [hf]
      exact hattempts
  next => exact ⟨row, hmodified, hrow, hattempts⟩

/-- A worker records how its attempt ended. -/
theorem settle [DecidableEq κ] {f : α → α} {hf} (ha : attempts worker = some a)
    (hP : ∀ row, P row → G a → P (f row)) (h : Owed jobOf jobs attempts P G)
    : Owed jobOf (jobs.modify (jobOf a) f hf) (attempts.set worker none) P G := by
  have hmodified : Owed jobOf (jobs.modify (jobOf a) f hf) attempts P G := by
    apply h.modify
    intro row hrow hattempts
    exact hP row hrow (hattempts worker a ha rfl)
  exact hmodified.forget worker

end Owed
