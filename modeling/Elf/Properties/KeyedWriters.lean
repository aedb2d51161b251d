import Elf.Properties.KeyedIdentity

/-!
This module contains what the writers that do not look a key up do to the keys: they keep them
unique exactly when no other live note has the key that they write.
-/

namespace Elf

open Text

/-- The notes share their tenant, project, agent, scope and type, and a key. -/
def MemoryNote.SameKey (a b : MemoryNote) : Prop :=
  a.space = b.space ∧ a.type = b.type ∧ a.key = b.key ∧ a.key ≠ none

instance (a b : MemoryNote) : Decidable (a.SameKey b) :=
  inferInstanceAs (Decidable (_ ∧ _ ∧ _ ∧ _))

/-- One live note at most has a key. -/
def Store.KeyedAt (s : Store) (now : Nat) : Prop :=
  ∀ a ∈ s.notes, ∀ b ∈ s.notes, a.live now → b.live now → a.SameKey b → a = b

instance (s : Store) (now : Nat) : Decidable (s.KeyedAt now) :=
  inferInstanceAs (Decidable (∀ a ∈ s.notes.rows, ∀ b ∈ s.notes.rows, _))

/-- Another live note has the key of a note that is about to be stored. -/
def Store.HasRival (s : Store) (now : Nat) (next : MemoryNote) : Prop :=
  ∃ row ∈ s.notes, row.noteId ≠ next.noteId ∧ row.live now ∧ next.stored.live now
    ∧ row.SameKey next.stored

variable {s t : Store} {a : Step} {w : NoteWrite} {now : Nat}

theorem MemoryNote.SameKey.symm {a b : MemoryNote} (h : a.SameKey b) : b.SameKey a := by
  rcases h with ⟨hspace, htype, hkey, hsome⟩
  rw [hkey] at hsome
  exact ⟨hspace.symm, htype.symm, hkey.symm, hsome⟩

/-- A write keeps the keys unique exactly when the note it stores has no rival. -/
theorem Store.Writes.keyedAt_iff (h : s.Writes t w) (hs : s.KeyedAt now)
    : t.KeyedAt now ↔ ¬ s.HasRival now w.next := by
  constructor
  . rintro ht ⟨row, hmem, hid, hlive, hnext, hsame⟩
    have heq := ht row (h.other_mem hmem hid) _ h.stored_mem hlive hnext hsame
    have hrow : row.noteId = w.next.stored.noteId := congrArg MemoryNote.noteId heq
    exact hid hrow
  . intro hrival a ha b hb halive hblive hsame
    rcases h.mem ha with rfl | ⟨ha, haid⟩
    . rcases h.mem hb with rfl | ⟨hb, hbid⟩
      . rfl
      . exact absurd ⟨b, hb, hbid, hblive, halive, hsame.symm⟩ hrival
    . rcases h.mem hb with rfl | ⟨hb, hbid⟩
      . exact absurd ⟨a, ha, haid, halive, hblive, hsame⟩ hrival
      . exact hs a ha b hb halive hblive hsame

theorem Store.Quiet.keyedAt (h : s.Quiet t) (hs : s.KeyedAt now) : t.KeyedAt now := by
  intro a ha b hb halive hblive hsame
  rcases h.row (t.notes.find?_key ha) with ⟨arow, hafind, haeq⟩
  rcases h.row (t.notes.find?_key hb) with ⟨brow, hbfind, hbeq⟩
  have hrows : arow = brow := by
    apply hs arow (Table.mem_of_find? hafind) brow (Table.mem_of_find? hbfind)
    . rw [haeq] at halive
      exact halive
    . rw [hbeq] at hblive
      exact hblive
    . rw [haeq, hbeq] at hsame
      exact hsame
  subst hrows
  have hid : a.noteId = b.noteId := by rw [haeq, hbeq]
  exact t.notes.eq_of_key_eq ha hb hid

/-- What a step makes of unique keys. -/
inductive KeyedOutcome (now : Nat) (s : Store) (a : Step) (t : Store) : Prop where
  | failed {err : Error} (h : a.exec s = .error err) (same : t = s)
  | quiet (h : s.Quiet t) (keyed : t.KeyedAt now)
  | wrote {w : NoteWrite} (h : Mutation a.svc a.draw s t a.op w)
    (keyed : t.KeyedAt now ↔ ¬ s.HasRival now w.next)

theorem keyed_step (hs : s.KeyedAt now) (h : Steps s a t) : KeyedOutcome now s a t := by
  unfold Steps at h
  rcases Transaction.next_cases a.exec s with ⟨r, hok⟩ | ⟨err, herr, hnext⟩
  . rw [h] at hok
    rcases Op.exec_cases hok with hquiet | ⟨w, hmut, -⟩
    . exact .quiet hquiet (hquiet.keyedAt hs)
    . exact .wrote hmut (hmut.writes.keyedAt_iff hs)
  . exact .failed herr (h.symm.trans hnext)

/-- The notes that the step may store have no rival. -/
def WritesNoRival (now : Nat) (s : Store) (a : Step) : Prop :=
  ∀ t w, Mutation a.svc a.draw s t a.op w → ¬ s.HasRival now w.next

theorem keyed_run (hs : s.KeyedAt now) (h : Run (Run.Guarded (WritesNoRival now) Steps) s as t)
    : t.KeyedAt now := by
  apply h.invariant _ hs
  rintro s a t hs ⟨hguard, hstep⟩
  cases keyed_step hs hstep with
  | failed _ same =>
    rw [same]
    exact hs
  | quiet _ keyed => exact keyed
  | wrote hmut keyed => exact keyed.mpr (hguard _ _ hmut)

/-- A lookup of a key finds one note at most. -/
theorem candidates_length_le_one {args : ResolveUpdateArgs} (hs : s.KeyedAt (timestamptz args.now))
    (hkeyed : (lookupKey args.key).isSome = true) : (s.candidates args).length ≤ 1 := by
  rcases Option.isSome_iff_exists.mp hkeyed with ⟨key, hkey⟩
  have hnodup : (s.candidates args).Nodup := by
    unfold Store.candidates
    rw [(List.perm_insertionSort candidateLe _).nodup_iff]
    apply List.Nodup.filter
    exact s.notes.nodup.of_map
  have hsame : ∀ a ∈ s.candidates args, ∀ b ∈ s.candidates args, a = b := by
    intro a ha b hb
    rcases mem_candidates.mp ha with ⟨hamem, hamatch⟩
    rcases mem_candidates.mp hb with ⟨hbmem, hbmatch⟩
    simp only [ResolveUpdateArgs.matches, hkey, Bool.and_eq_true, decide_eq_true_eq,
      Bool.not_eq_true'] at hamatch hbmatch
    rcases hamatch with
      ⟨⟨⟨⟨⟨⟨⟨hatenant, haproject⟩, haagent⟩, hascope⟩, hatype⟩, hastatus⟩, haexpired⟩, hakey⟩
    rcases hbmatch with
      ⟨⟨⟨⟨⟨⟨⟨hbtenant, hbproject⟩, hbagent⟩, hbscope⟩, hbtype⟩, hbstatus⟩, hbexpired⟩, hbkey⟩
    apply hs a hamem b hbmem ⟨hastatus, haexpired⟩ ⟨hbstatus, hbexpired⟩
    refine ⟨?_, hatype.trans hbtype.symm, hakey.trans hbkey.symm, ?_⟩
    . simp [MemoryNote.space, hatenant, hbtenant, haproject, hbproject, haagent, hbagent, hascope,
        hbscope]
    . rw [hakey]
      simp
  cases hlist : s.candidates args with
  | nil => simp
  | cons a rest =>
    cases rest with
    | nil => simp
    | cons b rest =>
      rw [hlist] at hnodup hsame
      have heq := hsame a List.mem_cons_self b (by simp)
      simp [heq] at hnodup

/-- An agent has a shared note and a private one under the same key. -/
def sharedAndPrivate : Store := Store.empty.run [
  sampleAdd 1 "p" "project_shared" (sampleNote (some "ports") "All ports are open."),
  sampleAdd 2 "p" "agent_private" (sampleNote (some "ports") "Port 22 is closed.")]

def publishPorts : Step := sampleStep 3 (.publish ⟨"t", "p", "a", 2, "project_shared"⟩)

end Elf
