import Elf.Service.Lemmas.Op

/-!
This module contains the life of a note over whole runs of the service: it is stored for good, it is
active again after its end only when a correction restored it, and the last job that was enqueued for it
tells the workers whether it is active.
-/

namespace Elf

variable {svc : ElfService} {draw : Draw} {s t : Store} {a : Step} {as bs : List Step} {op : Op}
  {w : NoteWrite} {note : MemoryNote}

/-! ## Statuses -/

def noteStatuses : List String := ["active", "deprecated", "deleted"]

def Store.Statuses (s : Store) : Prop := ∀ note ∈ s.notes, note.status ∈ noteStatuses

/-- The step is a correction that restores the note. -/
def Op.restores (noteId : Uuid) : Op → Prop
  | .correct req => req.action = .restore ∧ req.noteId = noteId
  | _ => False

/-- What a mutation does to the status of the note that it writes. -/
structure NoteWrite.Moves (w : NoteWrite) (op : Op) : Prop where
  status : w.next.status ∈ noteStatuses
  job : w.job = .delete ↔ w.next.status ≠ "active"
  revived : ∀ prev, w.prev = some prev → prev.status ≠ "active" → w.next.status = "active"
    → op.restores prev.noteId

theorem NoteWrite.Moves.of_active (hstatus : w.next.status = "active") (hjob : w.job = .upsert)
    (hprev : ∀ prev, w.prev = some prev → prev.status = "active") : w.Moves op where
  status := by
    rw [hstatus]
    exact List.mem_cons_self
  job := by simp [hstatus, hjob]
  revived prev heq hinactive _ := absurd (hprev prev heq) hinactive

theorem NoteWrite.Moves.of_ended (hstatus : w.next.status ∈ noteStatuses)
    (hended : w.next.status ≠ "active") (hjob : w.job = .delete) : w.Moves op where
  status := hstatus
  job := by simp [hended, hjob]
  revived _ _ _ hactive := absurd hactive hended

theorem mem_noteStatuses_active (h : note.status ∈ noteStatuses)
    (hactive : note.status.toLower = "active") : note.status = "active" := by
  simp only [noteStatuses, List.mem_cons, List.not_mem_nil, or_false] at h
  rcases h with h | h | h
  . exact h
  . rw [h] at hactive
    exact absurd hactive (by decide +kernel)
  . rw [h] at hactive
    exact absurd hactive (by decide +kernel)

theorem Ending.status_mem {change : VersionOp} (h : Ending action status change prev) : status ∈ noteStatuses := by
  cases h with
  | supersede => decide
  | delete => decide

/-- What each mutation does to the status of its note. -/
theorem Mutation.moves (h : Mutation svc draw s t op w) (hs : s.Statuses) : w.Moves op := by
  cases h with
  | added h => exact .of_active rfl rfl nofun
  | extracted hdata h => exact .of_active rfl rfl nofun
  | @replaced req now note withinBudget text prev h =>
    have hmatched := h.matched
    have hactive : prev.status = "active" := by
      unfold ResolveUpdateArgs.matches at hmatched
      simp only [Bool.and_eq_true, decide_eq_true_eq] at hmatched
      exact hmatched.1.1.2
    apply NoteWrite.Moves.of_active hactive rfl
    rintro _ ⟨⟩
    exact hactive
  | @updated req prev find active gate writes fields =>
    have hactive := mem_noteStatuses_active (hs prev (Table.mem_of_find? find)) active
    apply NoteWrite.Moves.of_active hactive rfl
    rintro _ ⟨⟩
    exact hactive
  | deleted find writes fields =>
    exact .of_ended (by simp [deletedNote, noteStatuses]) (by simp [deletedNote]) rfl
  | published loads moved writes fields =>
    apply NoteWrite.Moves.of_active loads.active rfl
    rintro _ ⟨⟩
    exact loads.active
  | unpublished find active shared writes fields =>
    apply NoteWrite.Moves.of_active active rfl
    rintro _ ⟨⟩
    exact active
  | ended find ending writes fields =>
    exact .of_ended ending.status_mem ending.status_ne_active rfl
  | @restored req prev restored source snapshot find action inactive load apply writes fields =>
    have hactive := (applyRestoreSnapshot_cases apply).status_active
    constructor
    . exact List.mem_of_elem_eq_true (by simp [restoredNote, hactive, noteStatuses])
    . simp [restoredNote, hactive]
    . rintro _ ⟨⟩ - -
      exact ⟨action, (Table.key_of_find? find).symm⟩
  | @promoted req w proposal promoted args s₁ s₂ find action contract h before after =>
    apply NoteWrite.Moves.of_active h.active h.job
    intro prev hprev
    rcases h.kind with ⟨-, -, hnone, -⟩ | ⟨-, -, prev', hsome, -, hactive, -⟩
    . rw [hnone] at hprev
      cases hprev
    . rw [hsome] at hprev
      cases hprev
      exact hactive

/-! ## Jobs -/

/-- The jobs that were enqueued for a note, oldest first. -/
def Store.jobsOf (s : Store) (noteId : Uuid) : List IndexingOutboxEntry :=
  s.outbox.rows.filter (·.noteId = noteId)

/-- What the notes, their versions and their jobs have to do with each other. -/
structure Store.Enqueued (s : Store) : Prop where
  statuses : s.Statuses
  jobs : s.outbox.rows.map (·.noteId) = s.versions.rows.map (·.noteId)
  last : ∀ note ∈ s.notes, ∃ job, (s.jobsOf note.noteId).getLast? = some job
    ∧ (job.op = .delete ↔ note.status ≠ "active")

theorem Store.Quiet.exists_note (h : s.Quiet t) (hnote : note ∈ t.notes)
    : ∃ row ∈ s.notes, row.noteId = note.noteId ∧ row.status = note.status := by
  rcases h.row (t.notes.find?_key hnote) with ⟨row, hrow, heq⟩
  refine ⟨row, Table.mem_of_find? hrow, Table.key_of_find? hrow, ?_⟩
  rw [heq]

/-- A quiet step keeps every note, up to what searches count. -/
theorem Store.Quiet.exists_note' (h : s.Quiet t) (hnote : note ∈ s.notes)
    : ∃ row ∈ t.notes, row.noteId = note.noteId ∧ row.status = note.status := by
  have hid := h.notes note.noteId
  rw [s.notes.find?_key hnote, Option.map_some] at hid
  rcases Option.map_eq_some_iff.mp hid with ⟨row, hrow, heq⟩
  refine ⟨row, Table.mem_of_find? hrow, Table.key_of_find? hrow, ?_⟩
  rw [MemoryNote.eq_of_unhit heq]

theorem Store.Quiet.enqueued (h : s.Quiet t) (hs : s.Enqueued) : t.Enqueued := by
  constructor
  . intro note hnote
    rcases h.exists_note hnote with ⟨row, hrow, -, hstatus⟩
    rw [← hstatus]
    exact hs.statuses row hrow
  . rw [h.outbox, h.versions]
    exact hs.jobs
  . intro note hnote
    rcases h.exists_note hnote with ⟨row, hrow, hid, hstatus⟩
    unfold Store.jobsOf
    rw [h.outbox, ← hid, ← hstatus]
    exact hs.last row hrow

/-- The note that is written, and the others. -/
theorem Store.Writes.mem_notes (h : s.Writes t w) (hnote : note ∈ t.notes)
    : note = w.next.stored ∨ w.next.noteId ≠ note.noteId ∧ note ∈ s.notes := by
  have hfind := t.notes.find?_key hnote
  rw [h.notes_eq] at hfind
  split at hfind
  next => exact .inl (Option.some.inj hfind).symm
  next hne => exact .inr ⟨hne, Table.mem_of_find? hfind⟩

theorem Store.Writes.enqueued (h : s.Writes t w) (hmoves : w.Moves op) (hs : s.Enqueued)
    : t.Enqueued := by
  rcases h.outbox_eq with ⟨job, houtbox, hid, hop, -, -⟩
  rcases h.versions_eq with ⟨version, hversions, hversion, -⟩
  constructor
  . intro note hnote
    rcases h.mem_notes hnote with rfl | ⟨-, hnote⟩
    . exact hmoves.status
    . exact hs.statuses note hnote
  . rw [houtbox, hversions, List.map_append, List.map_append, hs.jobs, List.map_singleton,
      List.map_singleton, hid, hversion]
  . intro note hnote
    unfold Store.jobsOf
    rw [houtbox, List.filter_append]
    rcases h.mem_notes hnote with rfl | ⟨hne, hnote⟩
    . refine ⟨job, ?_, ?_⟩
      . rw [List.filter_singleton, decide_eq_true (by exact hid)]
        exact List.getLast?_concat
      . rw [hop]
        exact hmoves.job
    . rw [List.filter_singleton, decide_eq_false (by rw [hid]; exact hne)]
      rw [cond_false, List.append_nil]
      exact hs.last note hnote

theorem enqueued_step (hs : s.Enqueued) (h : Steps s a t) : t.Enqueued := by
  rcases h.cases with rfl | ⟨r, hok⟩
  . exact hs
  . rcases Op.exec_cases hok with hquiet | ⟨w, hmut, -⟩
    . exact hquiet.enqueued hs
    . exact hmut.writes.enqueued (hmut.moves hs.statuses) hs

theorem Store.Enqueued.reachable (h : Run Steps Store.empty as s) : s.Enqueued := by
  apply h.invariant fun s a t hs hstep => enqueued_step hs hstep
  exact ⟨nofun, rfl, nofun⟩

/--
Whatever was requested, the jobs are those of the versions, note by note and in their order, and the last
job that was enqueued for a note asks for its deletion exactly when the note is not active.
-/
theorem lastJob_of_note (h : Run Steps Store.empty as s)
    : s.outbox.rows.map (·.noteId) = s.versions.rows.map (·.noteId)
      ∧ ∀ note ∈ s.notes, ∃ job, (s.jobsOf note.noteId).getLast? = some job
          ∧ (job.op = .delete ↔ note.status ≠ "active") := by
  have hs := Store.Enqueued.reachable h
  exact ⟨hs.jobs, hs.last⟩

def addAndDelete : List Step := [
  sampleAdd 1 "p" "agent_private" (sampleNote none "Ports are closed."),
  sampleStep 2 (.correct (sampleCorrection 1 .delete none))]

theorem lastJob_of_note_addAndDelete
    : ∃ note ∈ (Store.empty.run addAndDelete).notes, note.status ≠ "active"
      ∧ ∃ job, ((Store.empty.run addAndDelete).jobsOf note.noteId).getLast? = some job
        ∧ job.op = .delete := by
  have hstored : (Store.empty.run addAndDelete).notes.rows.any (·.status ≠ "active") = true := by
    decide +kernel
  rcases List.any_eq_true.mp hstored with ⟨note, hnote, hstatus⟩
  rw [decide_eq_true_eq] at hstatus
  rcases (lastJob_of_note (run_iff.mpr rfl)).2 note hnote with ⟨job, hjob, hop⟩
  exact ⟨note, hnote, hstatus, job, hjob, hop.mpr hstatus⟩

/-! ## Ends -/

/-- What happens to a note from one store to a later one. -/
def Store.Keeps (s : Store) (as : List Step) (t : Store) : Prop :=
  ∀ note ∈ s.notes, ∃ row ∈ t.notes, row.noteId = note.noteId
    ∧ (note.status ≠ "active" → row.status = "active" → ∃ a ∈ as, a.op.restores note.noteId)

theorem Store.Keeps.of_same (h : ∀ note ∈ s.notes, ∃ row ∈ t.notes, row.noteId = note.noteId
    ∧ row.status = note.status) : s.Keeps as t := by
  intro note hnote
  rcases h note hnote with ⟨row, hrow, hid, hstatus⟩
  refine ⟨row, hrow, hid, ?_⟩
  intro hinactive hactive
  rw [hstatus] at hactive
  exact absurd hactive hinactive

theorem keeps_step (hs : s.Statuses) (h : Steps s a t) : s.Keeps [a] t := by
  rcases h.cases with rfl | ⟨r, hok⟩
  . exact .of_same fun note hnote => ⟨note, hnote, rfl, rfl⟩
  . rcases Op.exec_cases hok with hquiet | ⟨w, hmut, -⟩
    . exact .of_same fun note hnote => hquiet.exists_note' hnote
    . intro note hnote
      have hfind := hmut.writes.notes_eq note.noteId
      have hprev := hmut.writes.prev_eq
      split at hfind
      next hid =>
        rw [hid, s.notes.find?_key hnote] at hprev
        refine ⟨w.next.stored, Table.mem_of_find? hfind, hid, ?_⟩
        intro hinactive hactive
        refine ⟨a, List.mem_singleton_self a, ?_⟩
        exact (hmut.moves hs).revived note hprev.symm hinactive hactive
      next hother =>
        rw [s.notes.find?_key hnote] at hfind
        refine ⟨note, Table.mem_of_find? hfind, rfl, ?_⟩
        intro hinactive hactive
        exact absurd hactive hinactive

/--
A note that is stored stays stored, and once its life has ended it is active again only when one of the
later requests was a correction that restores it.
-/
theorem revived_by_restore (h : Run Steps Store.empty as s) (hrun : Run Steps s bs t) : s.Keeps bs t := by
  have hs := (Store.Enqueued.reachable h).statuses
  induction hrun generalizing as with
  | nil s => exact .of_same fun note hnote => ⟨note, hnote, rfl, rfl⟩
  | @cons s u t a bs head tail ih =>
    intro note hnote
    rcases keeps_step hs head note hnote with ⟨row, hrow, hid, hrevived⟩
    rcases ih (h.snoc head) (Store.Enqueued.reachable (h.snoc head)).statuses row hrow
      with ⟨later, hlater, hid', hrevived'⟩
    refine ⟨later, hlater, hid'.trans hid, ?_⟩
    intro hinactive hactive
    by_cases hrow : row.status = "active"
    . rcases hrevived hinactive hrow with ⟨b, hb, hrestores⟩
      exact ⟨b, List.mem_cons.mpr (.inl (List.mem_singleton.mp hb)), hrestores⟩
    . rcases hrevived' hrow hactive with ⟨b, hb, hrestores⟩
      rw [hid] at hrestores
      exact ⟨b, List.mem_cons_of_mem a hb, hrestores⟩

def restoreIt : List Step := [sampleStep 3 (.correct (sampleCorrection 1 .restore (some 2)))]

theorem revived_by_restore_restoreIt
    : ∃ note ∈ (Store.empty.run addAndDelete).notes, note.status = "deleted"
      ∧ ∃ row ∈ ((Store.empty.run addAndDelete).run restoreIt).notes, row.status = "active"
        ∧ ∃ a ∈ restoreIt, a.op.restores note.noteId := by
  have hdeleted : (Store.empty.run addAndDelete).notes.rows.any (·.status = "deleted") = true := by
    decide +kernel
  have hactive : ((Store.empty.run addAndDelete).run restoreIt).notes.rows.all (·.status = "active")
      = true := by
    decide +kernel
  rcases List.any_eq_true.mp hdeleted with ⟨note, hnote, hstatus⟩
  rw [decide_eq_true_eq] at hstatus
  rcases revived_by_restore (run_iff.mpr rfl) (run_iff.mpr rfl) note hnote with ⟨row, hrow, -, hrevived⟩
  have hrowActive := List.all_eq_true.mp hactive row hrow
  rw [decide_eq_true_eq] at hrowActive
  refine ⟨note, hnote, hstatus, row, hrow, hrowActive, hrevived ?_ hrowActive⟩
  rw [hstatus]
  decide

end Elf
