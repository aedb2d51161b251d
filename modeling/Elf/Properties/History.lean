import Elf.Lib.Run
import Elf.Service.Lemmas.Op

/-!
This module contains the version history of a note: the versions of a note lead from nothing to the
stored row, each from where the one before it ended.
-/

namespace Elf

open Text

/-! ## Snapshots up to what the columns do not keep -/

/-- A field of a snapshot without what searches count. -/
def ignoreHit : String × Json → String × Json
  | ("hit_count", _) => ("hit_count", .num 0)
  | ("last_hit_at", _) => ("last_hit_at", .null)
  | field => field

def ignoreHits : Json → Json
  | .obj fields => .obj (fields.map ignoreHit)
  | value => value

/-- A time without the digits that its column drops. -/
def ignoreTimeDigits : Json → Json
  | .num time => timeJson (timestamptz time.num.toNat)
  | value => value

/-- A field of a snapshot, or of its freshness, without the digits that columns drop. -/
def ignoreDigit : String × Json → String × Json
  | ("created_at", value) => ("created_at", ignoreTimeDigits value)
  | ("updated_at", value) => ("updated_at", ignoreTimeDigits value)
  | ("expires_at", value) => ("expires_at", ignoreTimeDigits value)
  | ("freshness", .obj fields) => ("freshness", .obj (fields.map fun
    | ("updated_at", value) => ("updated_at", ignoreTimeDigits value)
    | ("expires_at", value) => ("expires_at", ignoreTimeDigits value)
    | field => field))
  | field => field

def ignoreDigits : Json → Json
  | .obj fields => .obj (fields.map ignoreDigit)
  | value => value

/-- A snapshot without hit counters and without the digits of times below a microsecond. -/
def settle (snapshot : Json) : Json := ignoreDigits (ignoreHits snapshot)

@[simp]
theorem ignoreTimeDigits_timeJson (t : Nat) : ignoreTimeDigits (timeJson t) = timeJson (timestamptz t) := by
  simp [ignoreTimeDigits, timeJson]

@[simp]
theorem ignoreTimeDigits_ofOption (t : Option Nat)
    : ignoreTimeDigits (.ofOption timeJson t) = .ofOption timeJson (t.map timestamptz) := by
  cases t with
  | none => rfl
  | some t => exact ignoreTimeDigits_timeJson t

theorem MemoryNote.unhit_stored (note : MemoryNote) : note.unhit.stored = note.stored.unhit := rfl

theorem freshnessReason_stored (note : MemoryNote)
    : freshnessReason note.unhit.stored = freshnessReason note := by
  unfold freshnessReason
  simp [MemoryNote.stored, MemoryNote.unhit]

/-- What is ignored of a snapshot is what the stored row does not keep. -/
theorem settle_noteSnapshot (note : MemoryNote)
    : settle (noteSnapshot note) = noteSnapshot note.unhit.stored := by
  have hfreshness := freshnessReason_stored note
  unfold noteSnapshot memoryFreshness
  rw [hfreshness]
  have hnone : Json.ofOption timeJson none = .null := rfl
  simp [settle, ignoreHits, ignoreDigits, ignoreHit, ignoreDigit, MemoryNote.stored,
    MemoryNote.unhit, hnone]

/-! ## The chain -/

def Store.versionsOf (s : Store) (noteId : Uuid) : List NoteVersion :=
  s.versions.rows.filter (·.noteId = noteId)

/-- The settled snapshot of a stored note, if it exists. -/
def Store.snapshotOf (s : Store) (noteId : Uuid) : Option Json :=
  (s.notes.find? noteId).map fun note => settle (noteSnapshot note)

/-- The versions of every note lead from nothing to the stored row. -/
def Store.Chained (s : Store) : Prop :=
  ∀ noteId, Trail (fun version => version.prevSnapshot.map settle)
    (fun version : NoteVersion => version.newSnapshot.map settle) none (s.versionsOf noteId)
    (s.snapshotOf noteId)

variable {s t : Store} {a : Step} {w : NoteWrite}

theorem Store.Quiet.snapshotOf (h : s.Quiet t) (noteId : Uuid)
    : t.snapshotOf noteId = s.snapshotOf noteId := by
  have hsettle : (fun note => settle (noteSnapshot note))
      = (fun note => noteSnapshot note.stored) ∘ MemoryNote.unhit := by
    funext note
    exact settle_noteSnapshot note
  unfold Store.snapshotOf
  rw [hsettle, ← Option.map_map, h.notes, Option.map_map]

theorem Store.Quiet.chained (h : s.Quiet t) (hs : s.Chained) : t.Chained := by
  intro noteId
  have htrail := hs noteId
  unfold versionsOf at htrail ⊢
  rw [h.snapshotOf, h.versions]
  exact htrail

theorem Store.Writes.snapshotOf (h : s.Writes t w) (noteId : Uuid)
    : t.snapshotOf noteId
      = if w.next.noteId = noteId then some (settle (noteSnapshot w.next))
        else s.snapshotOf noteId := by
  unfold Store.snapshotOf
  rw [h.notes_eq]
  split
  . rw [Option.map_some, settle_noteSnapshot, settle_noteSnapshot, MemoryNote.unhit_stored,
      MemoryNote.unhit_stored, MemoryNote.stored_stored]
  . rfl

/-- The step lemma: a write appends one link to the chain of its note. -/
theorem Store.Writes.chained (h : s.Writes t w) (hs : s.Chained) : t.Chained := by
  intro noteId
  have htrail := hs noteId
  rcases h.versions_eq with ⟨version, hversions, hid, -, -, hprev, hnext⟩
  rw [h.snapshotOf]
  unfold versionsOf at htrail ⊢
  rw [hversions, List.filter_append]
  split
  next hnote =>
    subst hnote
    have hlast : [version].filter (·.noteId = w.next.noteId) = [version] := by simp [hid]
    have hdst : some (settle (noteSnapshot w.next)) = version.newSnapshot.map settle := by
      rw [hnext]
      rfl
    rw [hlast, hdst]
    apply htrail.snoc
    unfold Store.snapshotOf
    rw [hprev, h.prev_eq, Option.map_map]
    rfl
  next hnote =>
    have hlast : [version].filter (·.noteId = noteId) = [] := by simp [hid, hnote]
    rw [hlast, List.append_nil]
    exact htrail

theorem chained_step (hs : s.Chained) (h : Steps s a t) : t.Chained := by
  rcases h.cases with rfl | ⟨r, hok⟩
  . exact hs
  . rcases Op.exec_cases hok with hquiet | ⟨w, hmut, -⟩
    . exact hquiet.chained hs
    . exact hmut.writes.chained hs

/-! ## Steps without a change -/

/-- The step is rejected, or finds the note as the request asks for it. -/
inductive Idle (s : Store) (a : Step) : Prop where
  | failed {err : Error} (h : a.exec s = .error err)
  | none {t : Store} (h : a.exec s = .ok (some .none, t))
  | rejected {t : Store} (h : a.exec s = .ok (some .rejected, t))
  | published {req : PublishNoteRequest} {prev : MemoryNote} (op : a.op = .publish req)
    (find : s.notes.find? req.noteId = some prev) (scope : prev.scope = req.scope)
    (project : prev.projectId = targetProjectId req.scope (trim req.projectId))
  | unpublished {req : UnpublishNoteRequest} {prev : MemoryNote} (op : a.op = .unpublish req)
    (find : s.notes.find? req.noteId = some prev) (scope : prev.scope = "agent_private")

/-- A step that mutates a note is not idle. -/
theorem Mutation.not_idle {r : Option NoteOp} (hok : a.exec s = .ok (r, t)) (hr : Reported r)
    (h : Mutation a.svc a.draw s t a.op w) : ¬ Idle s a := by
  intro hidle
  cases hidle with
  | failed hfail =>
    rw [hok] at hfail
    cases hfail
  | none hnone =>
    rw [hok] at hnone
    cases hnone
    exact hr.1 rfl
  | rejected hrejected =>
    rw [hok] at hrejected
    cases hrejected
    exact hr.2 rfl
  | published op find scope project =>
    rw [op] at h
    cases h with
    | published loads moved writes fields =>
      rw [loads.find] at find
      cases find
      exact moved ⟨scope, project⟩
  | unpublished op find scope =>
    rw [op] at h
    cases h with
    | unpublished find' active shared writes fields =>
      rw [find'] at find
      cases find
      exact shared scope

theorem idle_step (hidle : Idle s a) (h : Steps s a t)
    : t.versions = s.versions ∧ t.outbox = s.outbox := by
  rcases h.cases with rfl | ⟨r, hok⟩
  . exact ⟨rfl, rfl⟩
  . rcases Op.exec_cases hok with hquiet | ⟨w, hmut, hr⟩
    . exact ⟨hquiet.versions, hquiet.outbox⟩
    . exact absurd hidle (hmut.not_idle hok hr)

/--
In every state that the service reaches, the versions of every note form a chain from nothing to the
stored row, and a step that changes nothing appends neither a version nor a job.
-/
theorem version_history (h : Run Steps Store.empty as s)
    : s.Chained ∧ ∀ a t, Idle s a → Steps s a t → t.versions = s.versions ∧ t.outbox = s.outbox := by
  constructor
  . apply h.invariant (fun s a t hs hstep => chained_step hs hstep)
    intro noteId
    apply Trail.nil
  . intro a t hidle hstep
    exact idle_step hidle hstep

/-- A note is added a nanosecond after the second, and then deleted. -/
def addThenDelete : List Step := [
  sampleStep 1 (.addNote (sampleAddNote "p" "agent_private" [sampleNote none "Ports are closed."])
    1000000001 (sampleNote none "Ports are closed.") true),
  sampleStep 2 (.delete ⟨"t", "p", "a", 1⟩)]

theorem version_history_addThenDelete : (Store.empty.run addThenDelete).Chained := by
  have hrun : Run Steps Store.empty addThenDelete (Store.empty.run addThenDelete) := run_iff.mpr rfl
  exact (version_history hrun).1

-- The first version keeps the nanosecond, which the row that the second one starts from has lost.
theorem not_isChain_addThenDelete
    : ¬ (Store.empty.run addThenDelete).versions.rows.IsChain fun version next =>
      version.newSnapshot.map ignoreHits = next.prevSnapshot.map ignoreHits := by
  decide +kernel

end Elf
