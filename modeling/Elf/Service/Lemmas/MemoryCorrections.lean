import Elf.Service.Lemmas.Write

/-!
This module contains what a memory correction can do to the store.
-/

namespace Elf

open Text

variable {svc : ElfService} {draw : Draw} {s t : Store} {prev note : MemoryNote}

/-! ## Reading a snapshot back -/

theorem requiredString_eq_ok
    : requiredString snapshot field = .ok value
      ↔ snapshot.get field = some (.str value) ∧ isBlank value = false := by
  simp [requiredString, Except.ofOption_eq_ok, Option.filter_eq_some_iff,
    Option.bind_eq_some_iff, Json.asStr_eq_some]

theorem requiredF32_eq_ok (h : requiredF32 snapshot field = .ok score)
    : score.isFinite = true := by
  simp only [requiredF32, Except.bind_eq_ok, Except.pure_eq_ok] at h
  rcases h with ⟨value, -, -, -, rfl⟩
  rfl

/-- What a note that was restored took from the snapshot. -/
structure Restored (snapshot : Json) (now : Nat) (prev note : MemoryNote) : Prop where
  status_active : note.status = "active"
  scope_blank : isBlank note.scope = false
  type_blank : isBlank note.type = false
  text_blank : isBlank note.text = false
  scope_get : snapshot.get "scope" = some (.str note.scope)
  text_get : snapshot.get "text" = some (.str note.text)
  importance_finite : note.importance.isFinite = true
  confidence_finite : note.confidence.isFinite = true
  frame : note = { prev with
    scope := note.scope
    type := note.type
    key := note.key
    text := note.text
    importance := note.importance
    confidence := note.confidence
    status := note.status
    updatedAt := now
    expiresAt := note.expiresAt }

theorem applyRestoreSnapshot_cases (h : applyRestoreSnapshot prev snapshot now = .ok note)
    : Restored snapshot now prev note := by
  simp only [applyRestoreSnapshot, Except.bind_eq_ok, Except.rejectIf_eq_ok, Except.pure_eq_ok,
    requiredString_eq_ok] at h
  rcases h with ⟨status, -, -, hstatus, scope, hscope, type, htype, key, -, text, htext, importance,
    himportance, confidence, hconfidence, expiresAt, -, rfl⟩
  simp only [ne_eq, decide_not, Bool.not_eq_false', decide_eq_true_eq] at hstatus
  exact {
    status_active := hstatus
    scope_blank := hscope.2
    type_blank := htype.2
    text_blank := htext.2
    scope_get := hscope.1
    text_get := htext.1
    importance_finite := requiredF32_eq_ok himportance
    confidence_finite := requiredF32_eq_ok hconfidence
    frame := rfl }

/-! ## The request -/

/-- The note as supersede and delete write it. -/
def endedNote (prev : MemoryNote) (action : MemoryCorrectionAction) (status : String)
    (args : CorrectionArgs) : MemoryNote :=
  { prev with
    status
    updatedAt := args.now
    sourceRef := correctionSourceRefFor action (noteSnapshot prev) args.correctionSourceRef
      args.reason args.actorAgentId args.now none }

/-- The note as restore writes it, from the one with the fields of the snapshot. -/
def restoredNote (svc : ElfService) (restored : MemoryNote) (snapshot : Json) (versionId : Uuid)
    (args : CorrectionArgs) : MemoryNote :=
  { restored with
    embeddingVersion := svc.cfg.embeddingVersion
    sourceRef := correctionSourceRefFor .restore snapshot args.correctionSourceRef args.reason
      args.actorAgentId args.now (some versionId) }

def MemoryCorrectionRequest.args (req : MemoryCorrectionRequest) (draw : Draw)
    : CorrectionArgs := {
  actorAgentId := trim req.actorAgentId
  reason := trim req.reason
  correctionSourceRef := req.sourceRef
  now := draw.clock 0 }

/-- How a correction ends the life of a note. -/
inductive Ending : MemoryCorrectionAction → String → VersionOp → MemoryNote → Prop where
  | supersede {prev : MemoryNote} (h : prev.status ≠ "deprecated") (h' : prev.status ≠ "deleted")
    : Ending .supersede "deprecated" .deprecate prev
  | delete {prev : MemoryNote} (h : prev.status ≠ "deleted") : Ending .delete "deleted" .delete prev

theorem Ending.status_ne_active (h : Ending action status op prev) : status ≠ "active" := by
  cases h with
  | supersede => decide
  | delete => decide

/-- The correction leaves the note as it is. -/
inductive Unneeded : MemoryCorrectionAction → MemoryNote → Prop where
  | supersede {prev : MemoryNote} (h : prev.status = "deprecated") : Unneeded .supersede prev
  | delete {prev : MemoryNote} (h : prev.status = "deleted") : Unneeded .delete prev
  | restore {prev : MemoryNote} (h : prev.status = "active") : Unneeded .restore prev

def Store.SameTables (s t : Store) : Prop :=
  t.fields = s.fields ∧ t.grants = s.grants ∧ s.SameReviews t

theorem endNote_cases (hprev : s.notes.find? prev.noteId = some prev)
    (h : endNote s draw prev action status op args = .ok (note, versionId, t))
    : note = endedNote prev action status args ∧ versionId = some draw.versionId
      ∧ s.Writes t ⟨some prev, note, op, .delete, draw.versionId⟩ ∧ s.SameTables t := by
  simp only [endNote, Except.bind_eq_ok, Except.pure_eq_ok, Prod.mk.injEq] at h
  rcases h with ⟨s', hwrite, rfl, rfl, rfl⟩
  rcases writes_of_update hprev (by rfl) (by rfl) (by rfl) hwrite with
    ⟨hwrites, notes, versions, outbox, rfl⟩
  exact ⟨rfl, rfl, hwrites, rfl, rfl, rfl, rfl⟩

theorem restoreNote_cases (hprev : s.notes.find? prev.noteId = some prev)
    (h : restoreNote s draw prev restoreVersionId svc.cfg.embeddingVersion args
      = .ok (note, versionId, t))
    : (prev.status = "active" ∧ note = prev ∧ versionId = none ∧ t = s)
      ∨ ∃ source snapshot restored, prev.status ≠ "active"
        ∧ loadRestoreSnapshot s prev.noteId restoreVersionId = .ok (source, snapshot)
        ∧ applyRestoreSnapshot prev snapshot args.now = .ok restored
        ∧ note = restoredNote svc restored snapshot source args
        ∧ versionId = some draw.versionId
        ∧ s.Writes t ⟨some prev, note, .restore, .upsert, draw.versionId⟩ ∧ s.SameTables t := by
  unfold restoreNote at h
  split at h
  next hactive =>
    cases h
    left
    exact ⟨hactive, rfl, rfl, rfl⟩
  next hinactive =>
    simp only [Except.bind_eq_ok, Except.pure_eq_ok, Prod.mk.injEq] at h
    rcases h with ⟨⟨source, snapshot⟩, hload, restored, hrestored, s', hwrite, rfl, rfl, rfl⟩
    right
    refine ⟨source, snapshot, restored, hinactive, hload, hrestored, rfl, rfl, ?_⟩
    have hframe := (applyRestoreSnapshot_cases hrestored).frame
    have hid : restored.noteId = prev.noteId := by rw [hframe]
    -- The row of the store is the note that the snapshot was applied to.
    have hset : restoredNote svc restored snapshot source args = { prev with
        scope := restored.scope
        type := restored.type
        key := restored.key
        text := restored.text
        importance := restored.importance
        confidence := restored.confidence
        status := restored.status
        updatedAt := restored.updatedAt
        expiresAt := restored.expiresAt
        embeddingVersion := svc.cfg.embeddingVersion
        sourceRef := (restoredNote svc restored snapshot source args).sourceRef } := by
      rw [hframe]
      rfl
    change s.Writes t ⟨some prev, restoredNote svc restored snapshot source args, _, _, _⟩ ∧ _
    change writeVersionAndEnqueue _ draw .restore prev
      (restoredNote svc restored snapshot source args) _ _ _ _ = _ at hwrite
    rw [hset] at hwrite ⊢
    rw [hid] at hwrite
    rcases writes_of_update hprev (by rfl) (by rfl) (by rfl) hwrite with
      ⟨hwrites, notes, versions, outbox, rfl⟩
    exact ⟨hwrites, rfl, rfl, rfl, rfl⟩

/-- What a correction found and what it did with it. -/
theorem memoryCorrectionApply_cases {req : MemoryCorrectionRequest}
    (h : memoryCorrectionApply svc req draw s = .ok (r, t))
    : ∃ prev, s.notes.find? req.noteId = some prev
      ∧ loadNote s req.noteId (trim req.tenantId) (trim req.projectId) orgProjectId = some prev
      ∧ validateWriteScope prev svc.cfg.scopes = .ok ()
      ∧ ((Unneeded req.action prev ∧ t = s ∧ r.op = .none ∧ r.versionId = none)
        ∨ (∃ status op, Ending req.action status op prev
          ∧ (r.op = .delete ∨ r.op = .update)
          ∧ r.versionId = some draw.versionId
          ∧ s.Writes t ⟨some prev, endedNote prev req.action status (req.args draw), op, .delete,
            draw.versionId⟩ ∧ s.SameTables t)
        ∨ (∃ source snapshot restored, req.action = .restore ∧ prev.status ≠ "active"
          ∧ r.op = .update ∧ r.versionId = some draw.versionId
          ∧ loadRestoreSnapshot s prev.noteId req.restoreVersionId = .ok (source, snapshot)
          ∧ applyRestoreSnapshot prev snapshot (draw.clock 0) = .ok restored
          ∧ s.Writes t ⟨some prev, restoredNote svc restored snapshot source (req.args draw),
            .restore, .upsert, draw.versionId⟩ ∧ s.SameTables t)) := by
  simp only [memoryCorrectionApply, Except.bind_eq_ok, Except.ofOption_eq_ok, Except.pure_eq_ok,
    Prod.mk.injEq] at h
  rcases h with ⟨-, -, prev, hload, _, hscope, ⟨note, versionId, t⟩, hact, rfl, rfl⟩
  unfold applyCorrection at hact
  have hprev := (loadNote_eq_some hload).1
  refine ⟨prev, hprev, hload, hscope, ?_⟩
  rw [← Table.key_of_find? hprev] at hprev
  cases haction : req.action with
  | supersede =>
    simp only [haction] at hact ⊢
    unfold supersedeNote at hact
    split at hact
    next hdone =>
      cases hact
      left
      exact ⟨.supersede hdone, rfl, rfl, rfl⟩
    next hnew =>
      split at hact
      . cases hact
      next hdeleted =>
        rcases endNote_cases hprev hact with ⟨rfl, rfl, hwrites, htables⟩
        right
        left
        exact ⟨_, _, .supersede hnew hdeleted, by simp [correctionOp], rfl, hwrites, htables⟩
  | delete =>
    simp only [haction] at hact ⊢
    unfold deleteNote at hact
    split at hact
    next hdone =>
      cases hact
      left
      exact ⟨.delete hdone, rfl, rfl, rfl⟩
    next hnew =>
      rcases endNote_cases hprev hact with ⟨rfl, rfl, hwrites, htables⟩
      right
      left
      exact ⟨_, _, .delete hnew, by simp [correctionOp], rfl, hwrites, htables⟩
  | restore =>
    simp only [haction] at hact ⊢
    rcases restoreNote_cases hprev hact with ⟨hactive, rfl, rfl, rfl⟩ | hrestore
    . left
      exact ⟨.restore hactive, rfl, rfl, rfl⟩
    . rcases hrestore with ⟨source, snapshot, restored, hinactive, hsource, hrestored, rfl, rfl,
        hwrites, htables⟩
      right
      right
      exact ⟨source, snapshot, restored, trivial, hinactive, rfl, rfl, hsource, hrestored, hwrites,
        htables⟩

end Elf
