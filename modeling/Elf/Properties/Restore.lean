import Elf.Service.Lemmas.Op

/-!
This module contains the way back from a correction that ends the life of an active note: restoring
the version that the correction wrote brings back the note and its readers.
-/

namespace Elf

open Text

variable {svc svc' : ElfService} {draw draw' : Draw} {s t u v : Store} {w : NoteWrite}
  {prev row note : MemoryNote} {req req' : MemoryCorrectionRequest}

/-! ## Snapshots read back -/

theorem requiredF32_scoreJson {snapshot : Json} {field : String} {score : F32}
    (hget : snapshot.get field = some (scoreJson score)) (h : score.InRange)
    : requiredF32 snapshot field = .ok score := by
  unfold requiredF32
  rw [hget]
  cases score with
  | nan => exact absurd h id
  | inf negative => exact absurd h id
  | fin q =>
    have hmin : ¬ q < -F32.max := not_lt.mpr h.1
    have hmax : ¬ F32.max < q := not_lt.mpr h.2
    simp [scoreJson, Except.ofOption, Except.rejectIf, hmin, hmax, bind, Except.bind, pure,
      Except.pure]

theorem optionalString_ofOption {snapshot : Json} {field : String} {value : Option String}
    (hget : snapshot.get field = some (.ofOption .str value))
    : optionalString snapshot field = .ok value := by
  unfold optionalString
  rw [hget]
  cases value with
  | none => rfl
  | some value => rfl

theorem optionalOffsetDatetime_timeJson {snapshot : Json} {field : String} {value : Option Nat}
    (hget : snapshot.get field = some (.ofOption timeJson value))
    : optionalOffsetDatetime snapshot field = .ok value := by
  unfold optionalOffsetDatetime
  rw [hget]
  cases value with
  | none => rfl
  | some time => simp [Json.ofOption, timeJson]

/-- The row with the restorable fields of the note `prev`. -/
def rolledBack (row prev : MemoryNote) (now : Nat) : MemoryNote :=
  { row with
    scope := prev.scope
    type := prev.type
    key := prev.key
    text := prev.text
    importance := prev.importance
    confidence := prev.confidence
    status := prev.status
    updatedAt := now
    expiresAt := prev.expiresAt }

/-- A sound, active note with scores in range is restored from its snapshot. -/
theorem applyRestoreSnapshot_noteSnapshot (hsound : prev.Sound) (hactive : prev.status = "active")
    (himportance : prev.importance.InRange) (hconfidence : prev.confidence.InRange)
    : applyRestoreSnapshot row (noteSnapshot prev) now = .ok (rolledBack row prev now) := by
  have hstatus : requiredString (noteSnapshot prev) "status" = .ok prev.status := by
    rw [requiredString_eq_ok, hactive]
    exact ⟨by simp [hactive], by decide⟩
  have hscope : requiredString (noteSnapshot prev) "scope" = .ok prev.scope :=
    requiredString_eq_ok.mpr ⟨noteSnapshot_scope prev, hsound.scope⟩
  have htype : requiredString (noteSnapshot prev) "type" = .ok prev.type :=
    requiredString_eq_ok.mpr ⟨noteSnapshot_type prev, hsound.type⟩
  have htext : requiredString (noteSnapshot prev) "text" = .ok prev.text :=
    requiredString_eq_ok.mpr ⟨noteSnapshot_text prev, hsound.text⟩
  have hkey := optionalString_ofOption (noteSnapshot_key prev)
  have himp := requiredF32_scoreJson (noteSnapshot_importance prev) himportance
  have hconf := requiredF32_scoreJson (noteSnapshot_confidence prev) hconfidence
  have hexpires := optionalOffsetDatetime_timeJson (noteSnapshot_expires_at prev)
  unfold applyRestoreSnapshot
  rw [hstatus, hscope, htype, htext, hkey, himp, hconf, hexpires]
  simp [Except.rejectIf, hactive, bind, Except.bind, pure, Except.pure, rolledBack]

/-- A restore finds the note that the write of a version started from. -/
theorem Store.Writes.loadRestoreSnapshot (h : s.Writes t w) (hprev : w.prev = some prev)
    : loadRestoreSnapshot t w.next.noteId (some w.versionId)
      = .ok (w.versionId, noteSnapshot prev) := by
  rcases h.versions_eq with ⟨version, hversions, hnote, -, hid, hsnapshot, -⟩
  have hmem : version ∈ t.versions := by
    rw [Table.mem_def, hversions]
    simp
  have hfind := t.versions.find?_key hmem
  rw [hprev, Option.map_some] at hsnapshot
  have hfound : restoreCandidate t w.next.noteId (some w.versionId) = some version := by
    rw [← hid]
    unfold restoreCandidate
    dsimp only
    rw [hfind, Option.filter_some, if_pos (by simp [hnote, hsnapshot])]
  unfold Elf.loadRestoreSnapshot
  rw [hfound]
  simp [hsnapshot, hid, Except.ofOption]

/-! ## Restoring what a correction ended -/

/-- A reader sees the note. -/
def Readable (s : Store) (note : MemoryNote) (projectId agentId : String)
    (allowedScopes : List String) (now : Nat) : Bool :=
  noteReadAllowed note agentId allowedScopes
    (loadSharedReadGrantsWithOrgShared s note.tenantId projectId agentId
      (allowedScopes.contains "org_shared")) now

/-- Who reads a note is a matter of its owner, scope, status and expiry, and of the grants. -/
theorem readable_congr (hgrants : t.grants = s.grants) (htenant : note.tenantId = prev.tenantId)
    (hagent : note.agentId = prev.agentId) (hscope : note.scope = prev.scope)
    (hstatus : note.status = prev.status) (hexpires : note.expiresAt = prev.expiresAt)
    (projectId agentId : String) (allowedScopes : List String) (now : Nat)
    : Readable t note projectId agentId allowedScopes now
      = Readable s prev projectId agentId allowedScopes now := by
  unfold Readable noteReadAllowed MemoryNote.expired loadSharedReadGrantsWithOrgShared
    loadSharedReadGrants
  rw [hgrants, htenant, hagent, hscope, hstatus, hexpires]

/-- In the store `t` the note is active, as it was in the store `s`, and has the same readers. -/
structure BroughtBack (s t : Store) (prev note : MemoryNote) : Prop where
  find : t.notes.find? prev.noteId = some note
  scope : note.scope = prev.scope
  project : note.projectId = prev.projectId
  type : note.type = prev.type
  key : note.key = prev.key
  text : note.text = prev.text
  importance : note.importance = prev.importance
  confidence : note.confidence = prev.confidence
  expiresAt : note.expiresAt = prev.expiresAt
  active : note.status = "active"
  readers : ∀ (projectId agentId : String) (allowedScopes : List String) (now : Nat),
    Readable t note projectId agentId allowedScopes now
      = Readable s prev projectId agentId allowedScopes now

/-- The restore request is well formed, it may write the note, and its identifiers are new. -/
structure MayRestore (svc : ElfService) (req : MemoryCorrectionRequest) (draw : Draw) (s : Store)
    : Prop where
  request : validateCorrectionRequest (trim req.tenantId) (trim req.projectId)
    (trim req.actorAgentId) (trim req.reason) req.sourceRef = .ok ()
  note : ∃ note, loadNote s req.noteId (trim req.tenantId) (trim req.projectId) orgProjectId
    = some note ∧ validateWriteScope note svc.cfg.scopes = .ok ()
  version : s.versions.find? draw.versionId = none
  outbox : s.outbox.find? draw.outboxId = none

/-- The note `prev` was ended, and the state is as the correction left it. -/
structure Ended (s t : Store) (prev row : MemoryNote) (versionId : Uuid) : Prop where
  find : t.notes.find? prev.noteId = some row
  inactive : row.status ≠ "active"
  tenant : row.tenantId = prev.tenantId
  project : row.projectId = prev.projectId
  agent : row.agentId = prev.agentId
  load : loadRestoreSnapshot t prev.noteId (some versionId) = .ok (versionId, noteSnapshot prev)
  grants : t.grants = s.grants

theorem ended_of_correction {r : MemoryCorrectionResponse}
    (hok : memoryCorrectionApply svc req draw s = .ok (r, t))
    (hfind : s.notes.find? req.noteId = some prev) (hactive : prev.status = "active")
    (haction : req.action ≠ .restore)
    : ∃ row versionId, r.versionId = some versionId ∧ Ended s t prev row versionId := by
  rcases memoryCorrectionApply_cases hok with ⟨prev', hfind', -, -, hcases⟩
  rw [hfind] at hfind'
  cases hfind'
  have hid := Table.key_of_find? hfind
  rcases hcases with ⟨hunneeded, -⟩ | hended | hrestored
  . generalize req.action = action at hunneeded haction
    cases hunneeded with
    | supersede h =>
      rw [hactive] at h
      exact absurd h (by decide)
    | delete h =>
      rw [hactive] at h
      exact absurd h (by decide)
    | restore h => exact absurd rfl haction
  . rcases hended with ⟨status, op, hending, -, hversion, hwrites, htables⟩
    refine ⟨(endedNote prev req.action status (req.args draw)).stored, draw.versionId, hversion,
      ?_⟩
    constructor
    . have hnotes := hwrites.notes_eq prev.noteId
      rw [if_pos (by rfl)] at hnotes
      exact hnotes
    . exact hending.status_ne_active
    . rfl
    . rfl
    . rfl
    . exact hwrites.loadRestoreSnapshot rfl
    . exact htables.2.1
  . rcases hrestored with ⟨_, _, _, hrestore, -⟩
    exact absurd hrestore haction


/-- A restore of an ended note that succeeds brings it back. -/
theorem Ended.brought_back {row : MemoryNote} {versionId : Uuid} {r : MemoryCorrectionResponse}
    (h : Ended s t prev row versionId) (hsound : prev.Sound) (hactive : prev.status = "active")
    (himportance : prev.importance.InRange) (hconfidence : prev.confidence.InRange)
    (hnote : req.noteId = prev.noteId) (haction : req.action = .restore)
    (hversion : req.restoreVersionId = some versionId)
    (hok : memoryCorrectionApply svc req draw t = .ok (r, u))
    : ∃ note, BroughtBack s u prev note := by
  rcases memoryCorrectionApply_cases hok with ⟨row', hfind, -, -, hcases⟩
  rw [hnote, h.find] at hfind
  cases hfind
  have hrow := Table.key_of_find? h.find
  rw [haction] at hcases
  rcases hcases with ⟨hunneeded, -⟩ | ⟨status, op, hending, -⟩ | hrestored
  . cases hunneeded with
    | restore hrow => exact absurd hrow h.inactive
  . cases hending
  . rcases hrestored with ⟨source, snapshot, restored, -, -, -, -, hload, happly, hwrites, htables⟩
    change row.noteId = prev.noteId at hrow
    rw [hversion, hrow, h.load] at hload
    cases hload
    rw [applyRestoreSnapshot_noteSnapshot hsound hactive himportance hconfidence] at happly
    cases happly
    have hnotes := hwrites.notes_eq prev.noteId
    have hid : (restoredNote svc (rolledBack row prev (draw.clock 0)) (noteSnapshot prev) versionId
        (req.args draw)).noteId = prev.noteId := hrow
    rw [if_pos hid] at hnotes
    refine ⟨_, hnotes, rfl, h.project, rfl, rfl, rfl, rfl, rfl, hsound.expiry, hactive, ?_⟩
    have hgrants : u.grants = s.grants := htables.2.1.trans h.grants
    exact readable_congr hgrants h.tenant h.agent rfl rfl hsound.expiry

theorem writeVersionAndEnqueue_succeeds {op : VersionOp}
    (hversion : s.versions.find? draw.versionId = none)
    (houtbox : s.outbox.find? draw.outboxId = none)
    : ∃ t, writeVersionAndEnqueue s draw op prev note reason actor ts job = .ok t := by
  simp only [writeVersionAndEnqueue, Except.bind_eq_ok, insertVersion_eq_ok,
    enqueueOutboxTx_eq_ok]
  let version : NoteVersion := {
    versionId := draw.versionId
    noteId := note.noteId
    op
    prevSnapshot := some (noteSnapshot prev)
    newSnapshot := some (noteSnapshot note)
    reason
    actor
    ts := timestamptz ts }
  rcases s.versions.insert?_isSome (a := version) hversion with ⟨versions, hversions⟩
  let entry := newOutboxEntry draw.outboxId note.noteId job note.embeddingVersion ts
  rcases s.outbox.insert?_isSome (a := entry) houtbox with ⟨outbox, houtbox⟩
  exact ⟨_, _, ⟨versions, hversions, rfl⟩, outbox, houtbox, rfl⟩

/-- A permitted restore of an ended note succeeds. -/
theorem Ended.restore_succeeds {row : MemoryNote} {versionId : Uuid}
    (h : Ended s t prev row versionId) (hsound : prev.Sound) (hactive : prev.status = "active")
    (himportance : prev.importance.InRange) (hconfidence : prev.confidence.InRange)
    (hnote : req.noteId = prev.noteId) (haction : req.action = .restore)
    (hversion : req.restoreVersionId = some versionId) (hmay : MayRestore svc req draw t)
    : ∃ r u, memoryCorrectionApply svc req draw t = .ok (r, u) := by
  rcases hmay.note with ⟨note, hload, hscope⟩
  have hfind := (loadNote_eq_some hload).1
  rw [hnote, h.find] at hfind
  cases hfind
  have hrow : row.noteId = prev.noteId := Table.key_of_find? h.find
  have happly := @applyRestoreSnapshot_noteSnapshot prev row (draw.clock 0) hsound hactive himportance
    hconfidence
  have hrestore : ∃ out, restoreNote t draw row req.restoreVersionId svc.cfg.embeddingVersion
      (req.args draw) = .ok out := by
    unfold restoreNote
    rw [if_neg h.inactive, hversion, hrow, h.load]
    change ∃ out, (applyRestoreSnapshot row (noteSnapshot prev) (draw.clock 0) >>= _) = .ok out
    rw [happly]
    apply Except.exists_bind ⟨_, rfl⟩
    intro restored hrestored
    cases hrestored
    apply Except.exists_bind
    . exact writeVersionAndEnqueue_succeeds hmay.version hmay.outbox
    . intro u hu
      exact ⟨_, rfl⟩
  rcases hrestore with ⟨⟨note, written, u⟩, hrestore⟩
  have hcorrection : applyCorrection svc req draw t row (req.args draw) = .ok (note, written, u) := by
    unfold applyCorrection
    rw [haction]
    exact hrestore
  simp only [memoryCorrectionApply, Except.bind_eq_ok, Except.ofOption_eq_ok, Except.pure_eq_ok]
  exact ⟨_, u, (), hmay.request, row, hload, (), hscope, _, hcorrection, rfl⟩

/--
An active note of a reachable state, with scores in range, is superseded or deleted, and other steps
fail. A restore of the version of that correction then brings the note back, and succeeds where it
is permitted.
-/
theorem restore_of_ended {r : MemoryCorrectionResponse} (hreach : Run Steps Store.empty as s)
    (hfind : s.notes.find? req.noteId = some prev) (hactive : prev.status = "active")
    (himportance : prev.importance.InRange) (hconfidence : prev.confidence.InRange)
    (haction : req.action ≠ .restore)
    (hok : memoryCorrectionApply svc req draw s = .ok (r, t))
    (hfailed : Run (fun s a t => (∃ err, a.exec s = .error err) ∧ Steps s a t) t bs u)
    (hnote : req'.noteId = req.noteId) (hrestore : req'.action = .restore)
    (hversion : req'.restoreVersionId = r.versionId)
    : (∀ r' v, memoryCorrectionApply svc' req' draw' u = .ok (r', v)
        → ∃ note, BroughtBack s v prev note)
      ∧ (MayRestore svc' req' draw' u
        → ∃ r' v, memoryCorrectionApply svc' req' draw' u = .ok (r', v)) := by
  have hsound := Store.Sound.reachable hreach _ prev hfind
  have hsame : u = t := by
    apply hfailed.relation (R := fun s t => t = s)
    . intro s
      rfl
    . rintro s t u rfl rfl
      rfl
    . rintro s a t ⟨⟨err, herr⟩, hstep⟩
      rw [← hstep]
      exact Transaction.next_of_error herr
  subst hsame
  rcases ended_of_correction hok hfind hactive haction with ⟨row, versionId, hid, hended⟩
  rw [hid] at hversion
  rw [← Table.key_of_find? hfind] at hnote
  constructor
  . intro r' v hok'
    exact hended.brought_back hsound hactive himportance hconfidence hnote hrestore hversion hok'
  . intro hmay
    exact hended.restore_succeeds hsound hactive himportance hconfidence hnote hrestore hversion
      hmay

def sampleDelete : MemoryCorrectionRequest := sampleCorrection 1 .delete none

def sampleRestore (versionId : Uuid) : MemoryCorrectionRequest :=
  sampleCorrection 1 .restore (some versionId)

def addOrgNote : List Step := [
  sampleAdd 1 "p" "org_shared" (sampleNote none "Deploys run on Friday.")]

def deleteOrgNote : List Step := addOrgNote ++ [sampleStep 2 (.correct sampleDelete)]

/-- A correction that fails, for want of a reason. -/
def unexplained : Step := sampleStep 3 (.correct { sampleDelete with reason := "" })

theorem restore_of_ended_addOrgNote
    : ∃ prev r v note, (Store.empty.run addOrgNote).notes.find? 1 = some prev
      ∧ memoryCorrectionApply sampleService (sampleRestore 2) (sampleDraw 4)
        (Store.empty.run deleteOrgNote) = .ok (r, v)
      ∧ BroughtBack (Store.empty.run addOrgNote) v prev note := by
  have hsome : ((Store.empty.run addOrgNote).notes.find? 1).isSome = true := by decide +kernel
  rcases Option.isSome_iff_exists.mp hsome with ⟨prev, hfind⟩
  have hprev : ((Store.empty.run addOrgNote).notes.find? 1).all (fun note =>
      note.status = "active" ∧ note.importance.InRange ∧ note.confidence.InRange) = true := by
    decide +kernel
  rw [hfind, Option.all_some, decide_eq_true_eq] at hprev
  have hdeleted : memoryCorrectionApply sampleService sampleDelete (sampleDraw 2)
      (Store.empty.run addOrgNote)
        = .ok (⟨1, .delete, .delete, "deleted", some 2⟩, Store.empty.run deleteOrgNote) := by
    decide +kernel
  have hfailed : unexplained.exec (Store.empty.run deleteOrgNote)
      = .error (.invalidRequest "reason must not be empty.") := by
    decide +kernel
  have hrestored : (memoryCorrectionApply sampleService (sampleRestore 2) (sampleDraw 4)
      (Store.empty.run deleteOrgNote)).isOk = true := by
    decide +kernel
  cases hok : memoryCorrectionApply sampleService (sampleRestore 2) (sampleDraw 4)
      (Store.empty.run deleteOrgNote) with
  | error err =>
    rw [hok] at hrestored
    cases hrestored
  | ok out =>
    rcases out with ⟨r, v⟩
    have hrestore : (∀ r v, memoryCorrectionApply sampleService (sampleRestore 2) (sampleDraw 4)
          (Store.empty.run deleteOrgNote) = .ok (r, v)
        → ∃ note, BroughtBack (Store.empty.run addOrgNote) v prev note) ∧ _ :=
      restore_of_ended (run_iff.mpr rfl) hfind hprev.1 hprev.2.1 hprev.2.2 (by decide) hdeleted
        (Run.single ⟨⟨_, hfailed⟩, Transaction.next_of_error hfailed⟩) rfl rfl rfl
    rcases hrestore.1 r v hok with ⟨note, hback⟩
    exact ⟨prev, r, v, note, hfind, rfl, hback⟩

/-- A note is superseded and then deleted. -/
def endedTwice : List Step := addOrgNote ++ [
  sampleStep 2 (.correct (sampleCorrection 1 .supersede none)),
  sampleStep 3 (.correct sampleDelete)]

/-- A note whose importance has no JSON number is deleted. -/
def endedInfinite : List Step := [
  sampleAdd 1 "p" "org_shared" { sampleNote none "Deploys run on Friday." with
    importance := .inf false },
  sampleStep 2 (.correct sampleDelete)]

-- The version of a deletion whose note was not active, or had an infinite score, is not restored.
theorem not_restored_endedTwice
    : ((Store.empty.run endedTwice).versions.find? 3).map (·.op) = some .delete
      ∧ memoryCorrectionApply sampleService (sampleRestore 3) (sampleDraw 4)
          (Store.empty.run endedTwice)
        = .error (.invalidRequest "Restore snapshot must represent an active memory.")
      ∧ ((Store.empty.run endedInfinite).versions.find? 2).map (·.op) = some .delete
      ∧ memoryCorrectionApply sampleService (sampleRestore 2) (sampleDraw 4)
          (Store.empty.run endedInfinite)
        = .error (.invalidRequest "Restore snapshot field importance must be a number.") := by
  decide +kernel

end Elf
