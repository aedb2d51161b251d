import Elf.Service.MemoryCorrections
import Elf.Service.Review
import Elf.Service.Sharing

/-!
This module contains what a note mutation does to the three tables that every mutation writes: it
stores one row, appends one version of it and enqueues one job for it. It also contains what `update`,
`delete`, `publish_note` and `unpublish_note` can do to the store.
-/

namespace Elf

/-- One committed mutation of a note: the row before, the note after and what was recorded. -/
structure NoteWrite where
  prev : Option MemoryNote
  next : MemoryNote
  op : VersionOp
  job : OutboxOp
  versionId : Uuid

structure Store.Writes (s t : Store) (w : NoteWrite) : Prop where
  prev_eq : s.notes.find? w.next.noteId = w.prev
  notes_eq : ∀ id,
    t.notes.find? id = if w.next.noteId = id then some w.next.stored else s.notes.find? id
  versions_eq : ∃ version, t.versions.rows = s.versions.rows ++ [version]
    ∧ version.noteId = w.next.noteId ∧ version.op = w.op ∧ version.versionId = w.versionId
    ∧ version.prevSnapshot = w.prev.map noteSnapshot
    ∧ version.newSnapshot = some (noteSnapshot w.next)
  outbox_eq : ∃ job, t.outbox.rows = s.outbox.rows ++ [job]
    ∧ job.noteId = w.next.noteId ∧ job.op = w.job ∧ job.status = .pending
    ∧ job.embeddingVersion = w.next.embeddingVersion

/-- The tables that reviews write. -/
def Store.SameReviews (s t : Store) : Prop :=
  t.proposals = s.proposals ∧ t.reviews = s.reviews

/-- The tables that note mutations write. -/
def Store.SameNotes (s t : Store) : Prop :=
  t.notes = s.notes ∧ t.versions = s.versions ∧ t.outbox = s.outbox

variable {s t : Store} {prev note : MemoryNote}

theorem Store.Writes.mem (h : s.Writes t w) (hmem : row ∈ t.notes)
    : row = w.next.stored ∨ (row ∈ s.notes ∧ row.noteId ≠ w.next.noteId) := by
  have hfind := t.notes.find?_key hmem
  rw [h.notes_eq] at hfind
  split at hfind
  . left
    exact (Option.some.inj hfind).symm
  next hid =>
    right
    exact ⟨Table.mem_of_find? hfind, fun heq => hid heq.symm⟩

theorem Store.Writes.stored_mem (h : s.Writes t w) : w.next.stored ∈ t.notes := by
  have hfind := h.notes_eq w.next.noteId
  rw [if_pos rfl] at hfind
  exact Table.mem_of_find? hfind

theorem Store.Writes.other_mem (h : s.Writes t w) (hmem : row ∈ s.notes)
    (hid : row.noteId ≠ w.next.noteId) : row ∈ t.notes := by
  have hfind := h.notes_eq row.noteId
  rw [if_neg (fun heq => hid heq.symm)] at hfind
  exact Table.mem_of_find? (hfind.trans (s.notes.find?_key hmem))

theorem insertVersion_eq_ok
    : insertVersion s row = .ok t ↔ ∃ versions,
      s.versions.insert? { row with ts := timestamptz row.ts } = some versions
        ∧ t = { s with versions } := by
  simp only [insertVersion, Except.bind_eq_ok, Table.insert_eq_ok,
    Except.pure_eq_ok]

theorem enqueueOutboxTx_eq_ok
    : enqueueOutboxTx s outboxId noteId op embeddingVersion now = .ok t ↔ ∃ outbox,
      s.outbox.insert? (newOutboxEntry outboxId noteId op embeddingVersion now) = some outbox
        ∧ t = { s with outbox } := by
  simp only [enqueueOutboxTx, Except.bind_eq_ok, Table.insert_eq_ok,
    Except.pure_eq_ok]

theorem insertMemoryNoteTx_eq_ok
    : insertMemoryNoteTx s note = .ok t ↔ ∃ notes,
      s.notes.insert? note.stored = some notes ∧ t = { s with notes } := by
  simp only [insertMemoryNoteTx, Except.bind_eq_ok, Table.insert_eq_ok,
    Except.pure_eq_ok]

/-- The statements that mutate a stored note, with others between the last two. -/
theorem writes_of_statements {s' s₂ s₃ : Store} {set : MemoryNote → MemoryNote}
    {hset : ∀ row, (set row).noteId = row.noteId} {version : NoteVersion}
    (hprev : s.notes.find? prev.noteId = some prev) (hnotes : s'.notes = s.notes)
    (hversions : s'.versions = s.versions) (houtbox : s'.outbox = s.outbox)
    (hversion : insertVersion (updateNoteRow s' prev.noteId set hset) version = .ok s₂)
    (hsame : s₃.notes = s₂.notes) (hsamev : s₃.versions = s₂.versions)
    (hsameo : s₃.outbox = s₂.outbox)
    (hjob : enqueueOutboxTx s₃ outboxId (set prev).noteId job (set prev).embeddingVersion now
      = .ok t)
    (hid : version.noteId = (set prev).noteId)
    (hvprev : version.prevSnapshot = some (noteSnapshot prev))
    (hvnext : version.newSnapshot = some (noteSnapshot (set prev)))
    : s.Writes t ⟨some prev, set prev, version.op, job, version.versionId⟩ := by
  rw [insertVersion_eq_ok] at hversion
  rw [enqueueOutboxTx_eq_ok] at hjob
  rcases hversion with ⟨versions, hv, rfl⟩
  rcases hjob with ⟨outbox, ho, rfl⟩
  have hv := Table.rows_insert? hv
  have ho := Table.rows_insert? ho
  rw [hsameo] at ho
  simp only [updateNoteRow, hversions, houtbox] at hv ho
  have hkey : (set prev).noteId = prev.noteId := hset prev
  constructor
  . simp only [hkey, hprev]
  . intro id
    dsimp only
    rw [hsame]
    simp only [updateNoteRow, hnotes, Table.find?_modify, hkey]
    split
    next hid =>
      subst hid
      simp [hprev]
    next => rfl
  . dsimp only at hsamev ⊢
    rw [hsamev]
    exact ⟨_, hv, hid, rfl, rfl, hvprev, hvnext⟩
  . exact ⟨_, ho, rfl, rfl, rfl, rfl⟩

/-- The last three statements of a mutation of a stored note. -/
theorem writes_of_update {s' : Store} {set : MemoryNote → MemoryNote}
    {hset : ∀ row, (set row).noteId = row.noteId} (hprev : s.notes.find? prev.noteId = some prev)
    (hnotes : s'.notes = s.notes) (hversions : s'.versions = s.versions)
    (houtbox : s'.outbox = s.outbox)
    (h : writeVersionAndEnqueue (updateNoteRow s' prev.noteId set hset) draw op prev (set prev)
      reason actor ts job = .ok t)
    : s.Writes t ⟨some prev, set prev, op, job, draw.versionId⟩
      ∧ ∃ notes versions outbox, t = { s' with notes, versions, outbox } := by
  simp only [writeVersionAndEnqueue, Except.bind_eq_ok] at h
  rcases h with ⟨s₂, hversion, hjob⟩
  constructor
  . exact writes_of_statements hprev hnotes hversions houtbox hversion rfl rfl rfl hjob rfl rfl rfl
  . rw [insertVersion_eq_ok] at hversion
    rw [enqueueOutboxTx_eq_ok] at hjob
    rcases hversion with ⟨versions, -, rfl⟩
    rcases hjob with ⟨outbox, -, rfl⟩
    exact ⟨_, versions, outbox, rfl⟩

/-- The statements that create a note. -/
theorem writes_of_insert {s' s₁ s₂ s₃ : Store} {version : NoteVersion} (hnotes : s'.notes = s.notes) (hversions : s'.versions = s.versions)
    (houtbox : s'.outbox = s.outbox) (hnote : insertMemoryNoteTx s' note = .ok s₁)
    (hversion : insertVersion s₁ version = .ok s₂) (hsame : s₃.notes = s₂.notes)
    (hsamev : s₃.versions = s₂.versions) (hsameo : s₃.outbox = s₂.outbox)
    (hjob : enqueueOutboxTx s₃ outboxId note.noteId job note.embeddingVersion now = .ok t)
    (hid : version.noteId = note.noteId) (hprev : version.prevSnapshot = none)
    (hnext : version.newSnapshot = some (noteSnapshot note))
    : s.Writes t ⟨none, note, version.op, job, version.versionId⟩ := by
  simp only [insertMemoryNoteTx_eq_ok, insertVersion_eq_ok, enqueueOutboxTx_eq_ok]
    at hnote hversion hjob
  rcases hnote with ⟨notes, hn, rfl⟩
  rcases hversion with ⟨versions, hv, rfl⟩
  rcases hjob with ⟨outbox, ho, rfl⟩
  have hfresh := Table.insert?_fresh hn
  have hv := Table.rows_insert? hv
  have ho := Table.rows_insert? ho
  rw [hnotes] at hfresh
  rw [hversions] at hv
  rw [hsameo, houtbox] at ho
  constructor
  . exact hfresh
  . intro id
    rw [hsame, Table.find?_insert? hn, hnotes]
    rfl
  . dsimp only at hsamev ⊢
    rw [hsamev]
    exact ⟨_, hv, hid, rfl, rfl, hprev, hnext⟩
  . exact ⟨_, ho, rfl, rfl, rfl, rfl⟩

end Elf

/-! ## Requests that change a note -/

namespace Elf

open Text

variable {svc : ElfService} {draw : Draw} {s t : Store} {prev note : MemoryNote}

theorem validateNoteIsUpdatable_eq_ok
    (h : validateNoteIsUpdatable note agentId now = .ok ())
    : note.agentId = agentId ∧ note.status.toLower = "active" ∧ note.expired now = false := by
  simp only [validateNoteIsUpdatable, Except.bind_eq_ok, Except.rejectIf_eq_ok] at h
  rcases h with ⟨-, hagent, -, hstatus, hexpired⟩
  simp only [ne_eq, decide_not, Bool.not_eq_false', decide_eq_true_eq] at hagent hstatus
  exact ⟨hagent, hstatus, hexpired⟩

/-- The note as `update` writes it. -/
def UpdateRequest.written (svc : ElfService) (req : UpdateRequest) (draw : Draw)
    (prev : MemoryNote) : MemoryNote :=
  { req.next svc prev (draw.clock 0) with updatedAt := draw.clock 0 }

theorem update_cases {req : UpdateRequest} (h : update svc req draw s = .ok (r, t))
    : (t = s ∧ (r.op = .none ∨ r.op = .rejected))
      ∨ ∃ prev, s.notes.find? req.noteId = some prev ∧ prev.status.toLower = "active"
        ∧ r.op = .update
        ∧ writegate svc.containsSecrets svc.cfg
          ⟨prev.type, prev.scope, req.text.getD prev.text⟩ = .ok ()
        ∧ s.Writes t ⟨some prev, req.written svc draw prev, .update, .upsert, draw.versionId⟩
        ∧ t.fields = (if prev.text ≠ (req.written svc draw prev).text then
            deleteNoteFields s prev.noteId
          else
            s).fields
        ∧ t.grants = s.grants ∧ s.SameReviews t := by
  simp only [update, Except.bind_eq_ok, Except.rejectIf_eq_ok, Except.ofOption_eq_ok] at h
  rcases h with ⟨-, -, -, -, -, -, prev, hload, _, hvalid, -, -, h⟩
  have hprev := (loadNote_eq_some hload).1
  have hid := Table.key_of_find? hprev
  split at h
  next code hgate =>
    rw [Except.pure_eq_ok] at h
    cases h
    left
    exact ⟨rfl, Or.inr rfl⟩
  next hgate =>
    split at h
    . rw [Except.pure_eq_ok] at h
      cases h
      left
      exact ⟨rfl, Or.inl rfl⟩
    . simp only [Except.bind_eq_ok, Except.pure_eq_ok, Prod.mk.injEq] at h
      rcases h with ⟨s', hwrite, rfl, rfl⟩
      right
      refine ⟨prev, hprev, (validateNoteIsUpdatable_eq_ok hvalid).2.1, rfl, hgate, ?_⟩
      rw [← hid] at hprev
      unfold persistNoteUpdate at hwrite
      dsimp only at hwrite
      have hresult := writes_of_update hprev (by split <;> rfl) (by split <;> rfl)
        (by split <;> rfl) hwrite
      rcases hresult with ⟨hwrites, notes, versions, outbox, rfl⟩
      refine ⟨hwrites, rfl, ?_, ?_, ?_⟩
      all_goals
        dsimp only
        split <;> rfl

/-- The note as `delete` writes it. -/
def deletedNote (prev : MemoryNote) (now : Nat) : MemoryNote :=
  { prev with status := "deleted", updatedAt := now }

theorem delete_cases {req : DeleteRequest} (h : delete svc req draw s = .ok (r, t))
    : (t = s ∧ r.op = .none)
      ∨ ∃ prev, s.notes.find? req.noteId = some prev ∧ r.op = .delete
        ∧ s.Writes t
          ⟨some prev, deletedNote prev (draw.clock 0), .delete, .delete, draw.versionId⟩
        ∧ t.fields = s.fields ∧ t.grants = s.grants ∧ s.SameReviews t := by
  simp only [delete, Except.bind_eq_ok, Except.rejectIf_eq_ok, Except.ofOption_eq_ok] at h
  rcases h with ⟨-, -, prev, hload, -, -, -, -, h⟩
  have hprev := (loadNote_eq_some hload).1
  have hid := Table.key_of_find? hprev
  split at h
  . rw [Except.pure_eq_ok] at h
    cases h
    left
    exact ⟨rfl, rfl⟩
  . simp only [Except.bind_eq_ok, Except.pure_eq_ok, Prod.mk.injEq] at h
    rcases h with ⟨s', hwrite, rfl, rfl⟩
    right
    refine ⟨prev, hprev, rfl, ?_⟩
    rw [← hid] at hprev
    rcases writes_of_update hprev (by rfl) (by rfl) (by rfl) hwrite with ⟨hwrites, notes, versions, outbox, rfl⟩
    exact ⟨hwrites, rfl, rfl, rfl, rfl⟩

/-! ## Scopes -/

theorem loadOwnedActiveNote_eq_ok
    (h : loadOwnedActiveNote s noteId tenantId projectId agentId now = .ok note)
    : s.notes.find? noteId = some note ∧ note.tenantId = tenantId
      ∧ (note.projectId = projectId ∨ note.projectId = orgProjectId) ∧ note.agentId = agentId
      ∧ note.status = "active" ∧ note.expired now = false := by
  simp only [loadOwnedActiveNote, Except.bind_eq_ok, Except.rejectIf_eq_ok, Except.ofOption_eq_ok,
    Except.pure_eq_ok] at h
  rcases h with ⟨note, hload, -, hagent, -, hstatus, -, hexpired, rfl⟩
  rcases loadNote_eq_some hload with ⟨hfind, htenant, hproject⟩
  simp only [ne_eq, decide_not, Bool.not_eq_false', decide_eq_true_eq] at hagent hstatus
  exact ⟨hfind, htenant, hproject, hagent, hstatus, hexpired⟩

theorem isSharedScope_of_sharedScopeAllowed (h : sharedScopeAllowed cfg scope = true)
    : isSharedScope scope = true := by
  unfold sharedScopeAllowed at h
  split at h
  . rfl
  . rfl
  . cases h

theorem ensureActiveProjectScopeGrant_frame
    (h : ensureActiveProjectScopeGrant s grantId tenantId projectId scope owner now = .ok t)
    : ∃ grants, t = { s with grants } := by
  unfold ensureActiveProjectScopeGrant at h
  split at h
  . cases h
    exact ⟨s.grants, rfl⟩
  . unfold upsertProjectGrant at h
    split at h
    . cases h
      exact ⟨_, rfl⟩
    . simp only [Except.bind_eq_ok, Table.insert_eq_ok, Except.pure_eq_ok] at h
      rcases h with ⟨grants, -, rfl⟩
      exact ⟨grants, rfl⟩

/-- The note as `publish_note` writes it. -/
def publishedNote (req : PublishNoteRequest) (prev : MemoryNote) (now : Nat) : MemoryNote :=
  { prev with
    scope := req.scope
    projectId := targetProjectId req.scope (trim req.projectId)
    updatedAt := now }

/-- The note that a publish request finds, and its grant in the open transaction. -/
structure PublishLoads (svc : ElfService) (req : PublishNoteRequest) (draw : Draw) (s : Store)
    (prev : MemoryNote) (granted : Store) : Prop where
  find : s.notes.find? req.noteId = some prev
  tenant : prev.tenantId = trim req.tenantId
  agent : prev.agentId = trim req.agentId
  active : prev.status = "active"
  unexpired : prev.expired (draw.clock 0) = false
  allowed : sharedScopeAllowed svc.cfg req.scope = true
  grant : ensureActiveProjectScopeGrant s draw.grantId (trim req.tenantId)
    (targetProjectId req.scope (trim req.projectId)) req.scope (trim req.agentId) (draw.clock 1)
      = .ok granted

theorem publishNote_cases {req : PublishNoteRequest} (h : publishNote svc req draw s = .ok (r, t))
    : ∃ prev granted, PublishLoads svc req draw s prev granted ∧ r = ⟨req.noteId, req.scope⟩
      ∧ ((prev.scope = req.scope ∧ prev.projectId = targetProjectId req.scope (trim req.projectId)
          ∧ t = s)
        ∨ (¬ (prev.scope = req.scope
            ∧ prev.projectId = targetProjectId req.scope (trim req.projectId))
          ∧ s.Writes t ⟨some prev, publishedNote req prev (draw.clock 2), .publish, .upsert,
            draw.versionId⟩
          ∧ t.fields = s.fields ∧ t.grants = granted.grants ∧ s.SameReviews t)) := by
  simp only [publishNote, Except.bind_eq_ok, Except.rejectIf_eq_ok] at h
  rcases h with ⟨-, -, prev, hload, -, hallowed, granted, hgrant, h⟩
  rcases loadOwnedActiveNote_eq_ok hload with ⟨hprev, htenant, -, hagent, hactive, hexpired⟩
  have hid := Table.key_of_find? hprev
  simp only [Bool.not_eq_false'] at hallowed
  refine ⟨prev, granted, ⟨hprev, htenant, hagent, hactive, hexpired, hallowed, hgrant⟩, ?_⟩
  rcases ensureActiveProjectScopeGrant_frame hgrant with ⟨grants, rfl⟩
  split at h
  next hsame =>
    simp only [Bool.and_eq_true, decide_eq_true_eq] at hsame
    rw [Except.pure_eq_ok] at h
    cases h
    rw [hid, hsame.1]
    exact ⟨rfl, Or.inl ⟨rfl, hsame.2, rfl⟩⟩
  next hsame =>
    simp only [Bool.and_eq_true, decide_eq_true_eq] at hsame
    simp only [Except.bind_eq_ok, Except.pure_eq_ok, Prod.mk.injEq] at h
    rcases h with ⟨s', hwrite, rfl, rfl⟩
    refine ⟨by rw [← hid], Or.inr ⟨hsame, ?_⟩⟩
    rw [← hid] at hprev
    rcases writes_of_update hprev (by rfl) (by rfl) (by rfl) hwrite with ⟨hwrites, notes, versions, outbox, rfl⟩
    exact ⟨hwrites, rfl, rfl, rfl, rfl⟩

/-- The note as `unpublish_note` writes it. -/
def unpublishedNote (req : UnpublishNoteRequest) (prev : MemoryNote) (now : Nat) : MemoryNote :=
  { prev with
    projectId := unpublishedProjectId prev (trim req.projectId)
    scope := "agent_private"
    updatedAt := now }

theorem unpublishNote_cases {req : UnpublishNoteRequest}
    (h : unpublishNote svc req draw s = .ok (r, t))
    : ∃ prev, s.notes.find? req.noteId = some prev ∧ prev.status = "active"
      ∧ ((prev.scope = "agent_private" ∧ t = s)
        ∨ (prev.scope ≠ "agent_private"
          ∧ s.Writes t ⟨some prev, unpublishedNote req prev (draw.clock 1), .unpublish, .upsert,
            draw.versionId⟩
          ∧ t.fields = s.fields ∧ t.grants = s.grants ∧ s.SameReviews t)) := by
  simp only [unpublishNote, Except.bind_eq_ok, Except.rejectIf_eq_ok] at h
  rcases h with ⟨-, -, prev, hload, -, -, h⟩
  rcases loadOwnedActiveNote_eq_ok hload with ⟨hprev, -, -, -, hactive, -⟩
  have hid := Table.key_of_find? hprev
  refine ⟨prev, hprev, hactive, ?_⟩
  split at h
  next hprivate =>
    rw [Except.pure_eq_ok] at h
    cases h
    left
    exact ⟨hprivate, rfl⟩
  next hshared =>
    simp only [Except.bind_eq_ok, Except.pure_eq_ok, Prod.mk.injEq] at h
    rcases h with ⟨s', hwrite, rfl, rfl⟩
    right
    rw [← hid] at hprev
    rcases writes_of_update hprev (by rfl) (by rfl) (by rfl) hwrite with ⟨hwrites, notes, versions, outbox, rfl⟩
    exact ⟨hshared, hwrites, rfl, rfl, rfl, rfl⟩

end Elf
