import Elf.Lib.JobQueue
import Elf.Worker.Lemmas.NoteIndexing

/-!
This module contains when the index of a note is still owed: an open job brings it up to date, and the
chunks and points that workers at this job have written so far are those of the note as it is now.
-/

namespace Elf

variable {ix : NoteIndexer} {s s' : NoteIndex} {r : MemoryNote} {attempt next : NoteAttempt}
  {point : ChunkPoint} {noteId m : Uuid}

/-! ## Attempts -/

/-- An attempt at a job that brings the index of a note up to date. -/
structure NoteAttempt.At (attempt : NoteAttempt) (r : MemoryNote) : Prop where
  noteId : attempt.job.noteId = r.noteId
  op : attempt.job.op = r.wantedOp
  embeddingVersion : attempt.job.embeddingVersion = r.embeddingVersion

/-- What an attempt goes on with is the note as it is now. -/
structure NoteAttempt.Current (attempt : NoteAttempt) (r : MemoryNote) : Prop where
  note : ∀ note, attempt.phase.note = some note → note.unhit = r
  active : r.status = "active"
  embeddingVersion : attempt.job.embeddingVersion = r.embeddingVersion

/-- An attempt will bring the index of a note up to date if it comes to its end. -/
structure NoteAttempt.Good (ix : NoteIndexer) (s : NoteIndex) (r : MemoryNote) (attempt : NoteAttempt)
    : Prop where
  note : ∀ note, attempt.phase.note = some note → note.unhit = r
  rows : r.status = "active" → 1 ≤ attempt.phase.level → s.Rows ix r
  within : r.status = "active" → 2 ≤ attempt.phase.level → s.Within ix r
  ahead : attempt.phase.level < 3

theorem MemoryNote.wantedOp_upsert (h : r.wantedOp = .upsert) : r.status = "active" := by
  unfold wantedOp at h
  split at h
  next hactive => exact hactive
  next => cases h

theorem MemoryNote.wantedOp_delete (h : r.wantedOp = .delete) : r.status ≠ "active" := by
  unfold wantedOp at h
  split at h
  next => cases h
  next hinactive => exact hinactive

theorem NoteAttempt.At.active (h : attempt.At r) (hs : attempt.Sound ix)
    (hnote : attempt.phase.note = some note) : r.status = "active" := by
  have hop := (hs.note note hnote).2
  rw [h.op] at hop
  exact MemoryNote.wantedOp_upsert hop

theorem NoteAttempt.At.current (h : attempt.At r) (hs : attempt.Sound ix) (hgood : attempt.Good ix s r)
    (hnote : attempt.phase.note = some note) : attempt.Current r :=
  ⟨hgood.note, h.active hs hnote, h.embeddingVersion⟩

theorem NoteAttempt.Good.start (ix : NoteIndexer) (s : NoteIndex) (r : MemoryNote)
    (hnote : ∀ note, attempt.phase.note = some note → note.unhit = r)
    (hlevel : attempt.phase.level = 0) : attempt.Good ix s r := by
  refine ⟨hnote, ?_, ?_, ?_⟩
  . intro _ hle
    omega
  . intro _ hle
    omega
  . omega

theorem NoteAttempt.Good.mono (h : attempt.Good ix s r)
    (hrows : r.status = "active" → 1 ≤ attempt.phase.level → s.Rows ix r → s'.Rows ix r)
    (hwithin : r.status = "active" → 2 ≤ attempt.phase.level → s.Within ix r → s'.Within ix r)
    : attempt.Good ix s' r where
  note := h.note
  rows hactive hlevel := hrows hactive hlevel (h.rows hactive hlevel)
  within hactive hlevel := hwithin hactive hlevel (h.within hactive hlevel)
  ahead := h.ahead

theorem MemoryNote.expired_mono (h : r.expired t = true) (hle : t ≤ t') : r.expired t' = true := by
  unfold expired at h ⊢
  cases hexpires : r.expiresAt with
  | none =>
    rw [hexpires] at h
    cases h
  | some ts =>
    rw [hexpires] at h
    simp only [decide_eq_true_eq] at h ⊢
    omega

/-- An upsert goes on with the note, or finds that there is nothing to do. -/
theorem fetchedPhase_cases (db : Store) (noteId : Uuid) (now : Nat)
    : (∃ note, fetchedPhase db noteId now = .fetched note ∧ db.indexed noteId = some note.unhit)
      ∨ (fetchedPhase db noteId now = .handled (.ok ())
        ∧ ∀ r, db.indexed noteId = some r → r.status = "active" → r.expired now = true) := by
  unfold fetchedPhase
  cases hfind : db.notes.find? noteId with
  | none =>
    refine .inr ⟨rfl, ?_⟩
    intro r hr
    unfold Store.indexed at hr
    rw [hfind] at hr
    cases hr
  | some note =>
    dsimp only
    have hindexed := Store.indexed_of_find hfind
    split
    . exact .inl ⟨note, rfl, hindexed⟩
    next hinactive =>
      refine .inr ⟨rfl, ?_⟩
      intro r hr hactive
      rw [hindexed, Option.some.injEq] at hr
      subst hr
      unfold noteIsActive at hinactive
      change note.status = "active" at hactive
      rw [hactive] at hinactive
      have hlower : "active".toLower = "active" := by decide +kernel
      change note.expired now = true
      simpa [hlower] using hinactive

/-! ## Owed jobs -/

namespace NoteIndex

/--
An open job brings the index of a note up to date, and no attempt at it has made more than `level` of its
writes.
-/
def Owes (ix : NoteIndexer) (s : NoteIndex) (r : MemoryNote) (level : Nat) : Prop :=
  Owed NoteAttempt.outboxId s.store.outbox s.attempts (fun job => job.Wants r) fun attempt =>
    attempt.Good ix s r ∧ attempt.phase.level ≤ level

theorem Owes.mono {level level' : Nat} (h : s.Owes ix r level) (hle : level ≤ level')
    : s.Owes ix r level' := by
  apply Owed.mono _ _ h
  . intro job hmem hwants
    exact hwants
  . intro worker a ha hgood
    exact ⟨hgood.1, by omega⟩

/-- The tables change, but not the jobs. -/
theorem Owes.tables {level : Nat} (h : s.Owes ix r level) (houtbox : s'.store.outbox = s.store.outbox)
    (hattempts : s'.attempts = s.attempts)
    (hrows : r.status = "active" → 1 ≤ level → s.Rows ix r → s'.Rows ix r)
    (hwithin : r.status = "active" → 2 ≤ level → s.Within ix r → s'.Within ix r)
    : s'.Owes ix r level := by
  unfold Owes
  rw [houtbox, hattempts]
  apply Owed.mono _ _ h
  . intro job hmem hwants
    exact hwants
  . rintro worker a ha ⟨hgood, hlevel⟩
    refine ⟨hgood.mono ?_ ?_, hlevel⟩
    . intro hactive hle
      exact hrows hactive (by omega)
    . intro hactive hle
      exact hwithin hactive (by omega)

theorem Owes.look {level : Nat} (h : s.Owes ix r level) (latest : Nat)
    : { s with latest }.Owes ix r level :=
  h.tables rfl rfl (fun _ _ hrows => hrows) (fun _ _ hwithin => hwithin)

theorem Sound.at_of_wants {job : IndexingOutboxEntry} (hs : s.Sound ix) (ha : s.attempts worker = some attempt)
    (hmem : job ∈ s.store.outbox) (hwants : job.Wants r) (hid : job.outboxId = attempt.outboxId)
    : attempt.At r := by
  have hof := hs.of_job ha hmem hid
  refine ⟨?_, ?_, ?_⟩
  . rw [← hof.noteId, hwants.noteId]
  . rw [← hof.op, hwants.op]
  . rw [← hof.embeddingVersion, hwants.embeddingVersion]

/-- A worker goes on, with a job that is owed or with another one. -/
theorem Owes.cases {level : Nat} (h : s.Owes ix r level) (hs : s.Sound ix)
    (ha : s.attempts worker = some attempt) (next : NoteAttempt) (hjob : next.job = attempt.job)
    : (attempt.At r ∧ attempt.Good ix s r ∧ attempt.phase.level ≤ level)
      ∨ { s with attempts := s.attempts.set worker (some next) }.Owes ix r level := by
  have hid : next.outboxId = attempt.outboxId := by
    unfold NoteAttempt.outboxId
    rw [hjob]
  rcases Owed.advance_cases ha hid h with ⟨job, hmem, hwants, hkey, hgood⟩ | howed
  . exact .inl ⟨hs.at_of_wants ha hmem hwants hkey, hgood⟩
  . right
    apply Owed.mono _ _ howed
    . intro job hmem hwants
      exact hwants
    . rintro other a - hgood
      exact ⟨hgood.1.mono (fun _ _ h => h) (fun _ _ h => h), hgood.2⟩

/-- A worker goes on with its job, which is as good as before if it is the one that is owed. -/
theorem Owes.advance {level : Nat} (h : s.Owes ix r level) (hs : s.Sound ix)
    (ha : s.attempts worker = some attempt) (next : NoteAttempt) (hjob : next.job = attempt.job)
    (hnext : attempt.At r → attempt.Good ix s r → attempt.phase.level ≤ level →
      next.Good ix s r ∧ next.phase.level ≤ level)
    : { s with attempts := s.attempts.set worker (some next) }.Owes ix r level := by
  have hid : next.outboxId = attempt.outboxId := by
    unfold NoteAttempt.outboxId
    rw [hjob]
  have howed := Owed.advance ha hid (fun job hmem hwants hkey hgood =>
    hnext (hs.at_of_wants ha hmem hwants hkey) hgood.1 hgood.2) h
  apply Owed.mono _ _ howed
  . intro job hmem hwants
    exact hwants
  . rintro other a - hgood
    exact ⟨hgood.1.mono (fun _ _ h => h) (fun _ _ h => h), hgood.2⟩

/-- A worker takes a job up. -/
theorem Owes.claim {level : Nat} {job : IndexingOutboxEntry} {f : IndexingOutboxEntry → IndexingOutboxEntry}
    {hf} {outbox : NoteOutbox} (h : s.Owes ix r level) (worker : Nat)
    (houtbox : outbox = s.store.outbox.modify k f hf)
    (hwants : ∀ job : IndexingOutboxEntry, job.Wants r → (f job).Wants r)
    : { s with
        store := { s.store with outbox }
        attempts := s.attempts.set worker (some ⟨job, .claimed⟩) }.Owes ix r level := by
  subst houtbox
  have hgood : NoteAttempt.Good ix s r ⟨job, .claimed⟩ :=
    .start ix s r (fun _ hnote => (by cases hnote)) rfl
  have hmodified : Owed NoteAttempt.outboxId (s.store.outbox.modify k f hf) s.attempts
      (fun job => job.Wants r) fun attempt => attempt.Good ix s r ∧ attempt.phase.level ≤ level := by
    apply Owed.modify _ h
    rintro row hrow -
    exact hwants row hrow
  apply Owed.mono _ _ (hmodified.start worker ⟨hgood, Nat.zero_le level⟩)
  . intro row hmem hrow
    exact hrow
  . rintro other a - hgood
    exact ⟨hgood.1.mono (fun _ _ h => h) (fun _ _ h => h), hgood.2⟩

theorem Owes.forget {level : Nat} (h : s.Owes ix r level) (worker : Nat)
    : { s with attempts := s.attempts.set worker none }.Owes ix r level := by
  apply Owed.mono _ _ (Owed.forget worker h)
  . intro row hmem hrow
    exact hrow
  . rintro other a - hgood
    exact ⟨hgood.1.mono (fun _ _ h => h) (fun _ _ h => h), hgood.2⟩

/-- A worker records how its attempt ended. -/
theorem Owes.settle {level now : Nat} {outbox : NoteOutbox} (h : s.Owes ix r level)
    (ha : s.attempts worker = some attempt)
    (houtbox : (attempt.phase = .handled (.ok ())
        ∧ outbox = markIndexingOutboxDone s.store.outbox attempt.outboxId now)
      ∨ outbox = markFailed s.store.outbox attempt.job now)
    : { s with
        store := { s.store with outbox }
        attempts := s.attempts.set worker none }.Owes ix r level := by
  have hsettled : Owed NoteAttempt.outboxId outbox (s.attempts.set worker none)
      (fun job => job.Wants r) fun attempt => attempt.Good ix s r ∧ attempt.phase.level ≤ level := by
    rcases houtbox with ⟨hphase, rfl⟩ | rfl
    . apply Owed.settle ha _ h
      rintro job - ⟨hgood, -⟩
      -- An attempt that came to its end is no good any more.
      have hahead := hgood.ahead
      rw [hphase] at hahead
      exact absurd hahead (by decide)
    . unfold markFailed markIndexingOutboxFailed
      apply Owed.settle ha _ h
      rintro job ⟨hnoteId, hop, hversion, -⟩ -
      exact ⟨hnoteId, hop, hversion, by simp⟩
  apply Owed.mono _ _ hsettled
  . intro row hmem hrow
    exact hrow
  . rintro other a - hgood
    exact ⟨hgood.1.mono (fun _ _ h => h) (fun _ _ h => h), hgood.2⟩

/-- A transaction that mutates the note enqueues a job that nobody has yet. -/
theorem Owes.fresh {level : Nat} {store : Store} {job : IndexingOutboxEntry} (hs : s.Sound ix)
    (houtbox : store.outbox.rows = s.store.outbox.rows ++ [job]) (hwants : job.Wants r)
    : { s with store }.Owes ix r level :=
  Owed.fresh hs.attempts_known houtbox (List.mem_singleton_self job) hwants

theorem Owes.append {level : Nat} {store : Store} {job : IndexingOutboxEntry} (h : s.Owes ix r level)
    (houtbox : store.outbox.rows = s.store.outbox.rows ++ [job])
    : { s with store }.Owes ix r level := by
  apply Owed.mono _ _ (Owed.append houtbox h)
  . intro row hmem hrow
    exact hrow
  . rintro other a - hgood
    exact ⟨hgood.1.mono (fun _ _ h => h) (fun _ _ h => h), hgood.2⟩

/-- Once all jobs are done, nothing is owed. -/
theorem Owes.not_done {level : Nat} (h : s.Owes ix r level)
    (hdone : ∀ job ∈ s.store.outbox, job.status = .done) : False := by
  rcases h with ⟨job, hmem, hwants, -⟩
  exact hwants.status (hdone job hmem)

theorem Sound.row_id {id : Uuid} (hs : s.Sound ix) (hr : s.store.indexed id = some r)
    : r.noteId = id ∧ r.noteId < 2 ^ 128 := by
  have hid := Store.indexed_noteId hr
  rw [hid]
  exact ⟨rfl, (hs.note id r hr).1⟩

/-- What holds of every note or is owed for it, through a transaction of the service. -/
theorem requested_owes {id : Uuid} {store : Store} {K : MemoryNote → Prop} {level : Nat} (hs : s.Sound ix)
    (h : s.store.Requested store)
    (hnotes : ∀ id r, s.store.indexed id = some r → K r ∨ s.Owes ix r level)
    (hr : store.indexed id = some r) : K r ∨ { s with store }.Owes ix r level := by
  cases h with
  | quiet notes outbox =>
    rw [notes] at hr
    rcases hnotes id r hr with hkept | howes
    . exact .inl hkept
    . exact .inr (howes.tables outbox rfl (fun _ _ h => h) (fun _ _ h => h))
  | wrote row job _ standing notes outbox wants =>
    rw [notes] at hr
    split at hr
    next =>
      cases hr
      exact .inr (.fresh hs outbox wants)
    next =>
      rcases hnotes id r hr with hkept | howes
      . exact .inl hkept
      . exact .inr (howes.append outbox)

/-- An upsert reads the note, or is through with it because it is expired. -/
theorem Owes.fetch {job : IndexingOutboxEntry} {level : Nat} (h : s.Owes ix r level) (hs : s.Sound ix)
    (found : s.attempts worker = some ⟨job, .claimed⟩) (op : job.op = .upsert)
    (hr : s.store.indexed r.noteId = some r)
    : { s with
        attempts := s.attempts.set worker (some ⟨job, fetchedPhase s.store job.noteId now⟩)
        latest := max s.latest now }.Owes ix r level
      ∨ (fetchedPhase s.store job.noteId now = .handled (.ok ()) ∧ job.noteId = r.noteId
        ∧ r.status = "active" ∧ r.expired now = true) := by
  rcases fetchedPhase_cases s.store job.noteId now with ⟨note, hphase, hnote⟩ | ⟨hphase, hexpired⟩
  . left
    rw [hphase]
    refine Owes.look (h.advance hs found ⟨job, .fetched note⟩ rfl ?_) (max s.latest now)
    intro hat hgood hlevel
    refine ⟨.start ix s r ?_ rfl, Nat.zero_le _⟩
    intro note' hnote'
    cases hnote'
    have hjob : job.noteId = r.noteId := hat.noteId
    rw [hjob, hr, Option.some.injEq] at hnote
    exact hnote.symm
  . rw [hphase]
    rcases h.cases hs found ⟨job, .handled (.ok ())⟩ rfl with ⟨hat, -⟩ | howes
    . right
      have hop := hat.op
      dsimp only at hop
      rw [op] at hop
      have hactive := MemoryNote.wantedOp_upsert hop.symm
      have hjob : job.noteId = r.noteId := hat.noteId
      exact ⟨rfl, hjob, hactive, hexpired r (by rw [hjob, hr]) hactive⟩
    . exact .inl (howes.look (max s.latest now))

/-- A worker goes on to do something that leaves the tables alone. -/
theorem Owes.move {level : Nat} (h : s.Owes ix r level) (hs : s.Sound ix)
    (found : s.attempts worker = some attempt) (job : next.job = attempt.job)
    (hlevel : next.phase.level = 0)
    (note : ∀ note, next.phase.note = some note → attempt.phase.note = some note)
    : { s with attempts := s.attempts.set worker (some next) }.Owes ix r level := by
  apply h.advance hs found next job
  intro hat hgood _
  refine ⟨.start ix s r ?_ hlevel, by omega⟩
  intro read hread
  exact hgood.note read (note read hread)

/-! ## Writes -/

/-- The chunks and points of a note are the same. -/
structure SameNote (s s' : NoteIndex) (noteId : Uuid) : Prop where
  rows : s'.rowsOf noteId = s.rowsOf noteId
  points : ∀ point : ChunkPoint, point.matches noteId = true → (point ∈ s'.points ↔ point ∈ s.points)

namespace SameNote

theorem refl (hchunks : s'.chunks = s.chunks) (hpoints : s'.points = s.points)
    : s.SameNote s' noteId := by
  refine ⟨?_, ?_⟩
  . unfold rowsOf
    rw [hchunks]
  . intro point _
    rw [hpoints]

theorem rows_mp (h : s.SameNote s' r.noteId) (hrows : s.Rows ix r) : s'.Rows ix r := by
  unfold Rows
  rw [h.rows]
  exact hrows

theorem within_mp (h : s.SameNote s' r.noteId) (hwithin : s.Within ix r) : s'.Within ix r := by
  intro point hpoint hmatches
  exact hwithin point ((h.points point hmatches).mp hpoint) hmatches

theorem complete_mp (h : s.SameNote s' r.noteId) (hcomplete : s.Complete ix r) : s'.Complete ix r := by
  intro record hrecord
  rcases hcomplete record hrecord with ⟨point, hpoint, hof⟩
  exact ⟨point, (h.points point hof.matches).mpr hpoint, hof⟩

theorem cleared_mp (h : s.SameNote s' r.noteId) (hcleared : s.Cleared r) : s'.Cleared r := by
  intro point hpoint
  cases hmatches : point.matches r.noteId with
  | false => rfl
  | true =>
    have hold := hcleared point ((h.points point hmatches).mp hpoint)
    rw [hmatches] at hold
    cases hold

end SameNote

theorem wantedRecords_of_current {note : MemoryNote} {vectors : List (ChunkRecord × List F32)}
    (hnote : note.unhit = r) (hrecords : noteRecords ix note.noteId note.text = .ok (vectors.map Prod.fst))
    : wantedRecords ix r = vectors.map Prod.fst := by
  subst hnote
  unfold wantedRecords
  change (noteRecords ix note.noteId note.text).toOption.getD [] = _
  rw [hrecords]
  rfl

/-- What a worker does to one note leaves what is owed for another. -/
theorem Owes.other {level : Nat} (h : s.Owes ix r level) (hsame : s.SameNote s' r.noteId)
    (houtbox : s'.store.outbox = s.store.outbox) (hattempts : s'.attempts = s.attempts)
    (hs : s'.Sound ix) (ha : s.attempts worker = some attempt) (next : NoteAttempt)
    (hjob : next.job = attempt.job) (hne : attempt.job.noteId ≠ r.noteId)
    : { s' with attempts := s'.attempts.set worker (some next) }.Owes ix r level := by
  have htables := h.tables houtbox hattempts (fun _ _ hrows => hsame.rows_mp hrows)
    (fun _ _ hwithin => hsame.within_mp hwithin)
  rw [← hattempts] at ha
  exact htables.advance hs ha next hjob fun hat => (hne hat.noteId).elim

section Stored

variable {note : MemoryNote} {vectors : List (ChunkRecord × List F32)} {version : String}
  {chunks : NoteChunks} (hs : s.Sound ix) (huuid : Function.Injective (ix.uuidV5 .oid))
  (hid : note.noteId < 2 ^ 128)
  (hrecords : noteRecords ix note.noteId note.text = .ok (vectors.map Prod.fst))
  (hchunks : chunks = insertNoteChunks (deleteNoteChunks s.chunks note.noteId)
    (vectors.map fun (record, _) => record.row note.noteId version))
  (embeddings : NoteChunkEmbeddings)
include hs huuid hid hrecords hchunks

theorem stored_sameNote (hne : note.noteId ≠ m) : s.SameNote { s with chunks, embeddings } m := by
  refine ⟨?_, fun _ _ => Iff.rfl⟩
  have hrows := hs.stored_rows huuid hid hrecords version
  unfold rowsOf
  dsimp only
  rw [hchunks, hrows, List.filter_append, List.filter_filter]
  have hnew : ((vectors.map fun (record, _) => record.row note.noteId version).filter
      fun row => row.noteId = m) = [] := by
    rw [List.filter_eq_nil_iff]
    intro row hrow
    rcases List.mem_map.mp hrow with ⟨⟨record, vec⟩, -, rfl⟩
    simp [ChunkRecord.row, hne]
  rw [hnew, List.append_nil]
  apply List.filter_congr
  intro row _
  by_cases hm : row.noteId = m
  . simp [hm, hne.symm]
  . simp [hm]

theorem stored_rowsOf
    : { s with chunks, embeddings : NoteIndex }.rowsOf note.noteId
        = vectors.map fun (record, _) => record.row note.noteId version := by
  have hrows := hs.stored_rows huuid hid hrecords version
  unfold rowsOf
  dsimp only
  rw [hchunks, hrows, List.filter_append, List.filter_filter]
  have hold : (s.chunks.rows.filter fun row => decide (row.noteId = note.noteId)
      && decide (row.noteId ≠ note.noteId)) = [] := by
    rw [List.filter_eq_nil_iff]
    simp
  rw [hold, List.nil_append, List.filter_eq_self]
  intro row hrow
  rcases List.mem_map.mp hrow with ⟨⟨record, vec⟩, -, rfl⟩
  simp [ChunkRecord.row]

/-- The chunks are those of the note as it is now. -/
theorem stored_current (hnote : note.unhit = r) (hversion : version = r.embeddingVersion)
    : { s with chunks, embeddings }.Rows ix r := by
  have hrows := stored_rowsOf hs huuid hid hrecords hchunks embeddings
  have hwanted := wantedRecords_of_current hnote hrecords
  subst hnote
  unfold Rows
  rw [hwanted, List.map_map, ← hversion]
  exact hrows

end Stored

theorem cleared_sameNote (hid : noteId < 2 ^ 128) (hm : m < 2 ^ 128) (hne : noteId ≠ m)
    : s.SameNote { s with points := deleteNotePoints s.points noteId } m := by
  refine ⟨rfl, ?_⟩
  intro point hmatches
  dsimp only
  rw [deleteNotePoints_mem]
  constructor
  . exact fun h => h.1
  . intro h
    refine ⟨h, ?_⟩
    rw [Bool.eq_false_iff]
    intro hother
    exact hne (ChunkPoint.matches_inj hid hm hother hmatches)

theorem cleared_cleared (s : NoteIndex) (r : MemoryNote)
    : { s with points := deleteNotePoints s.points r.noteId }.Cleared r := by
  intro point hpoint
  exact ((deleteNotePoints_mem s.points r.noteId point).mp hpoint).2

section Upserted

variable {note : MemoryNote} {vectors : List (ChunkRecord × List F32)} (hs : s.Sound ix)
  (huuid : Function.Injective (ix.uuidV5 .oid)) (hid : note.noteId < 2 ^ 128)
  (hrecords : noteRecords ix note.noteId note.text = .ok (vectors.map Prod.fst)) (version : String)
include hs huuid hid hrecords

theorem upserted_sameNote (hm : m < 2 ^ 128) (hne : note.noteId ≠ m)
    : s.SameNote { s with points := s.points.replaceAll (chunkPoints note version vectors) } m := by
  have hnodup := noteRecords_nodup huuid hid hrecords
  rw [← chunkPoints_ids note version vectors] at hnodup
  refine ⟨rfl, ?_⟩
  intro point hmatches
  apply hs.replaced_other huuid hid hm hne.symm hnodup _ hmatches
  intro new hnew
  rcases chunkPoints_mem hnew with ⟨record, hrecord, hpointId, hpayload, -⟩
  refine ⟨matches_of_payload hpayload, ?_⟩
  rw [hpointId]
  exact noteRecords_spec hrecords record hrecord

omit hs in
theorem upserted_mem (point : ChunkPoint)
    : point ∈ s.points.replaceAll (chunkPoints note version vectors)
      ↔ point ∈ chunkPoints note version vectors ∨ point ∈ s.points
        ∧ point.id ∉ (chunkPoints note version vectors).map ChunkPoint.id := by
  have hnodup := noteRecords_nodup huuid hid hrecords
  rw [← chunkPoints_ids note version vectors] at hnodup
  exact Table.mem_replaceAll s.points _ hnodup point

omit hs in
theorem upserted_within (hnote : note.unhit = r) (hversion : version = r.embeddingVersion)
    (h : s.Within ix r)
    : { s with points := s.points.replaceAll (chunkPoints note version vectors) }.Within ix r := by
  intro point hpoint hmatches
  rcases (upserted_mem huuid hid hrecords version point).mp hpoint with hnew | ⟨hold, -⟩
  . rcases chunkPoints_mem hnew with ⟨record, hrecord, hpointId, hpayload, hbm25⟩
    have hwanted := wantedRecords_of_current hnote hrecords
    rw [← hwanted] at hrecord
    refine ⟨record, hrecord, hpointId, ?_, hbm25⟩
    rw [hpayload, hversion, ← hnote]
    rfl
  . exact h point hold hmatches

omit hs in
theorem upserted_complete (hnote : note.unhit = r) (hversion : version = r.embeddingVersion)
    : { s with points := s.points.replaceAll (chunkPoints note version vectors) }.Complete ix r := by
  intro record hrecord
  rw [wantedRecords_of_current hnote hrecords] at hrecord
  rcases List.mem_map.mp hrecord with ⟨⟨record, vec⟩, hvector, rfl⟩
  refine ⟨buildChunkPoint note version record vec, ?_, rfl, ?_, rfl⟩
  . apply (upserted_mem huuid hid hrecords version _).mpr
    exact .inl (List.mem_map_of_mem hvector)
  . rw [hversion, ← hnote]
    rfl

end Upserted

/-! ## Writes of the note that is owed -/

section Store

variable {job : IndexingOutboxEntry} {note : MemoryNote} {vectors : List (ChunkRecord × List F32)}
  {chunks : NoteChunks} {embeddings : NoteChunkEmbeddings} {level : Nat} (hs : s.Sound ix)
  (hs' : { s with chunks, embeddings }.Sound ix)
  (found : s.attempts worker = some ⟨job, .embedded note vectors⟩)
include hs hs' found

omit hs in
/-- The chunks that are stored are those of the note as it is now. -/
theorem Owes.store_current (h : s.Owes ix r 2) (hrows : { s with chunks, embeddings }.Rows ix r)
    : { s with
        chunks
        embeddings
        attempts := s.attempts.set worker (some ⟨job, .stored note vectors⟩) }.Owes ix r 2 := by
  have howes : Owes ix { s with chunks, embeddings } r 2 :=
    h.tables rfl rfl (fun _ _ _ => hrows) (fun _ _ hwithin => hwithin)
  apply howes.advance hs' found ⟨job, .stored note vectors⟩ rfl
  intro hat hgood hlevel
  refine ⟨⟨hgood.note, fun _ _ => hrows, ?_, ?_⟩, ?_⟩
  . intro _ hle
    exact absurd (show 2 ≤ 1 from hle) (by decide)
  . exact (show 1 < 3 by decide)
  . exact (show 1 ≤ 2 by decide)

/-- A job whose workers have yet to store the chunks replaces those that are not current. -/
theorem Owes.store_over (hcurrent : ¬ NoteAttempt.Current ⟨job, .embedded note vectors⟩ r)
    (h : s.Owes ix r 0)
    : { s with
        chunks
        embeddings
        attempts := s.attempts.set worker (some ⟨job, .stored note vectors⟩) }.Owes ix r 2 := by
  have howes : Owes ix { s with chunks, embeddings } r 0 :=
    h.tables rfl rfl (fun _ hle _ => absurd hle (by decide)) (fun _ _ hwithin => hwithin)
  rcases howes.cases hs' found ⟨job, .stored note vectors⟩ rfl with ⟨hat, hgood, -⟩ | howes
  . exact (hcurrent (hat.current (hs.attempt worker _ found) hgood rfl)).elim
  . exact howes.mono (by decide)

/-- The delete of a note that ended does not look at its chunks. -/
theorem Owes.store_inactive (hinactive : r.status ≠ "active") (h : s.Owes ix r level)
    : { s with
        chunks
        embeddings
        attempts := s.attempts.set worker (some ⟨job, .stored note vectors⟩) }.Owes ix r level := by
  have howes : Owes ix { s with chunks, embeddings } r level :=
    h.tables rfl rfl (fun hactive => (hinactive hactive).elim) (fun _ _ hwithin => hwithin)
  apply howes.advance hs' found ⟨job, .stored note vectors⟩ rfl
  intro hat hgood hlevel
  exact (hinactive (hat.active (hs.attempt worker _ found) rfl)).elim

end Store

section Upsert

variable {job : IndexingOutboxEntry} {note : MemoryNote} {vectors : List (ChunkRecord × List F32)}
  {points : NotePoints} (hs : s.Sound ix)
  (found : s.attempts worker = some ⟨job, .cleared note vectors⟩)
include hs found

/-- The worker that makes the last write is the one at the job that is owed, or the job stays owed. -/
theorem Owes.upsert_current (hactive : r.status = "active")
    (hwithin : s.Within ix r → { s with points }.Within ix r) (h : s.Owes ix r 2)
    : (s.Rows ix r ∧ s.Within ix r)
      ∨ { s with
          points
          attempts := s.attempts.set worker (some ⟨job, .handled (.ok ())⟩) }.Owes ix r 2 := by
  rcases h.cases hs found ⟨job, .handled (.ok ())⟩ rfl with ⟨hat, hgood, -⟩ | howes
  . left
    exact ⟨hgood.rows hactive (show 1 ≤ 2 by decide), hgood.within hactive (show 2 ≤ 2 by decide)⟩
  . right
    exact howes.tables rfl rfl (fun _ _ hrows => hrows) (fun _ _ hold => hwithin hold)

/-- A job whose workers have yet to delete the points replaces those that are not current. -/
theorem Owes.upsert_over
    (hcurrent : ¬ (NoteAttempt.Current ⟨job, .cleared note vectors⟩ r ∧ s.Rows ix r))
    (h : s.Owes ix r 1)
    : { s with
        points
        attempts := s.attempts.set worker (some ⟨job, .handled (.ok ())⟩) }.Owes ix r 2 := by
  rcases h.cases hs found ⟨job, .handled (.ok ())⟩ rfl with ⟨hat, hgood, -⟩ | howes
  . have hcurrent' := hat.current (hs.attempt worker _ found) hgood rfl
    exact (hcurrent ⟨hcurrent', hgood.rows hcurrent'.active (show 1 ≤ 2 by decide)⟩).elim
  . have htables : Owes ix { s with
        points
        attempts := s.attempts.set worker (some ⟨job, .handled (.ok ())⟩) } r 1 :=
      howes.tables rfl rfl (fun _ _ hrows => hrows) (fun _ hle _ => absurd hle (by decide))
    exact htables.mono (by decide)

end Upsert

end NoteIndex

end Elf
