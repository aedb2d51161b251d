import Elf.Service.Lemmas.Op
import Elf.Worker.NoteIndexing

/-!
This module contains what the steps of the note index do: what each of them leaves as it was, the
invariant of the tables and of the attempts, and what the chunks and the points of a note should be.
-/

namespace Elf

variable {ix : NoteIndexer} {s s' : NoteIndex} {r : MemoryNote} {attempt next : NoteAttempt}
  {point : ChunkPoint} {noteId m : Uuid}

/-! ## Rows of notes -/

/-- The statuses that a note takes. -/
def MemoryNote.Standing (note : MemoryNote) : Prop :=
  note.status = "active" ∨ note.status = "deleted" ∨ note.status = "deprecated"

/-- The row of a note, without what searches count. -/
def Store.indexed (db : Store) (noteId : Uuid) : Option MemoryNote :=
  (db.notes.find? noteId).map MemoryNote.unhit

theorem Store.indexed_noteId {db : Store} (h : db.indexed noteId = some r) : r.noteId = noteId := by
  unfold Store.indexed at h
  rcases Option.map_eq_some_iff.mp h with ⟨row, hrow, rfl⟩
  exact Table.key_of_find? (a := row) hrow

/-- What a mutation stores, and the job that it enqueues for it. -/
structure NoteWrite.Indexed (draw : Draw) (w : NoteWrite) : Prop where
  id : w.prev = none → w.next.noteId = draw.noteId
  standing : (w.next.status = "active" ∧ w.job = .upsert)
    ∨ ((w.next.status = "deleted" ∨ w.next.status = "deprecated") ∧ w.job = .delete)

theorem MemoryNote.Standing.active {note : MemoryNote} (h : note.Standing) (hstatus : note.status.toLower = "active")
    : note.status = "active" := by
  rcases h with h | h | h
  . exact h
  . rw [h] at hstatus
    exact absurd hstatus (by decide +kernel)
  . rw [h] at hstatus
    exact absurd hstatus (by decide +kernel)

theorem Mutation.indexed {svc : ElfService} {draw : Draw} {db db' : Store}
    (h : Mutation svc draw db db' op w)
    (hstanding : ∀ id note, db.notes.find? id = some note → note.Standing) : w.Indexed draw := by
  cases h with
  | added h => exact ⟨fun _ => rfl, .inl ⟨rfl, rfl⟩⟩
  | @replaced req now note withinBudget text prev h =>
    refine ⟨fun hnone => (by cases hnone), .inl ⟨?_, rfl⟩⟩
    have hmatched := h.matched
    unfold ResolveUpdateArgs.matches at hmatched
    simp only [Bool.and_eq_true, decide_eq_true_eq] at hmatched
    exact hmatched.1.1.2
  | extracted hdata h => exact ⟨fun _ => rfl, .inl ⟨rfl, rfl⟩⟩
  | @updated req prev find active gate writes fields =>
    refine ⟨fun hnone => (by cases hnone), .inl ⟨?_, rfl⟩⟩
    exact (hstanding _ prev find).active active
  | deleted find writes fields =>
    exact ⟨fun hnone => (by cases hnone), .inr ⟨.inl rfl, rfl⟩⟩
  | published loads moved writes fields =>
    exact ⟨fun hnone => (by cases hnone), .inl ⟨loads.active, rfl⟩⟩
  | unpublished find active shared writes fields =>
    exact ⟨fun hnone => (by cases hnone), .inl ⟨active, rfl⟩⟩
  | @ended req prev status op find ending writes fields =>
    refine ⟨fun hnone => (by cases hnone), .inr ⟨?_, rfl⟩⟩
    generalize req.action = action at ending
    cases ending with
    | supersede h h' => exact .inr rfl
    | delete h => exact .inl rfl
  | @restored req prev restored source snapshot find action inactive load apply writes fields =>
    refine ⟨fun hnone => (by cases hnone), .inl ⟨?_, rfl⟩⟩
    exact (applyRestoreSnapshot_cases apply).status_active
  | promoted find action contract h before after =>
    refine ⟨?_, .inl ⟨h.active, h.job⟩⟩
    intro hnone
    rcases h.kind with ⟨-, -, -, hid⟩ | ⟨-, -, prev, hprev, -⟩
    . exact hid
    . rw [hnone] at hprev
      cases hprev

theorem Store.indexed_of_find {db : Store} (h : db.notes.find? noteId = some note)
    : db.indexed noteId = some note.unhit := by
  unfold Store.indexed
  rw [h, Option.map_some]

/-- The operation that brings the index of a note up to date. -/
def MemoryNote.wantedOp (r : MemoryNote) : OutboxOp := if r.status = "active" then .upsert else .delete

/-- A job that brings the index of a note up to date. -/
structure IndexingOutboxEntry.Wants (job : IndexingOutboxEntry) (r : MemoryNote) : Prop where
  noteId : job.noteId = r.noteId
  op : job.op = r.wantedOp
  embeddingVersion : job.embeddingVersion = r.embeddingVersion
  status : job.status ≠ .done

/-- What a transaction of the service does to the rows of the notes and to their jobs. -/
inductive Store.Requested (db db' : Store) : Prop where
  | quiet (notes : ∀ id, db'.indexed id = db.indexed id) (outbox : db'.outbox = db.outbox)
  | wrote (r : MemoryNote) (job : IndexingOutboxEntry) (id : r.noteId < 2 ^ 128) (standing : r.Standing)
    (notes : ∀ id, db'.indexed id = if r.noteId = id then some r else db.indexed id)
    (outbox : db'.outbox.rows = db.outbox.rows ++ [job]) (wants : job.Wants r)

theorem Steps.requested {db db' : Store} {a : Step} (h : Steps db a db') (hid : a.draw.noteId < 2 ^ 128)
    (hnotes : ∀ id r, db.indexed id = some r → id < 2 ^ 128 ∧ r.Standing) : db.Requested db' := by
  rcases h.cases with rfl | ⟨r, hexec⟩
  . exact .quiet (fun _ => rfl) rfl
  . rcases Op.exec_cases hexec with hquiet | ⟨w, hmutation, -⟩
    . exact .quiet hquiet.notes hquiet.outbox
    . have hindexed := hmutation.indexed fun id note hfind =>
        (hnotes id note.unhit (Store.indexed_of_find hfind)).2
      have hwrites := hmutation.writes
      rcases hwrites.outbox_eq with ⟨job, houtbox, hnoteId, hop, hstatus, hversion⟩
      refine .wrote w.next.stored.unhit job ?_ ?_ ?_ houtbox ⟨hnoteId, ?_, hversion, ?_⟩
      . cases hprev : w.prev with
        | none =>
          have hnext := hindexed.id hprev
          change w.next.noteId < _
          rw [hnext]
          exact hid
        | some prev =>
          have hfind := hwrites.prev_eq
          rw [hprev] at hfind
          exact (hnotes _ _ (Store.indexed_of_find hfind)).1
      . rcases hindexed.standing with ⟨hactive, -⟩ | ⟨hinactive, -⟩
        . exact .inl hactive
        . exact .inr hinactive
      . intro id
        unfold Store.indexed
        rw [hwrites.notes_eq]
        change Option.map _ _ = if w.next.noteId = id then _ else _
        split
        . rfl
        . rfl
      . rw [hop]
        unfold MemoryNote.wantedOp
        change _ = if w.next.status = "active" then _ else _
        rcases hindexed.standing with ⟨hactive, hjob⟩ | ⟨hinactive, hjob⟩
        . rw [hjob, if_pos hactive]
        . rw [hjob, if_neg]
          rcases hinactive with hinactive | hinactive
          . rw [hinactive]
            decide
          . rw [hinactive]
            decide
      . rw [hstatus]
        decide

/-! ## What a note should have -/

def wantedRecords (ix : NoteIndexer) (r : MemoryNote) : List ChunkRecord :=
  (noteRecords ix r.noteId r.text).toOption.getD []

/-- The point is one of a chunk of the note as it is now. -/
structure ChunkPoint.IsOf (point : ChunkPoint) (r : MemoryNote) (record : ChunkRecord) : Prop where
  id : point.id = record.chunkId
  payload : point.payload = chunkPayload r r.embeddingVersion record
  bm25 : point.bm25 = record.text

theorem ChunkPoint.IsOf.matches (h : point.IsOf r record) : point.matches r.noteId = true := by
  unfold ChunkPoint.matches
  rw [h.payload]
  have hget : (chunkPayload r r.embeddingVersion record).get "note_id" = some (uuidJson r.noteId) := rfl
  rw [hget]
  simp

namespace NoteIndex

def rowsOf (s : NoteIndex) (noteId : Uuid) : List NoteChunk :=
  s.chunks.rows.filter fun row => row.noteId = noteId

/-- The chunks of a note are those of its text. -/
def Rows (ix : NoteIndexer) (s : NoteIndex) (r : MemoryNote) : Prop :=
  s.rowsOf r.noteId = (wantedRecords ix r).map fun record => record.row r.noteId r.embeddingVersion

instance : Decidable (s.Rows ix r) :=
  inferInstanceAs (Decidable (s.rowsOf r.noteId
    = (wantedRecords ix r).map fun record => record.row r.noteId r.embeddingVersion))

/-- Every point of a note is one of its text. -/
def Within (ix : NoteIndexer) (s : NoteIndex) (r : MemoryNote) : Prop :=
  ∀ point ∈ s.points, point.matches r.noteId = true → ∃ record ∈ wantedRecords ix r, point.IsOf r record

/-- A note has all the points of its text. -/
def Complete (ix : NoteIndexer) (s : NoteIndex) (r : MemoryNote) : Prop :=
  ∀ record ∈ wantedRecords ix r, ∃ point ∈ s.points, point.IsOf r record

/-- A note has no points. -/
def Cleared (s : NoteIndex) (r : MemoryNote) : Prop :=
  ∀ point ∈ s.points, point.matches r.noteId = false

theorem Cleared.within (h : s.Cleared r) : s.Within ix r := by
  intro point hpoint hmatches
  rw [h point hpoint] at hmatches
  cases hmatches

end NoteIndex

/-! ## Soundness -/

def NotePhase.note : NotePhase → Option MemoryNote
  | .fetched note | .embedded note _ | .stored note _ | .cleared note _ => some note
  | .claimed | .handled _ => none

def NotePhase.vectors : NotePhase → Option (List (ChunkRecord × List F32))
  | .embedded _ vectors | .stored _ vectors | .cleared _ vectors => some vectors
  | .claimed | .fetched _ | .handled _ => none

/-- How many of its writes an upsert has made: all of them when it came to its end. -/
def NotePhase.level : NotePhase → Nat
  | .stored _ _ => 1
  | .cleared _ _ => 2
  | .handled (.ok ()) => 3
  | .claimed | .fetched _ | .embedded _ _ | .handled (.error _) => 0

/-- What an attempt repeats of its job. -/
structure NoteAttempt.Of (attempt : NoteAttempt) (job : IndexingOutboxEntry) : Prop where
  outboxId : job.outboxId = attempt.outboxId
  noteId : job.noteId = attempt.job.noteId
  op : job.op = attempt.job.op
  embeddingVersion : job.embeddingVersion = attempt.job.embeddingVersion

/-- What an attempt has read and made of it. -/
structure NoteAttempt.Sound (ix : NoteIndexer) (attempt : NoteAttempt) : Prop where
  note : ∀ note, attempt.phase.note = some note → note.noteId = attempt.job.noteId
    ∧ attempt.job.op = .upsert
  records : ∀ note vectors, attempt.phase.note = some note → attempt.phase.vectors = some vectors →
    noteRecords ix note.noteId note.text = .ok (vectors.map Prod.fst)

structure NoteIndex.Sound (ix : NoteIndexer) (s : NoteIndex) : Prop where
  note : ∀ id r, s.store.indexed id = some r → id < 2 ^ 128 ∧ r.Standing
  job : ∀ job ∈ s.store.outbox, (s.store.indexed job.noteId).isSome
  chunk : ∀ row ∈ s.chunks, row.noteId < 2 ^ 128 ∧ ∃ idx, row.chunkId = chunkIdFor ix row.noteId idx
  point : ∀ point ∈ s.points, ∃ noteId < 2 ^ 128, (s.store.indexed noteId).isSome
    ∧ point.matches noteId = true ∧ ∃ idx, point.id = chunkIdFor ix noteId idx
  known : ∀ worker attempt, s.attempts worker = some attempt → ∃ job ∈ s.store.outbox, attempt.Of job
  attempt : ∀ worker attempt, s.attempts worker = some attempt → attempt.Sound ix

namespace NoteIndex.Sound

theorem of_job {job : IndexingOutboxEntry} (h : s.Sound ix) (ha : s.attempts worker = some attempt)
    (hjob : job ∈ s.store.outbox) (hid : job.outboxId = attempt.outboxId) : attempt.Of job := by
  rcases h.known worker attempt ha with ⟨job', hjob', hof⟩
  rw [s.store.outbox.eq_of_key_eq hjob hjob' (hid.trans hof.outboxId.symm)]
  exact hof

theorem attempts_known (h : s.Sound ix) : s.attempts.Known NoteAttempt.outboxId s.store.outbox := by
  intro worker attempt ha
  rcases h.known worker attempt ha with ⟨job, hjob, hof⟩
  exact ⟨job, hjob, hof.outboxId⟩

/-- The note of an attempt is stored. -/
theorem attempt_note (h : s.Sound ix) (ha : s.attempts worker = some attempt)
    : ∃ r, s.store.indexed attempt.job.noteId = some r ∧ attempt.job.noteId < 2 ^ 128 := by
  rcases h.known worker attempt ha with ⟨job, hjob, hof⟩
  have hnote := h.job job hjob
  rw [hof.noteId, Option.isSome_iff_exists] at hnote
  rcases hnote with ⟨r, hr⟩
  exact ⟨r, hr, (h.note _ r hr).1⟩

end NoteIndex.Sound

/-- A point is one of at most one note. -/
theorem ChunkPoint.matches_inj (hm : m < 2 ^ 128) (hn : noteId < 2 ^ 128) (h : point.matches m = true)
    (h' : point.matches noteId = true) : m = noteId := by
  unfold ChunkPoint.matches at h h'
  rw [decide_eq_true_eq] at h h'
  rw [h, Option.some.injEq] at h'
  exact uuidJson_inj hm hn h'

/-! ## Effects on the tables -/

theorem insertNoteChunks_rows {chunks : NoteChunks} {rows : List NoteChunk}
    (hfresh : ∀ row ∈ rows, chunks.find? row.chunkId = none)
    (hnodup : (rows.map NoteChunk.chunkId).Nodup)
    : (insertNoteChunks chunks rows).rows = chunks.rows ++ rows := by
  induction rows generalizing chunks with
  | nil => simp [insertNoteChunks]
  | cons row rows ih =>
    rw [List.map_cons, List.nodup_cons] at hnodup
    have hrow : (insertNoteChunk chunks row).rows = chunks.rows ++ [row] :=
      Table.rows_upsert_of_none (hfresh row List.mem_cons_self)
    unfold insertNoteChunks
    rw [ih _ hnodup.2, hrow, List.append_assoc]
    . rfl
    . intro other hother
      rw [Table.find?_append_of_ne hrow]
      . exact hfresh other (List.mem_cons_of_mem row hother)
      . intro a ha hid
        rw [List.mem_singleton.mp ha] at hid
        rw [hid] at hnodup
        exact hnodup.1 (List.mem_map_of_mem hother)

/-- The rows of a note are replaced, and those of other notes are left alone. -/
theorem NoteIndex.Sound.stored_rows {vectors : List (ChunkRecord × List F32)} (h : s.Sound ix)
    (huuid : Function.Injective (ix.uuidV5 .oid)) (hid : noteId < 2 ^ 128)
    (hrecords : noteRecords ix noteId text = .ok (vectors.map Prod.fst)) (version : String)
    : (insertNoteChunks (deleteNoteChunks s.chunks noteId)
        (vectors.map fun (record, _) => record.row noteId version)).rows
      = (s.chunks.rows.filter fun row => row.noteId ≠ noteId)
        ++ vectors.map fun (record, _) => record.row noteId version := by
  rw [insertNoteChunks_rows]
  . unfold deleteNoteChunks
    rw [Table.rows_deleteWhere]
    simp
  . intro row hrow
    rcases List.mem_map.mp hrow with ⟨⟨record, vec⟩, hvector, rfl⟩
    rcases noteRecords_spec hrecords record (List.mem_map_of_mem hvector) with ⟨idx, hrecord⟩
    rw [Table.find?_eq_none_iff]
    intro other hother heq
    rcases (Table.mem_deleteWhere ..).mp hother with ⟨hmem, hne⟩
    rcases h.chunk other hmem with ⟨hlt, idx', hchunk⟩
    have hkey : chunkIdFor ix other.noteId idx' = chunkIdFor ix noteId idx := by
      rw [← hchunk, ← hrecord]
      exact heq
    rw [(chunkIdFor_inj huuid hlt hid hkey).1] at hne
    simp at hne
  . have hnodup := noteRecords_nodup huuid hid hrecords
    rw [List.map_map] at hnodup ⊢
    exact hnodup

theorem deleteNotePoints_mem (points : NotePoints) (noteId : Uuid) (point : ChunkPoint)
    : point ∈ deleteNotePoints points noteId ↔ point ∈ points ∧ point.matches noteId = false := by
  unfold deleteNotePoints
  rw [Table.mem_deleteWhere]

theorem chunkPoints_mem {vectors : List (ChunkRecord × List F32)}
    (h : point ∈ chunkPoints note version vectors)
    : ∃ record ∈ vectors.map Prod.fst, point.id = record.chunkId
      ∧ point.payload = chunkPayload note version record ∧ point.bm25 = record.text := by
  rcases List.mem_map.mp h with ⟨⟨record, vec⟩, hvector, rfl⟩
  exact ⟨record, List.mem_map_of_mem hvector, rfl, rfl, rfl⟩

theorem chunkPoints_ids (note : MemoryNote) (version : String)
    (vectors : List (ChunkRecord × List F32))
    : (chunkPoints note version vectors).map ChunkPoint.id
        = (vectors.map Prod.fst).map ChunkRecord.chunkId := by
  unfold chunkPoints
  rw [List.map_map, List.map_map]
  rfl

theorem matches_of_payload {note : MemoryNote}
    (h : point.payload = chunkPayload note version record) : point.matches note.noteId = true := by
  unfold ChunkPoint.matches
  rw [h]
  have hget : (chunkPayload note version record).get "note_id" = some (uuidJson note.noteId) := rfl
  rw [hget]
  simp

/-- Points of a note that are set leave those of other notes alone. -/
theorem NoteIndex.Sound.replaced_other {points : List ChunkPoint} (h : s.Sound ix)
    (huuid : Function.Injective (ix.uuidV5 .oid)) (hid : noteId < 2 ^ 128) (hm : m < 2 ^ 128)
    (hne : m ≠ noteId) (hnodup : (points.map ChunkPoint.id).Nodup)
    (hpoints : ∀ point ∈ points, point.matches noteId = true
      ∧ ∃ idx, point.id = chunkIdFor ix noteId idx)
    (hmatches : point.matches m = true) : point ∈ s.points.replaceAll points ↔ point ∈ s.points := by
  rw [Table.mem_replaceAll _ _ hnodup]
  constructor
  . rintro (hmem | ⟨hmem, -⟩)
    . exact (hne (ChunkPoint.matches_inj hm hid hmatches (hpoints point hmem).1)).elim
    . exact hmem
  . intro hmem
    refine .inr ⟨hmem, ?_⟩
    intro hkey
    rcases List.mem_map.mp hkey with ⟨other, hother, heq⟩
    rcases (hpoints other hother).2 with ⟨idx, hotherId⟩
    rcases h.point point hmem with ⟨k, hk, -, hpoint, idx', hpointId⟩
    rw [ChunkPoint.matches_inj hk hm hpoint hmatches] at hpointId
    rw [hotherId, hpointId] at heq
    exact hne (chunkIdFor_inj huuid hid hm heq).1.symm

/-! ## Steps -/

/-- The columns of a job that never change. -/
structure IndexingOutboxEntry.SameJob (job job' : IndexingOutboxEntry) : Prop where
  outboxId : job'.outboxId = job.outboxId
  noteId : job'.noteId = job.noteId
  op : job'.op = job.op
  embeddingVersion : job'.embeddingVersion = job.embeddingVersion

theorem claimNextIndexingOutboxJob_spec {outbox outbox' : NoteOutbox} {job : IndexingOutboxEntry}
    (h : claimNextIndexingOutboxJob outbox now lease locked = some (job, outbox'))
    : ∃ row ∈ outbox, row.SameJob job ∧ outbox' = outbox.modify row.outboxId fun row => { row with
        availableAt := timestamptz (now + seconds lease)
        updatedAt := timestamptz now } := by
  unfold claimNextIndexingOutboxJob at h
  rcases Option.bind_eq_some_iff.mp h with ⟨row, hrow, hpure⟩
  cases hpure
  exact ⟨row, (Table.earliest_spec hrow).1, ⟨rfl, rfl, rfl, rfl⟩, rfl⟩

theorem embedNote_spec {note : MemoryNote} (h : embedNote ix db note answer = .ok vectors)
    : noteRecords ix note.noteId note.text = .ok (vectors.map Prod.fst) := by
  unfold embedNote at h
  rcases Except.bind_eq_ok.mp h with ⟨records, hrecords, h⟩
  rcases Except.bind_eq_ok.mp h with ⟨vectors, -, h⟩
  rcases Except.bind_eq_ok.mp h with ⟨_, hlength, h⟩
  rcases Except.bind_eq_ok.mp h with ⟨_, -, hpure⟩
  cases hpure
  have hlength := Except.rejectIf_eq_ok.mp hlength
  simp only [ne_eq, decide_not, Bool.not_eq_false', decide_eq_true_eq] at hlength
  rw [List.map_fst_zip (by omega)]
  exact hrecords

namespace NoteIndex

/-- What a step does. -/
inductive Stepped (ix : NoteIndexer) (s : NoteIndex) : NoteIndex → NoteIndexAction → Prop where
  | request (a : Step) (store : Store) (id : a.draw.noteId < 2 ^ 128) (h : Steps s.store a store)
    : Stepped ix s { s with store } (.request a)
  | claimed (worker now : Nat) (locked : List Uuid) (row job : IndexingOutboxEntry)
    (mem : row ∈ s.store.outbox) (same : row.SameJob job) (outbox : NoteOutbox)
    (h : outbox = s.store.outbox.modify row.outboxId fun row => { row with
      availableAt := timestamptz (now + seconds claimLeaseSeconds)
      updatedAt := timestamptz now })
    : Stepped ix s { s with
        store := { s.store with outbox }
        attempts := s.attempts.set worker (some ⟨job, .claimed⟩) } (.claim worker now locked)
  | fetched (worker now : Nat) (job : IndexingOutboxEntry)
    (found : s.attempts worker = some ⟨job, .claimed⟩) (op : job.op = .upsert)
    : Stepped ix s { s with
        attempts := s.attempts.set worker (some ⟨job, fetchedPhase s.store job.noteId now⟩)
        latest := max s.latest now } (.fetch worker now)
  | moved (worker : Nat) (attempt next : NoteAttempt) (found : s.attempts worker = some attempt)
    (job : next.job = attempt.job) (level : next.phase.level = 0)
    (note : ∀ note, next.phase.note = some note → attempt.phase.note = some note)
    (sound : next.Sound ix)
    : Stepped ix s { s with attempts := s.attempts.set worker (some next) } a
  | stored (worker : Nat) (job : IndexingOutboxEntry) (note : MemoryNote)
    (vectors : List (ChunkRecord × List F32))
    (found : s.attempts worker = some ⟨job, .embedded note vectors⟩) (chunks : NoteChunks)
    (embeddings : NoteChunkEmbeddings)
    (h : chunks = insertNoteChunks (deleteNoteChunks s.chunks note.noteId)
      (vectors.map fun (record, _) => record.row note.noteId job.embeddingVersion))
    : Stepped ix s { s with
        chunks
        embeddings
        attempts := s.attempts.set worker (some ⟨job, .stored note vectors⟩) } (.store worker)
  | cleared (worker : Nat) (job : IndexingOutboxEntry) (note : MemoryNote)
    (vectors : List (ChunkRecord × List F32))
    (found : s.attempts worker = some ⟨job, .stored note vectors⟩)
    : Stepped ix s { s with
        points := deleteNotePoints s.points note.noteId
        attempts := s.attempts.set worker (some ⟨job, .cleared note vectors⟩) } (.clear worker)
  | deleted (worker : Nat) (job : IndexingOutboxEntry)
    (found : s.attempts worker = some ⟨job, .claimed⟩) (op : job.op = .delete)
    : Stepped ix s { s with
        points := deleteNotePoints s.points job.noteId
        attempts := s.attempts.set worker (some ⟨job, .handled (.ok ())⟩) } (.clear worker)
  | upserted (worker : Nat) (job : IndexingOutboxEntry) (note : MemoryNote)
    (vectors : List (ChunkRecord × List F32))
    (found : s.attempts worker = some ⟨job, .cleared note vectors⟩)
    : Stepped ix s { s with
        points := s.points.replaceAll (chunkPoints note job.embeddingVersion vectors)
        attempts := s.attempts.set worker (some ⟨job, .handled (.ok ())⟩) } (.upsert worker)
  | settled (worker now : Nat) (attempt : NoteAttempt) (found : s.attempts worker = some attempt)
    (outbox : NoteOutbox)
    (h : (attempt.phase = .handled (.ok ())
        ∧ outbox = markIndexingOutboxDone s.store.outbox attempt.outboxId now)
      ∨ outbox = markFailed s.store.outbox attempt.job now)
    : Stepped ix s { s with
        store := { s.store with outbox }
        attempts := s.attempts.set worker none } (.settle worker now)
  | crashed (worker : Nat)
    : Stepped ix s { s with attempts := s.attempts.set worker none } (.crash worker)

theorem embed_stepped (hs : s.Sound ix) (h : s.embed ix worker answer = some s')
    : Stepped ix s s' (.embed worker answer) := by
  unfold embed at h
  split at h
  next job note ha =>
    have hsound := hs.attempt worker _ ha
    split at h
    next vectors hvectors =>
      cases h
      refine .moved worker ⟨job, .fetched note⟩ _ ha rfl rfl (fun _ hnote => hnote) ⟨?_, ?_⟩
      . exact hsound.note
      . intro note' vectors' hnote hvector
        cases hnote
        cases hvector
        exact embedNote_spec hvectors
    next err herr =>
      cases h
      refine .moved worker ⟨job, .fetched note⟩ _ ha rfl rfl (fun _ hnote => by cases hnote) ⟨?_, ?_⟩
      . intro note' hnote
        cases hnote
      . intro note' vectors' hnote
        cases hnote
  . cases h

theorem clear_stepped (h : s.clear worker = some s') : Stepped ix s s' (.clear worker) := by
  unfold clear at h
  split at h
  next job ha =>
    cases hop : job.op with
    | upsert =>
      rw [hop] at h
      cases h
    | delete =>
      rw [hop] at h
      cases h
      exact .deleted worker job ha hop
  next job note vectors ha =>
    cases h
    exact .cleared worker job note vectors ha
  . cases h

theorem fetch_stepped (h : s.fetch worker now = some s') : Stepped ix s s' (.fetch worker now) := by
  unfold fetch at h
  split at h
  next job ha =>
    cases hop : job.op with
    | delete =>
      rw [hop] at h
      cases h
    | upsert =>
      rw [hop] at h
      cases h
      exact .fetched worker now job ha hop
  . cases h

theorem request_stepped (h : s.request a = some s') : Stepped ix s s' (.request a) := by
  unfold request at h
  rcases Option.bind_eq_some_iff.mp h with ⟨_, hid, hpure⟩
  cases hpure
  exact .request a _ (by simpa [guard] using hid) rfl

theorem claim_stepped (h : s.claim worker now locked = some s')
    : Stepped ix s s' (.claim worker now locked) := by
  unfold claim at h
  rcases Option.bind_eq_some_iff.mp h with ⟨_, -, h⟩
  rcases Option.bind_eq_some_iff.mp h with ⟨⟨job, outbox⟩, hclaim, hpure⟩
  cases hpure
  rcases claimNextIndexingOutboxJob_spec hclaim with ⟨row, hrow, hsame, houtbox⟩
  exact .claimed worker now locked row job hrow hsame outbox houtbox

theorem store_stepped (h : s.storeChunks worker = some s') : Stepped ix s s' (.store worker) := by
  unfold storeChunks at h
  split at h
  next job note vectors ha =>
    cases h
    exact .stored worker job note vectors ha _ _ rfl
  . cases h

theorem upsert_stepped (h : s.upsert worker = some s') : Stepped ix s s' (.upsert worker) := by
  unfold upsert at h
  split at h
  next job note vectors ha =>
    cases h
    exact .upserted worker job note vectors ha
  . cases h

theorem fail_stepped (h : s.fail worker err = some s') : Stepped ix s s' (.fail worker err) := by
  unfold fail at h
  rcases Option.bind_eq_some_iff.mp h with ⟨attempt, ha, hpure⟩
  cases hpure
  refine .moved worker attempt _ ha rfl rfl (fun _ hnote => by cases hnote) ⟨?_, ?_⟩
  . intro note hnote
    cases hnote
  . intro note vectors hnote
    cases hnote

theorem settle_stepped (h : s.settle worker now = some s') : Stepped ix s s' (.settle worker now) := by
  unfold settle at h
  split at h
  next job result ha =>
    cases h
    refine .settled worker now ⟨job, .handled result⟩ ha _ ?_
    cases result with
    | ok u => exact .inl ⟨rfl, rfl⟩
    | error err => exact .inr rfl
  . cases h

theorem step_stepped (hs : s.Sound ix) (h : NoteIndexSteps ix s a s') : Stepped ix s s' a := by
  unfold NoteIndexSteps step at h
  cases a with
  | request a => exact request_stepped h
  | claim worker now locked => exact claim_stepped h
  | fetch worker now => exact fetch_stepped h
  | embed worker answer => exact embed_stepped hs h
  | store worker => exact store_stepped h
  | clear worker => exact clear_stepped h
  | upsert worker => exact upsert_stepped h
  | fail worker err => exact fail_stepped h
  | settle worker now => exact settle_stepped h
  | crash worker =>
    cases h
    exact .crashed worker

/-! ## Preservation -/

theorem Sound.forget (hs : s.Sound ix) (worker : Nat)
    : { s with attempts := s.attempts.set worker none }.Sound ix where
  note := hs.note
  job := hs.job
  chunk := hs.chunk
  point := hs.point
  known other a ha := by
    rcases Attempts.eq_some_set ha with heq | ha
    . cases heq
    . exact hs.known other a ha
  attempt other a ha := by
    rcases Attempts.eq_some_set ha with heq | ha
    . cases heq
    . exact hs.attempt other a ha

theorem Sound.start (hs : s.Sound ix) (worker : Nat) (next : NoteAttempt)
    (hof : ∃ job ∈ s.store.outbox, next.Of job) (hnext : next.Sound ix) : { s with attempts := s.attempts.set worker (some next) }.Sound ix where
  note := hs.note
  job := hs.job
  chunk := hs.chunk
  point := hs.point
  known other a ha := by
    rcases Attempts.eq_some_set ha with heq | ha
    . cases heq
      exact hof
    . exact hs.known other a ha
  attempt other a ha := by
    rcases Attempts.eq_some_set ha with heq | ha
    . cases heq
      exact hnext
    . exact hs.attempt other a ha

theorem Sound.advance (hs : s.Sound ix) (ha : s.attempts worker = some attempt) (next : NoteAttempt)
    (hjob : next.job = attempt.job) (hnext : next.Sound ix)
    : { s with attempts := s.attempts.set worker (some next) }.Sound ix := by
  rcases hs.known worker attempt ha with ⟨job, hmem, hof⟩
  apply hs.start worker next _ hnext
  refine ⟨job, hmem, ?_, ?_, ?_, ?_⟩
  . rw [hof.outboxId]
    unfold NoteAttempt.outboxId
    rw [hjob]
  . rw [hof.noteId, hjob]
  . rw [hof.op, hjob]
  . rw [hof.embeddingVersion, hjob]

theorem Sound.modify {outbox : NoteOutbox} {f : IndexingOutboxEntry → IndexingOutboxEntry} {hf}
    (hs : s.Sound ix) (h : outbox = s.store.outbox.modify k f hf)
    (hsame : ∀ job : IndexingOutboxEntry, job.SameJob (f job))
    : { s with store := { s.store with outbox } }.Sound ix where
  note := hs.note
  job job hjob := by
    rw [h] at hjob
    rcases (Table.mem_modify s.store.outbox k f hf job).mp hjob with ⟨old, hold, rfl⟩
    have hnote := hs.job old hold
    split
    . rw [(hsame old).noteId]
      exact hnote
    . exact hnote
  chunk := hs.chunk
  point := hs.point
  known worker a ha := by
    rcases hs.known worker a ha with ⟨job, hjob, hof⟩
    refine ⟨if job.outboxId = k then f job else job, ?_, ?_⟩
    . rw [h, Table.mem_modify]
      exact ⟨job, hjob, rfl⟩
    . split
      . have hjob := hsame job
        refine ⟨?_, ?_, ?_, ?_⟩
        . rw [hjob.outboxId, hof.outboxId]
        . rw [hjob.noteId, hof.noteId]
        . rw [hjob.op, hof.op]
        . rw [hjob.embeddingVersion, hof.embeddingVersion]
      . exact hof
  attempt := hs.attempt

theorem requested_isSome {store : Store} {id : Uuid} (h : s.store.Requested store)
    (hid : (s.store.indexed id).isSome) : (store.indexed id).isSome := by
  cases h with
  | quiet notes outbox =>
    rw [notes]
    exact hid
  | wrote r job _ standing notes outbox wants =>
    rw [notes]
    split
    . rfl
    . exact hid

theorem Sound.request {store : Store} (hs : s.Sound ix) (h : s.store.Requested store)
    : { s with store }.Sound ix where
  note id r hr := by
    change store.indexed id = some r at hr
    cases h with
    | quiet notes outbox =>
      rw [notes] at hr
      exact hs.note id r hr
    | wrote row job hid standing notes outbox wants =>
      rw [notes] at hr
      split at hr
      next heq =>
        cases hr
        rw [← heq]
        exact ⟨hid, standing⟩
      next => exact hs.note id r hr
  job job hjob := by
    change job ∈ store.outbox at hjob
    cases h with
    | quiet notes outbox =>
      rw [outbox] at hjob
      exact requested_isSome (.quiet notes outbox) (hs.job job hjob)
    | wrote row new hid standing notes outbox wants =>
      have hmem := hjob
      rw [Table.mem_def, outbox, List.mem_append, List.mem_singleton] at hmem
      rcases hmem with hold | rfl
      . exact requested_isSome (.wrote row new hid standing notes outbox wants) (hs.job job hold)
      . change (store.indexed job.noteId).isSome = true
        rw [notes, if_pos wants.noteId.symm]
        rfl
  chunk := hs.chunk
  point point hpoint := by
    rcases hs.point point hpoint with ⟨noteId, hid, hstored, hpoint⟩
    exact ⟨noteId, hid, requested_isSome h hstored, hpoint⟩
  known worker a ha := by
    rcases hs.known worker a ha with ⟨old, hold, hof⟩
    refine ⟨old, ?_, hof⟩
    change old ∈ store.outbox
    cases h with
    | quiet notes outbox =>
      rw [outbox]
      exact hold
    | wrote row job hid standing notes outbox wants =>
      rw [Table.mem_def, outbox]
      exact List.mem_append_left [job] hold
  attempt := hs.attempt

/-- What an upsert read is the row of its note. -/
theorem Sound.fetchedPhase_note {job : IndexingOutboxEntry} {note : MemoryNote} (hs : s.Sound ix)
    (h : (fetchedPhase s.store job.noteId now).note = some note)
    : s.store.indexed job.noteId = some note.unhit ∧ note.status = "active"
      ∧ note.expired now = false := by
  unfold fetchedPhase at h
  split at h
  . cases h
  next found hfound =>
    split at h
    next hactive =>
      cases h
      unfold noteIsActive at hactive
      rw [Bool.and_eq_true, decide_eq_true_eq, Bool.not_eq_true'] at hactive
      have hindexed := Store.indexed_of_find hfound
      have hstanding : MemoryNote.Standing _ := (hs.note _ _ hindexed).2
      exact ⟨hindexed, hstanding.active hactive.1, hactive.2⟩
    . cases h

theorem Sound.fetched {job : IndexingOutboxEntry} (hs : s.Sound ix) (hop : job.op = .upsert)
    : NoteAttempt.Sound ix ⟨job, fetchedPhase s.store job.noteId now⟩ where
  note note hnote := by
    have hindexed := (hs.fetchedPhase_note hnote).1
    have hid := Store.indexed_noteId hindexed
    exact ⟨hid, hop⟩
  records note vectors hnote hvectors := by
    unfold fetchedPhase at hvectors
    split at hvectors
    . cases hvectors
    . split at hvectors
      . cases hvectors
      . cases hvectors

theorem Sound.attempt_id {job : IndexingOutboxEntry} {note : MemoryNote} (hs : s.Sound ix)
    (ha : s.attempts worker = some ⟨job, phase⟩) (hnote : phase.note = some note)
    : note.noteId < 2 ^ 128 := by
  rcases hs.attempt_note ha with ⟨_, -, hid⟩
  rw [((hs.attempt worker _ ha).note note hnote).1]
  exact hid

theorem Sound.attempt_stored {job : IndexingOutboxEntry} {note : MemoryNote} (hs : s.Sound ix)
    (ha : s.attempts worker = some ⟨job, phase⟩) (hnote : phase.note = some note)
    : (s.store.indexed note.noteId).isSome := by
  rcases hs.attempt_note ha with ⟨r, hr, -⟩
  rw [((hs.attempt worker _ ha).note note hnote).1, hr]
  rfl

theorem Sound.stored {chunks : NoteChunks} {note : MemoryNote} {version : String}
    {vectors : List (ChunkRecord × List F32)} (hs : s.Sound ix) (huuid : Function.Injective (ix.uuidV5 .oid)) (hid : note.noteId < 2 ^ 128)
    (hrecords : noteRecords ix note.noteId note.text = .ok (vectors.map Prod.fst))
    (hchunks : chunks = insertNoteChunks (deleteNoteChunks s.chunks note.noteId)
      (vectors.map fun (record, _) => record.row note.noteId version))
    (embeddings : NoteChunkEmbeddings) : { s with chunks, embeddings }.Sound ix where
  note := hs.note
  job := hs.job
  chunk row hrow := by
    have hrows := hs.stored_rows huuid hid hrecords version
    rw [← hchunks] at hrows
    change row ∈ chunks at hrow
    rw [Table.mem_def, hrows, List.mem_append] at hrow
    rcases hrow with hold | hnew
    . exact hs.chunk row (List.mem_filter.mp hold).1
    . rcases List.mem_map.mp hnew with ⟨⟨record, vec⟩, hvector, rfl⟩
      exact ⟨hid, noteRecords_spec hrecords record (List.mem_map_of_mem hvector)⟩
  point := hs.point
  known := hs.known
  attempt := hs.attempt

theorem Sound.cleared (hs : s.Sound ix) (id : Uuid)
    : { s with points := deleteNotePoints s.points id }.Sound ix where
  note := hs.note
  job := hs.job
  chunk := hs.chunk
  point point hpoint := hs.point point ((deleteNotePoints_mem s.points id point).mp hpoint).1
  known := hs.known
  attempt := hs.attempt

theorem Sound.upserted {note : MemoryNote} {vectors : List (ChunkRecord × List F32)} (hs : s.Sound ix)
    (huuid : Function.Injective (ix.uuidV5 .oid)) (hid : note.noteId < 2 ^ 128)
    (hstored : (s.store.indexed note.noteId).isSome)
    (hrecords : noteRecords ix note.noteId note.text = .ok (vectors.map Prod.fst)) (version : String)
    : { s with points := s.points.replaceAll (chunkPoints note version vectors) }.Sound ix where
  note := hs.note
  job := hs.job
  chunk := hs.chunk
  point point hpoint := by
    have hnodup := noteRecords_nodup huuid hid hrecords
    rw [← chunkPoints_ids note version vectors] at hnodup
    rcases (Table.mem_replaceAll s.points _ hnodup point).mp hpoint with hnew | ⟨hold, -⟩
    . rcases chunkPoints_mem hnew with ⟨record, hrecord, hpointId, hpayload, -⟩
      refine ⟨note.noteId, hid, hstored, matches_of_payload hpayload, ?_⟩
      rw [hpointId]
      exact noteRecords_spec hrecords record hrecord
    . exact hs.point point hold
  known := hs.known
  attempt := hs.attempt

theorem Stepped.sound (huuid : Function.Injective (ix.uuidV5 .oid)) (h : Stepped ix s s' a)
    (hs : s.Sound ix) : s'.Sound ix := by
  cases h with
  | request a store id h => exact hs.request (h.requested id hs.note)
  | claimed worker now locked row job mem same outbox h =>
    have hof : NoteAttempt.Of ⟨job, .claimed⟩ row :=
      ⟨same.outboxId.symm, same.noteId.symm, same.op.symm, same.embeddingVersion.symm⟩
    have hstarted := hs.start worker ⟨job, .claimed⟩ ⟨row, mem, hof⟩
      ⟨fun _ hnote => (by cases hnote), fun _ _ hnote => (by cases hnote)⟩
    exact hstarted.modify h fun _ => ⟨rfl, rfl, rfl, rfl⟩
  | fetched worker now job found op =>
    have hadvanced := hs.advance found ⟨job, fetchedPhase s.store job.noteId now⟩ rfl (hs.fetched op)
    exact ⟨hadvanced.note, hadvanced.job, hadvanced.chunk, hadvanced.point, hadvanced.known,
      hadvanced.attempt⟩
  | moved worker attempt next found job level note sound => exact hs.advance found next job sound
  | stored worker job note vectors found chunks embeddings h =>
    have hattempt := hs.attempt worker _ found
    have hstored := hs.stored huuid (hs.attempt_id found rfl) (hattempt.records note vectors rfl rfl) h
      embeddings
    exact hstored.advance found ⟨job, .stored note vectors⟩ rfl ⟨hattempt.note, hattempt.records⟩
  | cleared worker job note vectors found =>
    have hattempt := hs.attempt worker _ found
    exact (hs.cleared note.noteId).advance found ⟨job, .cleared note vectors⟩ rfl
      ⟨hattempt.note, hattempt.records⟩
  | deleted worker job found op =>
    exact (hs.cleared job.noteId).advance found ⟨job, .handled (.ok ())⟩ rfl
      ⟨fun _ hnote => (by cases hnote), fun _ _ hnote => (by cases hnote)⟩
  | upserted worker job note vectors found =>
    have hattempt := hs.attempt worker _ found
    have hupserted := hs.upserted huuid (hs.attempt_id found rfl) (hs.attempt_stored found rfl)
      (hattempt.records note vectors rfl rfl) job.embeddingVersion
    exact hupserted.advance found ⟨job, .handled (.ok ())⟩ rfl
      ⟨fun _ hnote => (by cases hnote), fun _ _ hnote => (by cases hnote)⟩
  | settled worker now attempt found outbox h =>
    rcases h with ⟨-, h⟩ | h
    . exact (hs.modify h fun _ => ⟨rfl, rfl, rfl, rfl⟩).forget worker
    . unfold markFailed markIndexingOutboxFailed at h
      exact (hs.modify h fun _ => ⟨rfl, rfl, rfl, rfl⟩).forget worker
  | crashed worker => exact hs.forget worker

end NoteIndex

end Elf
