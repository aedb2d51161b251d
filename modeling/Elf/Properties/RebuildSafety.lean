import Elf.Worker.NoteIndexing
import Elf.Properties.NoteConvergence

/-!
This module contains the safety of a rebuild beside requests and workers: in which runs every point is one
of a stored chunk of an active note, with the columns of its row, as soon as all jobs are done.
-/

namespace Elf

variable {ix : NoteIndexer} {rb : Rebuilder} {r : MemoryNote} {attempt : NoteAttempt}

namespace NoteIndex

variable {s s' : NoteIndex}

/-! ## Invariant -/

/-- A note has no points, or it is active and its points are those of its chunks. -/
def Clean (ix : NoteIndexer) (s : NoteIndex) (r : MemoryNote) : Prop :=
  s.Cleared r ∨ (r.status = "active" ∧ s.Rows ix r ∧ s.Within ix r)

/-- The points of every note are clean, or an open job brings its index up to date. -/
def Cleaning (ix : NoteIndexer) (s : NoteIndex) : Prop :=
  ∀ id r, s.store.indexed id = some r → s.Clean ix r ∨ s.Owes ix r 2

/-- A job other than the given one brings the index of a note up to date. -/
def OwesBeside (ix : NoteIndexer) (s : NoteIndex) (r : MemoryNote) (outboxId : Uuid) : Prop :=
  Owed NoteAttempt.outboxId s.store.outbox s.attempts
    (fun job => job.Wants r ∧ job.outboxId ≠ outboxId) fun attempt =>
      attempt.Good ix s r ∧ attempt.phase.level ≤ 2

/--
What a worker may do: store and upsert what the note is now, or something that an open job still replaces,
and give up on an expired note only where its points are clean or another job is open.
-/
def SafeWrite (ix : NoteIndexer) (s : NoteIndex) : NoteIndexAction → Prop
  | .fetch worker now => ∀ attempt r, s.attempts worker = some attempt →
    s.store.indexed attempt.job.noteId = some r → r.status = "active" → r.expired now = true →
    s.Clean ix r ∨ s.OwesBeside ix r attempt.outboxId
  | .store worker => ∀ attempt r, s.attempts worker = some attempt →
    s.store.indexed attempt.job.noteId = some r → r.status = "active" →
    attempt.Current r ∨ s.Cleared r ∨ s.Owes ix r 0
  | .upsert worker => ∀ attempt r, s.attempts worker = some attempt →
    s.store.indexed attempt.job.noteId = some r →
    (attempt.Current r ∧ s.Rows ix r) ∨ s.Owes ix r 1
  | _ => True

theorem Clean.same (h : s.Clean ix r) (hsame : s.SameNote s' r.noteId) : s'.Clean ix r := by
  rcases h with hcleared | ⟨hactive, hrows, hwithin⟩
  . exact .inl (hsame.cleared_mp hcleared)
  . exact .inr ⟨hactive, hsame.rows_mp hrows, hsame.within_mp hwithin⟩

theorem Clean.within (h : s.Clean ix r) : s.Within ix r := by
  rcases h with hcleared | ⟨-, -, hwithin⟩
  . exact hcleared.within
  . exact hwithin

theorem Clean.cleared_of_inactive (h : s.Clean ix r) (hinactive : r.status ≠ "active") : s.Cleared r := by
  rcases h with hcleared | ⟨hactive, -, -⟩
  . exact hcleared
  . exact (hinactive hactive).elim

theorem OwesBeside.advance (h : s.OwesBeside ix r attempt.outboxId)
    (ha : s.attempts worker = some attempt) (next : NoteAttempt) (hjob : next.job = attempt.job)
    : { s with attempts := s.attempts.set worker (some next) }.Owes ix r 2 := by
  have hid : next.outboxId = attempt.outboxId := by
    unfold NoteAttempt.outboxId
    rw [hjob]
  have howed := Owed.advance ha hid (fun job _ hwants hkey _ => (hwants.2 hkey).elim) h
  apply Owed.mono _ _ howed
  . intro job _ hwants
    exact hwants.1
  . rintro other a - hgood
    exact ⟨hgood.1.mono (fun _ _ h => h) (fun _ _ h => h), hgood.2⟩

/-! ## Steps of requests and workers -/

theorem fetched_cleaning {job : IndexingOutboxEntry} (hs : s.Sound ix)
    (found : s.attempts worker = some ⟨job, .claimed⟩) (op : job.op = .upsert)
    (hsafe : s.SafeWrite ix (.fetch worker now)) (hcleaning : s.Cleaning ix)
    : { s with
        attempts := s.attempts.set worker (some ⟨job, fetchedPhase s.store job.noteId now⟩)
        latest := max s.latest now }.Cleaning ix := by
  intro id r hr
  change s.store.indexed id = some r at hr
  rcases hs.row_id hr with ⟨rfl, -⟩
  rcases hcleaning _ r hr with hclean | howes
  . exact .inl (hclean.same (.refl rfl rfl))
  . rcases howes.fetch hs found op hr with howes | ⟨hphase, hjob, hactive, hexpired⟩
    . exact .inr howes
    . rw [hphase]
      have hjobr : s.store.indexed job.noteId = some r := by rw [hjob, hr]
      rcases hsafe _ r found hjobr hactive hexpired with hclean | hbeside
      . exact .inl (hclean.same (.refl rfl rfl))
      . exact .inr (Owes.look (hbeside.advance found ⟨job, .handled (.ok ())⟩ rfl) (max s.latest now))

theorem stored_cleaning {job : IndexingOutboxEntry} {note : MemoryNote}
    {vectors : List (ChunkRecord × List F32)} {chunks : NoteChunks}
    (huuid : Function.Injective (ix.uuidV5 .oid)) (hs : s.Sound ix)
    (found : s.attempts worker = some ⟨job, .embedded note vectors⟩)
    (h : chunks = insertNoteChunks (deleteNoteChunks s.chunks note.noteId)
      (vectors.map fun (record, _) => record.row note.noteId job.embeddingVersion))
    (embeddings : NoteChunkEmbeddings) (hsafe : s.SafeWrite ix (.store worker))
    (hcleaning : s.Cleaning ix)
    : { s with
        chunks
        embeddings
        attempts := s.attempts.set worker (some ⟨job, .stored note vectors⟩) }.Cleaning ix := by
  intro id r hr
  change s.store.indexed id = some r at hr
  rcases hs.row_id hr with ⟨rfl, hid⟩
  have hattempt := hs.attempt worker _ found
  have hjob : note.noteId = job.noteId := (hattempt.note note rfl).1
  have hnoteId := hs.attempt_id found rfl
  have hrecords := hattempt.records note vectors rfl rfl
  have hs' := hs.stored huuid hnoteId hrecords h embeddings
  by_cases hne : note.noteId = r.noteId
  . by_cases hactive : r.status = "active"
    . by_cases hcurrent : NoteAttempt.Current ⟨job, .embedded note vectors⟩ r
      . -- The chunks are those of the note as it is now.
        have hrows := stored_current hs huuid hnoteId hrecords h embeddings (hcurrent.note note rfl)
          hcurrent.embeddingVersion
        rcases hcleaning _ r hr with hclean | howes
        . exact .inl (.inr ⟨hactive, hrows, hclean.within⟩)
        . exact .inr (howes.store_current hs' found hrows)
      . have hjobr : s.store.indexed job.noteId = some r := by rw [← hjob, hne, hr]
        rcases (hsafe _ r found hjobr hactive).resolve_left hcurrent with hcleared | howes
        . exact .inl (.inl hcleared)
        . exact .inr (howes.store_over hs hs' found hcurrent)
    . rcases hcleaning _ r hr with hclean | howes
      . exact .inl (.inl (hclean.cleared_of_inactive hactive))
      . exact .inr (howes.store_inactive hs hs' found hactive)
  . have hsame := stored_sameNote hs huuid hnoteId hrecords h embeddings hne
    rcases hcleaning _ r hr with hclean | howes
    . exact .inl (hclean.same ⟨hsame.rows, hsame.points⟩)
    . right
      rw [hjob] at hne
      exact howes.other hsame rfl rfl hs' found ⟨job, .stored note vectors⟩ rfl hne

/-- The points of a note are deleted, which leaves all notes clean that were. -/
theorem cleared_cleaning (hs : s.Sound ix) (found : s.attempts worker = some attempt)
    (next : NoteAttempt) (hjob : next.job = attempt.job) (hcleaning : s.Cleaning ix)
    : { s with
        points := deleteNotePoints s.points attempt.job.noteId
        attempts := s.attempts.set worker (some next) }.Cleaning ix := by
  intro id r hr
  change s.store.indexed id = some r at hr
  rcases hs.row_id hr with ⟨rfl, hid⟩
  by_cases hne : attempt.job.noteId = r.noteId
  . have hcleared := cleared_cleared s r
    rw [← hne] at hcleared
    exact .inl (.inl hcleared)
  . rcases hs.attempt_note found with ⟨_, -, hjobId⟩
    have hsame := cleared_sameNote (s := s) hjobId hid hne
    rcases hcleaning _ r hr with hclean | howes
    . exact .inl (hclean.same ⟨hsame.rows, hsame.points⟩)
    . exact .inr (howes.other hsame rfl rfl (hs.cleared _) found next hjob hne)

theorem upserted_cleaning {job : IndexingOutboxEntry} {note : MemoryNote}
    {vectors : List (ChunkRecord × List F32)} (huuid : Function.Injective (ix.uuidV5 .oid))
    (hs : s.Sound ix) (found : s.attempts worker = some ⟨job, .cleared note vectors⟩)
    (hsafe : s.SafeWrite ix (.upsert worker)) (hcleaning : s.Cleaning ix)
    : { s with
        points := s.points.replaceAll (chunkPoints note job.embeddingVersion vectors)
        attempts := s.attempts.set worker (some ⟨job, .handled (.ok ())⟩) }.Cleaning ix := by
  intro id r hr
  change s.store.indexed id = some r at hr
  rcases hs.row_id hr with ⟨rfl, hid⟩
  have hattempt := hs.attempt worker _ found
  have hjob : note.noteId = job.noteId := (hattempt.note note rfl).1
  have hnoteId := hs.attempt_id found rfl
  have hrecords := hattempt.records note vectors rfl rfl
  by_cases hne : note.noteId = r.noteId
  . have hjobr : s.store.indexed job.noteId = some r := by rw [← hjob, hne, hr]
    by_cases hcurrent : NoteAttempt.Current ⟨job, .cleared note vectors⟩ r ∧ s.Rows ix r
    . have hwithin := upserted_within (s := s) huuid hnoteId hrecords job.embeddingVersion
        (hcurrent.1.note note rfl) hcurrent.1.embeddingVersion
      rcases hcleaning _ r hr with hclean | howes
      . exact .inl (.inr ⟨hcurrent.1.active, hcurrent.2, hwithin hclean.within⟩)
      . rcases howes.upsert_current hs found hcurrent.1.active hwithin with ⟨hrows, hold⟩ | howes
        . exact .inl (.inr ⟨hcurrent.1.active, hrows, hwithin hold⟩)
        . exact .inr howes
    . have howes := (hsafe _ r found hjobr).resolve_left hcurrent
      exact .inr (howes.upsert_over hs found hcurrent)
  . have hsame := upserted_sameNote hs huuid hnoteId hrecords job.embeddingVersion hid hne
    have hs' := hs.upserted huuid hnoteId (hs.attempt_stored found rfl) hrecords job.embeddingVersion
    rcases hcleaning _ r hr with hclean | howes
    . exact .inl (hclean.same ⟨hsame.rows, hsame.points⟩)
    . right
      rw [hjob] at hne
      exact howes.other hsame rfl rfl hs' found ⟨job, .handled (.ok ())⟩ rfl hne

theorem Stepped.cleaning (huuid : Function.Injective (ix.uuidV5 .oid)) (h : Stepped ix s s' a)
    (hs : s.Sound ix) (hsafe : s.SafeWrite ix a) (hcleaning : s.Cleaning ix) : s'.Cleaning ix := by
  cases h with
  | request a store id h =>
    intro other r hr
    rcases requested_owes hs (h.requested id hs.note) hcleaning hr with hclean | howes
    . exact .inl (hclean.same (.refl rfl rfl))
    . exact .inr howes
  | claimed worker now locked row job mem same outbox h =>
    intro id r hr
    rcases hcleaning id r hr with hclean | howes
    . exact .inl (hclean.same (.refl rfl rfl))
    . right
      apply howes.claim worker h
      intro job hwants
      exact ⟨hwants.noteId, hwants.op, hwants.embeddingVersion, hwants.status⟩
  | fetched worker now job found op => exact fetched_cleaning hs found op hsafe hcleaning
  | moved worker attempt next found job level note sound =>
    intro id r hr
    rcases hcleaning id r hr with hclean | howes
    . exact .inl (hclean.same (.refl rfl rfl))
    . exact .inr (howes.move hs found job level note)
  | stored worker job note vectors found chunks embeddings h =>
    exact stored_cleaning huuid hs found h embeddings hsafe hcleaning
  | cleared worker job note vectors found =>
    rw [((hs.attempt worker _ found).note note rfl).1]
    exact cleared_cleaning hs found ⟨job, .cleared note vectors⟩ rfl hcleaning
  | deleted worker job found op =>
    exact cleared_cleaning hs found ⟨job, .handled (.ok ())⟩ rfl hcleaning
  | upserted worker job note vectors found => exact upserted_cleaning huuid hs found hsafe hcleaning
  | settled worker now attempt found outbox h =>
    intro id r hr
    rcases hcleaning id r hr with hclean | howes
    . exact .inl (hclean.same (.refl rfl rfl))
    . exact .inr (howes.settle found h)
  | crashed worker =>
    intro id r hr
    rcases hcleaning id r hr with hclean | howes
    . exact .inl (hclean.same (.refl rfl rfl))
    . exact .inr (howes.forget worker)

/-- No step loses a note. -/
theorem Stepped.stored_note {id : Uuid} (h : Stepped ix s s' a) (hs : s.Sound ix)
    (hid : (s.store.indexed id).isSome) : (s'.store.indexed id).isSome := by
  cases h with
  | request a store drawn h => exact requested_isSome (h.requested drawn hs.note) hid
  | claimed _ _ _ _ _ _ _ _ _ => exact hid
  | fetched _ _ _ _ _ => exact hid
  | moved _ _ _ _ _ _ _ _ => exact hid
  | stored _ _ _ _ _ _ _ _ => exact hid
  | cleared _ _ _ _ _ => exact hid
  | deleted _ _ _ _ => exact hid
  | upserted _ _ _ _ _ => exact hid
  | settled _ _ _ _ _ _ => exact hid
  | crashed _ => exact hid

end NoteIndex

/-! ## Steps of the rebuild -/

/-- A row that a rebuild selected from the chunks. -/
structure RebuildRow.Of (ix : NoteIndexer) (s : NoteIndex) (row : RebuildRow) : Prop where
  noteId : row.note.noteId = row.chunk.noteId
  id : row.note.noteId < 2 ^ 128
  stored : (s.store.indexed row.note.noteId).isSome
  chunkId : ∃ idx, row.chunk.chunkId = chunkIdFor ix row.note.noteId idx

/-- The row repeats the note and one of the chunks that it has now. -/
structure RebuildRow.Fits (ix : NoteIndexer) (s : NoteIndex) (r : MemoryNote) (row : RebuildRow) : Prop where
  note : row.note.unhit = r
  active : r.status = "active"
  chunk : row.chunk ∈ s.chunks
  rows : s.Rows ix r

theorem rebuildRows_of {s : NoteIndex} (hs : s.Sound ix) (hrow : row ∈ rebuildRows s now)
    : row.Of ix s := by
  unfold rebuildRows at hrow
  rcases List.mem_filterMap.mp hrow with ⟨chunk, hchunk, hselected⟩
  rcases Option.bind_eq_some_iff.mp hselected with ⟨note, hnote, hselected⟩
  rcases Option.bind_eq_some_iff.mp hselected with ⟨_, -, hpure⟩
  cases hpure
  have hid : note.noteId = chunk.noteId := Table.key_of_find? (a := note) hnote
  rcases hs.chunk chunk hchunk with ⟨hlt, hchunkId⟩
  refine ⟨hid, ?_, ?_, ?_⟩
  . change note.noteId < _
    rw [hid]
    exact hlt
  . change (s.store.indexed note.noteId).isSome = true
    rw [hid, Store.indexed_of_find hnote]
    rfl
  . change ∃ idx, chunk.chunkId = chunkIdFor ix note.noteId idx
    rw [hid]
    exact hchunkId

theorem RebuildRow.point_matches (row : RebuildRow) (vec : List F32)
    : (row.point vec).matches row.note.noteId = true :=
  matches_of_payload rfl

theorem RebuildRow.Fits.isOf {s : NoteIndex} {row : RebuildRow} (h : row.Fits ix s r)
    (hof : row.Of ix s) (vec : List F32)
    : ∃ record ∈ wantedRecords ix r, (row.point vec).IsOf r record := by
  have hnote := h.note
  have hrows := h.rows
  subst hnote
  have hmem : row.chunk ∈ s.rowsOf row.note.noteId := by
    unfold NoteIndex.rowsOf
    rw [List.mem_filter]
    exact ⟨h.chunk, by rw [decide_eq_true_eq, hof.noteId]⟩
  unfold NoteIndex.Rows at hrows
  change s.rowsOf row.note.noteId = _ at hrows
  rw [hrows] at hmem
  rcases List.mem_map.mp hmem with ⟨record, hrecord, hchunk⟩
  refine ⟨record, hrecord, ?_, ?_, ?_⟩
  . change row.chunk.chunkId = _
    rw [← hchunk]
    rfl
  . change chunkPayload row.note row.chunk.embeddingVersion row.record = _
    unfold RebuildRow.record
    rw [← hchunk]
    rfl
  . change row.chunk.text = _
    rw [← hchunk]
    rfl

section Point

variable {s : NoteIndex} {row : RebuildRow} (huuid : Function.Injective (ix.uuidV5 .oid)) (hs : s.Sound ix)
  (hof : row.Of ix s) (vec : List F32)
include hs hof

theorem NoteIndex.Sound.rebuilt
    : { s with points := s.points.replace (row.point vec) }.Sound ix where
  note := hs.note
  job := hs.job
  chunk := hs.chunk
  point point hpoint := by
    rcases (Table.mem_replace s.points (row.point vec) point).mp hpoint with rfl | ⟨hold, -⟩
    . exact ⟨row.note.noteId, hof.id, hof.stored, row.point_matches vec, hof.chunkId⟩
    . exact hs.point point hold
  known := hs.known
  attempt := hs.attempt

include huuid in
theorem NoteIndex.rebuilt_sameNote (hm : m < 2 ^ 128) (hne : row.note.noteId ≠ m)
    : s.SameNote { s with points := s.points.replace (row.point vec) } m := by
  refine ⟨rfl, ?_⟩
  intro point hmatches
  show point ∈ s.points.replaceAll [row.point vec] ↔ _
  refine hs.replaced_other huuid hof.id hm hne.symm ?_ ?_ hmatches
  . exact List.nodup_singleton _
  . intro other hother
    rw [List.mem_singleton.mp hother]
    exact ⟨row.point_matches vec, hof.chunkId⟩

include huuid in
theorem NoteIndex.rebuilt_cleaning
    (hsafe : ∀ r, s.store.indexed row.note.noteId = some r → row.Fits ix s r ∨ s.Owes ix r 1)
    (hcleaning : s.Cleaning ix)
    : { s with points := s.points.replace (row.point vec) }.Cleaning ix := by
  intro id r hr
  change s.store.indexed id = some r at hr
  rcases hs.row_id hr with ⟨rfl, hid⟩
  by_cases hne : row.note.noteId = r.noteId
  . rcases hsafe r (by rw [hne, hr]) with hfits | howes
    . have hwithin : s.Within ix r →
          { s with points := s.points.replace (row.point vec) }.Within ix r := by
        intro hold point hpoint hmatches
        rcases (Table.mem_replace s.points (row.point vec) point).mp hpoint with rfl | ⟨hmem, -⟩
        . exact hfits.isOf hof vec
        . exact hold point hmem hmatches
      rcases hcleaning _ r hr with hclean | howes
      . exact .inl (.inr ⟨hfits.active, hfits.rows, hwithin hclean.within⟩)
      . exact .inr (howes.tables rfl rfl (fun _ _ hrows => hrows) (fun _ _ hold => hwithin hold))
    . right
      have htables : Owes ix { s with points := s.points.replace (row.point vec) } r 1 :=
        howes.tables rfl rfl (fun _ _ hrows => hrows) (fun _ hle _ => absurd hle (by decide))
      exact htables.mono (by decide)
  . have hsame := rebuilt_sameNote huuid hs hof vec hid hne
    rcases hcleaning _ r hr with hclean | howes
    . exact .inl (hclean.same hsame)
    . right
      exact howes.tables rfl rfl (fun _ _ hrows => hsame.rows_mp hrows)
        (fun _ _ hwithin => hsame.within_mp hwithin)

end Point

namespace RebuiltIndex

variable {s s' : RebuiltIndex}

/-- What a run keeps whatever its steps are. -/
structure Sound (ix : NoteIndexer) (s : RebuiltIndex) : Prop where
  index : s.index.Sound ix
  rows : ∀ rebuild, s.rebuild = some rebuild → ∀ row ∈ rebuild.rows, row.Of ix s.index

/--
What the workers and the rebuild may do: the rebuild writes rows that fit the note as it is now, or
something that an open job still replaces.
-/
def Safe (rb : Rebuilder) (s : RebuiltIndex) : RebuildAction → Prop
  | .index a => s.index.SafeWrite rb.ix a
  | .row idx answer => answer ≠ .failed → ∀ rebuild row r, s.rebuild = some rebuild →
    rebuild.rows[idx]? = some row → s.index.store.indexed row.note.noteId = some r →
    row.Fits rb.ix s.index r ∨ s.index.Owes rb.ix r 1
  | _ => True

theorem row_cases (h : s.row rb idx answer = some s')
    : ∃ rebuild row, s.rebuild = some rebuild ∧ rebuild.rows[idx]? = some row
      ∧ (∃ report, s'.rebuild = some ⟨rebuild.rows.eraseIdx idx, report⟩)
      ∧ (s'.index = s.index ∨ (answer ≠ .failed
        ∧ ∃ vec, s'.index = { s.index with points := s.index.points.replace (row.point vec) })) := by
  unfold RebuiltIndex.row at h
  rcases Option.bind_eq_some_iff.mp h with ⟨rebuild, hrebuild, h⟩
  rcases Option.bind_eq_some_iff.mp h with ⟨row, hrow, h⟩
  refine ⟨rebuild, row, hrebuild, hrow, ?_⟩
  cases husable : row.usable rb with
  | none =>
    rw [husable] at h
    cases h
    exact ⟨⟨_, rfl⟩, .inl rfl⟩
  | some vec =>
    rw [husable] at h
    cases h
    refine ⟨⟨_, rfl⟩, ?_⟩
    cases answer with
    | ok => exact .inr ⟨by decide, vec, rfl⟩
    | lost => exact .inr ⟨by decide, vec, rfl⟩
    | failed => exact .inl rfl

theorem Sound.of_index {index : NoteIndex} (hs : s.Sound ix) (hindex : index.Sound ix)
    (hstored : ∀ id, (s.index.store.indexed id).isSome → (index.store.indexed id).isSome)
    : { s with index }.Sound ix where
  index := hindex
  rows rebuild hrebuild row hrow := by
    have hof := hs.rows rebuild hrebuild row hrow
    exact ⟨hof.noteId, hof.id, hstored _ hof.stored, hof.chunkId⟩

theorem step_preserves (huuid : Function.Injective (rb.ix.uuidV5 .oid)) (h : RebuildSteps rb s a s')
    (hsafe : s.Safe rb a) (hs : s.Sound rb.ix) (hcleaning : s.index.Cleaning rb.ix)
    : s'.Sound rb.ix ∧ s'.index.Cleaning rb.ix := by
  unfold RebuildSteps step at h
  cases a with
  | index a =>
    rcases Option.map_eq_some_iff.mp h with ⟨index, hstep, rfl⟩
    have hstepped := NoteIndex.step_stepped hs.index hstep
    refine ⟨hs.of_index (hstepped.sound huuid hs.index) ?_, hstepped.cleaning huuid hs.index hsafe hcleaning⟩
    intro id hid
    exact hstepped.stored_note hs.index hid
  | select now =>
    unfold select at h
    rcases Option.bind_eq_some_iff.mp h with ⟨_, -, hpure⟩
    cases hpure
    refine ⟨⟨hs.index, ?_⟩, hcleaning⟩
    intro rebuild hrebuild row hrow
    cases hrebuild
    exact rebuildRows_of hs.index hrow
  | row idx answer =>
    rcases row_cases h with ⟨rebuild, row, hrebuild, hrow, ⟨report, hrest⟩, hindex⟩
    have hof := hs.rows rebuild hrebuild row (List.mem_of_getElem? hrow)
    have hrows : ∀ index : NoteIndex, index.store = s.index.store →
        ∀ other ∈ rebuild.rows.eraseIdx idx, other.Of rb.ix index := by
      intro index hstore other hother
      have hother := hs.rows rebuild hrebuild other (List.mem_of_mem_eraseIdx hother)
      exact ⟨hother.noteId, hother.id, by rw [hstore]; exact hother.stored, hother.chunkId⟩
    rcases hindex with hindex | ⟨hanswer, vec, hindex⟩
    . refine ⟨⟨by rw [hindex]; exact hs.index, ?_⟩, by rw [hindex]; exact hcleaning⟩
      intro rebuild' hrebuild'
      rw [hrest] at hrebuild'
      cases hrebuild'
      exact hrows _ (by rw [hindex])
    . refine ⟨⟨?_, ?_⟩, ?_⟩
      . rw [hindex]
        exact hs.index.rebuilt hof vec
      . intro rebuild' hrebuild'
        rw [hrest] at hrebuild'
        cases hrebuild'
        exact hrows _ (by rw [hindex])
      . rw [hindex]
        apply NoteIndex.rebuilt_cleaning huuid hs.index hof vec _ hcleaning
        intro r hr
        exact hsafe hanswer rebuild row r hrebuild hrow hr
  | abort =>
    cases h
    exact ⟨⟨hs.index, fun _ hrebuild => by cases hrebuild⟩, hcleaning⟩

end RebuiltIndex

/-! ## Results -/

/--
Every point is the one of a stored chunk of an active note, with the columns of its row, and there is none
of a note that ended.
-/
structure NoteIndex.PointsSafe (s : NoteIndex) : Prop where
  current : ∀ point ∈ s.points, ∃ note ∈ s.store.notes, note.status = "active"
    ∧ ∃ row ∈ s.chunks, row.noteId = note.noteId ∧ point.Shows note row
  ended : ∀ note ∈ s.store.notes, note.status = "deleted" ∨ note.status = "deprecated" →
    ∀ point ∈ s.points, point.matches note.noteId = false

theorem NoteIndex.Cleaning.pointsSafe {s : NoteIndex} (h : s.Cleaning ix) (hs : s.Sound ix)
    (hdone : ∀ job ∈ s.store.outbox, job.status = .done) : s.PointsSafe := by
  have hclean : ∀ note ∈ s.store.notes, s.Clean ix note.unhit := by
    intro note hnote
    have hindexed := Store.indexed_of_find (s.store.notes.find?_key hnote)
    exact (h _ _ hindexed).resolve_right fun howes => howes.not_done hdone
  refine ⟨?_, ?_⟩
  . intro point hpoint
    rcases hs.point point hpoint with ⟨noteId, -, hstored, hmatches, -⟩
    rcases Option.isSome_iff_exists.mp hstored with ⟨r, hr⟩
    rcases Option.map_eq_some_iff.mp hr with ⟨note, hfind, rfl⟩
    have hid : note.noteId = noteId := Table.key_of_find? (a := note) hfind
    subst hid
    refine ⟨note, Table.mem_of_find? hfind, ?_⟩
    rcases hclean note (Table.mem_of_find? hfind) with hcleared | ⟨hactive, hrows, hwithin⟩
    . have hnone := hcleared point hpoint
      change point.matches note.noteId = false at hnone
      rw [hmatches] at hnone
      cases hnone
    . rcases hwithin point hpoint hmatches with ⟨record, hrecord, hof⟩
      refine ⟨hactive, record.row note.noteId note.embeddingVersion, ?_, rfl, hof.shows⟩
      have hmem : record.row note.noteId note.embeddingVersion ∈ s.rowsOf note.noteId := by
        change s.rowsOf note.noteId = _ at hrows
        rw [hrows]
        exact List.mem_map_of_mem hrecord
      unfold rowsOf at hmem
      exact (List.mem_filter.mp hmem).1
  . intro note hnote hended
    apply (hclean note hnote).cleared_of_inactive
    change note.status ≠ "active"
    rcases hended with hended | hended
    . rw [hended]
      decide
    . rw [hended]
      decide

/--
In every run whose workers and rebuild write what the notes are at that time, or leave a job that replaces
what they write, the points are safe as soon as all jobs are done.
-/
theorem rebuild_safety (rb : Rebuilder) (huuid : Function.Injective (rb.ix.uuidV5 .oid))
    (hrun : Run (Run.Guarded (RebuiltIndex.Safe rb) (RebuildSteps rb)) .empty steps s)
    (hdone : ∀ job ∈ s.index.store.outbox, job.status = .done) : s.index.PointsSafe := by
  have hinvariant : s.Sound rb.ix ∧ s.index.Cleaning rb.ix := by
    apply hrun.invariant
    . rintro before a after ⟨hsound, hcleaning⟩ ⟨hsafe, hstep⟩
      exact RebuiltIndex.step_preserves huuid hstep hsafe hsound hcleaning
    . refine ⟨⟨NoteIndex.Sound.empty rb.ix, fun _ hrebuild => (by cases hrebuild)⟩, ?_⟩
      intro id r hr
      cases hr
  exact hinvariant.2.pointsSafe hinvariant.1.index hdone

def sampleRebuilder : Rebuilder := ⟨sampleNoteIndexer, fun vec => .ok vec⟩

/-- A step that writes what the note is at that time. -/
def RebuiltIndex.currentStep (rb : Rebuilder) (s : RebuiltIndex) : RebuildAction → Bool
  | .index (.fetch worker now) => (s.index.attempts worker).all fun attempt =>
    (s.index.store.indexed attempt.job.noteId).all fun r => !r.expired now
  | .index (.upsert worker) => s.index.currentWrite rb.ix (.upsert worker)
    && (s.index.attempts worker).all fun attempt =>
      (s.index.store.indexed attempt.job.noteId).all fun r => s.index.Rows rb.ix r
  | .index (.store worker) => s.index.currentWrite rb.ix (.store worker)
  | .row idx _ => s.rebuild.all fun rebuild => (rebuild.rows[idx]?).all fun row =>
    (s.index.store.indexed row.note.noteId).all fun r => row.note.unhit = r && r.status = "active"
      && s.index.chunks.rows.contains row.chunk && s.index.Rows rb.ix r
  | _ => true

theorem RebuiltIndex.safe_of_currentStep {s : RebuiltIndex} (h : s.currentStep rb a = true)
    : s.Safe rb a := by
  cases a with
  | index a =>
    cases a with
    | fetch worker now =>
      intro attempt r ha hr hactive hexpired
      change Option.all _ (s.index.attempts worker) = true at h
      rw [ha, Option.all_some, hr, Option.all_some, hexpired] at h
      cases h
    | store worker =>
      intro attempt r ha hr hactive
      exact .inl (NoteIndex.current_of_currentWrite h ha hr)
    | upsert worker =>
      intro attempt r ha hr
      change (_ && Option.all _ (s.index.attempts worker)) = true at h
      rw [Bool.and_eq_true, ha, Option.all_some, hr, Option.all_some] at h
      refine .inl ⟨NoteIndex.current_of_currentWrite h.1 ha hr, ?_⟩
      exact of_decide_eq_true h.2
    | request _ | claim _ _ _ | embed _ _ | clear _ | fail _ _ | settle _ _ | crash _ => trivial
  | row idx answer =>
    intro _ rebuild row r hrebuild hrow hr
    change Option.all _ s.rebuild = true at h
    rw [hrebuild, Option.all_some, hrow, Option.all_some, hr, Option.all_some, Bool.and_eq_true,
      Bool.and_eq_true, Bool.and_eq_true, decide_eq_true_eq, decide_eq_true_eq, List.contains_iff_mem] at h
    exact .inl ⟨h.1.1.1, h.1.1.2, h.1.2, of_decide_eq_true h.2⟩
  | select _ | abort => trivial

/-- A note is added and indexed, and the rebuild selects its chunk. -/
def selectPorts : List RebuildAction :=
  indexPorts.map .index ++ [.select 3000000000]

theorem rebuild_safety_selectPorts
    : ∃ s, Run (Run.Guarded (RebuiltIndex.Safe sampleRebuilder) (RebuildSteps sampleRebuilder)) .empty
        (selectPorts ++ [.row 0 .ok]) s
      ∧ s.rebuild.map Rebuild.report = some ⟨1, 0, 0⟩ ∧ s.index.PointsSafe := by
  have heval : ((Run.eval (fun s a =>
        if s.currentStep sampleRebuilder a then s.step sampleRebuilder a else none)
      .empty (selectPorts ++ [.row 0 .ok])).any fun s : RebuiltIndex =>
        (s.rebuild.map Rebuild.report = some ⟨1, 0, 0⟩)
          && s.index.store.outbox.rows.all fun job => job.status = .done) = true := by
    decide +kernel
  rw [Option.any_eq_true] at heval
  rcases heval with ⟨s, heval, hs⟩
  rw [Bool.and_eq_true, decide_eq_true_eq, List.all_eq_true] at hs
  have hrun : Run (Run.Guarded (RebuiltIndex.Safe sampleRebuilder) (RebuildSteps sampleRebuilder))
      .empty (selectPorts ++ [.row 0 .ok]) s := by
    apply Run.of_eval _ heval
    intro before a after hstep
    rw [Option.ite_none_right_eq_some] at hstep
    exact ⟨RebuiltIndex.safe_of_currentStep hstep.1, hstep.2⟩
  refine ⟨s, hrun, hs.1, ?_⟩
  apply rebuild_safety sampleRebuilder (sampleNoteIndexer_uuidV5_injective .oid) hrun
  intro job hjob
  simpa using hs.2 job hjob

/-- The note is deleted and the delete is indexed before the rebuild writes the point that it selected. -/
def overtakenRebuild : List RebuildAction :=
  selectPorts ++ [.index (correctPorts 4 1 .delete), .index (.claim 0 5000000000 []), .index (.clear 0),
    .index (.settle 0 5000000000), .row 0 .ok]

theorem not_safe_overtakenRebuild
    : ∃ s, Run (RebuildSteps sampleRebuilder) .empty overtakenRebuild s
      ∧ s.rebuild.map Rebuild.report = some ⟨1, 0, 0⟩
      ∧ (∀ job ∈ s.index.store.outbox, job.status = .done) ∧ ¬ s.index.PointsSafe := by
  have heval : ((Run.eval (fun s a => s.step sampleRebuilder a) .empty overtakenRebuild).any
      fun s : RebuiltIndex => (s.rebuild.map Rebuild.report = some ⟨1, 0, 0⟩)
        && (s.index.store.outbox.rows.all fun job => job.status = .done)
        && s.index.store.notes.rows.any fun note => note.status = "deleted"
          && s.index.points.rows.any fun point => point.matches note.noteId) = true := by
    decide +kernel
  rw [Option.any_eq_true] at heval
  rcases heval with ⟨s, heval, hs⟩
  rw [Bool.and_eq_true, Bool.and_eq_true, decide_eq_true_eq, List.all_eq_true, List.any_eq_true] at hs
  refine ⟨s, Run.of_eval (fun _ _ _ hstep => hstep) heval, hs.1.1, ?_, ?_⟩
  . intro job hjob
    simpa using hs.1.2 job hjob
  . intro hsafe
    rcases hs.2 with ⟨note, hnote, hstale⟩
    rw [Bool.and_eq_true, decide_eq_true_eq, List.any_eq_true] at hstale
    rcases hstale with ⟨hstatus, point, hpoint, hmatches⟩
    have hempty := hsafe.ended note hnote (.inl hstatus) point hpoint
    rw [hmatches] at hempty
    cases hempty

end Elf
