import Elf.Worker.Lemmas.NoteJobs

/-!
This module contains the convergence of the note index: in which runs the chunks and the points of every
note are those of its row as soon as all jobs are done.
-/

namespace Elf

variable {ix : NoteIndexer} {s s' : NoteIndex} {r : MemoryNote} {attempt next : NoteAttempt}

namespace NoteIndex

/-! ## Invariant -/

/-- The note is active, and was not expired when a worker last looked at one. -/
def Live (s : NoteIndex) (r : MemoryNote) : Prop := r.status = "active" ∧ r.expired s.latest = false

/-- The chunks and points of a note are those of its row. -/
structure Settled (ix : NoteIndexer) (s : NoteIndex) (r : MemoryNote) : Prop where
  live : s.Live r → s.Rows ix r ∧ s.Within ix r ∧ s.Complete ix r
  cleared : r.status ≠ "active" → s.Cleared r

/-- The index of every note is up to date, or an open job brings it up to date. -/
def Repairing (ix : NoteIndexer) (s : NoteIndex) : Prop :=
  ∀ id r, s.store.indexed id = some r → s.Settled ix r ∨ s.Owes ix r 2

/--
What a worker may write: the chunks and the points of a note as it is now, or something that an open job
still replaces, because no worker that has this job made the same write yet.
-/
def Timely (ix : NoteIndexer) (s : NoteIndex) : NoteIndexAction → Prop
  | .store worker => ∀ attempt r, s.attempts worker = some attempt →
    s.store.indexed attempt.job.noteId = some r → s.Live r → attempt.Current r ∨ s.Owes ix r 0
  | .clear worker => ∀ attempt r, s.attempts worker = some attempt →
    s.store.indexed attempt.job.noteId = some r → s.Live r → s.Owes ix r 2
  | .upsert worker => ∀ attempt r, s.attempts worker = some attempt →
    s.store.indexed attempt.job.noteId = some r → s.Live r ∨ r.status ≠ "active" →
    attempt.Current r ∨ s.Owes ix r 1
  | _ => True

/-- Of a note that is active and expired nothing is said. -/
theorem Settled.of_not_live (hlive : ¬ s.Live r) (hactive : r.status = "active") : s.Settled ix r :=
  ⟨fun h => (hlive h).elim, fun h => (h hactive).elim⟩

theorem Settled.of_cleared (hinactive : r.status ≠ "active") (hcleared : s.Cleared r) : s.Settled ix r :=
  ⟨fun h => (hinactive h.1).elim, fun _ => hcleared⟩

theorem Settled.same (h : s.Settled ix r) (hsame : s.SameNote s' r.noteId) (hlatest : s.latest ≤ s'.latest)
    : s'.Settled ix r := by
  refine ⟨?_, ?_⟩
  . rintro ⟨hactive, hexpired⟩
    have hlive : s.Live r := by
      refine ⟨hactive, ?_⟩
      rw [Bool.eq_false_iff] at hexpired ⊢
      intro hold
      exact hexpired (MemoryNote.expired_mono hold hlatest)
    rcases h.live hlive with ⟨hrows, hwithin, hcomplete⟩
    exact ⟨hsame.rows_mp hrows, hsame.within_mp hwithin, hsame.complete_mp hcomplete⟩
  . intro hinactive
    exact hsame.cleared_mp (h.cleared hinactive)

/-! ## Steps -/

theorem fetched_repairing {job : IndexingOutboxEntry} (hs : s.Sound ix)
    (found : s.attempts worker = some ⟨job, .claimed⟩) (op : job.op = .upsert)
    (hrepairing : s.Repairing ix)
    : { s with
        attempts := s.attempts.set worker (some ⟨job, fetchedPhase s.store job.noteId now⟩)
        latest := max s.latest now }.Repairing ix := by
  intro id r hr
  change s.store.indexed id = some r at hr
  rcases hs.row_id hr with ⟨rfl, -⟩
  rcases hrepairing _ r hr with hsettled | howes
  . exact .inl (hsettled.same (.refl rfl rfl) (le_max_left _ _))
  . rcases howes.fetch hs found op hr with howes | ⟨-, -, hactive, hexpired⟩
    . exact .inr howes
    . left
      apply Settled.of_not_live _ hactive
      rintro ⟨-, hunexpired⟩
      rw [MemoryNote.expired_mono hexpired (le_max_right s.latest now)] at hunexpired
      cases hunexpired

theorem stored_repairing {job : IndexingOutboxEntry} {note : MemoryNote}
    {vectors : List (ChunkRecord × List F32)} {chunks : NoteChunks}
    (huuid : Function.Injective (ix.uuidV5 .oid)) (hs : s.Sound ix)
    (found : s.attempts worker = some ⟨job, .embedded note vectors⟩)
    (h : chunks = insertNoteChunks (deleteNoteChunks s.chunks note.noteId)
      (vectors.map fun (record, _) => record.row note.noteId job.embeddingVersion))
    (embeddings : NoteChunkEmbeddings) (htimely : s.Timely ix (.store worker))
    (hrepairing : s.Repairing ix)
    : { s with
        chunks
        embeddings
        attempts := s.attempts.set worker (some ⟨job, .stored note vectors⟩) }.Repairing ix := by
  intro id r hr
  change s.store.indexed id = some r at hr
  rcases hs.row_id hr with ⟨rfl, hid⟩
  have hattempt := hs.attempt worker _ found
  have hjob : note.noteId = job.noteId := (hattempt.note note rfl).1
  have hnoteId := hs.attempt_id found rfl
  have hrecords := hattempt.records note vectors rfl rfl
  have hs' := hs.stored huuid hnoteId hrecords h embeddings
  by_cases hne : note.noteId = r.noteId
  . by_cases hlive : s.Live r
    . by_cases hcurrent : NoteAttempt.Current ⟨job, .embedded note vectors⟩ r
      . -- The chunks are those of the note as it is now.
        have hrows := stored_current hs huuid hnoteId hrecords h embeddings (hcurrent.note note rfl)
          hcurrent.embeddingVersion
        rcases hrepairing _ r hr with hsettled | howes
        . left
          rcases hsettled.live hlive with ⟨-, hwithin, hcomplete⟩
          exact ⟨fun _ => ⟨hrows, hwithin, hcomplete⟩, hsettled.cleared⟩
        . exact .inr (howes.store_current hs' found hrows)
      . -- A job that is still open replaces the chunks once more.
        have hjobr : s.store.indexed job.noteId = some r := by rw [← hjob, hne, hr]
        have howes := (htimely _ r found hjobr hlive).resolve_left hcurrent
        exact .inr (howes.store_over hs hs' found hcurrent)
    . by_cases hactive : r.status = "active"
      . exact .inl (.of_not_live hlive hactive)
      . rcases hrepairing _ r hr with hsettled | howes
        . exact .inl (.of_cleared hactive (hsettled.cleared hactive))
        . exact .inr (howes.store_inactive hs hs' found hactive)
  . have hsame := stored_sameNote hs huuid hnoteId hrecords h embeddings hne
    rcases hrepairing _ r hr with hsettled | howes
    . exact .inl (hsettled.same ⟨hsame.rows, hsame.points⟩ (le_refl _))
    . right
      rw [hjob] at hne
      exact howes.other hsame rfl rfl hs' found ⟨job, .stored note vectors⟩ rfl hne

theorem cleared_repairing {job : IndexingOutboxEntry} {note : MemoryNote}
    {vectors : List (ChunkRecord × List F32)} (hs : s.Sound ix)
    (found : s.attempts worker = some ⟨job, .stored note vectors⟩) (htimely : s.Timely ix (.clear worker))
    (hrepairing : s.Repairing ix)
    : { s with
        points := deleteNotePoints s.points note.noteId
        attempts := s.attempts.set worker (some ⟨job, .cleared note vectors⟩) }.Repairing ix := by
  intro id r hr
  change s.store.indexed id = some r at hr
  rcases hs.row_id hr with ⟨rfl, hid⟩
  have hattempt := hs.attempt worker _ found
  have hjob : note.noteId = job.noteId := (hattempt.note note rfl).1
  have hs' := hs.cleared note.noteId
  by_cases hne : note.noteId = r.noteId
  . have hcleared := cleared_cleared s r
    rw [← hne] at hcleared
    by_cases hactive : r.status = "active"
    . by_cases hlive : s.Live r
      . right
        have howes := htimely _ r found (by rw [← hr, ← hne, hjob]) hlive
        have howes' : Owes ix { s with points := deleteNotePoints s.points note.noteId } r 2 :=
          howes.tables rfl rfl (fun _ _ hrows => hrows) (fun _ _ _ => hcleared.within)
        apply howes'.advance hs' found ⟨job, .cleared note vectors⟩ rfl
        intro hat hgood hlevel
        refine ⟨⟨hgood.note, ?_, fun _ _ => hcleared.within, ?_⟩, ?_⟩
        . intro _ _
          exact hgood.rows hactive (show 1 ≤ 1 by decide)
        . exact (show 2 < 3 by decide)
        . exact (show 2 ≤ 2 by decide)
      . exact .inl (.of_not_live hlive hactive)
    . exact .inl (.of_cleared hactive hcleared)
  . have hsame := cleared_sameNote (s := s) (hs.attempt_id found rfl) hid hne
    rcases hrepairing _ r hr with hsettled | howes
    . exact .inl (hsettled.same ⟨hsame.rows, hsame.points⟩ (le_refl _))
    . right
      rw [hjob] at hne
      exact howes.other hsame rfl rfl hs' found ⟨job, .cleared note vectors⟩ rfl hne

theorem deleted_repairing {job : IndexingOutboxEntry} (hs : s.Sound ix)
    (found : s.attempts worker = some ⟨job, .claimed⟩) (op : job.op = .delete)
    (htimely : s.Timely ix (.clear worker)) (hrepairing : s.Repairing ix)
    : { s with
        points := deleteNotePoints s.points job.noteId
        attempts := s.attempts.set worker (some ⟨job, .handled (.ok ())⟩) }.Repairing ix := by
  intro id r hr
  change s.store.indexed id = some r at hr
  rcases hs.row_id hr with ⟨rfl, hid⟩
  have hs' := hs.cleared job.noteId
  by_cases hne : job.noteId = r.noteId
  . have hcleared := cleared_cleared s r
    rw [← hne] at hcleared
    by_cases hactive : r.status = "active"
    . by_cases hlive : s.Live r
      . right
        have howes := htimely _ r found (by rw [← hr, ← hne]) hlive
        have howes' : Owes ix { s with points := deleteNotePoints s.points job.noteId } r 2 :=
          howes.tables rfl rfl (fun _ _ hrows => hrows) (fun _ _ _ => hcleared.within)
        apply howes'.advance hs' found ⟨job, .handled (.ok ())⟩ rfl
        intro hat hgood hlevel
        have hop := hat.op
        dsimp only at hop
        rw [op] at hop
        exact (MemoryNote.wantedOp_delete hop.symm hactive).elim
      . exact .inl (.of_not_live hlive hactive)
    . exact .inl (.of_cleared hactive hcleared)
  . rcases hs.attempt_note found with ⟨_, -, hjobId⟩
    have hsame := cleared_sameNote (s := s) hjobId hid hne
    rcases hrepairing _ r hr with hsettled | howes
    . exact .inl (hsettled.same ⟨hsame.rows, hsame.points⟩ (le_refl _))
    . exact .inr (howes.other hsame rfl rfl hs' found ⟨job, .handled (.ok ())⟩ rfl hne)

theorem upserted_repairing {job : IndexingOutboxEntry} {note : MemoryNote}
    {vectors : List (ChunkRecord × List F32)} (huuid : Function.Injective (ix.uuidV5 .oid))
    (hs : s.Sound ix) (found : s.attempts worker = some ⟨job, .cleared note vectors⟩)
    (htimely : s.Timely ix (.upsert worker)) (hrepairing : s.Repairing ix)
    : { s with
        points := s.points.replaceAll (chunkPoints note job.embeddingVersion vectors)
        attempts := s.attempts.set worker (some ⟨job, .handled (.ok ())⟩) }.Repairing ix := by
  intro id r hr
  change s.store.indexed id = some r at hr
  rcases hs.row_id hr with ⟨rfl, hid⟩
  have hattempt := hs.attempt worker _ found
  have hjob : note.noteId = job.noteId := (hattempt.note note rfl).1
  have hnoteId := hs.attempt_id found rfl
  have hrecords := hattempt.records note vectors rfl rfl
  have hs' := hs.upserted huuid hnoteId (hs.attempt_stored found rfl) hrecords job.embeddingVersion
  by_cases hne : note.noteId = r.noteId
  . have hjobr : s.store.indexed job.noteId = some r := by rw [← hjob, hne, hr]
    by_cases hsaid : s.Live r ∨ r.status ≠ "active"
    . by_cases hcurrent : NoteAttempt.Current ⟨job, .cleared note vectors⟩ r
      . -- The points are those of the note as it is now.
        have hlive := hsaid.resolve_right fun h => h hcurrent.active
        have hwithin := upserted_within (s := s) huuid hnoteId hrecords job.embeddingVersion
          (hcurrent.note note rfl) hcurrent.embeddingVersion
        have hcomplete := upserted_complete (s := s) huuid hnoteId hrecords job.embeddingVersion
          (hcurrent.note note rfl) hcurrent.embeddingVersion
        have hsettled : s.Rows ix r → s.Within ix r → Settled ix { s with
            points := s.points.replaceAll (chunkPoints note job.embeddingVersion vectors)
            attempts := s.attempts.set worker (some ⟨job, .handled (.ok ())⟩) } r := by
          intro hrows hold
          exact ⟨fun _ => ⟨hrows, hwithin hold, hcomplete⟩, fun h => (h hcurrent.active).elim⟩
        rcases hrepairing _ r hr with hold | howes
        . rcases hold.live hlive with ⟨hrows, hold, -⟩
          exact .inl (hsettled hrows hold)
        . rcases howes.upsert_current hs found hcurrent.active hwithin with ⟨hrows, hold⟩ | howes
          . exact .inl (hsettled hrows hold)
          . exact .inr howes
      . -- A job that is still open replaces the points once more.
        have howes := (htimely _ r found hjobr hsaid).resolve_left hcurrent
        exact .inr (howes.upsert_over hs found fun h => hcurrent h.1)
    . rw [not_or, not_not] at hsaid
      exact .inl (.of_not_live hsaid.1 hsaid.2)
  . have hsame := upserted_sameNote hs huuid hnoteId hrecords job.embeddingVersion hid hne
    rcases hrepairing _ r hr with hsettled | howes
    . exact .inl (hsettled.same ⟨hsame.rows, hsame.points⟩ (le_refl _))
    . right
      rw [hjob] at hne
      exact howes.other hsame rfl rfl hs' found ⟨job, .handled (.ok ())⟩ rfl hne

theorem Stepped.repairing (huuid : Function.Injective (ix.uuidV5 .oid)) (h : Stepped ix s s' a)
    (hs : s.Sound ix) (htimely : s.Timely ix a) (hrepairing : s.Repairing ix) : s'.Repairing ix := by
  cases h with
  | request a store id h =>
    intro other r hr
    rcases requested_owes hs (h.requested id hs.note) hrepairing hr with hsettled | howes
    . exact .inl (hsettled.same (.refl rfl rfl) (le_refl _))
    . exact .inr howes
  | claimed worker now locked row job mem same outbox h =>
    intro id r hr
    rcases hrepairing id r hr with hsettled | howes
    . exact .inl (hsettled.same (.refl rfl rfl) (le_refl _))
    . right
      apply howes.claim worker h
      intro job hwants
      exact ⟨hwants.noteId, hwants.op, hwants.embeddingVersion, hwants.status⟩
  | fetched worker now job found op => exact fetched_repairing hs found op hrepairing
  | moved worker attempt next found job level note sound =>
    intro id r hr
    rcases hrepairing id r hr with hsettled | howes
    . exact .inl (hsettled.same (.refl rfl rfl) (le_refl _))
    . exact .inr (howes.move hs found job level note)
  | stored worker job note vectors found chunks embeddings h =>
    exact stored_repairing huuid hs found h embeddings htimely hrepairing
  | cleared worker job note vectors found => exact cleared_repairing hs found htimely hrepairing
  | deleted worker job found op => exact deleted_repairing hs found op htimely hrepairing
  | upserted worker job note vectors found =>
    exact upserted_repairing huuid hs found htimely hrepairing
  | settled worker now attempt found outbox h =>
    intro id r hr
    rcases hrepairing id r hr with hsettled | howes
    . exact .inl (hsettled.same (.refl rfl rfl) (le_refl _))
    . exact .inr (howes.settle found h)
  | crashed worker =>
    intro id r hr
    rcases hrepairing id r hr with hsettled | howes
    . exact .inl (hsettled.same (.refl rfl rfl) (le_refl _))
    . exact .inr (howes.forget worker)

end NoteIndex

/-! ## Results -/

/-- The point is the one of a chunk of the note, with the columns of the note. -/
structure ChunkPoint.Shows (point : ChunkPoint) (note : MemoryNote) (row : NoteChunk) : Prop where
  id : point.id = row.chunkId
  payload : point.payload = chunkPayload note note.embeddingVersion
    ⟨row.chunkId, row.chunkIndex, row.startOffset, row.endOffset, row.text⟩
  bm25 : point.bm25 = row.text
  embeddingVersion : row.embeddingVersion = note.embeddingVersion

/-- The chunks of a note are those of its text, and its points are those of its chunks. -/
structure NoteIndex.Shown (ix : NoteIndexer) (s : NoteIndex) (note : MemoryNote) : Prop where
  chunks : s.rowsOf note.noteId
    = (wantedRecords ix note).map fun record => record.row note.noteId note.embeddingVersion
  shown : ∀ row ∈ s.rowsOf note.noteId, ∃ point ∈ s.points, point.Shows note row
  points : ∀ point ∈ s.points, point.matches note.noteId = true →
    ∃ row ∈ s.rowsOf note.noteId, point.Shows note row

/-- The points of every note are those of its chunks where it is active, and there are none where it ended. -/
def NoteIndex.Converged (ix : NoteIndexer) (s : NoteIndex) (now : Nat) : Prop :=
  ∀ note ∈ s.store.notes,
    (note.status = "active" → note.expired now = false → s.Shown ix note)
      ∧ (note.status = "deleted" ∨ note.status = "deprecated" →
        ∀ point ∈ s.points, point.matches note.noteId = false)

theorem ChunkPoint.IsOf.shows {point : ChunkPoint} {note : MemoryNote} {record : ChunkRecord}
    (h : point.IsOf note.unhit record)
    : point.Shows note (record.row note.noteId note.embeddingVersion) :=
  ⟨h.id, h.payload, h.bm25, rfl⟩

namespace NoteIndex

theorem Settled.shown {note : MemoryNote} (hrows : s.Rows ix note.unhit) (hwithin : s.Within ix note.unhit)
    (hcomplete : s.Complete ix note.unhit) : s.Shown ix note := by
  unfold Rows at hrows
  change s.rowsOf note.noteId = _ at hrows
  refine ⟨hrows, ?_, ?_⟩
  . intro row hrow
    rw [hrows] at hrow
    rcases List.mem_map.mp hrow with ⟨record, hrecord, rfl⟩
    rcases hcomplete record hrecord with ⟨point, hpoint, hof⟩
    exact ⟨point, hpoint, hof.shows⟩
  . intro point hpoint hmatches
    rcases hwithin point hpoint hmatches with ⟨record, hrecord, hof⟩
    rw [hrows]
    exact ⟨_, List.mem_map_of_mem hrecord, hof.shows⟩

theorem Repairing.converged (h : s.Repairing ix) (hdone : ∀ job ∈ s.store.outbox, job.status = .done)
    (hnow : s.latest ≤ now) : s.Converged ix now := by
  intro note hnote
  have hindexed := Store.indexed_of_find (s.store.notes.find?_key hnote)
  have hsettled := (h _ _ hindexed).resolve_right fun howes => howes.not_done hdone
  refine ⟨?_, ?_⟩
  . intro hactive hexpired
    have hlive : s.Live note.unhit := by
      refine ⟨hactive, ?_⟩
      rw [Bool.eq_false_iff] at hexpired ⊢
      intro hold
      exact hexpired (MemoryNote.expired_mono hold hnow)
    rcases hsettled.live hlive with ⟨hrows, hwithin, hcomplete⟩
    exact Settled.shown hrows hwithin hcomplete
  . intro hinactive
    apply hsettled.cleared
    change note.status ≠ "active"
    rcases hinactive with hinactive | hinactive
    . rw [hinactive]
      decide
    . rw [hinactive]
      decide

theorem Sound.empty (ix : NoteIndexer) : NoteIndex.empty.Sound ix where
  note id r hr := by cases hr
  job job hjob := by cases hjob
  chunk row hrow := by cases hrow
  point point hpoint := by cases hpoint
  known worker attempt ha := by cases ha
  attempt worker attempt ha := by cases ha

theorem Repairing.empty (ix : NoteIndexer) : NoteIndex.empty.Repairing ix := by
  intro id r hr
  cases hr

end NoteIndex

/--
In every run whose workers write the chunks and points of the note as it is at that time, or leave a job
that replaces what they write, the index has converged as soon as all jobs are done.
-/
theorem note_index_convergence (ix : NoteIndexer) (huuid : Function.Injective (ix.uuidV5 .oid))
    (hrun : Run (Run.Guarded (NoteIndex.Timely ix) (NoteIndexSteps ix)) .empty steps s)
    (hdone : ∀ job ∈ s.store.outbox, job.status = .done) (hnow : s.latest ≤ now)
    : s.Converged ix now := by
  have hinvariant : s.Sound ix ∧ s.Repairing ix := by
    apply hrun.invariant _ ⟨NoteIndex.Sound.empty ix, NoteIndex.Repairing.empty ix⟩
    rintro before a after ⟨hsound, hrepairing⟩ ⟨htimely, hstep⟩
    have hstepped := NoteIndex.step_stepped hsound hstep
    exact ⟨hstepped.sound huuid hsound, hstepped.repairing huuid hsound htimely hrepairing⟩
  exact hinvariant.2.converged hdone hnow

/-- A worker that makes one chunk of every text. -/
def sampleNoteIndexer : NoteIndexer := {
  vectorDim := 1
  chunking := ⟨512, 0⟩
  tokenizer := ⟨fun _ => .ok [], fun _ => .ok ""⟩
  sentences := fun text => [(0, text)]
  uuidV5 := fun _ name => Text.codeNumber name.toList }

theorem sampleNoteIndexer_uuidV5_injective (ns : UuidNamespace)
    : Function.Injective (sampleNoteIndexer.uuidV5 ns) := by
  intro a b h
  exact String.toList_injective (Text.codeNumber_inj h)

/-- A worker claims the next job at a time and runs it up to the points. -/
def indexUntilCleared (worker now : Nat) : List NoteIndexAction :=
  [.claim worker now [], .fetch worker now, .embed worker (.ok [[.fin 0]]), .store worker, .clear worker]

def addPorts (n : Nat) : NoteIndexAction :=
  .request (sampleAdd n "p" "agent_private" (sampleNote none "All ports are open."))

/-- A note is added and indexed. -/
def indexPorts : List NoteIndexAction :=
  addPorts 1 :: indexUntilCleared 0 2000000000 ++ [.upsert 0, .settle 0 3000000000]

def correctPorts (n noteId : Nat) (action : MemoryCorrectionAction) : NoteIndexAction :=
  .request (sampleStep n (.correct (sampleCorrection noteId action none)))

/--
A write that is timely: what a worker has read is current, and points are only cleared where the note
ended or has none yet.
-/
def NoteIndex.currentWrite (ix : NoteIndexer) (s : NoteIndex) : NoteIndexAction → Bool
  | .store worker | .upsert worker => (s.attempts worker).all fun attempt =>
    (s.store.indexed attempt.job.noteId).all fun r =>
      (attempt.phase.note.all fun note => note.unhit = r) && r.status = "active"
        && attempt.job.embeddingVersion = r.embeddingVersion
  | .clear worker => (s.attempts worker).all fun attempt =>
    (s.store.indexed attempt.job.noteId).all fun r =>
      r.status ≠ "active" || (s.points.rows.isEmpty && !(wantedRecords ix r).isEmpty)
  | _ => true

theorem NoteIndex.current_of_currentWrite (hwrite : (s.attempts worker).all (fun attempt =>
      (s.store.indexed attempt.job.noteId).all fun r =>
        (attempt.phase.note.all fun note => note.unhit = r) && r.status = "active"
          && attempt.job.embeddingVersion = r.embeddingVersion) = true)
    (ha : s.attempts worker = some attempt) (hr : s.store.indexed attempt.job.noteId = some r)
    : attempt.Current r := by
  rw [ha, Option.all_some, hr, Option.all_some, Bool.and_eq_true, Bool.and_eq_true, decide_eq_true_eq,
    decide_eq_true_eq] at hwrite
  refine ⟨?_, hwrite.1.2, hwrite.2⟩
  intro note hnote
  have hall := hwrite.1.1
  rw [hnote, Option.all_some, decide_eq_true_eq] at hall
  exact hall

theorem NoteIndex.timely_of_currentWrite (hrepairing : s.Repairing ix) (h : s.currentWrite ix a = true)
    : s.Timely ix a := by
  cases a with
  | store worker =>
    intro attempt r ha hr hlive
    exact .inl (current_of_currentWrite h ha hr)
  | upsert worker =>
    intro attempt r ha hr hsaid
    exact .inl (current_of_currentWrite h ha hr)
  | clear worker =>
    intro attempt r ha hr hlive
    change (s.attempts worker).all _ = true at h
    rw [ha, Option.all_some, hr, Option.all_some, Bool.or_eq_true, Bool.and_eq_true, List.isEmpty_iff] at h
    rcases h with hinactive | ⟨hpoints, hrecords⟩
    . exact absurd hlive.1 (by simpa using hinactive)
    . apply (hrepairing _ r hr).resolve_left
      intro hsettled
      -- The note has chunks and no points, so it is not settled.
      rcases hsettled.live hlive with ⟨-, -, hcomplete⟩
      cases hwanted : wantedRecords ix r with
      | nil =>
        rw [hwanted] at hrecords
        cases hrecords
      | cons record records =>
        rcases hcomplete record (by rw [hwanted]; exact List.mem_cons_self) with ⟨point, hpoint, -⟩
        rw [Table.mem_def, hpoints] at hpoint
        cases hpoint
  | request _ | claim _ _ _ | fetch _ _ | embed _ _ | fail _ _ | settle _ _ | crash _ => trivial

theorem note_index_convergence_addPorts
    : ∃ s, Run (Run.Guarded (NoteIndex.Timely sampleNoteIndexer) (NoteIndexSteps sampleNoteIndexer)) .empty
        indexPorts s
      ∧ s.points.rows.length = 1 ∧ s.Converged sampleNoteIndexer 3000000000 := by
  have heval : ((Run.eval (fun s a =>
        if s.currentWrite sampleNoteIndexer a then s.step sampleNoteIndexer a else none)
      .empty indexPorts).any
        fun s : NoteIndex => s.points.rows.length = 1 && s.latest ≤ 3000000000
          && s.store.outbox.rows.all fun job => job.status = .done) = true := by
    decide +kernel
  rw [Option.any_eq_true] at heval
  rcases heval with ⟨s, heval, hs⟩
  rw [Bool.and_eq_true, Bool.and_eq_true, decide_eq_true_eq, decide_eq_true_eq, List.all_eq_true] at hs
  have huuid := sampleNoteIndexer_uuidV5_injective .oid
  have hrun : Run (Run.Guarded (NoteIndex.Timely sampleNoteIndexer) (NoteIndexSteps sampleNoteIndexer))
      .empty indexPorts s := by
    apply Run.of_eval_invariant (fun s => s.Sound sampleNoteIndexer ∧ s.Repairing sampleNoteIndexer) _ ⟨NoteIndex.Sound.empty _, NoteIndex.Repairing.empty _⟩ heval
    rintro before a after ⟨hsound, hrepairing⟩ hstep
    rw [Option.ite_none_right_eq_some] at hstep
    have htimely := NoteIndex.timely_of_currentWrite hrepairing hstep.1
    have hstepped := NoteIndex.step_stepped hsound hstep.2
    exact ⟨⟨htimely, hstep.2⟩, hstepped.sound huuid hsound,
      hstepped.repairing huuid hsound htimely hrepairing⟩
  refine ⟨s, hrun, hs.1.1, note_index_convergence sampleNoteIndexer huuid hrun ?_ hs.1.2⟩
  intro job hjob
  simpa using hs.2 job hjob

/-- A note is deleted while a worker is about to write its points, and the delete is indexed first. -/
def overtakenUpsert : List NoteIndexAction :=
  addPorts 1 :: indexUntilCleared 0 2000000000 ++ [correctPorts 3 1 .delete, .claim 1 4000000000 [],
    .clear 1, .settle 1 4000000000, .upsert 0, .settle 0 5000000000]

theorem not_converged_overtakenUpsert
    : ∃ s, Run (NoteIndexSteps sampleNoteIndexer) .empty overtakenUpsert s
      ∧ (∀ job ∈ s.store.outbox, job.status = .done) ∧ ¬ s.Converged sampleNoteIndexer s.latest := by
  have heval : ((Run.eval (fun s a => s.step sampleNoteIndexer a) .empty overtakenUpsert).any
      fun s : NoteIndex => (s.store.outbox.rows.all fun job => job.status = .done)
        && s.store.notes.rows.any fun note => note.status = "deleted"
          && s.points.rows.any fun point => point.matches note.noteId) = true := by
    decide +kernel
  rw [Option.any_eq_true] at heval
  rcases heval with ⟨s, heval, hs⟩
  rw [Bool.and_eq_true, List.all_eq_true, List.any_eq_true] at hs
  refine ⟨s, Run.of_eval (fun _ _ _ hstep => hstep) heval, ?_, ?_⟩
  . intro job hjob
    simpa using hs.1 job hjob
  . intro hconverged
    rcases hs.2 with ⟨note, hnote, hstale⟩
    rw [Bool.and_eq_true, decide_eq_true_eq, List.any_eq_true] at hstale
    rcases hstale with ⟨hstatus, point, hpoint, hmatches⟩
    have hempty := (hconverged note hnote).2 (.inl hstatus) point hpoint
    rw [hmatches] at hempty
    cases hempty

end Elf
