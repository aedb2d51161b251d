import Elf.Docs.Lemmas
import Elf.Worker.DocIndexing

/-!
This module contains the convergence of the document index. Once every job is done, each chunk of an
active document has its point and no other chunk has one, provided that no worker writes a point against
the status of the document while no job is left to repair it.
-/

namespace Elf

variable {svc : DocsService} {vectorDim : Nat} {s s' : DocIndex} {db db' : DocStore}
  {attempt : DocAttempt} {job : DocIndexingOutboxEntry}

/-! ## What a chunk is owed -/

/-- Whether the document of a chunk is active. -/
def DocStore.activeChunk (db : DocStore) (chunkId : Uuid) : Bool :=
  (fetchDocChunkIndexRow db chunkId).any fun row => row.status = "active"

def DocStore.wantedOp (db : DocStore) (chunkId : Uuid) : OutboxOp :=
  if db.activeChunk chunkId then .upsert else .delete

/-- A chunk has a point exactly when its document is active. -/
def DocIndex.Agrees (s : DocIndex) (chunkId : Uuid) : Prop :=
  (s.points.find? chunkId).isSome = s.store.activeChunk chunkId

/-- A job that is not done and does `op` to a chunk. -/
def DocIndexingOutboxEntry.Repairs (job : DocIndexingOutboxEntry) (chunkId : Uuid) (op : OutboxOp)
    : Prop :=
  job.chunkId = chunkId ∧ job.op = op ∧ job.status ≠ .done

/-- The handler of the job has come to its end. -/
def DocAttempt.Through (attempt : DocAttempt) : Prop := attempt.phase = .handled (.ok ())

/-- A job that is not done repairs the point of a chunk, and no worker is through with it. -/
def DocIndex.Repaired (s : DocIndex) (chunkId : Uuid) (op : OutboxOp) : Prop :=
  Owed DocAttempt.outboxId s.store.outbox s.attempts (fun job => job.Repairs chunkId op)
    fun attempt => ¬ attempt.Through

/-- Each chunk has what it should have, or will get it. -/
def DocIndex.Repairing (s : DocIndex) : Prop :=
  ∀ chunkId, s.Agrees chunkId ∨ s.Repaired chunkId (s.store.wantedOp chunkId)

/-! ## Soundness of the attempts -/

/-- The row that a worker read. -/
def DocPhase.row : DocPhase → Option DocChunkIndexRow
  | .fetched row | .embedded row _ => some row
  | .claimed | .handled _ => none

/-- What an attempt repeats of its job. -/
structure DocAttempt.Of (attempt : DocAttempt) (job : DocIndexingOutboxEntry) : Prop where
  outboxId : job.outboxId = attempt.outboxId
  chunkId : job.chunkId = attempt.job.chunkId
  op : job.op = attempt.job.op

structure DocIndex.Sound (svc : DocsService) (s : DocIndex) : Prop where
  store : s.store.Sound svc
  known : ∀ worker attempt, s.attempts worker = some attempt → ∃ job ∈ s.store.outbox, attempt.Of job
  row : ∀ worker attempt row, s.attempts worker = some attempt → attempt.phase.row = some row →
    row.chunkId = attempt.job.chunkId ∧ attempt.job.op = .upsert

theorem DocIndex.Sound.of_job (h : s.Sound svc) (ha : s.attempts worker = some attempt)
    (hjob : job ∈ s.store.outbox) (hid : job.outboxId = attempt.outboxId) : attempt.Of job := by
  rcases h.known worker attempt ha with ⟨job', hjob', hof⟩
  rw [s.store.outbox.eq_of_key_eq hjob hjob' (hid.trans hof.outboxId.symm)]
  exact hof

theorem DocIndex.Sound.attempts_known (h : s.Sound svc)
    : s.attempts.Known DocAttempt.outboxId s.store.outbox := by
  intro worker attempt ha
  rcases h.known worker attempt ha with ⟨job, hjob, hof⟩
  exact ⟨job, hjob, hof.outboxId⟩

/-! ## Chunks that a request does not touch -/

theorem fetchDocChunkIndexRow_congr (hchunk : db'.chunks.find? chunkId = db.chunks.find? chunkId)
    (hdoc : ∀ chunk, db.chunks.find? chunkId = some chunk →
      db'.documents.find? chunk.docId = db.documents.find? chunk.docId)
    : fetchDocChunkIndexRow db' chunkId = fetchDocChunkIndexRow db chunkId := by
  unfold fetchDocChunkIndexRow
  rw [hchunk]
  cases hfind : db.chunks.find? chunkId with
  | none => rfl
  | some chunk =>
    show (db'.documents.find? chunk.docId).bind _ = (db.documents.find? chunk.docId).bind _
    rw [hdoc chunk hfind]

/-- A chunk of a document that is left alone. -/
theorem DocStore.activeChunk_of_not_mem (docId : Uuid)
    (hchunk : db'.chunks.find? chunkId = db.chunks.find? chunkId)
    (hdoc : ∀ id ≠ docId, db'.documents.find? id = db.documents.find? id)
    (hother : ∀ chunk, db'.chunks.find? chunkId = some chunk → chunk.docId ≠ docId)
    : db'.activeChunk chunkId = db.activeChunk chunkId := by
  unfold DocStore.activeChunk
  rw [fetchDocChunkIndexRow_congr hchunk]
  intro chunk hfind
  rw [← hchunk] at hfind
  exact hdoc _ (hother chunk hfind)

theorem activeChunk_of_find (hchunk : db.chunks.find? chunkId = some chunk)
    (hdoc : db.documents.find? chunk.docId = some doc)
    : db.activeChunk chunkId = decide (doc.status = "active") := by
  unfold DocStore.activeChunk fetchDocChunkIndexRow
  rw [hchunk]
  show Option.any _ ((db.documents.find? chunk.docId).bind _) = _
  rw [hdoc]
  rfl

theorem DocStore.activeChunk_congr (hdocs : db'.documents = db.documents) (hchunks : db'.chunks = db.chunks)
    : db'.activeChunk chunkId = db.activeChunk chunkId := by
  unfold DocStore.activeChunk fetchDocChunkIndexRow
  rw [hdocs, hchunks]

theorem DocIndex.Agrees.congr (hdocs : s'.store.documents = s.store.documents)
    (hchunks : s'.store.chunks = s.store.chunks) (hpoints : s'.points.find? chunkId = s.points.find? chunkId)
    (h : s.Agrees chunkId) : s'.Agrees chunkId := by
  unfold DocIndex.Agrees at h ⊢
  rw [hpoints, DocStore.activeChunk_congr hdocs hchunks]
  exact h

theorem DocStore.wantedOp_congr (hactive : db'.activeChunk chunkId = db.activeChunk chunkId)
    : db'.wantedOp chunkId = db.wantedOp chunkId := by
  unfold DocStore.wantedOp
  rw [hactive]

/-! ## Requests -/

/-- What a request does to one chunk: nothing, or a job is enqueued that does what the chunk wants. -/
inductive ChunkRequested (db db' : DocStore) (chunkId : Uuid) : Prop where
  | untouched (active : db'.activeChunk chunkId = db.activeChunk chunkId)
  | enqueued (jobs : List DocIndexingOutboxEntry) (rows : db'.outbox.rows = db.outbox.rows ++ jobs)
    (job : DocIndexingOutboxEntry) (mem : job ∈ jobs)
    (repairs : job.Repairs chunkId (db'.wantedOp chunkId))

theorem Enqueues.mem {chunks : List DocChunk} (h : db.Enqueues db' op embeddingVersion chunks)
    (hchunk : chunk ∈ chunks)
    : ∃ jobs, db'.outbox.rows = db.outbox.rows ++ jobs
      ∧ ∃ job ∈ jobs, IndexJob op embeddingVersion job chunk := by
  rcases h with ⟨jobs, hrows, hjobs⟩
  refine ⟨jobs, hrows, ?_⟩
  clear hrows
  induction hjobs with
  | nil => cases hchunk
  | cons hjob htail ih =>
    rcases List.mem_cons.mp hchunk with rfl | hchunk
    . exact ⟨_, List.mem_cons_self, hjob⟩
    . rcases ih hchunk with ⟨job, hmem, hindex⟩
      exact ⟨job, List.mem_cons_of_mem _ hmem, hindex⟩

theorem ChunkRequested.of_enqueues {chunks : List DocChunk}
    (h : db.Enqueues db' op embeddingVersion chunks) (hchunk : chunk ∈ chunks)
    (hwanted : db'.wantedOp chunk.chunkId = op) : ChunkRequested db db' chunk.chunkId := by
  rcases Enqueues.mem h hchunk with ⟨jobs, hrows, job, hmem, hindex⟩
  refine .enqueued jobs hrows job hmem ⟨hindex.chunkId, ?_, ?_⟩
  . rw [hwanted, hindex.op]
  . rw [hindex.status]
    decide

theorem DocPut.requested {type : DocType} {pieces : List ByteChunk} {doc row : DocDocument}
    (h : DocPut svc db db' req now type pieces doc row) (hdb : db.Sound svc) (chunkId : Uuid)
    : ChunkRequested db db' chunkId := by
  have hrow : db'.documents.find? doc.docId = some row := by
    rw [h.find, if_pos rfl]
  by_cases htouched : ∃ chunk ∈ db'.chunksOf doc.docId, chunk.chunkId = chunkId
  . rcases htouched with ⟨chunk, hmem, rfl⟩
    have hchunks : (db'.chunksOf doc.docId).map DocChunk.uncreated
        = (buildDocChunkRows svc doc.docId pieces now).map DocChunk.uncreated := by
      rcases (h.row_split hdb) with ⟨pieces', hsplit, hchunks⟩
      rcases h.prepared with ⟨rows, hprepared, rfl⟩
      rw [h.row_same.1, hprepared.content, hprepared.split] at hsplit
      cases hsplit
      rw [h.row_docId] at hchunks
      rw [hchunks]
      exact (buildDocChunkRowsFrom_uncreated _ now 0 _).symm
    have hbuilt : chunk.uncreated ∈ (buildDocChunkRows svc doc.docId pieces now).map DocChunk.uncreated := by
      rw [← hchunks]
      exact List.mem_map_of_mem hmem
    rcases List.mem_map.mp hbuilt with ⟨built, hbuilt, heq⟩
    have hid : built.uncreated.chunkId = chunk.uncreated.chunkId := by rw [heq]
    change built.chunkId = chunk.chunkId at hid
    rw [← hid]
    apply ChunkRequested.of_enqueues h.jobs hbuilt
    have hdoc : chunk.docId = doc.docId := by simpa using (List.mem_filter.mp hmem).2
    have hfind := db'.chunks.find?_key (List.mem_filter.mp hmem).1
    rw [← hdoc] at hrow
    unfold DocStore.wantedOp
    rw [hid, activeChunk_of_find hfind hrow, if_pos]
    rcases h.row_same with ⟨-, -, -, -, -, -, -, -, hstatus⟩
    rcases h.prepared with ⟨rows, hprepared, rfl⟩
    rw [hstatus, hprepared.status]
    decide
  . refine .untouched (DocStore.activeChunk_of_not_mem doc.docId ?_ ?_ ?_)
    . rcases h.chunkRows with ⟨-, -, hsame⟩ | ⟨-, happend⟩
      . rw [hsame]
      . apply Table.find?_append_of_ne happend
        intro chunk hmem hid
        apply htouched
        refine ⟨chunk, ?_, hid⟩
        rw [chunksOf_append happend, List.mem_append, List.mem_filter]
        exact .inr ⟨hmem, by simpa using mem_buildDocChunkRows_stored hmem⟩
    . intro docId hne
      rw [h.find, if_neg (Ne.symm hne)]
    . intro chunk hfind hdoc
      apply htouched
      refine ⟨chunk, ?_, Table.key_of_find? hfind⟩
      unfold DocStore.chunksOf
      rw [List.mem_filter]
      exact ⟨Table.mem_of_find? hfind, by simpa using hdoc⟩

theorem DocDeleted.requested (h : DocDeleted svc db db' docId) (chunkId : Uuid)
    : ChunkRequested db db' chunkId := by
  cases h with
  | already row find deleted same =>
    rw [same]
    exact .untouched rfl
  | now row sourceRef now agentId find lifecycle written chunks jobs =>
    by_cases htouched : ∃ chunk ∈ listDocChunks db docId, chunk.chunkId = chunkId
    . rcases htouched with ⟨chunk, hmem, rfl⟩
      apply ChunkRequested.of_enqueues jobs hmem
      unfold listDocChunks at hmem
      rw [List.mem_insertionSort, List.mem_filter] at hmem
      have hdoc : chunk.docId = docId := by simpa using hmem.2
      have hfind := db.chunks.find?_key hmem.1
      rw [← chunks] at hfind
      have hrow := written chunk.docId
      rw [if_pos hdoc.symm] at hrow
      unfold DocStore.wantedOp
      rw [activeChunk_of_find hfind hrow]
      rfl
    . refine .untouched (DocStore.activeChunk_of_not_mem docId ?_ ?_ ?_)
      . rw [chunks]
      . intro id hne
        rw [written, if_neg (Ne.symm hne)]
      . intro chunk hfind hdoc
        apply htouched
        refine ⟨chunk, ?_, Table.key_of_find? hfind⟩
        unfold listDocChunks
        rw [chunks] at hfind
        rw [List.mem_insertionSort, List.mem_filter]
        exact ⟨Table.mem_of_find? hfind, by simpa using hdoc⟩

theorem DocOp.outbox_rows (hdb : db.Sound svc) (draw : DocsDraw) (op : DocOp)
    : ∃ jobs, (op.exec svc draw db).outbox.rows = db.outbox.rows ++ jobs := by
  rcases DocOp.exec_cases hdb draw op with hsame | ⟨_, _, _, _, _, -, hput⟩ | ⟨_, -, hdelete⟩
  . rw [hsame]
    exact ⟨[], by simp⟩
  . rcases hput.jobs with ⟨jobs, hrows, -⟩
    exact ⟨jobs, hrows⟩
  . cases hdelete with
    | already row find deleted same =>
      rw [same]
      exact ⟨[], by simp⟩
    | now row sourceRef now agentId find lifecycle written chunks jobs =>
      rcases jobs with ⟨jobs, hrows, -⟩
      exact ⟨jobs, hrows⟩

theorem DocOp.requested (hdb : db.Sound svc) (draw : DocsDraw) (op : DocOp) (chunkId : Uuid)
    : ChunkRequested db (op.exec svc draw db) chunkId := by
  rcases DocOp.exec_cases hdb draw op with hsame | ⟨_, _, _, _, _, -, hput⟩ | ⟨_, -, hdelete⟩
  . rw [hsame]
    exact .untouched rfl
  . exact hput.requested hdb chunkId
  . exact hdelete.requested chunkId

/-! ## Steps of the workers -/

/-- What the steps of a worker leave of the tables. -/
structure DocStore.SameRows (db db' : DocStore) : Prop where
  documents : db'.documents = db.documents
  chunks : db'.chunks = db.chunks

theorem DocStore.SameRows.activeChunk (h : db.SameRows db') (chunkId : Uuid)
    : db'.activeChunk chunkId = db.activeChunk chunkId := by
  exact DocStore.activeChunk_congr h.documents h.chunks

theorem DocStore.SameRows.sound (h : db.SameRows db') (hdb : db.Sound svc) : db'.Sound svc where
  document docId doc hfind := by
    rw [h.documents] at hfind
    rcases hdb.document docId doc hfind with ⟨type, hsound, pieces, hsplit, hchunks⟩
    refine ⟨type, hsound, pieces, hsplit, ?_⟩
    rw [chunksOf_congr h.chunks]
    exact hchunks
  chunk chunk hchunk := by
    rw [h.chunks] at hchunk
    rw [h.documents]
    exact hdb.chunk chunk hchunk

theorem not_through_failed (attempt : DocAttempt) (err : WorkerError)
    : ¬ (attempt.failed err).Through := by
  unfold DocAttempt.Through DocAttempt.failed
  simp

theorem DocAttempt.fetch_job (attempt : DocAttempt) (db : DocStore)
    : (attempt.fetch db).job = attempt.job := by
  unfold DocAttempt.fetch
  split
  . rfl
  . split
    . rfl
    . rfl

/-- The row that is read is that of the chunk. -/
theorem fetchDocChunkIndexRow_chunkId (h : fetchDocChunkIndexRow db chunkId = some row)
    : row.chunkId = chunkId := by
  unfold fetchDocChunkIndexRow at h
  rcases Option.bind_eq_some_iff.mp h with ⟨chunk, hchunk, h⟩
  rcases Option.bind_eq_some_iff.mp h with ⟨doc, hdoc, hpure⟩
  cases hpure
  exact Table.key_of_find? (a := chunk) hchunk

theorem DocAttempt.fetch_row (h : (attempt.fetch db).phase.row = some row)
    : row.chunkId = attempt.job.chunkId := by
  unfold DocAttempt.fetch at h
  split at h
  . cases h
  next found hfound =>
    split at h
    . cases h
    . cases h
      exact fetchDocChunkIndexRow_chunkId hfound

/-- The handler goes on where the document is active. -/
theorem DocAttempt.fetch_not_through (attempt : DocAttempt)
    (h : db.activeChunk attempt.job.chunkId = true)
    : ¬ (attempt.fetch db).Through := by
  unfold DocStore.activeChunk at h
  unfold DocAttempt.fetch DocAttempt.Through
  cases hfetch : fetchDocChunkIndexRow db attempt.job.chunkId with
  | none =>
    rw [hfetch] at h
    cases h
  | some row =>
    rw [hfetch, Option.any_some, decide_eq_true_eq] at h
    have hactive : row.status.toLower = "active" := by
      rw [h]
      decide +kernel
    simp [hactive]

/-- The columns of a job that never change. -/
structure DocIndexingOutboxEntry.SameJob (job job' : DocIndexingOutboxEntry) : Prop where
  outboxId : job'.outboxId = job.outboxId
  chunkId : job'.chunkId = job.chunkId
  op : job'.op = job.op

theorem claimNextDocIndexingOutboxJob_spec {outbox outbox' : DocOutbox}
    {job : DocIndexingOutboxEntry}
    (h : claimNextDocIndexingOutboxJob outbox now lease locked = some (job, outbox'))
    : ∃ row ∈ outbox, row.SameJob job ∧ outbox' = outbox.modify row.outboxId fun row => { row with
        status := .claimed
        availableAt := timestamptz (now + seconds lease)
        updatedAt := timestamptz now } := by
  unfold claimNextDocIndexingOutboxJob at h
  rcases Option.bind_eq_some_iff.mp h with ⟨row, hrow, hpure⟩
  cases hpure
  exact ⟨row, (Table.earliest_spec hrow).1, ⟨rfl, rfl, rfl⟩, rfl⟩

namespace DocIndex

/-- A worker goes on with its job. -/
structure Advanced (s s' : DocIndex) (worker : Nat) (attempt next : DocAttempt) : Prop where
  rows : s.store.SameRows s'.store
  outbox : s'.store.outbox = s.store.outbox
  found : s.attempts worker = some attempt
  attempts : s'.attempts = s.attempts.set worker (some next)
  job : next.job = attempt.job
  row : ∀ row, next.phase.row = some row →
    row.chunkId = attempt.job.chunkId ∧ attempt.job.op = .upsert

/-- What a step does. -/
inductive Stepped (svc : DocsService) (s s' : DocIndex) : DocIndexAction → Prop where
  | request (draw : DocsDraw) (op : DocOp) (store : s'.store = op.exec svc draw s.store)
    (points : s'.points = s.points) (attempts : s'.attempts = s.attempts)
    : Stepped svc s s' (.request draw op)
  | claimed (worker now : Nat) (locked : List Uuid) (row job : DocIndexingOutboxEntry)
    (mem : row ∈ s.store.outbox) (same : row.SameJob job) (rows : s.store.SameRows s'.store)
    (outbox : s'.store.outbox = s.store.outbox.modify row.outboxId fun row => { row with
      status := .claimed
      availableAt := timestamptz (now + seconds claimLeaseSeconds)
      updatedAt := timestamptz now })
    (points : s'.points = s.points)
    (attempts : s'.attempts = s.attempts.set worker (some ⟨job, .claimed⟩))
    : Stepped svc s s' (.claim worker now locked)
  | handled (worker : Nat) (attempt next : DocAttempt) (advanced : s.Advanced s' worker attempt next)
    (points : s'.points = s.points)
    (through : next.Through → attempt.Through ∨ attempt.job.op = .upsert
      ∧ s.store.activeChunk attempt.job.chunkId = false)
    : Stepped svc s s' a
  | written (worker : Nat) (attempt next : DocAttempt) (advanced : s.Advanced s' worker attempt next)
    (points : ∀ chunkId, (s'.points.find? chunkId).isSome
      = if attempt.job.chunkId = chunkId then decide (attempt.job.op = .upsert)
        else (s.points.find? chunkId).isSome)
    : Stepped svc s s' (.write worker)
  | settled (worker now : Nat) (attempt : DocAttempt) (found : s.attempts worker = some attempt)
    (rows : s.store.SameRows s'.store) (points : s'.points = s.points)
    (attempts : s'.attempts = s.attempts.set worker none)
    (outbox : (attempt.Through
        ∧ s'.store.outbox = markDocIndexingOutboxDone s.store.outbox attempt.outboxId now)
      ∨ s'.store.outbox = markDocFailed s.store.outbox attempt.job now)
    : Stepped svc s s' (.settle worker now)
  | crashed (worker : Nat) (store : s'.store = s.store) (points : s'.points = s.points)
    (attempts : s'.attempts = s.attempts.set worker none) : Stepped svc s s' (.crash worker)

theorem claim_stepped (h : s.claim worker now locked = some s')
    : Stepped svc s s' (.claim worker now locked) := by
  unfold claim at h
  rcases Option.bind_eq_some_iff.mp h with ⟨_, -, h⟩
  rcases Option.bind_eq_some_iff.mp h with ⟨⟨job, outbox⟩, hclaim, hpure⟩
  cases hpure
  rcases claimNextDocIndexingOutboxJob_spec hclaim with ⟨row, hrow, hsame, rfl⟩
  exact .claimed worker now locked row job hrow hsame ⟨rfl, rfl⟩ rfl rfl rfl

theorem fetch_stepped (h : s.fetch worker = some s') : Stepped svc s s' (.fetch worker) := by
  unfold fetch at h
  split at h
  next job ha =>
    cases hop : job.op with
    | delete =>
      rw [hop] at h
      cases h
    | upsert =>
      rw [hop] at h
      cases h
      refine .handled worker ⟨job, .claimed⟩ _ ⟨⟨rfl, rfl⟩, rfl, ha, rfl, ?_, ?_⟩ rfl ?_
      . exact DocAttempt.fetch_job _ _
      . intro row hrow
        exact ⟨DocAttempt.fetch_row hrow, hop⟩
      . intro hthrough
        refine .inr ⟨hop, ?_⟩
        rw [Bool.eq_false_iff]
        intro hactive
        exact DocAttempt.fetch_not_through ⟨job, .claimed⟩ hactive hthrough
  . cases h

theorem embed_stepped (hs : s.Sound svc) (h : s.embed vectorDim worker vectors = some s')
    : Stepped svc s s' (.embed worker vectors) := by
  unfold embed at h
  split at h
  next job row ha =>
    split at h
    next vector hvector =>
      cases h
      refine .handled worker ⟨job, .fetched row⟩ _ ⟨⟨rfl, rfl⟩, rfl, ha, rfl, rfl, ?_⟩ rfl ?_
      . intro row' hrow
        cases hrow
        exact hs.row worker _ row ha rfl
      . intro hthrough
        cases hthrough
    next err hvector =>
      cases h
      refine .handled worker ⟨job, .fetched row⟩ _ ⟨⟨rfl, rfl⟩, rfl, ha, rfl, rfl, ?_⟩ rfl ?_
      . intro row' hrow
        cases hrow
      . intro hthrough
        cases hthrough
  . cases h

theorem write_stepped (hs : s.Sound svc) (h : s.write svc worker = some s')
    : Stepped svc s s' (.write worker) := by
  unfold write at h
  split at h
  next job ha =>
    cases hop : job.op with
    | upsert =>
      rw [hop] at h
      cases h
    | delete =>
      rw [hop] at h
      cases h
      refine .written worker ⟨job, .claimed⟩ _ ⟨⟨rfl, rfl⟩, rfl, ha, rfl, rfl, ?_⟩ ?_
      . intro row hrow
        cases hrow
      . intro chunkId
        dsimp only
        rw [Table.find?_deleteWhere, hop]
        split
        next hid =>
          subst hid
          cases hfind : s.points.find? job.chunkId with
          | none => rfl
          | some point =>
            have hkey : point.chunkId = job.chunkId := Table.key_of_find? hfind
            simp [hkey]
        next hid =>
          cases hfind : s.points.find? chunkId with
          | none => rfl
          | some point =>
            have hkey : point.chunkId = chunkId := Table.key_of_find? hfind
            have hne : point.chunkId ≠ job.chunkId := by
              rw [hkey]
              exact fun heq => hid heq.symm
            simp [hne]
  next job row vector ha =>
    cases h
    rcases hs.row worker _ row ha rfl with ⟨hid, hop⟩
    dsimp only at hid hop
    refine .written worker ⟨job, .embedded row vector⟩ _ ⟨⟨rfl, rfl⟩, rfl, ha, rfl, rfl, ?_⟩ ?_
    . intro row' hrow
      cases hrow
    . intro chunkId
      dsimp only
      rw [Table.find?_replace, hop, ← hid]
      show Option.isSome (if row.chunkId = chunkId then _ else _) = _
      split
      . rfl
      . rfl
  . cases h

theorem fail_stepped (h : s.fail worker err = some s') : Stepped svc s s' (.fail worker err) := by
  unfold fail at h
  rcases Option.bind_eq_some_iff.mp h with ⟨attempt, ha, hpure⟩
  cases hpure
  refine .handled worker attempt _ ⟨⟨rfl, rfl⟩, rfl, ha, rfl, rfl, ?_⟩ rfl ?_
  . intro row hrow
    cases hrow
  . intro hthrough
    exact (not_through_failed attempt err hthrough).elim

theorem settle_stepped (h : s.settle worker now = some s') : Stepped svc s s' (.settle worker now) := by
  unfold settle at h
  split at h
  next job result ha =>
    cases h
    refine .settled worker now ⟨job, .handled result⟩ ha ⟨rfl, rfl⟩ rfl rfl ?_
    cases result with
    | ok u => exact .inl ⟨rfl, rfl⟩
    | error err => exact .inr rfl
  . cases h

theorem step_stepped (hs : s.Sound svc) (h : DocIndexSteps svc vectorDim s a s')
    : Stepped svc s s' a := by
  unfold DocIndexSteps step at h
  cases a with
  | request draw op =>
    cases h
    exact .request draw op rfl rfl rfl
  | claim worker now locked => exact claim_stepped h
  | fetch worker => exact fetch_stepped h
  | embed worker vectors => exact embed_stepped hs h
  | write worker => exact write_stepped hs h
  | fail worker err => exact fail_stepped h
  | settle worker now => exact settle_stepped h
  | crash worker =>
    cases h
    exact .crashed worker rfl rfl rfl

/-! ## Preservation -/

theorem Sound.of_attempts (hs : s.Sound svc) (hstore : s'.store.Sound svc)
    (hknown : ∀ attempt : DocAttempt, (∃ job ∈ s.store.outbox, attempt.Of job) →
      ∃ job ∈ s'.store.outbox, attempt.Of job)
    (hattempts : ∀ worker attempt, s'.attempts worker = some attempt →
      s.attempts worker = some attempt ∨ (∃ job ∈ s'.store.outbox, attempt.Of job)
        ∧ ∀ row, attempt.phase.row = some row → row.chunkId = attempt.job.chunkId
          ∧ attempt.job.op = .upsert) : s'.Sound svc where
  store := hstore
  known worker attempt ha := by
    rcases hattempts worker attempt ha with hold | ⟨hof, -⟩
    . exact hknown attempt (hs.known worker attempt hold)
    . exact hof
  row worker attempt row ha hrow := by
    rcases hattempts worker attempt ha with hold | ⟨-, hnew⟩
    . exact hs.row worker attempt row hold hrow
    . exact hnew row hrow

theorem Advanced.sound (h : s.Advanced s' worker attempt next) (hs : s.Sound svc) : s'.Sound svc := by
  apply hs.of_attempts (h.rows.sound hs.store)
  . intro other hof
    rw [h.outbox]
    exact hof
  . intro other a ha
    rw [h.attempts] at ha
    rcases Attempts.eq_some_set ha with heq | ha
    . cases heq
      refine .inr ⟨?_, ?_⟩
      . rw [h.outbox]
        rcases hs.known worker attempt h.found with ⟨job, hmem, hid, hchunk, hop⟩
        refine ⟨job, hmem, ?_, ?_, ?_⟩
        . rw [hid]
          unfold DocAttempt.outboxId
          rw [h.job]
        . rw [hchunk, h.job]
        . rw [hop, h.job]
      . rw [h.job]
        exact h.row
    . exact .inl ha

/-- An attempt is still one at its job when the job is updated. -/
theorem known_modify (outbox : DocOutbox) (f : DocIndexingOutboxEntry → DocIndexingOutboxEntry)
    (hsame : ∀ job : DocIndexingOutboxEntry, job.SameJob (f job)) (k : Uuid) (attempt : DocAttempt)
    (h : ∃ job ∈ outbox, attempt.Of job)
    : ∃ job ∈ outbox.modify k f fun job => (hsame job).outboxId, attempt.Of job := by
  rcases h with ⟨job, hmem, hof⟩
  refine ⟨if job.outboxId = k then f job else job, ?_, ?_⟩
  . rw [Table.mem_modify]
    exact ⟨job, hmem, rfl⟩
  . split
    . have hjob := hsame job
      refine ⟨?_, ?_, ?_⟩
      . rw [hjob.outboxId, hof.outboxId]
      . rw [hjob.chunkId, hof.chunkId]
      . rw [hjob.op, hof.op]
    . exact hof

theorem settled_known
    (outbox : (attempt.Through
        ∧ s'.store.outbox = markDocIndexingOutboxDone s.store.outbox attempt.outboxId now)
      ∨ s'.store.outbox = markDocFailed s.store.outbox attempt.job now)
    (other : DocAttempt) (h : ∃ job ∈ s.store.outbox, other.Of job)
    : ∃ job ∈ s'.store.outbox, other.Of job := by
  rcases outbox with ⟨-, houtbox⟩ | houtbox
  . rw [houtbox]
    apply known_modify _ _ _ _ _ h
    intro job
    exact ⟨rfl, rfl, rfl⟩
  . rw [houtbox]
    apply known_modify _ _ _ _ _ h
    intro job
    exact ⟨rfl, rfl, rfl⟩

theorem Stepped.sound (h : Stepped svc s s' a) (hs : s.Sound svc) : s'.Sound svc := by
  cases h with
  | request draw op store points attempts =>
    apply hs.of_attempts
    . rw [store]
      exact DocSteps.sound (a := (draw, op)) rfl hs.store
    . rintro attempt ⟨job, hmem, hof⟩
      rcases DocOp.outbox_rows hs.store draw op with ⟨jobs, hrows⟩
      refine ⟨job, ?_, hof⟩
      rw [store, Table.mem_def, hrows]
      exact List.mem_append_left jobs hmem
    . intro worker attempt ha
      rw [attempts] at ha
      exact .inl ha
  | claimed worker now locked row job mem same rows outbox points attempts =>
    have hmodify := known_modify s.store.outbox (fun row => { row with
      status := .claimed
      availableAt := timestamptz (now + seconds claimLeaseSeconds)
      updatedAt := timestamptz now }) (fun _ => ⟨rfl, rfl, rfl⟩) row.outboxId
    rw [← outbox] at hmodify
    apply hs.of_attempts (rows.sound hs.store) hmodify
    intro other a ha
    rw [attempts] at ha
    rcases Attempts.eq_some_set ha with heq | ha
    . cases heq
      refine .inr ⟨?_, ?_⟩
      . exact hmodify _ ⟨row, mem, same.outboxId.symm, same.chunkId.symm, same.op.symm⟩
      . intro found hfound
        cases hfound
    . exact .inl ha
  | handled worker attempt next advanced points through => exact advanced.sound hs
  | written worker attempt next advanced points => exact advanced.sound hs
  | settled worker now attempt found rows points attempts outbox =>
    apply hs.of_attempts (rows.sound hs.store) (settled_known outbox)
    intro other a ha
    rw [attempts] at ha
    rcases Attempts.eq_some_set ha with heq | ha
    . cases heq
    . exact .inl ha
  | crashed worker store points attempts =>
    apply hs.of_attempts
    . rw [store]
      exact hs.store
    . intro attempt hof
      rw [store]
      exact hof
    . intro other a ha
      rw [attempts] at ha
      rcases Attempts.eq_some_set ha with heq | ha
      . cases heq
      . exact .inl ha

/-- A step that leaves the tables and the points keeps what the jobs repair. -/
theorem Repairing.of_same (h : s.Repairing) (hrows : s.store.SameRows s'.store)
    (hpoints : s'.points = s.points)
    (hrepaired : ∀ chunkId, s.Repaired chunkId (s.store.wantedOp chunkId) →
      s'.Repaired chunkId (s.store.wantedOp chunkId)) : s'.Repairing := by
  intro chunkId
  rw [DocStore.wantedOp_congr (hrows.activeChunk chunkId)]
  rcases h chunkId with hagrees | howed
  . refine .inl (hagrees.congr hrows.documents hrows.chunks ?_)
    rw [hpoints]
  . exact .inr (hrepaired chunkId howed)

/-- A worker goes on with its job, and is not through with one that is wanted. -/
theorem Advanced.repaired (h : s.Advanced s' worker attempt next) (hs : s.Sound svc)
    (hnext : attempt.job.chunkId = chunkId → attempt.job.op = op → ¬ attempt.Through → ¬ next.Through)
    (howed : s.Repaired chunkId op) : s'.Repaired chunkId op := by
  unfold Repaired
  rw [h.outbox, h.attempts]
  apply Owed.advance h.found _ _ howed
  . unfold DocAttempt.outboxId
    rw [h.job]
  . intro row hmem hrepairs hkey
    have hof := hs.of_job h.found hmem hkey
    apply hnext
    . rw [← hof.chunkId, hrepairs.1]
    . rw [← hof.op, hrepairs.2.1]

/-- What a worker may write: what the chunk wants now, or something that a job repairs. -/
def Timely (s : DocIndex) : DocIndexAction → Prop
  | .write worker => ∀ attempt, s.attempts worker = some attempt →
    attempt.job.op = s.store.wantedOp attempt.job.chunkId
      ∨ s.Repaired attempt.job.chunkId (s.store.wantedOp attempt.job.chunkId)
  | _ => True

theorem agrees_of_wanted (hwanted : op = s.store.wantedOp chunkId)
    (hpoint : (s'.points.find? chunkId).isSome = decide (op = .upsert))
    (hrows : s.store.SameRows s'.store) : s'.Agrees chunkId := by
  unfold Agrees
  rw [hpoint, hwanted, hrows.activeChunk]
  unfold DocStore.wantedOp
  cases s.store.activeChunk chunkId with
  | false => rfl
  | true => rfl

theorem Stepped.repairing (h : Stepped svc s s' a) (hs : s.Sound svc) (htimely : s.Timely a)
    (hrepairing : s.Repairing) : s'.Repairing := by
  cases h with
  | request draw op store points attempts =>
    intro chunkId
    have hrequested := DocOp.requested hs.store draw op chunkId
    rw [← store] at hrequested
    cases hrequested with
    | untouched active =>
      rw [DocStore.wantedOp_congr active]
      rcases hrepairing chunkId with hagrees | howed
      . left
        unfold Agrees at hagrees ⊢
        rw [points, active]
        exact hagrees
      . right
        rcases DocOp.outbox_rows hs.store draw op with ⟨jobs, hrows⟩
        rw [← store] at hrows
        unfold Repaired
        rw [attempts]
        exact howed.append hrows
    | enqueued jobs rows job mem repairs =>
      right
      unfold Repaired
      rw [attempts]
      exact Owed.fresh hs.attempts_known rows mem repairs
  | claimed worker now locked row job mem same rows outbox points attempts =>
    apply hrepairing.of_same rows points
    intro chunkId howed
    unfold Repaired
    rw [outbox, attempts]
    apply Owed.modify
    . rintro other ⟨hchunk, hop, -⟩ -
      exact ⟨hchunk, hop, by simp⟩
    . apply howed.start worker
      simp [DocAttempt.Through]
  | handled worker attempt next advanced points through =>
    apply hrepairing.of_same advanced.rows points
    intro chunkId howed
    apply advanced.repaired hs _ howed
    intro hchunk hop hnot hthrough
    rcases through hthrough with hold | ⟨hupsert, hinactive⟩
    . exact hnot hold
    . rw [hchunk] at hinactive
      unfold DocStore.wantedOp at hop
      rw [hupsert, hinactive] at hop
      cases hop
  | written worker attempt next advanced points =>
    intro chunkId
    rw [DocStore.wantedOp_congr (advanced.rows.activeChunk chunkId)]
    have hpoint := points chunkId
    by_cases hchunk : attempt.job.chunkId = chunkId
    . subst hchunk
      rw [if_pos rfl] at hpoint
      by_cases hwanted : attempt.job.op = s.store.wantedOp attempt.job.chunkId
      . exact .inl (agrees_of_wanted hwanted hpoint advanced.rows)
      . have howed := (htimely attempt advanced.found).resolve_left hwanted
        right
        apply advanced.repaired hs _ howed
        intro _ hop
        exact (hwanted hop).elim
    . rw [if_neg hchunk] at hpoint
      rcases hrepairing chunkId with hagrees | howed
      . left
        unfold Agrees at hagrees ⊢
        rw [hpoint, advanced.rows.activeChunk]
        exact hagrees
      . right
        apply advanced.repaired hs _ howed
        intro hid
        exact (hchunk hid).elim
  | settled worker now attempt found rows points attempts outbox =>
    apply hrepairing.of_same rows points
    intro chunkId howed
    unfold Repaired
    rw [attempts]
    rcases outbox with ⟨hthrough, houtbox⟩ | houtbox
    . rw [houtbox]
      apply howed.settle found
      intro row hrow hnot
      exact (hnot hthrough).elim
    . rw [houtbox]
      unfold markDocFailed markDocIndexingOutboxFailed
      apply howed.settle found
      rintro row ⟨hchunk, hop, -⟩ -
      exact ⟨hchunk, hop, by simp⟩
  | crashed worker store points attempts =>
    apply hrepairing.of_same ⟨by rw [store], by rw [store]⟩ points
    intro chunkId howed
    unfold Repaired
    rw [store, attempts]
    exact howed.forget worker

end DocIndex

/-! ## Results -/

theorem DocStore.activeChunk_iff (db : DocStore) (chunkId : Uuid)
    : db.activeChunk chunkId = true ↔ ∃ chunk doc, db.chunks.find? chunkId = some chunk
      ∧ db.documents.find? chunk.docId = some doc ∧ doc.status = "active" := by
  constructor
  . intro h
    unfold DocStore.activeChunk fetchDocChunkIndexRow at h
    rw [Option.any_eq_true] at h
    rcases h with ⟨row, hrow, hactive⟩
    rcases Option.bind_eq_some_iff.mp hrow with ⟨chunk, hchunk, hrow⟩
    rcases Option.bind_eq_some_iff.mp hrow with ⟨doc, hdoc, hpure⟩
    cases hpure
    exact ⟨chunk, doc, hchunk, hdoc, by simpa using hactive⟩
  . rintro ⟨chunk, doc, hchunk, hdoc, hactive⟩
    rw [activeChunk_of_find hchunk hdoc, hactive]
    rfl

/-- One point for each chunk of an active document, and no other. -/
def DocIndex.Converged (s : DocIndex) : Prop :=
  ∀ chunkId, s.points.rows.countP (fun point => point.chunkId = chunkId)
    = if s.store.activeChunk chunkId then 1 else 0

theorem DocIndex.Repairing.converged (h : s.Repairing)
    (hdone : ∀ job ∈ s.store.outbox, job.status = .done) : s.Converged := by
  intro chunkId
  rw [Table.countP_key]
  rcases h chunkId with hagrees | ⟨job, hmem, hrepairs, -⟩
  . rw [hagrees]
  . exact (hrepairs.2.2 (hdone job hmem)).elim

theorem DocIndex.Repairing.empty : DocIndex.empty.Repairing := by
  intro chunkId
  exact .inl rfl

theorem DocIndex.Sound.empty (svc : DocsService) : DocIndex.empty.Sound svc where
  store := DocStore.Sound.empty svc
  known worker attempt ha := by cases ha
  row worker attempt row ha := by cases ha

/--
In every run whose workers write what the chunk wants at that time, or leave a job that repairs it, the
collection has converged as soon as all jobs are done.
-/
theorem doc_index_convergence (svc : DocsService) (vectorDim : Nat)
    (hrun : Run (Run.Guarded DocIndex.Timely (DocIndexSteps svc vectorDim)) .empty steps s)
    (hdone : ∀ job ∈ s.store.outbox, job.status = .done) : s.Converged := by
  have hinvariant : s.Sound svc ∧ s.Repairing := by
    apply hrun.invariant _ ⟨DocIndex.Sound.empty svc, DocIndex.Repairing.empty⟩
    rintro before a after ⟨hsound, hrepairing⟩ ⟨htimely, hstep⟩
    have hstepped := DocIndex.step_stepped hsound hstep
    exact ⟨hstepped.sound hsound, hstepped.repairing hsound htimely hrepairing⟩
  exact hinvariant.2.converged hdone

/-- A worker claims the next job at a time and does it. -/
def indexNextDoc (worker now : Nat) : List DocIndexAction :=
  [.claim worker now [], .fetch worker, .embed worker (.ok [[.fin 0]]), .write worker,
    .settle worker now]

def sampleDocId : Uuid :=
  (sampleDocsPut 7).docIdFor sampleDocsService .dev (sampleDocsPut 7).content

def putDoc (n : Nat) : DocIndexAction := .request (sampleDocsDraw n) (.put (sampleDocsPut 7))

def deleteDoc (n : Nat) : DocIndexAction :=
  .request (sampleDocsDraw n) (.delete ⟨"t", "p", "a", sampleDocId⟩)

/-- A write of what the chunk wants now. -/
def DocIndex.wantedWrite (s : DocIndex) : DocIndexAction → Bool
  | .write worker => (s.attempts worker).all fun attempt =>
    attempt.job.op = s.store.wantedOp attempt.job.chunkId
  | _ => true

theorem DocIndex.timely_of_wantedWrite (h : s.wantedWrite a = true) : s.Timely a := by
  unfold DocIndex.Timely
  split
  next worker =>
    intro attempt ha
    change Option.all _ (s.attempts worker) = true at h
    rw [ha, Option.all_some, decide_eq_true_eq] at h
    exact .inl h
  next => trivial

theorem doc_index_convergence_putDoc
    : ∃ s, Run (Run.Guarded DocIndex.Timely (DocIndexSteps sampleDocsService 1)) .empty
        (putDoc 1 :: indexNextDoc 0 2000000000) s
      ∧ s.points.rows.length = 1 ∧ s.Converged := by
  have heval : ((Run.eval (fun s a => if s.wantedWrite a then s.step sampleDocsService 1 a else none)
      .empty (putDoc 1 :: indexNextDoc 0 2000000000)).any fun s : DocIndex =>
        s.points.rows.length = 1 && s.store.outbox.rows.all fun job => job.status = .done) = true := by
    decide +kernel
  rw [Option.any_eq_true] at heval
  rcases heval with ⟨s, heval, hs⟩
  rw [Bool.and_eq_true, decide_eq_true_eq, List.all_eq_true] at hs
  have hrun : Run (Run.Guarded DocIndex.Timely (DocIndexSteps sampleDocsService 1)) .empty
      (putDoc 1 :: indexNextDoc 0 2000000000) s := by
    apply Run.of_eval _ heval
    intro before a after hstep
    rw [Option.ite_none_right_eq_some] at hstep
    exact ⟨DocIndex.timely_of_wantedWrite hstep.1, hstep.2⟩
  refine ⟨s, hrun, hs.1, doc_index_convergence sampleDocsService 1 hrun ?_⟩
  intro job hjob
  simpa using hs.2 job hjob

/-- The delete of a document fails, the document is put again and indexed, and the delete is retried. -/
def retriedDelete : List DocIndexAction :=
  putDoc 1 :: indexNextDoc 0 2000000000 ++ [deleteDoc 4, .claim 0 5000000000 [],
    .fail 0 (.message "unavailable"), .settle 0 5000000000, putDoc 5]
    ++ indexNextDoc 0 5200000000 ++ [.claim 0 6000000000 [], .write 0, .settle 0 6000000000]

theorem not_converged_retriedDelete
    : ∃ s, Run (DocIndexSteps sampleDocsService 1) .empty retriedDelete s
      ∧ (∀ job ∈ s.store.outbox, job.status = .done) ∧ ¬ s.Converged := by
  have heval : ((Run.eval (fun s a => s.step sampleDocsService 1 a) .empty retriedDelete).any
      fun s : DocIndex => (s.store.outbox.rows.all fun job => job.status = .done)
        && s.points.rows.isEmpty
        && s.store.activeChunk (docChunkIdFor sampleDocsService sampleDocId 0)) = true := by
    decide +kernel
  rw [Option.any_eq_true] at heval
  rcases heval with ⟨s, heval, hs⟩
  rw [Bool.and_eq_true, Bool.and_eq_true, List.all_eq_true, List.isEmpty_iff] at hs
  refine ⟨s, Run.of_eval (fun _ _ _ hstep => hstep) heval, ?_, ?_⟩
  . intro job hjob
    simpa using hs.1.1 job hjob
  . intro hconverged
    have hcount := hconverged (docChunkIdFor sampleDocsService sampleDocId 0)
    rw [hs.1.2, hs.2] at hcount
    cases hcount

end Elf
