import Elf.Docs.Service

/-!
This module contains what requests on documents do to the tables: the rows that a put prepares, what
its statements write, and the invariant that all of them keep.
-/

namespace Elf

open Text

variable {svc : DocsService} {db db' : DocStore} {doc row : DocDocument} {chunk : DocChunk}

/-! ## Chunks of a document -/

/-- The chunk but for the time it was stored at. -/
def DocChunk.uncreated (chunk : DocChunk) : DocChunk := { chunk with createdAt := 0 }

/-- What the configured splitter makes of a content. -/
def splitContent (svc : DocsService) (docType : DocType) (content : String)
    : Except Error (List ByteChunk) := do
  let tokenizer ← loadDocTokenizer svc
  splitTokensByOffsets content (resolveDocChunkingProfile docType) tokenizer

/-- The chunks of a document, in the order in which they were stored. -/
def DocStore.chunksOf (db : DocStore) (docId : Uuid) : List DocChunk :=
  db.chunks.rows.filter fun chunk => chunk.docId = docId

theorem buildDocChunkRowsFrom_uncreated (docId : Uuid) (now idx : Nat) (chunks : List ByteChunk)
    : (buildDocChunkRowsFrom svc docId now idx chunks).map DocChunk.uncreated
        = buildDocChunkRowsFrom svc docId 0 idx chunks := by
  induction chunks generalizing idx with
  | nil => rfl
  | cons chunk chunks ih =>
    unfold buildDocChunkRowsFrom
    rw [List.map_cons, ih]
    rfl

theorem buildDocChunkRowsFrom_spec (h : chunk ∈ buildDocChunkRowsFrom svc docId now idx chunks)
    : chunk.docId = docId ∧ idx ≤ chunk.chunkIndex
      ∧ chunk.chunkId = docChunkIdFor svc docId chunk.chunkIndex := by
  induction chunks generalizing idx with
  | nil => cases h
  | cons head chunks ih =>
    unfold buildDocChunkRowsFrom at h
    rcases List.mem_cons.mp h with rfl | h
    . exact ⟨rfl, le_refl idx, rfl⟩
    . rcases ih h with ⟨hdoc, hidx, hid⟩
      exact ⟨hdoc, by omega, hid⟩

theorem buildDocChunkRowsFrom_sorted (svc : DocsService) (docId : Uuid) (now idx : Nat)
    (chunks : List ByteChunk)
    : (buildDocChunkRowsFrom svc docId now idx chunks).Pairwise fun a b =>
        a.chunkIndex ≤ b.chunkIndex := by
  induction chunks generalizing idx with
  | nil => exact List.Pairwise.nil
  | cons chunk chunks ih =>
    unfold buildDocChunkRowsFrom
    apply List.Pairwise.cons
    . intro other hother
      have hidx := (buildDocChunkRowsFrom_spec hother).2.1
      exact Nat.le_of_succ_le hidx
    . exact ih (idx + 1)

/-- A list of chunks that are those of a document is in the order of their index. -/
theorem listDocChunks_eq (h : (db.chunksOf docId).map DocChunk.uncreated
      = buildDocChunkRows svc docId chunks now)
    : listDocChunks db docId = db.chunksOf docId := by
  unfold listDocChunks
  apply List.Pairwise.insertionSort_eq
  have hsorted := buildDocChunkRowsFrom_sorted svc docId now 0 chunks
  unfold buildDocChunkRows at h
  rw [← h, List.pairwise_map] at hsorted
  exact hsorted

/-! ## Preparation -/

/-- The type of document that a source reference is of. -/
def sourceRefDocType (sourceRef : Json) : Option DocType :=
  ((extractSourceRefString sourceRef "doc_type" (sourceRefPath "doc_type")).bind
    DocType.parse).toOption

/-- What the rows of a request are. -/
structure Prepared (svc : DocsService) (req : DocsPutRequest) (now : Nat) (rows : DocsPutRows)
    (docType : DocType) (chunks : List ByteChunk) : Prop where
  sourceType : sourceRefDocType req.sourceRef = some docType
  split : splitContent svc docType req.content = .ok chunks
  object : req.sourceRef.isObject = true
  docId : rows.document.docId = req.docIdFor svc docType req.content
  owner : rows.document.tenantId = req.tenantId
    ∧ rows.document.projectId = req.effectiveProjectId ∧ rows.document.agentId = req.agentId
  scope : rows.document.scope = req.scope
  docType : rows.document.docType = docType.asStr
  status : rows.document.status = "active"
  sourceRef : ∃ capture, rows.document.sourceRef = normalizeSourceRefForCapture req.sourceRef capture
  content : rows.document.content = req.content
  contentBytes : rows.document.contentBytes = req.content.utf8ByteSize
  contentHash : rows.document.contentHash = svc.blake3 req.content
  chunks : rows.chunks = buildDocChunkRows svc rows.document.docId chunks now

theorem validateDocContent_eq (h : validateDocContent svc req = .ok content)
    : content = req.content := by
  unfold validateDocContent at h
  rcases Except.bind_eq_ok.mp h with ⟨transformed, -, h⟩
  rcases Except.bind_eq_ok.mp h with ⟨_, hsame, h⟩
  rcases Except.bind_eq_ok.mp h with ⟨_, -, h⟩
  rcases Except.bind_eq_ok.mp h with ⟨_, -, h⟩
  rcases Except.bind_eq_ok.mp h with ⟨_, -, hpure⟩
  cases hpure
  simpa using Except.rejectIf_eq_ok.mp hsame

theorem resolveDocType_eq (h : resolveDocType requested expected = .ok docType)
    : docType = expected := by
  unfold resolveDocType at h
  split at h
  . rcases Except.bind_eq_ok.mp h with ⟨parsed, -, h⟩
    rcases Except.bind_eq_ok.mp h with ⟨_, hsame, hpure⟩
    cases hpure
    simpa using Except.rejectIf_eq_ok.mp hsame
  . cases h
    rfl

theorem validateDocsPut_spec (h : validateDocsPut svc req = .ok valid)
    : valid.content = req.content ∧ req.sourceRef.isObject = true
      ∧ sourceRefDocType req.sourceRef = some valid.docType := by
  unfold validateDocsPut at h
  rcases Except.bind_eq_ok.mp h with ⟨_, -, h⟩
  rcases Except.bind_eq_ok.mp h with ⟨_, -, h⟩
  rcases Except.bind_eq_ok.mp h with ⟨_, -, h⟩
  rcases Except.bind_eq_ok.mp h with ⟨_, hobject, h⟩
  rcases Except.bind_eq_ok.mp h with ⟨rawDocType, hraw, h⟩
  rcases Except.bind_eq_ok.mp h with ⟨expected, hexpected, h⟩
  rcases Except.bind_eq_ok.mp h with ⟨_, -, h⟩
  rcases Except.bind_eq_ok.mp h with ⟨_, -, h⟩
  rcases Except.bind_eq_ok.mp h with ⟨_, -, h⟩
  rcases Except.bind_eq_ok.mp h with ⟨docType, hdocType, h⟩
  rcases Except.bind_eq_ok.mp h with ⟨_, -, h⟩
  rcases Except.bind_eq_ok.mp h with ⟨_, -, h⟩
  rcases Except.bind_eq_ok.mp h with ⟨content, hcontent, h⟩
  rcases Except.bind_eq_ok.mp h with ⟨_, -, h⟩
  rcases Except.bind_eq_ok.mp h with ⟨_, -, h⟩
  rcases Except.bind_eq_ok.mp h with ⟨_, -, hpure⟩
  cases hpure
  refine ⟨validateDocContent_eq hcontent, by simpa using Except.rejectIf_eq_ok.mp hobject, ?_⟩
  unfold sourceRefDocType
  rw [hraw, resolveDocType_eq hdocType]
  show (DocType.parse rawDocType).toOption = some expected
  rw [hexpected]
  rfl

theorem prepareDocsPut_spec (h : prepareDocsPut svc req now = .ok rows)
    : ∃ docType chunks, Prepared svc req now rows docType chunks := by
  unfold prepareDocsPut at h
  rcases Except.bind_eq_ok.mp h with ⟨⟨docType, content, audit⟩, hvalid, h⟩
  rcases Except.bind_eq_ok.mp h with ⟨tokenizer, htokenizer, h⟩
  rcases Except.bind_eq_ok.mp h with ⟨chunks, hchunks, hpure⟩
  cases hpure
  have hspec := validateDocsPut_spec hvalid
  obtain rfl : content = req.content := hspec.1
  refine ⟨docType, chunks, hspec.2.2, ?_, hspec.2.1, rfl, ⟨rfl, rfl, rfl⟩, rfl, rfl, rfl,
    ⟨_, rfl⟩, rfl, rfl, rfl, rfl⟩
  unfold splitContent
  rw [htokenizer]
  exact hchunks

/-! ## Statements -/

/-- The row of a document after a put: a new one, or the one that was there. -/
inductive DocWritten (doc : DocDocument) : Option DocDocument → DocDocument → Prop where
  | fresh : DocWritten doc none doc.stored
  | again (existing : DocDocument) (same : existing.sameSource doc = true)
    : DocWritten doc (some existing) (existing.replacedBy doc)

/-- The tables but for those of the documents and their chunks. -/
structure DocStore.SameRest (db db' : DocStore) : Prop where
  memory : db'.memory = db.memory
  embeddings : db'.embeddings = db.embeddings

theorem insertDocDocument_spec (h : insertDocDocument db doc = .ok db')
    : db.SameRest db' ∧ db'.chunks = db.chunks ∧ db'.outbox = db.outbox
      ∧ ∃ row, DocWritten doc (db.documents.find? doc.docId) row
        ∧ ∀ docId, db'.documents.find? docId
          = if doc.docId = docId then some row else db.documents.find? docId := by
  unfold insertDocDocument at h
  split at h
  next hnone =>
    rcases Except.bind_eq_ok.mp h with ⟨documents, hinsert, hpure⟩
    cases hpure
    refine ⟨⟨rfl, rfl⟩, rfl, rfl, doc.stored, ?_, ?_⟩
    . rw [hnone]
      exact .fresh
    . intro docId
      exact Table.find?_insert? (Table.insert_eq_ok.mp hinsert) docId
  next existing hexisting =>
    split at h
    next hsame =>
      cases h
      refine ⟨⟨rfl, rfl⟩, rfl, rfl, existing.replacedBy doc, ?_, ?_⟩
      . rw [hexisting]
        exact .again existing hsame
      . intro docId
        exact Table.find?_modify_of_find? hexisting (fun row => row.replacedBy doc) (fun _ => rfl) docId
    next => cases h

/-- A job that was just enqueued for a chunk. -/
structure IndexJob (op : OutboxOp) (embeddingVersion : String) (job : DocIndexingOutboxEntry)
    (chunk : DocChunk) : Prop where
  docId : job.docId = chunk.docId
  chunkId : job.chunkId = chunk.chunkId
  op : job.op = op
  embeddingVersion : job.embeddingVersion = embeddingVersion
  status : job.status = .pending

theorem enqueueDocOutbox_spec
    (h : enqueueDocOutbox db draw idx docId chunkId op embeddingVersion = .ok db')
    : db.SameRest db' ∧ db'.documents = db.documents ∧ db'.chunks = db.chunks
      ∧ ∃ job : DocIndexingOutboxEntry, db'.outbox.rows = db.outbox.rows ++ [job]
        ∧ job.docId = docId ∧ job.chunkId = chunkId ∧ job.op = op
        ∧ job.embeddingVersion = embeddingVersion ∧ job.status = .pending := by
  unfold enqueueDocOutbox at h
  rcases Except.bind_eq_ok.mp h with ⟨outbox, hinsert, hpure⟩
  cases hpure
  exact ⟨⟨rfl, rfl⟩, rfl, rfl, _, Table.rows_insert? (Table.insert_eq_ok.mp hinsert), rfl, rfl, rfl,
    rfl, rfl⟩

theorem insertDocChunk_spec (h : insertDocChunk db chunk = .ok db')
    : db.SameRest db' ∧ db'.documents = db.documents ∧ db'.outbox = db.outbox
      ∧ ((db.chunks.find? chunk.chunkId = none ∧ db'.chunks.rows = db.chunks.rows ++ [chunk.stored])
        ∨ ∃ existing, db.chunks.find? chunk.chunkId = some existing
          ∧ existing.sameSpan chunk = true ∧ db'.chunks = db.chunks) := by
  unfold insertDocChunk at h
  split at h
  next hnone =>
    rcases Except.bind_eq_ok.mp h with ⟨chunks, hinsert, hpure⟩
    cases hpure
    exact ⟨⟨rfl, rfl⟩, rfl, rfl, .inl ⟨hnone, Table.rows_insert? (Table.insert_eq_ok.mp hinsert)⟩⟩
  next existing hexisting =>
    split at h
    next hsame =>
      cases h
      exact ⟨⟨rfl, rfl⟩, rfl, rfl, .inr ⟨existing, hexisting, hsame, rfl⟩⟩
    next => cases h

/-- Jobs that were enqueued one after the other, one for each chunk. -/
def DocStore.Enqueues (db db' : DocStore) (op : OutboxOp) (embeddingVersion : String)
    (chunks : List DocChunk) : Prop :=
  ∃ jobs, db'.outbox.rows = db.outbox.rows ++ jobs
    ∧ List.Forall₂ (IndexJob op embeddingVersion) jobs chunks

theorem DocStore.Enqueues.cons {db₁ db₂ db₃ : DocStore} {job : DocIndexingOutboxEntry}
    {chunks : List DocChunk}
    (hjob : db₂.outbox.rows = db₁.outbox.rows ++ [job]) (h : IndexJob op embeddingVersion job chunk)
    (htail : db₂.Enqueues db₃ op embeddingVersion chunks)
    : db₁.Enqueues db₃ op embeddingVersion (chunk :: chunks) := by
  rcases htail with ⟨jobs, hrows, hjobs⟩
  refine ⟨job :: jobs, ?_, List.Forall₂.cons h hjobs⟩
  rw [hrows, hjob, List.append_assoc]
  rfl

theorem insertDocChunks_spec (h : insertDocChunks svc db draw idx chunks = .ok db')
    : db.SameRest db' ∧ db'.documents = db.documents
      ∧ db.Enqueues db' .upsert svc.cfg.embeddingVersion chunks := by
  induction chunks generalizing db idx with
  | nil =>
    cases h
    exact ⟨⟨rfl, rfl⟩, rfl, [], by simp, List.Forall₂.nil⟩
  | cons chunk chunks ih =>
    unfold insertDocChunks at h
    rcases Except.bind_eq_ok.mp h with ⟨db₁, hchunk, h⟩
    rcases Except.bind_eq_ok.mp h with ⟨db₂, hjob, h⟩
    rcases insertDocChunk_spec hchunk with ⟨hrest₁, hdocs₁, hout₁, -⟩
    rcases enqueueDocOutbox_spec hjob with ⟨hrest₂, hdocs₂, -, job, hrows, hdoc, hid, hop, hver, hst⟩
    rcases ih h with ⟨hrest₃, hdocs₃, hjobs⟩
    rw [hout₁] at hrows
    refine ⟨⟨?_, ?_⟩, ?_, DocStore.Enqueues.cons hrows ⟨hdoc, hid, hop, hver, hst⟩ hjobs⟩
    . rw [hrest₃.memory, hrest₂.memory, hrest₁.memory]
    . rw [hrest₃.embeddings, hrest₂.embeddings, hrest₁.embeddings]
    . rw [hdocs₃, hdocs₂, hdocs₁]

/-- The chunks of a new document are appended. -/
theorem insertDocChunks_fresh
    (h : insertDocChunks svc db draw n (buildDocChunkRowsFrom svc docId now idx chunks) = .ok db')
    (hnew : ∀ chunk ∈ db.chunksOf docId, chunk.chunkIndex < idx)
    : db'.chunks.rows = db.chunks.rows
        ++ (buildDocChunkRowsFrom svc docId now idx chunks).map DocChunk.stored := by
  induction chunks generalizing db idx n with
  | nil =>
    cases h
    simp [buildDocChunkRowsFrom]
  | cons chunk chunks ih =>
    unfold buildDocChunkRowsFrom insertDocChunks at h
    rcases Except.bind_eq_ok.mp h with ⟨db₁, hchunk, h⟩
    rcases Except.bind_eq_ok.mp h with ⟨db₂, hjob, h⟩
    rcases insertDocChunk_spec hchunk with ⟨-, -, -, ⟨-, happend⟩ | ⟨existing, hfind, hsame, -⟩⟩
    . rcases enqueueDocOutbox_spec hjob with ⟨-, -, hchunks, -⟩
      have hnew₂ : ∀ chunk ∈ db₂.chunksOf docId, chunk.chunkIndex < idx + 1 := by
        intro other hother
        unfold DocStore.chunksOf at hother
        rw [hchunks, happend, List.filter_append, List.mem_append] at hother
        rcases hother with hother | hother
        . exact Nat.lt_succ_of_lt (hnew other hother)
        . rcases List.mem_singleton.mp (List.mem_of_mem_filter hother) with rfl
          exact Nat.lt_succ_self idx
      rw [ih h hnew₂, hchunks, happend, List.append_assoc]
      rfl
    . unfold DocChunk.sameSpan at hsame
      simp only [Bool.and_eq_true, decide_eq_true_eq] at hsame
      have hmem : existing ∈ db.chunksOf docId := by
        unfold DocStore.chunksOf
        rw [List.mem_filter]
        exact ⟨Table.mem_of_find? hfind, by simpa using hsame.1.1.1.1.1⟩
      have hidx := hnew existing hmem
      rw [hsame.1.1.1.1.2] at hidx
      exact absurd hidx (lt_irrefl idx)

/-- The chunks of a document that is stored already are left as they are. -/
theorem insertDocChunks_known (h : insertDocChunks svc db draw n chunks = .ok db')
    (hknown : ∀ chunk ∈ chunks, ∃ row ∈ db.chunks, row.uncreated = chunk.uncreated)
    : db'.chunks = db.chunks := by
  induction chunks generalizing db n with
  | nil =>
    cases h
    rfl
  | cons chunk chunks ih =>
    unfold insertDocChunks at h
    rcases Except.bind_eq_ok.mp h with ⟨db₁, hchunk, h⟩
    rcases Except.bind_eq_ok.mp h with ⟨db₂, hjob, h⟩
    rcases enqueueDocOutbox_spec hjob with ⟨-, -, hchunks₂, -⟩
    have hchunks₁ : db₁.chunks = db.chunks := by
      rcases insertDocChunk_spec hchunk with ⟨-, -, -, ⟨hnone, -⟩ | ⟨_, -, -, hsame⟩⟩
      . rcases hknown chunk List.mem_cons_self with ⟨row, hrow, heq⟩
        have hid : row.uncreated.chunkId = chunk.uncreated.chunkId := by rw [heq]
        have hfind := db.chunks.find?_key hrow
        rw [show row.chunkId = chunk.chunkId from hid, hnone] at hfind
        cases hfind
      . exact hsame
    rw [ih h, hchunks₂, hchunks₁]
    intro other hother
    rw [hchunks₂, hchunks₁]
    exact hknown other (List.mem_cons_of_mem chunk hother)

theorem enqueueDocDeletes_spec (h : enqueueDocDeletes svc db draw idx chunks = .ok db')
    : db.SameRest db' ∧ db'.documents = db.documents ∧ db'.chunks = db.chunks
      ∧ db.Enqueues db' .delete svc.cfg.embeddingVersion chunks := by
  induction chunks generalizing db idx with
  | nil =>
    cases h
    exact ⟨⟨rfl, rfl⟩, rfl, rfl, [], by simp, List.Forall₂.nil⟩
  | cons chunk chunks ih =>
    unfold enqueueDocDeletes at h
    rcases Except.bind_eq_ok.mp h with ⟨db₂, hjob, h⟩
    rcases enqueueDocOutbox_spec hjob
      with ⟨hrest₂, hdocs₂, hchunks₂, job, hrows, hdoc, hid, hop, hver, hst⟩
    rcases ih h with ⟨hrest₃, hdocs₃, hchunks₃, hjobs⟩
    refine ⟨⟨?_, ?_⟩, ?_, ?_, DocStore.Enqueues.cons hrows ⟨hdoc, hid, hop, hver, hst⟩ hjobs⟩
    . rw [hrest₃.memory, hrest₂.memory]
    . rw [hrest₃.embeddings, hrest₂.embeddings]
    . rw [hdocs₃, hdocs₂]
    . rw [hchunks₃, hchunks₂]

/-! ## The invariant -/

/-- A row as it was derived from what it stores. -/
structure DocDocument.Sound (svc : DocsService) (doc : DocDocument) (docType : DocType) : Prop where
  type : doc.docType = docType.asStr
  object : doc.sourceRef.isObject = true
  contentHash : doc.contentHash = svc.blake3 doc.content
  docId : doc.docId = sourceRecordIdFor svc doc.tenantId doc.projectId doc.agentId doc.scope docType
    doc.sourceRef doc.contentHash
  status : doc.status = "active" ∨ doc.status = "deleted"

/-- The chunks of the document are the ones that its content is split into. -/
def DocStore.SplitOf (svc : DocsService) (db : DocStore) (doc : DocDocument) (docType : DocType)
    : Prop :=
  ∃ chunks, splitContent svc docType doc.content = .ok chunks
    ∧ (db.chunksOf doc.docId).map DocChunk.uncreated = buildDocChunkRows svc doc.docId chunks 0

structure DocStore.Sound (svc : DocsService) (db : DocStore) : Prop where
  document : ∀ docId doc, db.documents.find? docId = some doc →
    ∃ docType, doc.Sound svc docType ∧ db.SplitOf svc doc docType
  chunk : ∀ chunk ∈ db.chunks, db.documents.find? chunk.docId ≠ none

theorem DocStore.Sound.empty (svc : DocsService) : DocStore.empty.Sound svc where
  document docId doc h := by cases h
  chunk chunk h := by cases h

/-- The fields that identify a source are none of those that a capture sets. -/
def captureKeys : List String :=
  ["source_record_id", "lifecycle", "origin", "captured_at", "content_hash", "visibility_scope",
    "title", "source_type", "source_spans", "policy_spans"]

theorem get_set_of_ne {sourceRef : Json} (key field : String) (value : Json) (h : field ≠ key)
    : (sourceRef.set key value).get field = sourceRef.get field := by
  cases hobject : sourceRef.isObject with
  | true => rw [Json.get_set hobject, if_neg h]
  | false =>
    cases sourceRef with
    | obj entries => cases hobject
    | null => rfl
    | bool b => rfl
    | num n => rfl
    | str s => rfl
    | arr items => rfl

theorem get_setIfAbsent_of_ne {sourceRef : Json} (key field : String) (value : Option Json)
    (h : field ≠ key) : (setIfAbsent sourceRef key value).get field = sourceRef.get field := by
  unfold setIfAbsent
  split
  . split
    . rfl
    . exact get_set_of_ne key field _ h
  . rfl

theorem isObject_setIfAbsent (sourceRef : Json) (key : String) (value : Option Json)
    : (setIfAbsent sourceRef key value).isObject = sourceRef.isObject := by
  unfold setIfAbsent
  split
  . split
    . rfl
    . exact Json.isObject_set ..
  . rfl

theorem get_normalizeSourceRef (sourceRef : Json) (capture : DocsSourceCaptureSummary)
    (field : String) (h : field ∉ captureKeys)
    : (normalizeSourceRefForCapture sourceRef capture).get field = sourceRef.get field := by
  unfold captureKeys at h
  simp only [List.mem_cons, not_or, List.not_mem_nil, not_false_eq_true, and_true] at h
  rcases h with ⟨h₁, h₂, h₃, h₄, h₅, h₆, h₇, h₈, h₉, h₁₀⟩
  have hbase : ((setIfAbsent ((((((sourceRef.set "source_record_id"
      (uuidJson capture.sourceRecordId)).set "lifecycle" capture.lifecycle.toJson).set "origin"
      (.str capture.origin)).set "captured_at" (.str capture.capturedAt)).set "content_hash"
      (.str capture.contentHash)).set "visibility_scope" (.str capture.visibilityScope)) "title"
      (capture.title.map .str)).set "source_type" (.str capture.sourceType)).get field
        = sourceRef.get field := by
    rw [get_set_of_ne _ _ _ h₈, get_setIfAbsent_of_ne _ _ _ h₇, get_set_of_ne _ _ _ h₆,
      get_set_of_ne _ _ _ h₅, get_set_of_ne _ _ _ h₄, get_set_of_ne _ _ _ h₃,
      get_set_of_ne _ _ _ h₂, get_set_of_ne _ _ _ h₁]
  unfold normalizeSourceRefForCapture
  dsimp only
  split
  . rw [get_set_of_ne _ _ _ h₉]
    exact hbase
  . rw [get_set_of_ne _ _ _ h₁₀, get_set_of_ne _ _ _ h₉]
    exact hbase

theorem isObject_normalizeSourceRef (sourceRef : Json) (capture : DocsSourceCaptureSummary)
    : (normalizeSourceRefForCapture sourceRef capture).isObject = sourceRef.isObject := by
  unfold normalizeSourceRefForCapture
  dsimp only
  split
  . simp [isObject_setIfAbsent]
  . simp [isObject_setIfAbsent]

theorem sourceRefString_congr {a b : Json} {key : String} (h : a.get key = b.get key)
    : sourceRefString a key = sourceRefString b key := by
  unfold sourceRefString
  rw [h]

theorem sourceRefI64_congr {a b : Json} {key : String} (h : a.get key = b.get key)
    : sourceRefI64 a key = sourceRefI64 b key := by
  unfold sourceRefI64
  rw [h]

/-- The fields that identify a source. -/
def identityKeys : List String :=
  ["canonical_uri", "thread_id", "message_id", "role", "ts", "url", "domain", "query", "repo", "path",
    "commit_sha", "pr_number", "issue_number", "uri"]

theorem identityKeys_not_captured (h : key ∈ identityKeys) : key ∉ captureKeys := by
  revert key
  decide

theorem sourceIdentityValue_congr {a b : Json} (docType : DocType)
    (h : ∀ key ∈ identityKeys, a.get key = b.get key)
    : sourceIdentityValue a docType = sourceIdentityValue b docType := by
  have hstring (key : String) (hkey : key ∈ identityKeys) :=
    sourceRefString_congr (h key hkey)
  have hnumber (key : String) (hkey : key ∈ identityKeys) := sourceRefI64_congr (h key hkey)
  unfold sourceIdentityValue
  dsimp only
  rw [hstring "canonical_uri" (by decide)]
  split
  . rfl
  . cases docType with
    | chat =>
      rw [hstring "thread_id" (by decide), hstring "message_id" (by decide),
        hstring "role" (by decide), hstring "ts" (by decide)]
    | search =>
      rw [hstring "url" (by decide), hstring "domain" (by decide), hstring "query" (by decide),
        hstring "ts" (by decide)]
    | dev =>
      rw [hstring "repo" (by decide), hstring "path" (by decide), hstring "commit_sha" (by decide),
        hnumber "pr_number" (by decide), hnumber "issue_number" (by decide)]
    | knowledge => rw [hstring "uri" (by decide), hstring "ts" (by decide)]

/-! ## Requests -/

/-- What a put that succeeds does. -/
structure DocPut (svc : DocsService) (db db' : DocStore) (req : DocsPutRequest) (now : Nat)
    (docType : DocType) (chunks : List ByteChunk) (doc row : DocDocument) : Prop where
  prepared : ∃ rows, Prepared svc req now rows docType chunks ∧ rows.document = doc
  written : DocWritten doc (db.documents.find? doc.docId) row
  find : ∀ docId, db'.documents.find? docId
    = if doc.docId = docId then some row else db.documents.find? docId
  chunkRows : (∃ existing, db.documents.find? doc.docId = some existing ∧ db'.chunks = db.chunks)
    ∨ (db.documents.find? doc.docId = none ∧ db'.chunks.rows
      = db.chunks.rows ++ (buildDocChunkRows svc doc.docId chunks now).map DocChunk.stored)
  jobs : db.Enqueues db' .upsert svc.cfg.embeddingVersion (buildDocChunkRows svc doc.docId chunks now)

theorem grantDocScope_spec (h : grantDocScope db draw doc = .ok db')
    : db'.documents = db.documents ∧ db'.chunks = db.chunks ∧ db'.outbox = db.outbox
      ∧ db'.embeddings = db.embeddings := by
  unfold grantDocScope at h
  split at h
  . rcases Except.bind_eq_ok.mp h with ⟨memory, -, hpure⟩
    cases hpure
    exact ⟨rfl, rfl, rfl, rfl⟩
  . cases h
    exact ⟨rfl, rfl, rfl, rfl⟩

/-- A document of the same source is split alike. -/
theorem DocStore.Sound.split_same {pieces : List ByteChunk} (hdb : db.Sound svc)
    (hfind : db.documents.find? doc.docId = some row) (hsame : row.sameSource doc = true)
    (htype : doc.docType = docType.asStr) (hsplit : splitContent svc docType doc.content = .ok pieces)
    : (db.chunksOf doc.docId).map DocChunk.uncreated
        = buildDocChunkRows svc doc.docId pieces 0 := by
  rcases hdb.document _ row hfind with ⟨type, hrow, pieces', hsplit', hchunks⟩
  unfold DocDocument.sameSource at hsame
  simp only [Bool.and_eq_true, decide_eq_true_eq] at hsame
  obtain rfl : type = docType := by
    apply DocType.asStr_inj
    rw [← hrow.type, hsame.2, htype]
  rw [hsame.1.1.1.1.1.1.1, hsplit] at hsplit'
  cases hsplit'
  rw [Table.key_of_find? hfind] at hchunks
  exact hchunks

/-- The chunks of a document that is stored already are there. -/
theorem DocStore.Sound.known {pieces : List ByteChunk} (hdb : db.Sound svc)
    (hprepared : Prepared svc req now rows docType pieces)
    (hfind : db.documents.find? rows.document.docId = some row)
    (hsame : row.sameSource rows.document = true)
    : ∀ chunk ∈ rows.chunks, ∃ stored ∈ db.chunks, stored.uncreated = chunk.uncreated := by
  intro chunk hchunk
  have hsplit := hprepared.split
  rw [← hprepared.content] at hsplit
  have hchunks := hdb.split_same hfind hsame hprepared.docType hsplit
  have hmem : chunk.uncreated ∈ (db.chunksOf rows.document.docId).map DocChunk.uncreated := by
    rw [hchunks, buildDocChunkRows, ← buildDocChunkRowsFrom_uncreated _ now]
    apply List.mem_map_of_mem
    rw [hprepared.chunks] at hchunk
    exact hchunk
  rcases List.mem_map.mp hmem with ⟨stored, hstored, heq⟩
  exact ⟨stored, List.mem_of_mem_filter hstored, heq⟩

theorem docsPut_spec (hdb : db.Sound svc) (h : docsPut svc draw req db = .ok (response, db'))
    : ∃ docType chunks doc row, DocPut svc db db' req draw.now docType chunks doc row
      ∧ response.docId = doc.docId := by
  unfold docsPut at h
  rcases Except.bind_eq_ok.mp h with ⟨rows, hrows, h⟩
  rcases Except.bind_eq_ok.mp h with ⟨db₁, hdoc, h⟩
  rcases Except.bind_eq_ok.mp h with ⟨db₂, hchunks, h⟩
  rcases Except.bind_eq_ok.mp h with ⟨db₃, hgrant, hpure⟩
  cases hpure
  rcases prepareDocsPut_spec hrows with ⟨docType, chunks, hprepared⟩
  rcases insertDocDocument_spec hdoc with ⟨-, hchunks₁, hout₁, row, hwritten, hfind⟩
  rcases insertDocChunks_spec hchunks with ⟨-, hdocs₂, hjobs⟩
  rcases grantDocScope_spec hgrant with ⟨hdocs₃, hchunks₃, hout₃, -⟩
  refine ⟨docType, chunks, rows.document, row, ⟨⟨rows, hprepared, rfl⟩, hwritten, ?_, ?_, ?_⟩, rfl⟩
  . intro docId
    rw [hdocs₃, hdocs₂]
    exact hfind docId
  . rw [hchunks₃]
    cases hprev : db.documents.find? rows.document.docId with
    | none =>
      right
      refine ⟨rfl, ?_⟩
      rw [hprepared.chunks] at hchunks
      rw [insertDocChunks_fresh hchunks, hchunks₁]
      . rfl
      . intro chunk hchunk
        unfold DocStore.chunksOf at hchunk
        rw [hchunks₁, List.mem_filter] at hchunk
        have howner := hdb.chunk chunk hchunk.1
        rw [show chunk.docId = rows.document.docId by simpa using hchunk.2] at howner
        exact (howner hprev).elim
    | some existing =>
      left
      refine ⟨existing, rfl, ?_⟩
      rw [hprev] at hwritten
      cases hwritten with
      | again existing same =>
        rw [insertDocChunks_known hchunks, hchunks₁]
        rw [hchunks₁]
        exact hdb.known hprepared hprev same
  . rcases hjobs with ⟨jobs, hrows', hjobs⟩
    refine ⟨jobs, ?_, ?_⟩
    . rw [hout₃, hrows', hout₁]
    . rw [← hprepared.chunks]
      exact hjobs

/-- What a delete that succeeds does. -/
inductive DocDeleted (svc : DocsService) (db db' : DocStore) (docId : Uuid) : Prop where
  | already (row : DocDocument) (find : db.documents.find? docId = some row)
    (deleted : row.status = "deleted") (same : db' = db)
  | now (row : DocDocument) (sourceRef : Json) (now : Nat) (agentId : String)
    (find : db.documents.find? docId = some row)
    (lifecycle : sourceRefWithDeletedLifecycle svc row.sourceRef agentId now = .ok sourceRef)
    (written : ∀ id, db'.documents.find? id
      = if docId = id then some (row.deleted sourceRef now) else db.documents.find? id)
    (chunks : db'.chunks = db.chunks)
    (jobs : db.Enqueues db' .delete svc.cfg.embeddingVersion (listDocChunks db docId))

theorem loadDocForDelete_spec (h : loadDocForDelete svc db tenantId projectId agentId docId = .ok row)
    : db.documents.find? docId = some row ∧ row.tenantId = tenantId := by
  unfold loadDocForDelete at h
  rcases Except.bind_eq_ok.mp h with ⟨found, hfound, h⟩
  rcases Except.bind_eq_ok.mp h with ⟨_, -, h⟩
  rcases Except.bind_eq_ok.mp h with ⟨_, -, hpure⟩
  cases hpure
  have hfound := Except.ofOption_eq_ok.mp hfound
  rw [Option.filter_eq_some_iff] at hfound
  simp only [Bool.and_eq_true, decide_eq_true_eq] at hfound
  exact ⟨hfound.1, hfound.2.1⟩

theorem find_markDocDeleted (hfind : db.documents.find? docId = some row) (sourceRef : Json) (now : Nat)
    (id : Uuid)
    : (markDocDeleted db row.tenantId docId sourceRef now).documents.find? id
        = if docId = id then some (row.deleted sourceRef now) else db.documents.find? id := by
  refine (Table.find?_updateWhere db.documents _ (fun row => row.deleted sourceRef now)
    (fun _ => rfl) id).trans ?_
  split
  next hid =>
    subst hid
    rw [hfind]
    simp [Table.key_of_find? hfind]
  next hid =>
    cases hother : db.documents.find? id with
    | none => rfl
    | some other =>
      have hne : other.docId ≠ docId := by
        rw [Table.key_of_find? hother]
        exact fun h => hid h.symm
      simp [hne]

theorem docsDelete_spec (h : docsDelete svc draw req db = .ok (response, db'))
    : DocDeleted svc db db' req.docId := by
  unfold docsDelete at h
  rcases Except.bind_eq_ok.mp h with ⟨_, -, h⟩
  rcases Except.bind_eq_ok.mp h with ⟨row, hrow, h⟩
  rcases loadDocForDelete_spec hrow with ⟨hfind, htenant⟩
  have hid : row.docId = req.docId := Table.key_of_find? hfind
  split at h
  next hdeleted =>
    cases h
    exact .already row hfind hdeleted rfl
  next =>
    rcases Except.bind_eq_ok.mp h with ⟨sourceRef, hsource, h⟩
    rcases Except.bind_eq_ok.mp h with ⟨db₁, hjobs, hpure⟩
    cases hpure
    rcases enqueueDocDeletes_spec hjobs with ⟨-, hdocs, hchunks, hjobs⟩
    rw [← htenant, hid] at hdocs
    rw [hid] at hjobs
    refine .now row sourceRef draw.now _ hfind hsource ?_ hchunks hjobs
    intro id
    rw [hdocs]
    exact find_markDocDeleted hfind sourceRef draw.now id

/-! ## Preservation -/

theorem chunksOf_append (hrows : db'.chunks.rows = db.chunks.rows ++ new)
    : db'.chunksOf docId = db.chunksOf docId ++ new.filter fun chunk => chunk.docId = docId := by
  unfold DocStore.chunksOf
  rw [hrows, List.filter_append]

theorem chunksOf_congr (hchunks : db'.chunks = db.chunks) : db'.chunksOf docId = db.chunksOf docId := by
  unfold DocStore.chunksOf
  rw [hchunks]

theorem buildDocChunkRows_stored (svc : DocsService) (docId : Uuid) (chunks : List ByteChunk)
    (now : Nat)
    : ((buildDocChunkRows svc docId chunks now).map DocChunk.stored).map DocChunk.uncreated
        = buildDocChunkRows svc docId chunks 0 := by
  rw [List.map_map]
  exact buildDocChunkRowsFrom_uncreated ..

theorem mem_buildDocChunkRows_stored
    (h : chunk ∈ (buildDocChunkRows svc docId chunks now).map DocChunk.stored)
    : chunk.docId = docId := by
  rcases List.mem_map.mp h with ⟨original, horiginal, rfl⟩
  exact (buildDocChunkRowsFrom_spec horiginal).1

namespace DocPut

variable {pieces : List ByteChunk}

/-- The row that a put prepares is derived from what it stores. -/
theorem doc_sound (h : DocPut svc db db' req now docType pieces doc row)
    : doc.Sound svc docType := by
  rcases h.prepared with ⟨rows, hprepared, rfl⟩
  rcases hprepared.sourceRef with ⟨capture, hsource⟩
  refine ⟨hprepared.docType, ?_, ?_, ?_, .inl hprepared.status⟩
  . rw [hsource, isObject_normalizeSourceRef, hprepared.object]
  . rw [hprepared.contentHash, hprepared.content]
  . have hidentity := sourceIdentityValue_congr docType fun key hkey =>
      get_normalizeSourceRef req.sourceRef capture key (identityKeys_not_captured hkey)
    rw [hprepared.docId, hprepared.owner.1, hprepared.owner.2.1, hprepared.owner.2.2,
      hprepared.scope, hprepared.contentHash, hsource]
    unfold DocsPutRequest.docIdFor sourceRecordIdFor sourceRecordName
    rw [hidentity]

theorem row_docId (h : DocPut svc db db' req now docType pieces doc row)
    : row.docId = doc.docId := by
  have hfind := h.find doc.docId
  rw [if_pos rfl] at hfind
  exact Table.key_of_find? hfind

theorem row_same (h : DocPut svc db db' req now docType pieces doc row)
    : row.content = doc.content ∧ row.contentHash = doc.contentHash
      ∧ row.tenantId = doc.tenantId ∧ row.projectId = doc.projectId ∧ row.agentId = doc.agentId
      ∧ row.scope = doc.scope ∧ row.docType = doc.docType ∧ row.sourceRef = doc.sourceRef
      ∧ row.status = doc.status := by
  have hwritten := h.written
  generalize db.documents.find? doc.docId = prev at hwritten
  cases hwritten with
  | fresh => exact ⟨rfl, rfl, rfl, rfl, rfl, rfl, rfl, rfl, rfl⟩
  | again existing same =>
    unfold DocDocument.sameSource at same
    simp only [Bool.and_eq_true, decide_eq_true_eq] at same
    rcases same with ⟨⟨⟨⟨⟨⟨⟨hcontent, hhash⟩, -⟩, htenant⟩, hproject⟩, hagent⟩, hscope⟩, htype⟩
    exact ⟨hcontent, hhash, htenant, hproject, hagent, hscope, htype, rfl, rfl⟩

theorem row_sound (h : DocPut svc db db' req now docType pieces doc row)
    : row.Sound svc docType := by
  have hdoc := h.doc_sound
  rcases h.row_same with ⟨hcontent, hhash, htenant, hproject, hagent, hscope, htype, hsource, hstatus⟩
  refine ⟨?_, ?_, ?_, ?_, ?_⟩
  . rw [htype, hdoc.type]
  . rw [hsource, hdoc.object]
  . rw [hhash, hcontent, hdoc.contentHash]
  . rw [h.row_docId, htenant, hproject, hagent, hscope, hsource, hhash]
    exact hdoc.docId
  . rw [hstatus]
    exact hdoc.status

theorem row_split (h : DocPut svc db db' req now docType pieces doc row) (hdb : db.Sound svc)
    : db'.SplitOf svc row docType := by
  rcases h.prepared with ⟨rows, hprepared, rfl⟩
  have hsplit := hprepared.split
  rw [← hprepared.content] at hsplit
  refine ⟨pieces, ?_, ?_⟩
  . rw [h.row_same.1]
    exact hsplit
  . rw [h.row_docId]
    rcases h.chunkRows with ⟨existing, hfind, hchunks⟩ | ⟨hnone, hchunks⟩
    . rw [chunksOf_congr hchunks]
      have hwritten := h.written
      rw [hfind] at hwritten
      cases hwritten with
      | again existing same => exact hdb.split_same hfind same hprepared.docType hsplit
    . have hold : db.chunksOf rows.document.docId = [] := by
        unfold DocStore.chunksOf
        rw [List.filter_eq_nil_iff]
        intro chunk hchunk hdoc
        have howner := hdb.chunk chunk hchunk
        rw [show chunk.docId = rows.document.docId by simpa using hdoc] at howner
        exact howner hnone
      rw [chunksOf_append hchunks, hold, List.nil_append, List.filter_eq_self.mpr]
      . exact buildDocChunkRows_stored ..
      . intro chunk hchunk
        simpa using mem_buildDocChunkRows_stored hchunk

theorem sound (h : DocPut svc db db' req now docType pieces doc row) (hdb : db.Sound svc)
    : db'.Sound svc where
  document docId found hfind := by
    rw [h.find docId] at hfind
    split at hfind
    next hid =>
      cases hfind
      exact ⟨docType, h.row_sound, h.row_split hdb⟩
    next hid =>
      rcases hdb.document docId found hfind with ⟨type, hsound, pieces', hsplit, hchunks⟩
      refine ⟨type, hsound, pieces', hsplit, ?_⟩
      rw [Table.key_of_find? hfind] at hchunks ⊢
      rcases h.chunkRows with ⟨-, -, hsame⟩ | ⟨-, happend⟩
      . rw [chunksOf_congr hsame, hchunks]
      . rw [chunksOf_append happend, List.filter_eq_nil_iff.mpr, List.append_nil, hchunks]
        intro chunk hchunk
        rw [mem_buildDocChunkRows_stored hchunk]
        simpa using hid
  chunk chunk hchunk := by
    rw [h.find]
    split
    . exact Option.some_ne_none row
    next hid =>
      rcases h.chunkRows with ⟨-, -, hsame⟩ | ⟨-, happend⟩
      . rw [hsame] at hchunk
        exact hdb.chunk chunk hchunk
      . rw [Table.mem_def, happend, List.mem_append] at hchunk
        rcases hchunk with hchunk | hchunk
        . exact hdb.chunk chunk hchunk
        . exact (hid (mem_buildDocChunkRows_stored hchunk).symm).elim

end DocPut

theorem sourceRefWithDeletedLifecycle_spec
    (h : sourceRefWithDeletedLifecycle svc sourceRef agentId now = .ok sourceRef')
    : sourceRef'.isObject = true ∧ ∀ key ≠ "lifecycle", sourceRef'.get key = sourceRef.get key := by
  unfold sourceRefWithDeletedLifecycle at h
  rcases Except.bind_eq_ok.mp h with ⟨_, hobject, hpure⟩
  cases hpure
  refine ⟨?_, fun key hkey => get_set_of_ne _ _ _ hkey⟩
  rw [Json.isObject_set]
  simpa using Except.rejectIf_eq_ok.mp hobject

theorem identityKeys_ne_lifecycle (h : key ∈ identityKeys) : key ≠ "lifecycle" := by
  revert key
  decide

theorem deleted_sound {type : DocType} {sourceRef : Json} (h : doc.Sound svc type)
    (hsource : sourceRefWithDeletedLifecycle svc doc.sourceRef agentId now' = .ok sourceRef) (now : Nat)
    : (doc.deleted sourceRef now).Sound svc type := by
  rcases sourceRefWithDeletedLifecycle_spec hsource with ⟨hobject, hget⟩
  refine ⟨h.type, hobject, h.contentHash, ?_, .inr rfl⟩
  have hidentity := sourceIdentityValue_congr type fun key hkey =>
    hget key (identityKeys_ne_lifecycle hkey)
  refine h.docId.trans ?_
  unfold sourceRecordIdFor sourceRecordName
  rw [← hidentity]
  rfl

theorem DocDeleted.sound (h : DocDeleted svc db db' docId) (hdb : db.Sound svc) : db'.Sound svc := by
  cases h with
  | already row find deleted same =>
    rw [same]
    exact hdb
  | now row sourceRef now agentId find lifecycle written chunks jobs =>
    constructor
    . intro id found hfind
      rw [written id] at hfind
      split at hfind
      next hid =>
        cases hfind
        rcases hdb.document docId row find with ⟨type, hsound, pieces, hsplit, hchunks⟩
        refine ⟨type, deleted_sound hsound lifecycle now, pieces, hsplit, ?_⟩
        rw [chunksOf_congr chunks]
        exact hchunks
      next hid =>
        rcases hdb.document id found hfind with ⟨type, hsound, pieces, hsplit, hchunks⟩
        refine ⟨type, hsound, pieces, hsplit, ?_⟩
        rw [chunksOf_congr chunks]
        exact hchunks
    . intro chunk hchunk
      rw [chunks] at hchunk
      rw [written]
      split
      . exact Option.some_ne_none _
      . exact hdb.chunk chunk hchunk

/-- What a request does to the tables. -/
theorem DocOp.exec_cases (hdb : db.Sound svc) (draw : DocsDraw) (op : DocOp)
    : op.exec svc draw db = db
      ∨ (∃ req docType pieces doc row, op = .put req
        ∧ DocPut svc db (op.exec svc draw db) req draw.now docType pieces doc row)
      ∨ ∃ req, op = .delete req ∧ DocDeleted svc db (op.exec svc draw db) req.docId := by
  cases op with
  | put req =>
    rcases Transaction.next_cases (docsPut svc draw req) db with ⟨response, hok⟩ | ⟨_, -, hsame⟩
    . rcases docsPut_spec hdb hok with ⟨docType, pieces, doc, row, hput, -⟩
      exact .inr (.inl ⟨req, docType, pieces, doc, row, rfl, hput⟩)
    . exact .inl hsame
  | delete req =>
    rcases Transaction.next_cases (docsDelete svc draw req) db with ⟨response, hok⟩ | ⟨_, -, hsame⟩
    . exact .inr (.inr ⟨req, rfl, docsDelete_spec hok⟩)
    . exact .inl hsame

theorem DocSteps.sound (h : DocSteps svc db a db') (hdb : db.Sound svc) : db'.Sound svc := by
  unfold DocSteps at h
  rw [← h]
  rcases DocOp.exec_cases hdb a.1 a.2 with hsame | ⟨_, _, _, _, _, -, hput⟩ | ⟨_, -, hdelete⟩
  . rw [hsame]
    exact hdb
  . exact hput.sound hdb
  . exact hdelete.sound hdb

end Elf
