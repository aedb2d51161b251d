import Elf.Search.TraceSnapshot

/-!
This module contains the payload in which a search hands its trace to the worker: the records of the
trace, how the search writes them to JSON, and how the worker reads them. A payload is read back as it
was written.
-/

namespace Elf

/-! ## Records -/

structure TraceRecord where
  traceId : Uuid
  tenantId : String
  projectId : String
  agentId : String
  readProfile : String
  query : String
  expansionMode : String
  expandedQueries : List String
  allowedScopes : List String
  candidateCount : Nat
  topK : Nat
  configSnapshot : Json
  traceVersion : Int
  createdAt : Nat
  expiresAt : Nat

/-- An item as the trace keeps it, with its explanation as it is written. -/
structure TraceItemEntry where
  itemId : Uuid
  noteId : Uuid
  chunkId : Option Uuid
  rank : Nat
  finalScore : F32
  explain : Json

/-- A candidate as the trace keeps it, with its identifier and until when it is kept. -/
structure TraceCandidateEntry where
  candidateId : Uuid
  record : TraceCandidateRecord
  createdAt : Nat
  expiresAt : Nat

structure TraceTrajectoryStageItemRecord where
  id : Uuid
  itemId : Option Uuid
  noteId : Option Uuid
  chunkId : Option Uuid
  metrics : Json

structure TraceTrajectoryStageRecord where
  stageId : Uuid
  stageOrder : Nat
  stageName : String
  stagePayload : Json
  createdAt : Nat
  items : List TraceTrajectoryStageItemRecord

structure TracePayload where
  trace : TraceRecord
  items : List TraceItemEntry
  candidates : List TraceCandidateEntry
  stages : List TraceTrajectoryStageRecord

/-! ## Writing -/

variable (serde : TimeSerde)

def timeToJson (time : Nat) : Option Json := serde.toJson time

/-- A time that is not there is null. -/
def timeOptionToJson : Option Nat → Option Json
  | none => some .null
  | some time => timeToJson serde time

def stringsJson (texts : List String) : Json := .arr (texts.map .str)

def TraceRecord.toJson (trace : TraceRecord) : Option Json := do
  let createdAt ← timeToJson serde trace.createdAt
  let expiresAt ← timeToJson serde trace.expiresAt
  return .obj [
    ("agent_id", .str trace.agentId),
    ("allowed_scopes", stringsJson trace.allowedScopes),
    ("candidate_count", .num trace.candidateCount),
    ("config_snapshot", trace.configSnapshot),
    ("created_at", createdAt),
    ("expanded_queries", stringsJson trace.expandedQueries),
    ("expansion_mode", .str trace.expansionMode),
    ("expires_at", expiresAt),
    ("project_id", .str trace.projectId),
    ("query", .str trace.query),
    ("read_profile", .str trace.readProfile),
    ("tenant_id", .str trace.tenantId),
    ("top_k", .num trace.topK),
    ("trace_id", uuidJson trace.traceId),
    ("trace_version", .num trace.traceVersion)]

def TraceItemEntry.toJson (item : TraceItemEntry) : Json := .obj [
  ("chunk_id", .ofOption uuidJson item.chunkId),
  ("explain", item.explain),
  ("final_score", scoreJson item.finalScore),
  ("item_id", uuidJson item.itemId),
  ("note_id", uuidJson item.noteId),
  ("rank", .num item.rank)]

def TraceCandidateEntry.toJson (entry : TraceCandidateEntry) : Option Json := do
  let noteUpdatedAt ← timeToJson serde entry.record.noteUpdatedAt
  let noteLastHitAt ← timeOptionToJson serde entry.record.noteLastHitAt
  let createdAt ← timeToJson serde entry.createdAt
  let expiresAt ← timeToJson serde entry.expiresAt
  return .obj [
    ("candidate_id", uuidJson entry.candidateId),
    ("candidate_snapshot", entry.record.candidateSnapshot),
    ("chunk_id", uuidJson entry.record.chunkId),
    ("chunk_index", .num entry.record.chunkIndex),
    ("created_at", createdAt),
    ("expires_at", expiresAt),
    ("note_hit_count", .num entry.record.noteHitCount),
    ("note_id", uuidJson entry.record.noteId),
    ("note_importance", scoreJson entry.record.noteImportance),
    ("note_last_hit_at", noteLastHitAt),
    ("note_scope", .str entry.record.noteScope),
    ("note_updated_at", noteUpdatedAt),
    ("rerank_score", scoreJson entry.record.rerankScore),
    ("retrieval_rank", .num entry.record.retrievalRank),
    ("snippet", .str entry.record.snippet)]

def TraceTrajectoryStageItemRecord.toJson (item : TraceTrajectoryStageItemRecord) : Json := .obj [
  ("chunk_id", .ofOption uuidJson item.chunkId),
  ("id", uuidJson item.id),
  ("item_id", .ofOption uuidJson item.itemId),
  ("metrics", item.metrics),
  ("note_id", .ofOption uuidJson item.noteId)]

def TraceTrajectoryStageRecord.toJson (stage : TraceTrajectoryStageRecord) : Option Json := do
  let createdAt ← timeToJson serde stage.createdAt
  return .obj [
    ("created_at", createdAt),
    ("items", .arr (stage.items.map TraceTrajectoryStageItemRecord.toJson)),
    ("stage_id", uuidJson stage.stageId),
    ("stage_name", .str stage.stageName),
    ("stage_order", .num stage.stageOrder),
    ("stage_payload", stage.stagePayload)]

def TracePayload.toJson (payload : TracePayload) : Option Json := do
  let candidates ← payload.candidates.mapM (TraceCandidateEntry.toJson serde)
  let stages ← payload.stages.mapM (TraceTrajectoryStageRecord.toJson serde)
  let trace ← payload.trace.toJson serde
  return .obj [
    ("candidates", .arr candidates),
    ("items", .arr (payload.items.map TraceItemEntry.toJson)),
    ("stages", .arr stages),
    ("trace", trace)]

/-! ## Reading -/

/-- A field with a default for when it is missing. -/
def readDefault (read : Json → Option α) (missing : α) (value : Json) (field : String) : Option α :=
  match value.get field with
  | none => some missing
  | some found => read found

-- The times of a trace are all later than the epoch.
def timeOfJson (value : Json) : Option Nat := (serde.ofJson value).map Int.toNat

def readList (read : Json → Option α) : Json → Option (List α)
  | .arr items => items.mapM read
  | _ => none

def TraceRecord.ofJson (value : Json) : Option TraceRecord := do
  let traceId ← readField readUuid value "trace_id"
  let tenantId ← readField Json.asStr value "tenant_id"
  let projectId ← readField Json.asStr value "project_id"
  let agentId ← readField Json.asStr value "agent_id"
  let readProfile ← readField Json.asStr value "read_profile"
  let query ← readField Json.asStr value "query"
  let expansionMode ← readField Json.asStr value "expansion_mode"
  let expandedQueries ← readField (readList Json.asStr) value "expanded_queries"
  let allowedScopes ← readField (readList Json.asStr) value "allowed_scopes"
  let candidateCount ← readField readU32 value "candidate_count"
  let topK ← readField readU32 value "top_k"
  let configSnapshot ← readField some value "config_snapshot"
  let traceVersion ← readField readI32 value "trace_version"
  let createdAt ← readField (timeOfJson serde) value "created_at"
  let expiresAt ← readField (timeOfJson serde) value "expires_at"
  return {
    traceId, tenantId, projectId, agentId, readProfile, query, expansionMode, expandedQueries,
    allowedScopes, candidateCount, topK, configSnapshot, traceVersion, createdAt, expiresAt }

def TraceItemEntry.ofJson (value : Json) : Option TraceItemEntry := do
  let itemId ← readField readUuid value "item_id"
  let noteId ← readField readUuid value "note_id"
  let chunkId ← readOptional readUuid value "chunk_id"
  let rank ← readField readU32 value "rank"
  let finalScore ← readField readF32 value "final_score"
  let explain ← readField some value "explain"
  return { itemId, noteId, chunkId, rank, finalScore, explain }

def TraceCandidateEntry.ofJson (value : Json) : Option TraceCandidateEntry := do
  let candidateId ← readField readUuid value "candidate_id"
  let noteId ← readField readUuid value "note_id"
  let chunkId ← readField readUuid value "chunk_id"
  let chunkIndex ← readDefault readI32 0 value "chunk_index"
  let snippet ← readDefault Json.asStr "" value "snippet"
  let candidateSnapshot ← readDefault some .null value "candidate_snapshot"
  let retrievalRank ← readField readU32 value "retrieval_rank"
  let rerankScore ← readField readF32 value "rerank_score"
  let noteScope ← readField Json.asStr value "note_scope"
  let noteImportance ← readField readF32 value "note_importance"
  let noteUpdatedAt ← readField (timeOfJson serde) value "note_updated_at"
  let noteHitCount ← readDefault Json.asI64 0 value "note_hit_count"
  let noteLastHitAt ← readOptional (timeOfJson serde) value "note_last_hit_at"
  let createdAt ← readField (timeOfJson serde) value "created_at"
  let expiresAt ← readField (timeOfJson serde) value "expires_at"
  return {
    candidateId
    record := {
      noteId, chunkId, chunkIndex, snippet, candidateSnapshot, retrievalRank, rerankScore, noteScope,
      noteImportance, noteUpdatedAt, noteHitCount, noteLastHitAt }
    createdAt
    expiresAt }

def TraceTrajectoryStageItemRecord.ofJson (value : Json) : Option TraceTrajectoryStageItemRecord := do
  let id ← readField readUuid value "id"
  let itemId ← readOptional readUuid value "item_id"
  let noteId ← readOptional readUuid value "note_id"
  let chunkId ← readOptional readUuid value "chunk_id"
  let metrics ← readField some value "metrics"
  return { id, itemId, noteId, chunkId, metrics }

def TraceTrajectoryStageRecord.ofJson (value : Json) : Option TraceTrajectoryStageRecord := do
  let stageId ← readField readUuid value "stage_id"
  let stageOrder ← readField readU32 value "stage_order"
  let stageName ← readField Json.asStr value "stage_name"
  let stagePayload ← readField some value "stage_payload"
  let createdAt ← readField (timeOfJson serde) value "created_at"
  let items ← readDefault (readList TraceTrajectoryStageItemRecord.ofJson) [] value "items"
  return { stageId, stageOrder, stageName, stagePayload, createdAt, items }

/-- `serde_json::from_value::<TracePayload>`, on an object. -/
def TracePayload.ofJson (value : Json) : Option TracePayload := do
  let trace ← readField (TraceRecord.ofJson serde) value "trace"
  let items ← readField (readList TraceItemEntry.ofJson) value "items"
  let candidates ← readDefault (readList (TraceCandidateEntry.ofJson serde)) [] value "candidates"
  let stages ← readDefault (readList (TraceTrajectoryStageRecord.ofJson serde)) [] value "stages"
  return { trace, items, candidates, stages }

/-! ## Payloads read back -/

variable {serde}

/-- The time can be written, and is read back. -/
def TimeSerde.Keeps (serde : TimeSerde) (time : Nat) : Prop :=
  ∃ json, serde.toJson time = some json ∧ json ≠ .null ∧ serde.ofJson json = some (time : Int)

/-- A finite float of its type, which is what a JSON number is read as. -/
def StorableF32 (score : F32) : Prop := f32Fits score ∧ score.isFinite = true

structure TraceRecord.Storable (serde : TimeSerde) (trace : TraceRecord) : Prop where
  traceId : trace.traceId < 2 ^ 128
  candidateCount : trace.candidateCount < 4294967296
  topK : trace.topK < 4294967296
  traceVersion : -2147483648 ≤ trace.traceVersion ∧ trace.traceVersion < 2147483648
  createdAt : serde.Keeps trace.createdAt
  expiresAt : serde.Keeps trace.expiresAt

structure TraceItemEntry.Storable (item : TraceItemEntry) : Prop where
  itemId : item.itemId < 2 ^ 128
  noteId : item.noteId < 2 ^ 128
  chunkId : ∀ id, item.chunkId = some id → id < 2 ^ 128
  rank : item.rank < 4294967296
  finalScore : StorableF32 item.finalScore

structure TraceCandidateEntry.Storable (serde : TimeSerde) (entry : TraceCandidateEntry) : Prop where
  candidateId : entry.candidateId < 2 ^ 128
  noteId : entry.record.noteId < 2 ^ 128
  chunkId : entry.record.chunkId < 2 ^ 128
  chunkIndex : -2147483648 ≤ entry.record.chunkIndex ∧ entry.record.chunkIndex < 2147483648
  retrievalRank : entry.record.retrievalRank < 4294967296
  rerankScore : StorableF32 entry.record.rerankScore
  noteImportance : StorableF32 entry.record.noteImportance
  noteUpdatedAt : serde.Keeps entry.record.noteUpdatedAt
  noteHitCount : -2 ^ 63 ≤ entry.record.noteHitCount ∧ entry.record.noteHitCount < 2 ^ 63
  noteLastHitAt : ∀ time, entry.record.noteLastHitAt = some time → serde.Keeps time
  createdAt : serde.Keeps entry.createdAt
  expiresAt : serde.Keeps entry.expiresAt

structure TraceTrajectoryStageItemRecord.Storable (item : TraceTrajectoryStageItemRecord) : Prop where
  id : item.id < 2 ^ 128
  itemId : ∀ id, item.itemId = some id → id < 2 ^ 128
  noteId : ∀ id, item.noteId = some id → id < 2 ^ 128
  chunkId : ∀ id, item.chunkId = some id → id < 2 ^ 128

structure TraceTrajectoryStageRecord.Storable (serde : TimeSerde) (stage : TraceTrajectoryStageRecord)
    : Prop where
  stageId : stage.stageId < 2 ^ 128
  stageOrder : stage.stageOrder < 4294967296
  createdAt : serde.Keeps stage.createdAt
  items : ∀ item ∈ stage.items, item.Storable

/-- The values of a payload are of their types, and its scores are finite. -/
structure TracePayload.Storable (serde : TimeSerde) (payload : TracePayload) : Prop where
  trace : payload.trace.Storable serde
  items : ∀ item ∈ payload.items, item.Storable
  candidates : ∀ entry ∈ payload.candidates, entry.Storable serde
  stages : ∀ stage ∈ payload.stages, stage.Storable serde

section Read

variable {value : Json} {field : String}

theorem timeOfJson_eq {time : Nat} {json : Json} (h : serde.ofJson json = some (time : Int))
    : timeOfJson serde json = some time := by
  unfold timeOfJson
  rw [h, Option.map_some, Int.toNat_natCast]

theorem readF32_eq {score : F32} (h : StorableF32 score) : readF32 (scoreJson score) = some score := by
  rw [readF32_scoreJson h.1, if_pos h.2]

theorem readList_map {read : Json → Option α} {write : α → Json} {as : List α}
    (h : ∀ a ∈ as, read (write a) = some a) : readList read (.arr (as.map write)) = some as := by
  unfold readList
  dsimp only
  rw [List.mapM_map]
  induction as with
  | nil => rfl
  | cons a as ih =>
    rw [List.mapM_cons, Function.comp_apply, h a List.mem_cons_self,
      ih fun b hb => h b (List.mem_cons_of_mem a hb)]
    rfl

theorem readList_stringsJson (texts : List String)
    : readList Json.asStr (stringsJson texts) = some texts :=
  readList_map fun _ _ => rfl

/-- Items that can be written and are read back make up a list that can be and is. -/
theorem exists_mapM {read : Json → Option α} {write : α → Option Json} {as : List α}
    (h : ∀ a ∈ as, ∃ json, write a = some json ∧ read json = some a)
    : ∃ jsons, as.mapM write = some jsons ∧ readList read (.arr jsons) = some as := by
  unfold readList
  induction as with
  | nil => exact ⟨[], rfl, rfl⟩
  | cons a as ih =>
    rcases h a List.mem_cons_self with ⟨json, hjson, hread⟩
    rcases ih fun b hb => h b (List.mem_cons_of_mem a hb) with ⟨jsons, hjsons, hreads⟩
    refine ⟨json :: jsons, ?_, ?_⟩
    . rw [List.mapM_cons, hjson, hjsons]
      rfl
    . dsimp only at hreads ⊢
      rw [List.mapM_cons, hread, hreads]
      rfl

theorem readDefault_of_get {read : Json → Option α} {missing : α} {found : Json}
    (h : value.get field = some found) : readDefault read missing value field = read found := by
  unfold readDefault
  rw [h]

theorem readOptional_ids {id : Option Uuid} (h : value.get field = some (.ofOption uuidJson id))
    (hid : ∀ k, id = some k → k < 2 ^ 128) : readOptional readUuid value field = some id :=
  readOptional_of_get h fun k hk => ⟨nofun, readUuid_uuidJson (hid k hk)⟩

end Read

theorem TraceRecord.ofJson_toJson {trace : TraceRecord} (h : trace.Storable serde)
    : ∃ json, trace.toJson serde = some json ∧ TraceRecord.ofJson serde json = some trace := by
  rcases h.createdAt with ⟨createdAt, hcreated, -, hcreatedRead⟩
  rcases h.expiresAt with ⟨expiresAt, hexpires, -, hexpiresRead⟩
  unfold toJson timeToJson
  rw [hcreated, hexpires]
  refine ⟨_, rfl, ?_⟩
  unfold ofJson
  rw [readField_of_get (rfl : Json.get _ "trace_id" = some (uuidJson trace.traceId)),
    readUuid_uuidJson h.traceId,
    readField_of_get (rfl : Json.get _ "candidate_count" = some (.num trace.candidateCount)),
    readU32_num h.candidateCount,
    readField_of_get (rfl : Json.get _ "top_k" = some (.num trace.topK)), readU32_num h.topK,
    readField_of_get (rfl : Json.get _ "trace_version" = some (.num trace.traceVersion)),
    readI32_num h.traceVersion.1 h.traceVersion.2,
    readField_of_get (rfl : Json.get _ "expanded_queries" = some (stringsJson trace.expandedQueries)),
    readList_stringsJson,
    readField_of_get (rfl : Json.get _ "allowed_scopes" = some (stringsJson trace.allowedScopes)),
    readList_stringsJson, readField_of_get (rfl : Json.get _ "created_at" = some createdAt),
    timeOfJson_eq hcreatedRead, readField_of_get (rfl : Json.get _ "expires_at" = some expiresAt),
    timeOfJson_eq hexpiresRead]
  rfl

theorem TraceItemEntry.ofJson_toJson {item : TraceItemEntry} (h : item.Storable)
    : TraceItemEntry.ofJson item.toJson = some item := by
  unfold toJson ofJson
  rw [readField_of_get (rfl : Json.get _ "item_id" = some (uuidJson item.itemId)),
    readUuid_uuidJson h.itemId,
    readField_of_get (rfl : Json.get _ "note_id" = some (uuidJson item.noteId)),
    readUuid_uuidJson h.noteId, readOptional_ids (rfl : Json.get _ "chunk_id" = _) h.chunkId,
    readField_of_get (rfl : Json.get _ "rank" = some (.num item.rank)), readU32_num h.rank,
    readField_of_get (rfl : Json.get _ "final_score" = some (scoreJson item.finalScore)),
    readF32_eq h.finalScore]
  rfl

theorem TraceCandidateEntry.ofJson_toJson {entry : TraceCandidateEntry} (h : entry.Storable serde)
    : ∃ json, entry.toJson serde = some json ∧ TraceCandidateEntry.ofJson serde json = some entry := by
  rcases h.noteUpdatedAt with ⟨updatedAt, hupdated, -, hupdatedRead⟩
  rcases h.createdAt with ⟨createdAt, hcreated, -, hcreatedRead⟩
  rcases h.expiresAt with ⟨expiresAt, hexpires, -, hexpiresRead⟩
  have hlastHit : ∃ json, timeOptionToJson serde entry.record.noteLastHitAt = some json
      ∧ ∀ value : Json, value.get "note_last_hit_at" = some json
        → readOptional (timeOfJson serde) value "note_last_hit_at"
          = some entry.record.noteLastHitAt := by
    cases hhit : entry.record.noteLastHitAt with
    | none =>
      refine ⟨.null, rfl, ?_⟩
      intro value hget
      unfold readOptional
      rw [hget]
    | some time =>
      rcases h.noteLastHitAt time hhit with ⟨json, hjson, hnull, hread⟩
      refine ⟨json, hjson, ?_⟩
      intro value hget
      unfold readOptional
      rw [hget]
      split
      next heq => cases heq
      next heq => exact absurd (Option.some.inj heq) hnull
      next found _ heq =>
        rw [← Option.some.inj heq, timeOfJson_eq hread]
        rfl
  rcases hlastHit with ⟨lastHitAt, hlastHit, hlastHitRead⟩
  unfold toJson
  rw [hlastHit]
  unfold timeToJson
  rw [hupdated, hcreated, hexpires]
  refine ⟨_, rfl, ?_⟩
  unfold ofJson
  rw [readField_of_get (rfl : Json.get _ "candidate_id" = some (uuidJson entry.candidateId)),
    readUuid_uuidJson h.candidateId,
    readField_of_get (rfl : Json.get _ "note_id" = some (uuidJson entry.record.noteId)),
    readUuid_uuidJson h.noteId,
    readField_of_get (rfl : Json.get _ "chunk_id" = some (uuidJson entry.record.chunkId)),
    readUuid_uuidJson h.chunkId,
    readDefault_of_get (rfl : Json.get _ "chunk_index" = some (.num entry.record.chunkIndex)),
    readI32_num h.chunkIndex.1 h.chunkIndex.2,
    readField_of_get (rfl : Json.get _ "retrieval_rank" = some (.num entry.record.retrievalRank)),
    readU32_num h.retrievalRank,
    readField_of_get (rfl : Json.get _ "rerank_score" = some (scoreJson entry.record.rerankScore)),
    readF32_eq h.rerankScore,
    readField_of_get
      (rfl : Json.get _ "note_importance" = some (scoreJson entry.record.noteImportance)),
    readF32_eq h.noteImportance,
    readField_of_get (rfl : Json.get _ "note_updated_at" = some updatedAt),
    timeOfJson_eq hupdatedRead,
    readDefault_of_get (rfl : Json.get _ "note_hit_count" = some (.num entry.record.noteHitCount)),
    asI64_num h.noteHitCount.1 h.noteHitCount.2, hlastHitRead _ rfl,
    readField_of_get (rfl : Json.get _ "created_at" = some createdAt), timeOfJson_eq hcreatedRead,
    readField_of_get (rfl : Json.get _ "expires_at" = some expiresAt), timeOfJson_eq hexpiresRead]
  rfl

theorem TraceTrajectoryStageItemRecord.ofJson_toJson {item : TraceTrajectoryStageItemRecord}
    (h : item.Storable) : TraceTrajectoryStageItemRecord.ofJson item.toJson = some item := by
  unfold toJson ofJson
  rw [readField_of_get (rfl : Json.get _ "id" = some (uuidJson item.id)), readUuid_uuidJson h.id,
    readOptional_ids (rfl : Json.get _ "item_id" = _) h.itemId,
    readOptional_ids (rfl : Json.get _ "note_id" = _) h.noteId,
    readOptional_ids (rfl : Json.get _ "chunk_id" = _) h.chunkId]
  rfl

theorem TraceTrajectoryStageRecord.ofJson_toJson {stage : TraceTrajectoryStageRecord}
    (h : stage.Storable serde)
    : ∃ json, stage.toJson serde = some json
      ∧ TraceTrajectoryStageRecord.ofJson serde json = some stage := by
  rcases h.createdAt with ⟨createdAt, hcreated, -, hcreatedRead⟩
  unfold toJson timeToJson
  rw [hcreated]
  refine ⟨_, rfl, ?_⟩
  unfold ofJson
  rw [readField_of_get (rfl : Json.get _ "stage_id" = some (uuidJson stage.stageId)),
    readUuid_uuidJson h.stageId,
    readField_of_get (rfl : Json.get _ "stage_order" = some (.num stage.stageOrder)),
    readU32_num h.stageOrder, readField_of_get (rfl : Json.get _ "created_at" = some createdAt),
    timeOfJson_eq hcreatedRead,
    readDefault_of_get (rfl : Json.get _ "items" = some (.arr (stage.items.map _))),
    readList_map fun item hitem => TraceTrajectoryStageItemRecord.ofJson_toJson (h.items item hitem)]
  rfl

/-- A payload of values that can be stored is written, and read back as it was. -/
theorem TracePayload.ofJson_toJson {payload : TracePayload} (h : payload.Storable serde)
    : ∃ json, payload.toJson serde = some json ∧ TracePayload.ofJson serde json = some payload := by
  rcases exists_mapM fun entry hentry => TraceCandidateEntry.ofJson_toJson (h.candidates entry hentry)
    with ⟨candidates, hcandidates, hcandidatesRead⟩
  rcases exists_mapM fun stage hstage => TraceTrajectoryStageRecord.ofJson_toJson (h.stages stage hstage)
    with ⟨stages, hstages, hstagesRead⟩
  rcases TraceRecord.ofJson_toJson h.trace with ⟨trace, htrace, htraceRead⟩
  unfold toJson
  rw [hcandidates, hstages, htrace]
  refine ⟨_, rfl, ?_⟩
  unfold ofJson
  rw [readField_of_get (rfl : Json.get _ "trace" = some trace), htraceRead,
    readField_of_get (rfl : Json.get _ "items" = some (.arr (payload.items.map _))),
    readList_map fun item hitem => TraceItemEntry.ofJson_toJson (h.items item hitem),
    readDefault_of_get (rfl : Json.get _ "candidates" = some (.arr candidates)), hcandidatesRead,
    readDefault_of_get (rfl : Json.get _ "stages" = some (.arr stages)), hstagesRead]
  rfl

end Elf
