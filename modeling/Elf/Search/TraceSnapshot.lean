import Elf.Search.FinishSearch
import Elf.Service.History
import Elf.Storage.Identifiers

/-!
This module contains the snapshots in which a trace keeps its candidates: how the writer of a trace
makes them of the scored chunks, how it adds the decisions of the selection, and how the rows are read
for a replay. The cache of rerank scores keeps the scores of a search as a payload, which is read for
the candidates of another search. The values of a snapshot are read back from the JSON they are
written to.
-/

namespace Elf

variable (rfc : Rfc3339)

/-! ## Writing -/

structure TraceCandidateRecord where
  noteId : Uuid
  chunkId : Uuid
  chunkIndex : Int
  snippet : String
  candidateSnapshot : Json
  retrievalRank : Nat
  rerankScore : F32
  noteScope : String
  noteImportance : F32
  noteUpdatedAt : Nat
  noteHitCount : Int
  noteLastHitAt : Option Nat

/-- The fields of an object in the order of their keys. -/
def TraceReplayCandidate.entries (candidate : TraceReplayCandidate F32) (noteUpdatedAt : String)
    (noteLastHitAt : Json) : List (String × Json) :=
  [ ("chunk_id", uuidJson candidate.chunkId),
    ("chunk_index", .num candidate.chunkIndex),
    ("diversity_missing_embedding", .ofOption .bool candidate.diversityMissingEmbedding),
    ("diversity_mmr_score", .ofOption scoreJson candidate.diversityMmrScore),
    ("diversity_nearest_selected_note_id",
      .ofOption uuidJson candidate.diversityNearestSelectedNoteId),
    ("diversity_selected", .ofOption .bool candidate.diversitySelected),
    ("diversity_selected_rank", .ofOption (.num ·) (candidate.diversitySelectedRank.map Nat.cast)),
    ("diversity_selected_reason", .ofOption .str candidate.diversitySelectedReason),
    ("diversity_similarity", .ofOption scoreJson candidate.diversitySimilarity),
    ("diversity_skipped_reason", .ofOption .str candidate.diversitySkippedReason),
    ("note_hit_count", .num candidate.noteHitCount),
    ("note_id", uuidJson candidate.noteId),
    ("note_importance", scoreJson candidate.noteImportance),
    ("note_last_hit_at", noteLastHitAt),
    ("note_scope", .str candidate.noteScope),
    ("note_updated_at", .str noteUpdatedAt),
    ("rerank_score", scoreJson candidate.rerankScore),
    ("retrieval_rank", .num candidate.retrievalRank)]
  -- A missing score is not written at all.
  ++ (candidate.retrievalScore.toList.map fun score => ("retrieval_score", scoreJson score))
  ++ [("snippet", .str candidate.snippet)]

def timeOptionJson : Option Nat → Option Json
  | none => some .null
  | some time => (rfc.format time).map .str

/-- `serde_json::to_value`, which fails on a time that has no RFC 3339 text. -/
def TraceReplayCandidate.toJson (candidate : TraceReplayCandidate F32) : Option Json := do
  let noteUpdatedAt ← rfc.format candidate.noteUpdatedAt
  let noteLastHitAt ← timeOptionJson rfc candidate.noteLastHitAt
  return .obj (candidate.entries noteUpdatedAt noteLastHitAt)

/-- `build_trace_candidate_record`, with the snapshot as it is stored. -/
def ScoredChunk.traceRecord (scored : ScoredChunk F32) : TraceCandidateRecord where
  noteId := scored.item.note.noteId
  chunkId := scored.item.chunk.chunkId
  chunkIndex := scored.item.chunk.chunkIndex
  snippet := scored.item.snippet
  candidateSnapshot := ((buildTraceCandidateRecord scored).toJson rfc).getD (.obj [])
  retrievalRank := scored.item.retrievalRank
  rerankScore := scored.rerankScore
  noteScope := scored.item.note.scope
  noteImportance := scored.item.note.importance
  noteUpdatedAt := scored.item.note.updatedAt
  noteHitCount := scored.item.note.hitCount
  noteLastHitAt := scored.item.note.lastHitAt

/-- A snapshot with the fields of a decision. -/
def DiversityDecision.insertInto (decision : DiversityDecision F32) (snapshot : Json) : Json :=
  (((((((snapshot.set "diversity_selected" (.bool decision.selected)).set
    "diversity_selected_rank"
      (.ofOption (.num ·) (decision.selectedRank.map Nat.cast))).set
    "diversity_selected_reason" (.str decision.selectedReason)).set
    "diversity_skipped_reason" (.ofOption .str decision.skippedReason)).set
    "diversity_nearest_selected_note_id"
      (.ofOption uuidJson decision.nearestSelectedNoteId)).set
    "diversity_similarity" (.ofOption scoreJson decision.similarity)).set
    "diversity_mmr_score" (.ofOption scoreJson decision.mmrScore)).set
    "diversity_missing_embedding" (.bool decision.missingEmbedding)

/-- `attach_diversity_decisions_to_trace_candidates`, for one candidate. -/
def TraceCandidateRecord.attachDecision (decisions : NoteMap (DiversityDecision F32))
    (record : TraceCandidateRecord) : TraceCandidateRecord :=
  match decisions.lookup record.noteId with
  | none => record
  | some decision =>
    if record.candidateSnapshot.isObject then
      { record with candidateSnapshot := decision.insertInto record.candidateSnapshot }
    else
      record

def attachDiversityDecisionsToRecords (records : List TraceCandidateRecord)
    (decisions : NoteMap (DiversityDecision F32)) : List TraceCandidateRecord :=
  records.map (·.attachDecision decisions)

/-! ## Reading -/

def readField (read : Json → Option α) (snapshot : Json) (field : String) : Option α :=
  (snapshot.get field).bind read

/-- A field that may be missing or null. -/
def readOptional (read : Json → Option α) (snapshot : Json) (field : String)
    : Option (Option α) :=
  match snapshot.get field with
  | none | some .null => some none
  | some value => (read value).map some

def readBool : Json → Option Bool
  | .bool b => some b
  | _ => none

-- A number beyond the range of the format becomes an infinity.
def readF32 : Json → Option F32
  | .num q => some (if q < -F32.max then .inf true else if F32.max < q then .inf false else .fin q)
  | _ => none

def readU32 (value : Json) : Option Nat :=
  (value.asInt.filter fun n => 0 ≤ n && n < 4294967296).map Int.toNat

def readTime (value : Json) : Option Nat := value.asStr.bind rfc.parse

/-- A time that must be there, but may be null. -/
def readTimeOption : Json → Option (Option Nat)
  | .null => some none
  | value => (readTime rfc value).map some

/-- `serde_json::from_value::<TraceReplayCandidate>`, where it succeeds. -/
def readSnapshot (snapshot : Json) : Option (TraceReplayCandidate F32) := do
  let noteId ← readField readUuid snapshot "note_id"
  let chunkId ← readField readUuid snapshot "chunk_id"
  let chunkIndex ← readField readI32 snapshot "chunk_index"
  let snippet ← readField Json.asStr snapshot "snippet"
  let retrievalRank ← readField readU32 snapshot "retrieval_rank"
  let retrievalScore ← readOptional readF32 snapshot "retrieval_score"
  let rerankScore ← readField readF32 snapshot "rerank_score"
  let noteScope ← readField Json.asStr snapshot "note_scope"
  let noteImportance ← readField readF32 snapshot "note_importance"
  let noteUpdatedAt ← readField (readTime rfc) snapshot "note_updated_at"
  let noteHitCount ← readField Json.asI64 snapshot "note_hit_count"
  let noteLastHitAt ← readField (readTimeOption rfc) snapshot "note_last_hit_at"
  let diversitySelected ← readOptional readBool snapshot "diversity_selected"
  let diversitySelectedRank ← readOptional readU32 snapshot "diversity_selected_rank"
  let diversitySelectedReason ← readOptional Json.asStr snapshot "diversity_selected_reason"
  let diversitySkippedReason ← readOptional Json.asStr snapshot "diversity_skipped_reason"
  let diversityNearestSelectedNoteId ←
    readOptional readUuid snapshot "diversity_nearest_selected_note_id"
  let diversitySimilarity ← readOptional readF32 snapshot "diversity_similarity"
  let diversityMmrScore ← readOptional readF32 snapshot "diversity_mmr_score"
  let diversityMissingEmbedding ← readOptional readBool snapshot "diversity_missing_embedding"
  return {
    noteId, chunkId, chunkIndex, snippet, retrievalRank, retrievalScore, rerankScore, noteScope,
    noteImportance, noteUpdatedAt, noteHitCount, noteLastHitAt, diversitySelected,
    diversitySelectedRank, diversitySelectedReason, diversitySkippedReason,
    diversityNearestSelectedNoteId, diversitySimilarity, diversityMmrScore,
    diversityMissingEmbedding }

/-- What the columns of a row say of its candidate. -/
def TraceCandidateRecord.columns (row : TraceCandidateRecord) : TraceReplayCandidate F32 where
  noteId := row.noteId
  chunkId := row.chunkId
  chunkIndex := row.chunkIndex
  snippet := row.snippet
  -- The column has 32 bits with a sign.
  retrievalRank := if row.retrievalRank < 2147483648 then row.retrievalRank else 0
  retrievalScore := none
  rerankScore := row.rerankScore
  noteScope := row.noteScope
  noteImportance := row.noteImportance
  noteUpdatedAt := timestamptz row.noteUpdatedAt
  noteHitCount := row.noteHitCount
  noteLastHitAt := row.noteLastHitAt.map timestamptz
  diversitySelected := none
  diversitySelectedRank := none
  diversitySelectedReason := none
  diversitySkippedReason := none
  diversityNearestSelectedNoteId := none
  diversitySimilarity := none
  diversityMmrScore := none
  diversityMissingEmbedding := none

/-- The candidate of a row: its snapshot, or else its columns. -/
def decodeTraceReplayCandidate (row : TraceCandidateRecord) : TraceReplayCandidate F32 :=
  ((readSnapshot rfc row.candidateSnapshot).filter fun candidate =>
    candidate.noteId ≠ 0 && candidate.chunkId ≠ 0).getD row.columns

def decodeTraceReplayCandidates (rows : List TraceCandidateRecord)
    : List (TraceReplayCandidate F32) :=
  rows.map (decodeTraceReplayCandidate rfc)

/-! ## The cache of rerank scores -/

/-- How a time, in nanoseconds, is written to JSON and read from it. -/
structure TimeSerde where
  toJson : Int → Option Json
  ofJson : Json → Option Int

structure RerankCacheCandidate where
  chunkId : Uuid
  updatedAt : Int
deriving DecidableEq

structure RerankCacheItem where
  chunkId : Uuid
  updatedAt : Int
  score : F32
deriving DecidableEq

structure RerankCachePayload where
  items : List RerankCacheItem
deriving DecidableEq

/-! ## Scores -/

structure RerankCacheKey where
  chunkId : Uuid
  unixTimestamp : Int
  nanosecond : Int
deriving DecidableEq

def rerankCacheKey (chunkId : Uuid) (updatedAt : Int) : RerankCacheKey :=
  ⟨chunkId, updatedAt / 1000000000, updatedAt % 1000000000⟩

/-- The map of the scores, in which the last one of a key is the one that is found. -/
def rerankScoreMap (items : List RerankCacheItem) : List (RerankCacheKey × F32) :=
  items.foldl (fun map item => (rerankCacheKey item.chunkId item.updatedAt, item.score) :: map) []

def buildCachedScores (payload : RerankCachePayload) (candidates : List RerankCacheCandidate)
    : Option (List F32) :=
  if payload.items.length ≠ candidates.length then
    none
  else
    candidates.mapM fun candidate =>
      (rerankScoreMap payload.items).lookup (rerankCacheKey candidate.chunkId candidate.updatedAt)

/-! ## Payloads -/

variable (serde : TimeSerde)

def RerankCacheItem.toJson (item : RerankCacheItem) : Option Json := do
  let updatedAt ← serde.toJson item.updatedAt
  return .obj [("chunk_id", uuidJson item.chunkId), ("score", scoreJson item.score),
    ("updated_at", updatedAt)]

def RerankCachePayload.toJson (payload : RerankCachePayload) : Option Json := do
  let items ← payload.items.mapM (RerankCacheItem.toJson serde)
  return .obj [("items", .arr items)]

def RerankCacheItem.ofJson (value : Json) : Option RerankCacheItem := do
  let chunkId ← readField readUuid value "chunk_id"
  let updatedAt ← readField serde.ofJson value "updated_at"
  let score ← readField readF32 value "score"
  return ⟨chunkId, updatedAt, score⟩

def RerankCachePayload.ofJson (value : Json) : Option RerankCachePayload := do
  let items ← readField Json.asArr value "items"
  return ⟨← items.mapM (RerankCacheItem.ofJson serde)⟩

/-- `store_rerank_cache_scores`, up to the value that is stored. -/
def rerankCachePayload (candidates : List RerankCacheCandidate) (scores : List F32) : Option Json :=
  (RerankCachePayload.mk ((candidates.zip scores).map fun entry =>
    ⟨entry.1.chunkId, entry.1.updatedAt, entry.2⟩)).toJson serde

/-- `read_rerank_cache_scores`, from the value that is stored under the key. -/
def readRerankCacheScores (stored : Option Json) (candidates : List RerankCacheCandidate)
    : Option (List F32) := do
  let value ← stored
  buildCachedScores ((RerankCachePayload.ofJson serde value).getD ⟨[]⟩) candidates

end Elf

/-! ## Values read back -/

namespace Elf

/-- The value is one that a 32-bit float can have. -/
def f32Fits : F32 → Prop
  | .fin q => -F32.max ≤ q ∧ q ≤ F32.max
  | _ => True

variable {α : Type} {snapshot : Json} {field : String} {read : Json → Option α}
  {toJson : α → Json}

theorem readUuid_uuidJson {id : Uuid} (h : id < 2 ^ 128) : readUuid (uuidJson id) = some id := by
  unfold readUuid uuidJson
  rw [Json.asStr_str, Option.bind_some, Uuid.parseStr_toString h]

theorem readU32_num {n : Nat} (h : n < 4294967296) : readU32 (.num n) = some n := by
  simp [readU32, Json.asInt, h]

theorem readI32_num {n : Int} (hmin : -2147483648 ≤ n) (hmax : n < 2147483648)
    : readI32 (.num n) = some n := by
  simp [readI32, Json.asInt, hmin, hmax]

theorem asI64_num {n : Int} (hmin : -2 ^ 63 ≤ n) (hmax : n < 2 ^ 63)
    : (Json.num n).asI64 = some n := by
  simp only [Json.asI64, Json.asInt, Rat.den_intCast, Rat.num_intCast, if_true]
  rw [Option.filter_some, if_pos]
  simp only [Bool.and_eq_true, decide_eq_true_iff]
  exact ⟨hmin, hmax⟩

theorem readF32_scoreJson {score : F32} (h : f32Fits score)
    : readF32 (scoreJson score) = if score.isFinite then some score else none := by
  cases score with
  | nan => rfl
  | inf negative => rfl
  | fin q =>
    unfold f32Fits at h
    simp [readF32, scoreJson, F32.isFinite, not_lt.mpr h.1, not_lt.mpr h.2]

theorem readField_of_get {value : Json} (h : snapshot.get field = some value)
    : readField read snapshot field = read value := by
  unfold readField
  rw [h]
  rfl

theorem readOptional_of_get {value : Option α} (h : snapshot.get field = some (.ofOption toJson value))
    (hread : ∀ a, value = some a → toJson a ≠ .null ∧ read (toJson a) = some a)
    : readOptional read snapshot field = some value := by
  unfold readOptional
  rw [h]
  cases value with
  | none => rfl
  | some a =>
    have ⟨hnull, hsome⟩ := hread a rfl
    unfold Json.ofOption
    split
    next heq => cases heq
    next heq =>
      injection heq with heq
      exact absurd heq hnull
    next other _ heq =>
      injection heq with heq
      rw [← heq, hsome]
      rfl

theorem readOptional_score {score : Option F32}
    (h : snapshot.get field = some (.ofOption scoreJson score))
    (hfits : ∀ a, score = some a → f32Fits a)
    : readOptional readF32 snapshot field = some (score.filter F32.isFinite) := by
  unfold readOptional
  rw [h]
  cases score with
  | none => rfl
  | some a =>
    have hread := readF32_scoreJson (hfits a rfl)
    cases a with
    | nan => rfl
    | inf negative => rfl
    | fin q =>
      unfold Json.ofOption
      simp only [scoreJson] at hread ⊢
      rw [hread]
      rfl

end Elf
