import Elf.Search.Lemmas.Replay
import Elf.Search.TraceSnapshot
import Elf.Search.Replay
import Mathlib.Data.String.Basic

/-!
This module contains which decisions of a selection a replay reads back from the candidates of a trace.
-/

namespace Elf

/-! ## Candidates -/

/-- The values of a candidate are of their types. -/
structure TraceReplayCandidate.Fits (candidate : TraceReplayCandidate F32) : Prop where
  noteId : candidate.noteId < 2 ^ 128
  chunkId : candidate.chunkId < 2 ^ 128
  chunkIndex : -2147483648 ≤ candidate.chunkIndex ∧ candidate.chunkIndex < 2147483648
  retrievalRank : candidate.retrievalRank < 4294967296
  retrievalScore : ∀ score, candidate.retrievalScore = some score → f32Fits score
  rerankScore : f32Fits candidate.rerankScore
  noteImportance : f32Fits candidate.noteImportance
  noteHitCount : -2 ^ 63 ≤ candidate.noteHitCount ∧ candidate.noteHitCount < 2 ^ 63
  selectedRank : ∀ rank, candidate.diversitySelectedRank = some rank → rank < 4294967296
  nearest : ∀ id, candidate.diversityNearestSelectedNoteId = some id → id < 2 ^ 128
  similarity : ∀ score, candidate.diversitySimilarity = some score → f32Fits score
  mmrScore : ∀ score, candidate.diversityMmrScore = some score → f32Fits score

/-- What a snapshot keeps of a candidate: a float that is not finite is not a JSON number. -/
def TraceReplayCandidate.stored (candidate : TraceReplayCandidate F32)
    : TraceReplayCandidate F32 :=
  { candidate with
    retrievalScore := candidate.retrievalScore.filter F32.isFinite
    diversitySimilarity := candidate.diversitySimilarity.filter F32.isFinite
    diversityMmrScore := candidate.diversityMmrScore.filter F32.isFinite }

variable {rfc : Rfc3339}

theorem readTimeOption_json (hrfc : ∀ time text, rfc.format time = some text →
      rfc.parse text = some time) {time : Option Nat} {json : Json}
    (h : timeOptionJson rfc time = some json) : readTimeOption rfc json = some time := by
  cases time with
  | none =>
    injection h with h
    subst h
    rfl
  | some time =>
    have ⟨text, htext, heq⟩ := Option.map_eq_some_iff.mp h
    subst heq
    have hread : readTime rfc (.str text) = some time := hrfc time text htext
    unfold readTimeOption
    simp only [hread]
    rfl

section Snapshot

variable {candidate : TraceReplayCandidate F32} {updatedAt : String} {lastHitAt : Json}

theorem readOptional_str (value : Option String) (field : String) {snapshot : Json}
    (h : snapshot.get field = some (.ofOption .str value))
    : readOptional Json.asStr snapshot field = some value := by
  apply readOptional_of_get h
  intro a _
  exact ⟨Json.noConfusion, rfl⟩

theorem readOptional_bool (value : Option Bool) (field : String) {snapshot : Json}
    (h : snapshot.get field = some (.ofOption .bool value))
    : readOptional readBool snapshot field = some value := by
  apply readOptional_of_get h
  intro a _
  exact ⟨Json.noConfusion, rfl⟩

theorem readOptional_uuid {value : Option Uuid} {field : String} {snapshot : Json}
    (h : snapshot.get field = some (.ofOption uuidJson value))
    (hfits : ∀ id, value = some id → id < 2 ^ 128)
    : readOptional readUuid snapshot field = some value := by
  apply readOptional_of_get h
  intro id hid
  exact ⟨Json.noConfusion, readUuid_uuidJson (hfits id hid)⟩

theorem readOptional_rank {value : Option Nat} {field : String} {snapshot : Json}
    (h : snapshot.get field = some (.ofOption (.num ·) (value.map Nat.cast)))
    (hfits : ∀ rank, value = some rank → rank < 4294967296)
    : readOptional readU32 snapshot field = some value := by
  cases value with
  | none =>
    unfold readOptional
    rw [h]
    rfl
  | some rank =>
    unfold readOptional
    rw [h]
    have hread := readU32_num (hfits rank rfl)
    simp only [Option.map_some, Json.ofOption]
    rw [hread]
    rfl

theorem readSnapshot_entries (h : candidate.Fits)
    (hupdatedAt : rfc.parse updatedAt = some candidate.noteUpdatedAt)
    (hlastHitAt : readTimeOption rfc lastHitAt = some candidate.noteLastHitAt)
    : readSnapshot rfc (.obj (candidate.entries updatedAt lastHitAt))
      = if candidate.rerankScore.isFinite && candidate.noteImportance.isFinite then
          some candidate.stored
        else none := by
  have hget (field : String) (value : Json)
      (hlookup : (candidate.entries updatedAt lastHitAt).lookup field = some value)
      : (Json.obj (candidate.entries updatedAt lastHitAt)).get field = some value := hlookup
  have hgetScore : (Json.obj (candidate.entries updatedAt lastHitAt)).get "retrieval_score"
      = candidate.retrievalScore.map scoreJson := by
    unfold TraceReplayCandidate.entries
    cases candidate.retrievalScore with
    | none => rfl
    | some score => rfl
  generalize Json.obj (candidate.entries updatedAt lastHitAt) = snapshot at hget hgetScore
  have hnoteId : readField readUuid snapshot "note_id" = some candidate.noteId := by
    rw [readField_of_get (hget "note_id" (uuidJson candidate.noteId) rfl)]
    exact readUuid_uuidJson h.noteId
  have hchunkId : readField readUuid snapshot "chunk_id" = some candidate.chunkId := by
    rw [readField_of_get (hget "chunk_id" _ rfl)]
    exact readUuid_uuidJson h.chunkId
  have hchunkIndex : readField readI32 snapshot "chunk_index" = some candidate.chunkIndex := by
    rw [readField_of_get (hget "chunk_index" _ rfl)]
    exact readI32_num h.chunkIndex.1 h.chunkIndex.2
  have hsnippet : readField Json.asStr snapshot "snippet" = some candidate.snippet := by
    apply readField_of_get (hget "snippet" (.str candidate.snippet) _)
    unfold TraceReplayCandidate.entries
    cases candidate.retrievalScore with
    | none => rfl
    | some score => rfl
  have hretrievalRank : readField readU32 snapshot "retrieval_rank"
      = some candidate.retrievalRank := by
    rw [readField_of_get (hget "retrieval_rank" _ rfl)]
    exact readU32_num h.retrievalRank
  have hrerankScore := @readField_of_get _ _ _ readF32 _ (hget "rerank_score" _ rfl)
  rw [readF32_scoreJson h.rerankScore] at hrerankScore
  have hnoteScope : readField Json.asStr snapshot "note_scope" = some candidate.noteScope :=
    readField_of_get (hget "note_scope" _ rfl)
  have hnoteImportance := @readField_of_get _ _ _ readF32 _ (hget "note_importance" _ rfl)
  rw [readF32_scoreJson h.noteImportance] at hnoteImportance
  have hnoteUpdatedAt : readField (readTime rfc) snapshot "note_updated_at"
      = some candidate.noteUpdatedAt := by
    rw [readField_of_get (hget "note_updated_at" _ rfl)]
    exact hupdatedAt
  have hnoteHitCount : readField Json.asI64 snapshot "note_hit_count"
      = some candidate.noteHitCount := by
    rw [readField_of_get (hget "note_hit_count" _ rfl)]
    exact asI64_num h.noteHitCount.1 h.noteHitCount.2
  have hnoteLastHitAt : readField (readTimeOption rfc) snapshot "note_last_hit_at"
      = some candidate.noteLastHitAt := by
    rw [readField_of_get (hget "note_last_hit_at" _ rfl)]
    exact hlastHitAt
  have hselected := readOptional_bool candidate.diversitySelected _ (hget "diversity_selected" _ rfl)
  have hselectedReason := readOptional_str candidate.diversitySelectedReason _
    (hget "diversity_selected_reason" _ rfl)
  have hskippedReason := readOptional_str candidate.diversitySkippedReason _
    (hget "diversity_skipped_reason" _ rfl)
  have hmissingEmbedding := readOptional_bool candidate.diversityMissingEmbedding _
    (hget "diversity_missing_embedding" _ rfl)
  have hsimilarity := readOptional_score (hget "diversity_similarity" _ rfl) h.similarity
  have hmmrScore := readOptional_score (hget "diversity_mmr_score" _ rfl) h.mmrScore
  have hnearest := readOptional_uuid (hget "diversity_nearest_selected_note_id" _ rfl) h.nearest
  have hselectedRank := readOptional_rank (hget "diversity_selected_rank" _ rfl) h.selectedRank
  have hretrievalScore : readOptional readF32 snapshot "retrieval_score"
      = some (candidate.retrievalScore.filter F32.isFinite) := by
    cases hscore : candidate.retrievalScore with
    | none =>
      rw [hscore] at hgetScore
      unfold readOptional
      rw [hgetScore]
      rfl
    | some score =>
      rw [hscore] at hgetScore
      apply readOptional_score hgetScore
      intro a ha
      exact h.retrievalScore a (hscore.trans ha)
  unfold readSnapshot
  simp only [hnoteId, hchunkId, hchunkIndex, hsnippet, hretrievalRank, hretrievalScore, hrerankScore,
    hnoteScope, hnoteImportance, hnoteUpdatedAt, hnoteHitCount, hnoteLastHitAt, hselected,
    hselectedRank, hselectedReason, hskippedReason, hnearest, hsimilarity, hmmrScore,
    hmissingEmbedding, Option.bind_eq_bind, Option.bind_some]
  cases candidate.rerankScore.isFinite with
  | false => rfl
  | true =>
    cases candidate.noteImportance.isFinite with
    | false => rfl
    | true => rfl

end Snapshot

/-! ## Decisions -/

/-- The values of a decision are of their types. -/
structure DiversityDecision.Fits (decision : DiversityDecision F32) : Prop where
  selectedRank : ∀ rank, decision.selectedRank = some rank → rank < 4294967296
  nearest : ∀ id, decision.nearestSelectedNoteId = some id → id < 2 ^ 128
  similarity : ∀ score, decision.similarity = some score → f32Fits score
  mmrScore : ∀ score, decision.mmrScore = some score → f32Fits score

/-- What a snapshot keeps of a decision. -/
def DiversityDecision.stored (decision : DiversityDecision F32) : DiversityDecision F32 :=
  { decision with
    similarity := decision.similarity.filter F32.isFinite
    mmrScore := decision.mmrScore.filter F32.isFinite }

def storedDecisions (decisions : NoteMap (DiversityDecision F32))
    : NoteMap (DiversityDecision F32) :=
  decisions.map fun entry => (entry.1, entry.2.stored)

/-- The snapshot of a candidate can be read: its times have texts and its scores are numbers. -/
def ScoredChunk.readable (rfc : Rfc3339) (scored : ScoredChunk F32) : Bool :=
  (rfc.format scored.item.note.updatedAt).isSome
    && (timeOptionJson rfc scored.item.note.lastHitAt).isSome
    && scored.rerankScore.isFinite && scored.item.note.importance.isFinite
    && scored.item.note.noteId ≠ 0 && scored.item.chunk.chunkId ≠ 0

theorem insertInto_entries (decision : DiversityDecision F32)
    (candidate : TraceReplayCandidate F32) (updatedAt : String) (lastHitAt : Json)
    : decision.insertInto (.obj (candidate.entries updatedAt lastHitAt))
      = .obj ({ candidate with
          diversitySelected := some decision.selected
          diversitySelectedRank := decision.selectedRank
          diversitySelectedReason := some decision.selectedReason
          diversitySkippedReason := decision.skippedReason
          diversityNearestSelectedNoteId := decision.nearestSelectedNoteId
          diversitySimilarity := decision.similarity
          diversityMmrScore := decision.mmrScore
          diversityMissingEmbedding := some decision.missingEmbedding
        }.entries updatedAt lastHitAt) := by
  unfold DiversityDecision.insertInto TraceReplayCandidate.entries
  simp [Json.set, Json.insertEntry, Json.ofOption, -String.lt_iff_ltb]

variable {decisions : NoteMap (DiversityDecision F32)}

theorem attachDecision_fits {candidate : TraceReplayCandidate F32} (h : candidate.Fits)
    (hdecisions : ∀ entry ∈ decisions, entry.2.Fits) : (attachDecision decisions candidate).Fits := by
  unfold attachDecision
  cases hlookup : decisions.lookup candidate.noteId with
  | none => exact h
  | some decision =>
    have hfits := hdecisions _ (Lookup.mem_of_lookup hlookup)
    exact {
      noteId := h.noteId
      chunkId := h.chunkId
      chunkIndex := h.chunkIndex
      retrievalRank := h.retrievalRank
      retrievalScore := h.retrievalScore
      rerankScore := h.rerankScore
      noteImportance := h.noteImportance
      noteHitCount := h.noteHitCount
      selectedRank := hfits.selectedRank
      nearest := hfits.nearest
      similarity := hfits.similarity
      mmrScore := hfits.mmrScore }

theorem attachDecision_kept (candidate : TraceReplayCandidate F32)
    : (attachDecision decisions candidate).noteId = candidate.noteId
      ∧ (attachDecision decisions candidate).chunkId = candidate.chunkId
      ∧ (attachDecision decisions candidate).rerankScore = candidate.rerankScore
      ∧ (attachDecision decisions candidate).noteImportance = candidate.noteImportance
      ∧ (attachDecision decisions candidate).noteUpdatedAt = candidate.noteUpdatedAt
      ∧ (attachDecision decisions candidate).noteLastHitAt = candidate.noteLastHitAt := by
  unfold attachDecision
  cases decisions.lookup candidate.noteId with
  | none => simp
  | some decision => simp

theorem attachDecision_stored (candidate : TraceReplayCandidate F32)
    : (attachDecision decisions candidate).stored
      = attachDecision (storedDecisions decisions) candidate.stored := by
  have hnote : candidate.stored.noteId = candidate.noteId := rfl
  unfold attachDecision storedDecisions
  rw [Lookup.lookup_map, hnote]
  cases decisions.lookup candidate.noteId with
  | none => rfl
  | some decision => rfl

/-! ## Rows -/

section Rows

variable {scored : ScoredChunk F32}

theorem attachDecision_columns (record : TraceCandidateRecord)
    : (record.attachDecision decisions).columns = record.columns := by
  unfold TraceCandidateRecord.attachDecision
  split
  . rfl
  . split
    . rfl
    . rfl

/-- The snapshot with the decision is that of the candidate with the decision. -/
theorem attachDecision_snapshot {updatedAt : String} {lastHitAt : Json}
    (hsnapshot : (buildTraceCandidateRecord scored).toJson rfc
      = some (.obj ((buildTraceCandidateRecord scored).entries updatedAt lastHitAt)))
    : ((scored.traceRecord rfc).attachDecision decisions).candidateSnapshot
      = .obj ((attachDecision decisions (buildTraceCandidateRecord scored)).entries updatedAt
          lastHitAt) := by
  have hrecord : (scored.traceRecord rfc).candidateSnapshot
      = .obj ((buildTraceCandidateRecord scored).entries updatedAt lastHitAt) := by
    unfold ScoredChunk.traceRecord
    rw [hsnapshot]
    rfl
  have hnote : (scored.traceRecord rfc).noteId = (buildTraceCandidateRecord scored).noteId := rfl
  unfold TraceCandidateRecord.attachDecision attachDecision
  rw [hnote]
  cases decisions.lookup (buildTraceCandidateRecord scored).noteId with
  | none => exact hrecord
  | some decision =>
    rw [hrecord]
    exact insertInto_entries decision _ updatedAt lastHitAt

theorem readSnapshot_unwritten (hnone : (buildTraceCandidateRecord scored).toJson rfc = none)
    : readSnapshot rfc ((scored.traceRecord rfc).attachDecision decisions).candidateSnapshot
      = none := by
  have hrecord : (scored.traceRecord rfc).candidateSnapshot = .obj [] := by
    unfold ScoredChunk.traceRecord
    rw [hnone]
    rfl
  have hget : ((scored.traceRecord rfc).attachDecision decisions).candidateSnapshot.get "note_id"
      = none := by
    unfold TraceCandidateRecord.attachDecision
    split
    . rw [hrecord]
      rfl
    . rw [hrecord]
      simp [DiversityDecision.insertInto, Json.set, Json.insertEntry, Json.isObject,
        -String.lt_iff_ltb]
  unfold readSnapshot readField
  rw [hget]
  rfl

theorem decode_attachDecision
    (hrfc : ∀ time text, rfc.format time = some text → rfc.parse text = some time)
    (hfits : (buildTraceCandidateRecord scored).Fits)
    (hdecisions : ∀ entry ∈ decisions, entry.2.Fits)
    : decodeTraceReplayCandidate rfc ((scored.traceRecord rfc).attachDecision decisions)
      = if scored.readable rfc then
          (attachDecision decisions (buildTraceCandidateRecord scored)).stored
        else (scored.traceRecord rfc).columns := by
  unfold decodeTraceReplayCandidate
  rw [attachDecision_columns]
  cases hupdatedAt : rfc.format scored.item.note.updatedAt with
  | none =>
    have hjson : (buildTraceCandidateRecord scored).toJson rfc = none := by
      unfold TraceReplayCandidate.toJson buildTraceCandidateRecord
      rw [hupdatedAt]
      rfl
    have hreadable : scored.readable rfc = false := by
      unfold ScoredChunk.readable
      rw [hupdatedAt]
      rfl
    rw [readSnapshot_unwritten hjson, hreadable]
    rfl
  | some updatedAt =>
    cases hlastHitAt : timeOptionJson rfc scored.item.note.lastHitAt with
    | none =>
      have hjson : (buildTraceCandidateRecord scored).toJson rfc = none := by
        unfold TraceReplayCandidate.toJson buildTraceCandidateRecord
        rw [hupdatedAt, hlastHitAt]
        rfl
      have hreadable : scored.readable rfc = false := by
        unfold ScoredChunk.readable
        rw [hupdatedAt, hlastHitAt]
        rfl
      rw [readSnapshot_unwritten hjson, hreadable]
      rfl
    | some lastHitAt =>
      have hjson : (buildTraceCandidateRecord scored).toJson rfc
          = some (.obj ((buildTraceCandidateRecord scored).entries updatedAt lastHitAt)) := by
        unfold TraceReplayCandidate.toJson
        have hupdatedAt' : rfc.format (buildTraceCandidateRecord scored).noteUpdatedAt
            = some updatedAt := hupdatedAt
        have hlastHitAt' : timeOptionJson rfc (buildTraceCandidateRecord scored).noteLastHitAt
            = some lastHitAt := hlastHitAt
        rw [hupdatedAt', hlastHitAt']
        rfl
      have ⟨hnoteId, hchunkId, hrerankScore, hnoteImportance, hnoteUpdatedAt, hnoteLastHitAt⟩ :=
        @attachDecision_kept decisions (buildTraceCandidateRecord scored)
      have hread := @readSnapshot_entries rfc _ updatedAt lastHitAt
        (attachDecision_fits hfits hdecisions)
        (by rw [hnoteUpdatedAt]; exact hrfc _ _ hupdatedAt)
        (by rw [hnoteLastHitAt]; exact readTimeOption_json hrfc hlastHitAt)
      rw [attachDecision_snapshot hjson, hread, hrerankScore, hnoteImportance]
      have hstored : (attachDecision decisions (buildTraceCandidateRecord scored)).stored.noteId
          = scored.item.note.noteId
          ∧ (attachDecision decisions (buildTraceCandidateRecord scored)).stored.chunkId
            = scored.item.chunk.chunkId := ⟨hnoteId, hchunkId⟩
      have hreadable : scored.readable rfc
          = ((scored.rerankScore.isFinite && scored.item.note.importance.isFinite)
            && (scored.item.note.noteId ≠ 0 && scored.item.chunk.chunkId ≠ 0)) := by
        unfold ScoredChunk.readable
        rw [hupdatedAt, hlastHitAt]
        simp only [Option.isSome_some, Bool.true_and, Bool.and_assoc]
      rw [hreadable]
      change (Option.filter _ (if scored.rerankScore.isFinite && scored.item.note.importance.isFinite
        then _ else _)).getD _ = _
      cases scored.rerankScore.isFinite && scored.item.note.importance.isFinite with
      | false => rfl
      | true =>
        simp only [if_true, Option.filter_some, hstored, Bool.true_and]
        split
        . rfl
        . rfl

end Rows

/-! ## Replay -/

/-- Candidates without a decision are passed over. -/
theorem foldl_extractDecision_filter {α : Type} {keep : α → Bool}
    {kept other : α → TraceReplayCandidate F32} (hother : ∀ a, (other a).hasDiversity = false)
    (l : List α) (out : NoteMap (DiversityDecision F32))
    : (l.map fun a => if keep a then kept a else other a).foldl extractDecision out
      = ((l.filter keep).map kept).foldl extractDecision out := by
  induction l generalizing out with
  | nil => rfl
  | cons a l ih =>
    rw [List.map_cons, List.foldl_cons, ih, List.filter_cons]
    cases keep a with
    | true => rfl
    | false =>
      have hskip : extractDecision out (other a) = out := by
        unfold extractDecision
        rw [hother]
        rfl
      simp only [Bool.false_eq_true, if_false]
      rw [hskip]

theorem trace_decisions (rfc : Rfc3339)
    (hrfc : ∀ time text, rfc.format time = some text → rfc.parse text = some time)
    (scored : List (ScoredChunk F32)) (decisions : NoteMap (DiversityDecision F32))
    (hscored : ∀ chunk ∈ scored, (buildTraceCandidateRecord chunk).Fits)
    (hdecisions : ∀ entry ∈ decisions, entry.2.Fits) (noteId : Uuid)
    : let records := attachDiversityDecisionsToRecords (scored.map (·.traceRecord rfc)) decisions
      (extractReplayDiversityDecisions (decodeTraceReplayCandidates rfc records)).lookup noteId
        = if ∃ chunk ∈ scored, chunk.noteId = noteId ∧ chunk.readable rfc then
            (decisions.lookup noteId).map DiversityDecision.stored
          else none := by
  have hdecode : decodeTraceReplayCandidates rfc (attachDiversityDecisionsToRecords
      (scored.map (·.traceRecord rfc)) decisions)
      = scored.map fun chunk => if chunk.readable rfc then
          attachDecision (storedDecisions decisions) (buildTraceCandidateRecord chunk).stored
        else (chunk.traceRecord rfc).columns := by
    unfold decodeTraceReplayCandidates attachDiversityDecisionsToRecords
    rw [List.map_map, List.map_map]
    apply List.map_congr_left
    intro chunk hchunk
    have hchunk := decode_attachDecision hrfc (hscored chunk hchunk) hdecisions
    rw [attachDecision_stored] at hchunk
    exact hchunk
  intro records
  unfold records
  rw [hdecode]
  unfold extractReplayDiversityDecisions
  rw [foldl_extractDecision_filter (fun _ => rfl)]
  have hextract := @extractReplayDiversityDecisions_attach F32 (storedDecisions decisions)
    ((scored.filter (·.readable rfc)).map fun chunk => (buildTraceCandidateRecord chunk).stored)
    (by
      intro candidate hcandidate
      have ⟨chunk, _, heq⟩ := List.mem_map.mp hcandidate
      rw [← heq]
      rfl) noteId
  unfold extractReplayDiversityDecisions attachDiversityDecisionsToTraceCandidates at hextract
  rw [List.map_map] at hextract
  have hnotes : noteId ∈ ((scored.filter (·.readable rfc)).map fun chunk =>
        (buildTraceCandidateRecord chunk).stored).map (·.noteId)
      ↔ ∃ chunk ∈ scored, chunk.noteId = noteId ∧ chunk.readable rfc := by
    simp only [List.map_map, List.mem_map, List.mem_filter, Function.comp_apply]
    constructor
    . intro ⟨chunk, ⟨hchunk, hreadable⟩, hnote⟩
      exact ⟨chunk, hchunk, hnote, hreadable⟩
    . intro ⟨chunk, hchunk, hnote, hreadable⟩
      exact ⟨chunk, ⟨hchunk, hreadable⟩, hnote⟩
  have hlookup : (storedDecisions decisions).lookup noteId
      = (decisions.lookup noteId).map DiversityDecision.stored :=
    Lookup.lookup_map DiversityDecision.stored decisions noteId
  simp only [hnotes, hlookup] at hextract
  exact hextract

/-! ## Two chunks of a note -/

/-- One time and its text. -/
def sampleRfc3339 : Rfc3339 where
  format time := if time = 0 then some "2000-01-01T00:00:00Z" else none
  parse text := if text = "2000-01-01T00:00:00Z" then some 0 else none

theorem sampleRfc3339_parse (time : Nat) (text : String)
    (h : sampleRfc3339.format time = some text) : sampleRfc3339.parse text = some time := by
  unfold sampleRfc3339 at h ⊢
  simp only at h ⊢
  split at h
  next hzero =>
    injection h with h
    rw [← h, hzero]
    rfl
  next => contradiction

def sampleTraced (noteId chunkId : Uuid) (rerankScore : F32) : ScoredChunk F32 where
  item := sampleChunkSnippet noteId chunkId 0 1
  finalScore := .fin 0
  rerankScore
  rerankRank := 1
  rerankNorm := .fin 0
  retrievalNorm := .fin 0
  blendRetrievalWeight := .fin 0
  retrievalTerm := .fin 0
  rerankTerm := .fin 0
  tieBreakerScore := .fin 0
  scopeContextBoost := .fin 0
  ageDays := .fin 0
  importance := .fin 0
  deterministicLexicalOverlapRatio := .fin 0
  deterministicLexicalBonus := .fin 0
  deterministicHitCount := 0
  deterministicLastHitAgeDays := none
  deterministicHitBoost := .fin 0
  deterministicDecayPenalty := .fin 0

def sampleDecision (similarity : F32) : DiversityDecision F32 :=
  ⟨true, some 2, "mmr", none, some 7, some similarity, some (.fin 1), false⟩

def sampleExtracted (scored : List (ScoredChunk F32)) (decisions : NoteMap (DiversityDecision F32))
    : NoteMap (DiversityDecision F32) :=
  extractReplayDiversityDecisions (decodeTraceReplayCandidates sampleRfc3339
    (attachDiversityDecisionsToRecords (scored.map (·.traceRecord sampleRfc3339)) decisions))

theorem f32Fits_zero : f32Fits (.fin 0) := by
  unfold f32Fits F32.max
  constructor
  . norm_num
  . norm_num

theorem sampleTraced_fits {noteId chunkId : Uuid} (hnote : noteId < 2 ^ 128)
    (hchunk : chunkId < 2 ^ 128)
    : (buildTraceCandidateRecord (sampleTraced noteId chunkId (.fin 0))).Fits where
  noteId := hnote
  chunkId := hchunk
  chunkIndex := by simp [buildTraceCandidateRecord, sampleTraced, sampleChunkSnippet]
  retrievalRank := by simp [buildTraceCandidateRecord, sampleTraced, sampleChunkSnippet]
  retrievalScore score h := by cases h
  rerankScore := f32Fits_zero
  noteImportance := f32Fits_zero
  noteHitCount := by simp [buildTraceCandidateRecord, sampleTraced, sampleChunkSnippet]
  selectedRank rank h := by cases h
  nearest id h := by cases h
  similarity score h := by cases h
  mmrScore score h := by cases h

theorem sampleDecision_fits : (sampleDecision (.fin 0)).Fits where
  selectedRank rank h := by
    cases h
    decide
  nearest id h := by
    cases h
    decide
  similarity score h := by
    cases h
    exact f32Fits_zero
  mmrScore score h := by
    cases h
    unfold f32Fits F32.max
    constructor
    . norm_num
    . norm_num

theorem trace_decisions_twoChunks
    : (sampleExtracted [sampleTraced 1 1 (.fin 0), sampleTraced 1 2 (.fin 0)]
        [(1, sampleDecision (.fin 0))]).lookup 1 = some (sampleDecision (.fin 0)) := by
  unfold sampleExtracted
  rw [trace_decisions sampleRfc3339 sampleRfc3339_parse]
  . rw [if_pos]
    . rfl
    . exact ⟨_, List.mem_cons_self, rfl, by decide⟩
  . intro chunk hchunk
    simp only [List.mem_cons, List.not_mem_nil, or_false] at hchunk
    cases hchunk with
    | inl heq =>
      rw [heq]
      exact sampleTraced_fits (by decide) (by decide)
    | inr heq =>
      rw [heq]
      exact sampleTraced_fits (by decide) (by decide)
  . intro entry hentry
    rw [List.mem_singleton] at hentry
    rw [hentry]
    exact sampleDecision_fits

/-- A score that is not finite hides the decision, and a similarity that is not finite is lost. -/
theorem not_trace_decisions_notFinite
    : ((sampleExtracted [sampleTraced 1 1 (.inf false)] [(1, sampleDecision (.fin 0))]).lookup
          1).isNone
      ∧ ((sampleExtracted [sampleTraced 1 1 (.fin 0)] [(1, sampleDecision .nan)]).lookup 1).map
          (·.similarity) = some none := by
  decide +kernel

end Elf
