import Elf.Service.History
import Elf.Docs.Models
import Elf.Storage.Identifiers
import Elf.Worker.Helpers

/-!
This module contains the points of the note index, one for each chunk of a note with a payload that
repeats the columns of the note, how the text of a note is split into chunks, and how their identifiers
are derived from the note.
-/

namespace Elf

/-- A chunk of a note's text, as it is embedded and stored. -/
structure ChunkRecord where
  chunkId : Uuid
  chunkIndex : Int
  startOffset : Int
  endOffset : Int
  text : String
deriving DecidableEq

structure ChunkPoint where
  id : Uuid
  payload : Json
  dense : List F32
  bm25 : String
deriving DecidableEq

def chunkPayload (note : MemoryNote) (embeddingVersion : String) (record : ChunkRecord) : Json :=
  .obj [
    ("agent_id", .str note.agentId),
    ("chunk_id", uuidJson record.chunkId),
    ("chunk_index", .num record.chunkIndex),
    ("confidence", scoreJson note.confidence),
    ("embedding_version", .str embeddingVersion),
    ("end_offset", .num record.endOffset),
    ("expires_at", .ofOption timeJson note.expiresAt),
    ("importance", scoreJson note.importance),
    ("key", .ofOption .str note.key),
    ("note_id", uuidJson note.noteId),
    ("project_id", .str note.projectId),
    ("scope", .str note.scope),
    ("start_offset", .num record.startOffset),
    ("status", .str note.status),
    ("tenant_id", .str note.tenantId),
    ("type", .str note.type),
    ("updated_at", timeJson note.updatedAt)]

def buildChunkPoint (note : MemoryNote) (embeddingVersion : String) (record : ChunkRecord)
    (vec : List F32) : ChunkPoint :=
  ⟨record.chunkId, chunkPayload note embeddingVersion record, vec, record.text⟩

variable {note : MemoryNote} {embeddingVersion : String} {record : ChunkRecord}

@[simp]
theorem chunkPayload_tenant_id
    : (chunkPayload note embeddingVersion record).get "tenant_id" = some (.str note.tenantId) := rfl

@[simp]
theorem chunkPayload_project_id
    : (chunkPayload note embeddingVersion record).get "project_id" = some (.str note.projectId) := rfl

@[simp]
theorem chunkPayload_agent_id
    : (chunkPayload note embeddingVersion record).get "agent_id" = some (.str note.agentId) := rfl

@[simp]
theorem chunkPayload_scope
    : (chunkPayload note embeddingVersion record).get "scope" = some (.str note.scope) := rfl

@[simp]
theorem chunkPayload_status
    : (chunkPayload note embeddingVersion record).get "status" = some (.str note.status) := rfl

end Elf

/-! ## Chunks -/

namespace Elf

/-- What a tokenizer does, each call with the error it may end in. -/
structure ChunkTokenizer where
  encode : String → Except String (List Nat)
  decode : List Nat → Except String String

structure ChunkingConfig where
  maxTokens : Nat
  overlapTokens : Nat

structure Chunk where
  chunkIndex : Nat
  startOffset : Nat
  endOffset : Nat
  text : String
deriving DecidableEq

section Split

variable (cfg : ChunkingConfig) (tokenizer : ChunkTokenizer)

def overlapTail (text : String) : String :=
  if cfg.overlapTokens = 0 then
    ""
  else
    match tokenizer.encode text with
    | .error _ => ""
    | .ok tokens =>
      match tokenizer.decode (tokens.drop (tokens.length - cfg.overlapTokens)) with
      | .ok decoded => decoded
      | .error _ => ""

/-- `token_count as u32`, where a text that cannot be encoded counts for nothing. -/
def tokenCount (candidate : String) : Nat :=
  match tokenizer.encode candidate with
  | .ok ids => ids.length % 2 ^ 32
  | .error _ => 0

structure SplitState where
  current : String
  currentStart : Nat
  lastEnd : Nat
  chunkIndex : Nat

def SplitState.chunk (st : SplitState) : Chunk :=
  ⟨st.chunkIndex, st.currentStart, st.lastEnd, st.current⟩

/-- The state after a chunk is closed. -/
def SplitState.next (st : SplitState) : SplitState :=
  let overlap := overlapTail cfg tokenizer st.current
  { st with
    current := overlap
    currentStart := st.lastEnd - overlap.utf8ByteSize
    chunkIndex := st.chunkIndex + 1 }

/-- The state with a sentence that starts at `idx`. -/
def SplitState.push (st : SplitState) (idx : Nat) (sentence : String) : SplitState :=
  { st with
    currentStart := if st.current = "" then idx else st.currentStart
    current := st.current ++ sentence
    lastEnd := idx + sentence.utf8ByteSize }

def splitSentences (st : SplitState) : List (Nat × String) → List Chunk
  | [] => if st.current ≠ "" then [st.chunk] else []
  | (idx, sentence) :: sentences =>
    if cfg.maxTokens < tokenCount tokenizer (st.current ++ sentence) ∧ st.current ≠ "" then
      st.chunk :: splitSentences ((st.next cfg tokenizer).push idx sentence) sentences
    else
      splitSentences (st.push idx sentence) sentences

/-- The chunks of a text that consists of `sentences`, each with the offset that it starts at. -/
def splitText (sentences : List (Nat × String)) : List Chunk :=
  splitSentences cfg tokenizer ⟨"", 0, 0, 0⟩ sentences

theorem le_of_mem_splitSentences {st : SplitState} (h : chunk ∈ splitSentences cfg tokenizer st sentences)
    : st.chunkIndex ≤ chunk.chunkIndex := by
  induction sentences generalizing st with
  | nil =>
    unfold splitSentences at h
    split at h
    . rw [List.mem_singleton.mp h]
      exact le_refl _
    . cases h
  | cons head sentences ih =>
    unfold splitSentences at h
    split at h
    . rcases List.mem_cons.mp h with rfl | h
      . exact le_refl _
      . have hle := ih h
        exact Nat.le_of_succ_le hle
    . have hle := ih h
      exact hle

/-- The chunks are numbered in their order. -/
theorem splitSentences_sorted (st : SplitState) (sentences : List (Nat × String))
    : (splitSentences cfg tokenizer st sentences).Pairwise fun a b => a.chunkIndex < b.chunkIndex := by
  induction sentences generalizing st with
  | nil =>
    unfold splitSentences
    split
    . exact List.pairwise_singleton _ _
    . exact List.Pairwise.nil
  | cons head sentences ih =>
    unfold splitSentences
    split
    . apply List.Pairwise.cons
      . intro chunk hchunk
        exact le_of_mem_splitSentences cfg tokenizer hchunk
      . exact ih _
    . exact ih _

end Split

/-! ## Records -/

/-- The worker: its configuration, and what it calls that is not modelled further. -/
structure NoteIndexer where
  vectorDim : Nat
  chunking : ChunkingConfig
  tokenizer : ChunkTokenizer
  /-- The sentences of a text, each with the offset that it starts at. -/
  sentences : String → List (Nat × String)
  uuidV5 : UuidNamespace → String → Uuid

variable (ix : NoteIndexer)

def chunkIdFor (noteId : Uuid) (chunkIndex : Nat) : Uuid :=
  ix.uuidV5 .oid (noteId.toString ++ ":" ++ toString chunkIndex)

def toI32 (value : Nat) (label : String) : Except WorkerError Int := do
  Except.rejectIf (2 ^ 31 ≤ value) (.validation
    ("Chunk " ++ label ++ " offset " ++ toString value ++ " exceeds supported range."))
  return value

def buildChunkRecord (noteId : Uuid) (chunk : Chunk) : Except WorkerError ChunkRecord := do
  let startOffset ← toI32 chunk.startOffset "start_offset"
  let endOffset ← toI32 chunk.endOffset "end_offset"
  return {
    chunkId := chunkIdFor ix noteId chunk.chunkIndex
    chunkIndex := chunk.chunkIndex
    startOffset
    endOffset
    text := chunk.text }

def buildChunkRecords (noteId : Uuid) : List Chunk → Except WorkerError (List ChunkRecord)
  | [] => .ok []
  | chunk :: chunks => do
    let record ← buildChunkRecord ix noteId chunk
    let records ← buildChunkRecords noteId chunks
    return record :: records

/-- The records of a text, of which there is at least one. -/
def noteRecords (noteId : Uuid) (text : String) : Except WorkerError (List ChunkRecord) := do
  let chunks := splitText ix.chunking ix.tokenizer (ix.sentences text)
  Except.rejectIf chunks.isEmpty (.validation "Chunking produced no chunks.")
  buildChunkRecords ix noteId chunks

/-! ## Identifiers -/

theorem uuidJson_inj {m n : Uuid} (hm : m < 2 ^ 128) (hn : n < 2 ^ 128)
    (h : uuidJson m = uuidJson n) : m = n := by
  unfold uuidJson at h
  exact Uuid.toString_inj hm hn (Json.str.inj h)

/-- The identifiers of chunks tell notes and positions apart. -/
theorem chunkIdFor_inj {ix : NoteIndexer} (huuid : Function.Injective (ix.uuidV5 .oid))
    {m n : Uuid} (hm : m < 2 ^ 128) (hn : n < 2 ^ 128) (h : chunkIdFor ix m i = chunkIdFor ix n j)
    : m = n ∧ i = j := by
  have hname := congrArg String.toList (huuid h)
  simp only [String.toList_append] at hname
  have happend := List.append_inj hname (by simp [Uuid.length_toString])
  have hid := List.append_inj happend.1 (by simp [Uuid.length_toString])
  exact ⟨Uuid.toString_inj hm hn (String.toList_injective hid.1),
    toString_nat_inj (String.toList_injective happend.2)⟩

variable {ix : NoteIndexer}

theorem buildChunkRecord_spec (h : buildChunkRecord ix noteId chunk = .ok record)
    : record.chunkId = chunkIdFor ix noteId chunk.chunkIndex
      ∧ record.chunkIndex = chunk.chunkIndex := by
  unfold buildChunkRecord at h
  rcases Except.bind_eq_ok.mp h with ⟨_, -, h⟩
  rcases Except.bind_eq_ok.mp h with ⟨_, -, hpure⟩
  cases hpure
  exact ⟨rfl, rfl⟩

/-- A record is one of a chunk of the note. -/
def ChunkRecord.OfNote (ix : NoteIndexer) (noteId : Uuid) (record : ChunkRecord) : Prop :=
  ∃ idx, record.chunkId = chunkIdFor ix noteId idx

theorem buildChunkRecords_spec (h : buildChunkRecords ix noteId chunks = .ok records)
    : ∀ record ∈ records, ∃ chunk ∈ chunks, record.chunkId = chunkIdFor ix noteId chunk.chunkIndex := by
  induction chunks generalizing records with
  | nil =>
    cases h
    simp
  | cons chunk chunks ih =>
    unfold buildChunkRecords at h
    rcases Except.bind_eq_ok.mp h with ⟨head, hhead, h⟩
    rcases Except.bind_eq_ok.mp h with ⟨tail, htail, hpure⟩
    cases hpure
    intro record hrecord
    rcases List.mem_cons.mp hrecord with rfl | hrecord
    . exact ⟨chunk, List.mem_cons_self, (buildChunkRecord_spec hhead).1⟩
    . rcases ih htail record hrecord with ⟨other, hother, hid⟩
      exact ⟨other, List.mem_cons_of_mem chunk hother, hid⟩

theorem buildChunkRecords_nodup (huuid : Function.Injective (ix.uuidV5 .oid)) (hid : noteId < 2 ^ 128)
    (hsorted : chunks.Pairwise fun a b => a.chunkIndex < b.chunkIndex)
    (h : buildChunkRecords ix noteId chunks = .ok records)
    : (records.map ChunkRecord.chunkId).Nodup := by
  induction chunks generalizing records with
  | nil =>
    cases h
    exact List.nodup_nil
  | cons chunk chunks ih =>
    unfold buildChunkRecords at h
    rcases Except.bind_eq_ok.mp h with ⟨head, hhead, h⟩
    rcases Except.bind_eq_ok.mp h with ⟨tail, htail, hpure⟩
    cases hpure
    rw [List.pairwise_cons] at hsorted
    rw [List.map_cons, List.nodup_cons]
    refine ⟨?_, ih hsorted.2 htail⟩
    intro hmem
    rcases List.mem_map.mp hmem with ⟨record, hrecord, heq⟩
    rcases buildChunkRecords_spec htail record hrecord with ⟨other, hother, hrecordId⟩
    rw [hrecordId, (buildChunkRecord_spec hhead).1] at heq
    have hidx := (chunkIdFor_inj huuid hid hid heq).2
    have hlt := hsorted.1 other hother
    omega

theorem noteRecords_spec (h : noteRecords ix noteId text = .ok records)
    : ∀ record ∈ records, record.OfNote ix noteId := by
  unfold noteRecords at h
  rcases Except.bind_eq_ok.mp h with ⟨_, -, h⟩
  intro record hrecord
  rcases buildChunkRecords_spec h record hrecord with ⟨chunk, -, hid⟩
  exact ⟨chunk.chunkIndex, hid⟩

theorem noteRecords_nodup (huuid : Function.Injective (ix.uuidV5 .oid)) (hid : noteId < 2 ^ 128)
    (h : noteRecords ix noteId text = .ok records) : (records.map ChunkRecord.chunkId).Nodup := by
  unfold noteRecords at h
  rcases Except.bind_eq_ok.mp h with ⟨_, -, h⟩
  exact buildChunkRecords_nodup huuid hid (splitSentences_sorted _ _ _ _) h

end Elf
