import Elf.Lib.Slice
import Elf.Worker.Chunking

/-!
This module contains how the chunks of a text lie in it: each of them is a part of the text that
follows the part of the chunk before, behind the tail of that chunk which it repeats.
-/

namespace Elf

open Text

/-- The sentences follow each other from the offset `n` on, and `text` is all of them. -/
def Sentences (n : Nat) : List (Nat × String) → String → Prop
  | [], text => text = ""
  | (idx, sentence) :: sentences, text => idx = n ∧ sentence ≠ ""
    ∧ ∃ rest, text = sentence ++ rest ∧ Sentences (n + sentence.utf8ByteSize) sentences rest

section

variable (cfg : ChunkingConfig) (tokenizer : ChunkTokenizer)

/-- The chunks lie in `text` behind `before`, the first of them with the tail `overlap`. -/
def Laid (text : String) : (before overlap : String) → List Chunk → Prop
  | before, _, [] => text = before
  | before, overlap, chunk :: chunks => ∃ own, chunk.text = overlap ++ own
    ∧ chunk.startOffset = before.utf8ByteSize - overlap.utf8ByteSize
    ∧ chunk.endOffset = (before ++ own).utf8ByteSize
    ∧ Laid text (before ++ own) (overlapTail cfg tokenizer chunk.text) chunks

/-- What `splitSentences` has read: `own` behind `before`, which the chunk begins after the tail
`overlap`. -/
structure SplitState.At (st : SplitState) (before overlap own : String) : Prop where
  current : st.current = overlap ++ own
  lastEnd : st.lastEnd = (before ++ own).utf8ByteSize
  start : own ≠ "" → st.currentStart = before.utf8ByteSize - overlap.utf8ByteSize
  fresh : own = "" → overlap = "" ∧ before = ""

end

variable {cfg : ChunkingConfig} {tokenizer : ChunkTokenizer}

namespace SplitState.At

variable {st : SplitState} {before overlap own : String}

theorem push (h : st.At before overlap own) {sentence : String} (hne : sentence ≠ "")
    : (st.push (before ++ own).utf8ByteSize sentence).At before overlap (own ++ sentence) where
  current := by
    rw [SplitState.push, h.current, String.append_assoc]
  lastEnd := by
    simp only [SplitState.push, ← String.append_assoc, String.utf8ByteSize_append]
  start := by
    intro _
    simp only [SplitState.push]
    split
    next hempty =>
      rw [h.current, String.append_eq_empty_iff] at hempty
      rw [hempty.1, hempty.2]
      simp
    next hcurrent =>
      apply h.start
      intro hown
      rw [h.current, hown, (h.fresh hown).1] at hcurrent
      simp at hcurrent
  fresh := by
    intro hown
    rw [String.append_eq_empty_iff] at hown
    exact absurd hown.2 hne

-- The state between the end of a chunk and the sentence that starts the next one.
theorem push_next (h : st.At before overlap own) {sentence : String} (hne : sentence ≠ "")
    : ((st.next cfg tokenizer).push (before ++ own).utf8ByteSize sentence).At (before ++ own)
        (overlapTail cfg tokenizer st.current) sentence where
  current := rfl
  lastEnd := by
    simp only [SplitState.push, String.utf8ByteSize_append]
  start := by
    intro _
    simp only [SplitState.push, SplitState.next, h.lastEnd]
    split
    next hempty =>
      rw [hempty]
      simp
    . rfl
  fresh := fun hown => absurd hown hne

end SplitState.At

theorem splitSentences_laid {st : SplitState} {text before overlap own rest : String}
    {sentences : List (Nat × String)} (h : st.At before overlap own)
    (htext : text = before ++ own ++ rest)
    (hsentences : Sentences (before ++ own).utf8ByteSize sentences rest)
    : Laid cfg tokenizer text before overlap (splitSentences cfg tokenizer st sentences) := by
  induction sentences generalizing st before overlap own rest with
  | nil =>
    unfold splitSentences
    have hrest : rest = "" := hsentences
    subst hrest
    split
    next hcurrent =>
      refine ⟨own, h.current, ?_, h.lastEnd, ?_⟩
      . apply h.start
        intro hown
        rw [h.current, hown, (h.fresh hown).1] at hcurrent
        simp at hcurrent
      . simpa [Laid] using htext
    next hcurrent =>
      rw [not_not, h.current, String.append_eq_empty_iff] at hcurrent
      simpa [Laid, hcurrent.2] using htext
  | cons head sentences ih =>
    rcases head with ⟨idx, sentence⟩
    rcases hsentences with ⟨hidx, hne, rest', hrest, hsentences⟩
    subst hidx hrest
    unfold splitSentences
    split
    next hcut =>
      have hown : own ≠ "" := by
        intro hown
        rw [h.current, hown, (h.fresh hown).1] at hcut
        simp at hcut
      refine ⟨own, h.current, h.start hown, h.lastEnd, ?_⟩
      apply ih (h.push_next hne) _ _
      . exact rest'
      . simpa [String.append_assoc] using htext
      . simpa [String.utf8ByteSize_append] using hsentences
    next =>
      apply ih (h.push hne) _ _
      . exact rest'
      . simpa [String.append_assoc] using htext
      . simpa [String.utf8ByteSize_append, ← String.append_assoc, Nat.add_assoc] using hsentences

theorem splitText_laid {text : String} {sentences : List (Nat × String)}
    (hsentences : Sentences 0 sentences text)
    : Laid cfg tokenizer text "" "" (splitText cfg tokenizer sentences) := by
  have hat : (⟨"", 0, 0, 0⟩ : SplitState).At "" "" "" :=
    ⟨rfl, rfl, fun h => absurd rfl h, fun _ => ⟨rfl, rfl⟩⟩
  apply splitSentences_laid hat
  . exact (String.empty_append).symm
  . exact hsentences

theorem Laid.exists_rest {text before overlap : String} {chunks : List Chunk}
    (h : Laid cfg tokenizer text before overlap chunks) : ∃ rest, text = before ++ rest := by
  induction chunks generalizing before overlap with
  | nil => exact ⟨"", by rw [String.append_empty]; exact h⟩
  | cons c chunks ih =>
    rcases h with ⟨own, -, -, -, h⟩
    rcases ih h with ⟨rest, hrest⟩
    exact ⟨own ++ rest, by rw [hrest, String.append_assoc]⟩

/-! ## Numbers -/

theorem splitSentences_numbered {st : SplitState} {sentences : List (Nat × String)}
    (h : (splitSentences cfg tokenizer st sentences)[i]? = some chunk)
    : chunk.chunkIndex = st.chunkIndex + i := by
  induction sentences generalizing st i with
  | nil =>
    unfold splitSentences at h
    split at h
    . cases i with
      | zero =>
        cases h
        rfl
      | succ i => simp at h
    . simp at h
  | cons head sentences ih =>
    unfold splitSentences at h
    split at h
    . cases i with
      | zero =>
        cases h
        rfl
      | succ i =>
        rw [List.getElem?_cons_succ] at h
        have hidx := ih h
        simp only [SplitState.push, SplitState.next] at hidx
        omega
    . have hidx := ih h
      exact hidx

/-- Each chunk has the number of its place. -/
def Numbered (chunks : List Chunk) : Prop :=
  ∀ (i : Nat) (chunk : Chunk), chunks[i]? = some chunk → chunk.chunkIndex = i

theorem splitText_numbered (cfg : ChunkingConfig) (tokenizer : ChunkTokenizer)
    (sentences : List (Nat × String)) : Numbered (splitText cfg tokenizer sentences) := by
  intro i chunk h
  have hidx := splitSentences_numbered h
  simpa using hidx

end Elf
