import Elf.Worker.Lemmas.Chunking
import Mathlib.Data.List.Chain

/-!
This module contains what the offsets of the chunks of a text say: each chunk is the part of the text
between its offsets, provided that the tail which it repeats of the chunk before is the end of that
chunk.
-/

namespace Elf

open Text

variable {cfg : ChunkingConfig} {tokenizer : ChunkTokenizer} {text before overlap : String}
  {chunks : List Chunk} {c d : Chunk}

/-- The chunks go through the sentences in order, and each of them ends with those it is for. -/
def CoversSentences : List Chunk → List (Nat × String) → Prop
  | [], sentences => sentences = []
  | chunk :: chunks, sentences => ∃ own rest, sentences = own ++ rest ∧ own ≠ []
    ∧ (∃ overlap, chunk.text = overlap ++ String.join (own.map Prod.snd))
    ∧ (∀ sentence ∈ own, chunk.startOffset ≤ sentence.1
      ∧ sentence.1 + sentence.2.utf8ByteSize ≤ chunk.endOffset)
    ∧ CoversSentences chunks rest

/-- The chunks are the parts of the text that their offsets say, from its start to its end. -/
structure Faithful (text : String) (sentences : List (Nat × String)) (chunks : List Chunk) : Prop where
  slice : ∀ chunk ∈ chunks, Slice text chunk.startOffset chunk.endOffset chunk.text
  starts : chunks.IsChain fun c d => c.startOffset ≤ d.startOffset
  numbered : Numbered chunks
  covers : CoversSentences chunks sentences

/-- The tail of a chunk is its end. -/
def EndsWithTail (cfg : ChunkingConfig) (tokenizer : ChunkTokenizer) (chunk : Chunk) : Prop :=
  ∃ front, chunk.text = front ++ overlapTail cfg tokenizer chunk.text

/-! ## Sentences -/

/-- The open chunk of a state is a tail of the one before it and the sentences `own`. -/
structure SplitState.Owns (st : SplitState) (own : List (Nat × String)) : Prop where
  started : st.current ≠ "" → own ≠ []
  empty : st.current = "" → own = []
  text : ∃ overlap, st.current = overlap ++ String.join (own.map Prod.snd)
  inside : ∀ sentence ∈ own, st.currentStart ≤ sentence.1
    ∧ sentence.1 + sentence.2.utf8ByteSize ≤ st.lastEnd

namespace SplitState.Owns

variable {st : SplitState} {own : List (Nat × String)} {sentence : String}

theorem push (h : st.Owns own) (hne : sentence ≠ "")
    : (st.push st.lastEnd sentence).Owns (own ++ [(st.lastEnd, sentence)]) := by
  constructor
  . intro _
    simp
  . intro hempty
    simp only [SplitState.push, String.append_eq_empty_iff] at hempty
    exact absurd hempty.2 hne
  . rcases h.text with ⟨overlap, hcurrent⟩
    refine ⟨overlap, ?_⟩
    simp only [SplitState.push]
    rw [hcurrent, List.map_append, String.join_append]
    simp [String.append_assoc]
  . intro other hother
    simp only [SplitState.push]
    rw [List.mem_append, List.mem_singleton] at hother
    cases hother with
    | inl hother =>
      have hle := h.inside other hother
      rw [if_neg]
      . omega
      . intro hempty
        rw [h.empty hempty] at hother
        contradiction
    | inr hother =>
      subst hother
      constructor
      . split
        . exact le_refl _
        next hcurrent =>
          rcases List.exists_mem_of_ne_nil own (h.started hcurrent) with ⟨first, hfirst⟩
          have hle := h.inside first hfirst
          simp only
          omega
      . exact le_refl _

/-- The chunk that a sentence starts has the tail of the one before in front of it. -/
theorem next (st : SplitState) (hne : sentence ≠ "")
    : ((st.next cfg tokenizer).push st.lastEnd sentence).Owns [(st.lastEnd, sentence)] := by
  constructor
  . intro _
    apply List.cons_ne_nil
  . intro hempty
    simp only [SplitState.push, String.append_eq_empty_iff] at hempty
    exact absurd hempty.2 hne
  . exact ⟨overlapTail cfg tokenizer st.current, by simp [SplitState.push, SplitState.next]⟩
  . intro other hother
    rw [List.mem_singleton] at hother
    subst hother
    constructor
    . have hle : (st.next cfg tokenizer).currentStart ≤ st.lastEnd := Nat.sub_le _ _
      simp only [SplitState.push]
      split
      . exact le_refl _
      . exact hle
    . exact le_refl _

end SplitState.Owns

theorem splitSentences_covers {st : SplitState} {own sentences : List (Nat × String)} {rest : String}
    (hsentences : Sentences st.lastEnd sentences rest) (howns : st.Owns own)
    : CoversSentences (splitSentences cfg tokenizer st sentences) (own ++ sentences) := by
  induction sentences generalizing st own rest with
  | nil =>
    unfold splitSentences
    split
    next hcurrent =>
      exact ⟨own, [], by simp, howns.started hcurrent, howns.text, howns.inside, rfl⟩
    next hcurrent =>
      rw [not_not] at hcurrent
      rw [howns.empty hcurrent]
      rfl
  | cons head sentences ih =>
    rcases head with ⟨idx, sentence⟩
    rcases hsentences with ⟨hidx, hne, rest', hrest, htail⟩
    subst hidx
    unfold splitSentences
    split
    next hcut =>
      refine ⟨own, (st.lastEnd, sentence) :: sentences, rfl, howns.started hcut.2, howns.text,
        howns.inside, ?_⟩
      exact @ih ((st.next cfg tokenizer).push st.lastEnd sentence) [(st.lastEnd, sentence)] rest'
        htail (.next st hne)
    next hkeep =>
      have happend : own ++ (st.lastEnd, sentence) :: sentences
          = (own ++ [(st.lastEnd, sentence)]) ++ sentences := by
        simp
      rw [happend]
      exact @ih (st.push st.lastEnd sentence) (own ++ [(st.lastEnd, sentence)]) rest' htail
        (howns.push hne)

theorem splitText_covers {sentences : List (Nat × String)} (hsentences : Sentences 0 sentences text)
    : CoversSentences (splitText cfg tokenizer sentences) sentences := by
  apply @splitSentences_covers cfg tokenizer ⟨"", 0, 0, 0⟩ [] sentences text hsentences
  constructor
  . intro hempty
    contradiction
  . intro _
    rfl
  . exact ⟨"", rfl⟩
  . intro sentence hsentence
    contradiction

/-! ## Slices -/

/-- Where a chunk lies with respect to the one before it. -/
structure Behind (cfg : ChunkingConfig) (tokenizer : ChunkTokenizer) (c d : Chunk) : Prop where
  text : ∃ own, d.text = overlapTail cfg tokenizer c.text ++ own
    ∧ d.endOffset = c.endOffset + own.utf8ByteSize
  start : d.startOffset = c.endOffset - (overlapTail cfg tokenizer c.text).utf8ByteSize

theorem Laid.behind (h : Laid cfg tokenizer text before overlap chunks)
    : chunks.IsChain (Behind cfg tokenizer) := by
  induction chunks generalizing before overlap with
  | nil => exact .nil
  | cons c chunks ih =>
    have ⟨own, htext, hstart, hend, h⟩ := h
    cases chunks with
    | nil => exact .singleton c
    | cons d chunks =>
      have hchain := ih h
      have ⟨own', htext', hstart', hend', _⟩ := h
      apply List.IsChain.cons_cons _ hchain
      constructor
      . refine ⟨own', htext', ?_⟩
        rw [hend', hend, String.utf8ByteSize_append]
      . rw [hstart', hend]

/-- A chunk that lies where its offsets say repeats the end of the chunk before. -/
theorem Behind.endsWithTail (h : Behind cfg tokenizer c d)
    (hc : Slice text c.startOffset c.endOffset c.text)
    (hd : Slice text d.startOffset d.endOffset d.text) (hle : c.startOffset ≤ d.startOffset)
    : EndsWithTail cfg tokenizer c := by
  have ⟨own, htext, hend⟩ := h.text
  have hstart := h.start
  have hsize := hd.size
  rw [htext, String.utf8ByteSize_append] at hsize
  have htail : (overlapTail cfg tokenizer c.text).utf8ByteSize ≤ c.endOffset := by omega
  -- The tail is a slice that ends where the chunk before does.
  have hslice : Slice text d.startOffset c.endOffset (overlapTail cfg tokenizer c.text) := by
    have ⟨left, right, hd', hleft, _⟩ := hd
    refine ⟨left, own ++ right, ?_, hleft, by omega⟩
    rw [hd', htext]
    simp only [String.append_assoc]
  have ⟨front, after, hfront, _, hafter⟩ := hc.inside hslice hle (le_refl _)
  have hcsize := hc.size
  have hempty : after = "" := by
    apply String.utf8ByteSize_eq_zero_iff.mp
    have htotal := congrArg String.utf8ByteSize hfront
    simp only [String.utf8ByteSize_append] at htotal
    omega
  refine ⟨front, ?_⟩
  rw [hempty, String.append_empty] at hfront
  exact hfront

theorem Faithful.endsWithTail {sentences : List (Nat × String)} (h : Faithful text sentences chunks)
    (hbehind : chunks.IsChain (Behind cfg tokenizer))
    : ∀ chunk ∈ chunks.dropLast, EndsWithTail cfg tokenizer chunk := by
  have hslice := h.slice
  have hstarts := h.starts
  clear h
  induction chunks with
  | nil => simp
  | cons c chunks ih =>
    cases chunks with
    | nil => simp
    | cons d chunks =>
      rw [List.isChain_cons_cons] at hbehind hstarts
      rw [List.dropLast_cons_cons]
      intro chunk hchunk
      cases hchunk with
      | head =>
        apply hbehind.1.endsWithTail (hslice c _) (hslice d _) hstarts.1
        . apply List.mem_cons_self
        . simp
      | tail _ hchunk =>
        apply ih hbehind.2 _ hstarts.2 chunk hchunk
        intro other hother
        exact hslice other (List.mem_cons_of_mem c hother)

theorem Laid.slices (h : Laid cfg tokenizer text before overlap chunks)
    (hoverlap : ∃ front, before = front ++ overlap)
    (htails : ∀ chunk ∈ chunks.dropLast, EndsWithTail cfg tokenizer chunk)
    : (∀ chunk ∈ chunks, Slice text chunk.startOffset chunk.endOffset chunk.text)
      ∧ (chunks.IsChain fun c d => c.startOffset ≤ d.startOffset) := by
  induction chunks generalizing before overlap with
  | nil => simp
  | cons c chunks ih =>
    have ⟨own, htext, hstart, hend, h⟩ := h
    have ⟨rest, hrest⟩ := h.exists_rest
    have ⟨front, hbefore⟩ := hoverlap
    have hstart' : c.startOffset = front.utf8ByteSize := by
      rw [hstart, hbefore, String.utf8ByteSize_append]
      omega
    have hslice : Slice text c.startOffset c.endOffset c.text := by
      refine ⟨front, rest, ?_, hstart'.symm, ?_⟩
      . rw [hrest, hbefore, htext]
        simp only [String.append_assoc]
      . rw [hstart', hend, htext, hbefore]
        simp only [String.utf8ByteSize_append]
        omega
    cases chunks with
    | nil => exact ⟨by simpa using hslice, .singleton c⟩
    | cons d chunks =>
      have ⟨front', hfront'⟩ := htails c (by simp)
      have hnext : before ++ own = (front ++ front') ++ overlapTail cfg tokenizer c.text := by
        rw [String.append_assoc, ← hfront', hbefore, htext, String.append_assoc]
      have ⟨hslices, hchain⟩ := ih h ⟨front ++ front', hnext⟩ fun chunk hchunk =>
        htails chunk (by simp [hchunk])
      constructor
      . intro chunk hchunk
        cases hchunk with
        | head => exact hslice
        | tail _ hchunk => exact hslices chunk hchunk
      . apply List.IsChain.cons_cons _ hchain
        have ⟨_, _, hstartd, _, _⟩ := h
        rw [hstart', hstartd, hnext]
        simp only [String.utf8ByteSize_append]
        omega

/-- Without an overlap, the texts of the chunks are what is behind `before`. -/
theorem Laid.join (h : Laid cfg tokenizer text before "" chunks) (hcfg : cfg.overlapTokens = 0)
    : text = before ++ String.join (chunks.map Chunk.text) := by
  induction chunks generalizing before with
  | nil =>
    have hend : text = before := h
    simp [hend]
  | cons c chunks ih =>
    have ⟨own, htext, _, _, h⟩ := h
    have hnone : overlapTail cfg tokenizer c.text = "" := by
      unfold overlapTail
      rw [if_pos hcfg]
    rw [hnone] at h
    rw [ih h, List.map_cons, String.join_cons, htext, String.empty_append, String.append_assoc]

/-- Decoding gives back every text that was encoded. -/
def ChunkTokenizer.RoundTrips (tokenizer : ChunkTokenizer) : Prop :=
  ∀ text, ∃ tokens, tokenizer.encode text = .ok tokens ∧ tokenizer.decode tokens = .ok text

-- Bytes that are no text are replaced one by one.
def byteTokenizer : ChunkTokenizer where
  encode text := .ok (text.toUTF8.data.toList.map UInt8.toNat)
  decode tokens :=
    match String.fromUTF8? ⟨(tokens.map UInt8.ofNat).toArray⟩ with
    | some text => .ok text
    | none => .ok (String.join (tokens.map fun _ => "\uFFFD"))

theorem byteTokenizer_roundTrips : byteTokenizer.RoundTrips := by
  intro text
  refine ⟨_, rfl, ?_⟩
  have hbytes : (⟨((text.toUTF8.data.toList.map UInt8.toNat).map UInt8.ofNat).toArray⟩ : ByteArray)
      = text.toUTF8 := by
    simp [List.map_map, Function.comp_def]
  have htext : String.fromUTF8? text.toUTF8 = some text := by
    unfold String.fromUTF8?
    exact dif_pos text.isValidUTF8
  unfold byteTokenizer
  dsimp only
  rw [hbytes, htext]

def twoGreetings : String := "あ。い。"

def twoGreetingsSentences : List (Nat × String) := [(0, "あ。"), (6, "い。")]

theorem sentences_twoGreetings : Sentences 0 twoGreetingsSentences twoGreetings :=
  ⟨rfl, by decide, "い。", by decide +kernel, rfl, by decide, "", by decide +kernel, rfl⟩

end Elf
