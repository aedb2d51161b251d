import Elf.Worker.Lemmas.Chunking

/-!
This module contains when the chunks of a note keep to the token window. The window is checked
before the tail of a chunk is put in front of the sentence that starts the next one.
-/

namespace Elf

open Text

variable {cfg : ChunkingConfig} {tokenizer : ChunkTokenizer}

/-! ## Tokens -/

/-- The number of tokens of a text. -/
def tokens (tokenizer : ChunkTokenizer) (text : String) : Nat :=
  match tokenizer.encode text with
  | .ok ids => ids.length
  | .error _ => 0

def tokensOf (tokenizer : ChunkTokenizer) (sentences : List (Nat × String)) : Nat :=
  (sentences.map fun sentence => tokens tokenizer sentence.2).sum

/-- The tokens of texts add up, and the last tokens of a text are a text of as many tokens. -/
structure AdditiveTokens (tokenizer : ChunkTokenizer) : Prop where
  encodes : ∀ text, ∃ ids, tokenizer.encode text = .ok ids
  append : ∀ a b, tokens tokenizer (a ++ b) = tokens tokenizer a + tokens tokenizer b
  decodes : ∀ text ids n, tokenizer.encode text = .ok ids →
    ∃ tail, tokenizer.decode (ids.drop n) = .ok tail ∧ tokens tokenizer tail = (ids.drop n).length
  decodes_nil : tokenizer.decode [] = .ok ""

theorem tokenCount_eq (text : String) : tokenCount tokenizer text = tokens tokenizer text % 2 ^ 32 := by
  unfold tokenCount tokens
  cases tokenizer.encode text with
  | ok ids => rfl
  | error err => rfl

namespace AdditiveTokens

theorem tokens_empty (h : AdditiveTokens tokenizer) : tokens tokenizer "" = 0 := by
  have := h.append "" ""
  rw [String.append_empty] at this
  omega

theorem tokens_overlapTail (h : AdditiveTokens tokenizer) (text : String)
    : tokens tokenizer (overlapTail cfg tokenizer text)
        = min cfg.overlapTokens (tokens tokenizer text) := by
  unfold overlapTail
  split
  next hzero =>
    rw [h.tokens_empty, hzero, Nat.zero_min]
  next hpos =>
    rcases h.encodes text with ⟨ids, hids⟩
    rcases h.decodes text ids (ids.length - cfg.overlapTokens) hids with ⟨tail, htail, hcount⟩
    have htext : tokens tokenizer text = ids.length := by
      unfold tokens
      rw [hids]
    simp only [hids, htail]
    rw [hcount, htext, List.length_drop]
    omega

/-- A tail without tokens is no text at all. -/
theorem overlapTail_eq_empty (h : AdditiveTokens tokenizer) {text : String}
    : overlapTail cfg tokenizer text = "" ↔ min cfg.overlapTokens (tokens tokenizer text) = 0 := by
  constructor
  . intro hempty
    rw [← h.tokens_overlapTail, hempty, h.tokens_empty]
  . intro hzero
    unfold overlapTail
    split
    . rfl
    next hpos =>
      rcases h.encodes text with ⟨ids, hids⟩
      have htext : tokens tokenizer text = ids.length := by
        unfold tokens
        rw [hids]
      have hnil : ids = [] := by
        apply List.length_eq_zero_iff.mp
        omega
      simp only [hids, hnil, List.drop_nil, h.decodes_nil]

end AdditiveTokens

/-! ## The window -/

/-- The chunk is one of the sentences, as a part of the text. -/
def IsSentence (sentences : List (Nat × String)) (chunk : Chunk) : Prop :=
  ∃ sentence ∈ sentences, chunk.startOffset = sentence.1
    ∧ chunk.endOffset = sentence.1 + sentence.2.utf8ByteSize ∧ chunk.text = sentence.2

/-- The chunk has no more tokens than the window, unless it is a single sentence. -/
def HonorsWindow (cfg : ChunkingConfig) (tokenizer : ChunkTokenizer)
    (sentences : List (Nat × String)) (chunk : Chunk) : Prop :=
  cfg.maxTokens < tokens tokenizer chunk.text → IsSentence sentences chunk

/-- A sentence leaves room in the window for the tail of the text before it, if that has one. -/
def LeavesRoom (cfg : ChunkingConfig) (tokenizer : ChunkTokenizer) (before : List (Nat × String))
    (sentence : Nat × String) : Prop :=
  min cfg.overlapTokens (tokensOf tokenizer before) = 0
    ∨ min cfg.overlapTokens (tokensOf tokenizer before) + tokens tokenizer sentence.2 ≤ cfg.maxTokens

def TailsFit (cfg : ChunkingConfig) (tokenizer : ChunkTokenizer) (sentences : List (Nat × String))
    : Prop :=
  ∀ before sentence behind, sentences = before ++ sentence :: behind →
    LeavesRoom cfg tokenizer before sentence

/-! ## States -/

/-- What the loop has read before the state. However the sentences have been cut into chunks, the
tail that the open chunk leaves has as many tokens as the tail of everything read. -/
structure SplitState.Read (cfg : ChunkingConfig) (tokenizer : ChunkTokenizer) (st : SplitState)
    (before : List (Nat × String)) : Prop where
  tail : min cfg.overlapTokens (tokens tokenizer st.current)
    = min cfg.overlapTokens (tokensOf tokenizer before)
  le : tokens tokenizer st.current ≤ tokensOf tokenizer before
  start : st.current ≠ "" → st.currentStart < st.lastEnd
  fresh : st.current = "" → before = []

theorem tokensOf_concat (before : List (Nat × String)) (sentence : Nat × String)
    : tokensOf tokenizer (before ++ [sentence])
        = tokensOf tokenizer before + tokens tokenizer sentence.2 := by
  simp [tokensOf]

namespace SplitState.Read

variable {st : SplitState} {before : List (Nat × String)} {sentence : String}

theorem push (htokenizer : AdditiveTokens tokenizer) (h : st.Read cfg tokenizer before)
    (hne : sentence ≠ "")
    : (st.push st.lastEnd sentence).Read cfg tokenizer (before ++ [(st.lastEnd, sentence)]) := by
  have htail := h.tail
  have hle := h.le
  have hpos := utf8ByteSize_pos hne
  constructor
  . simp only [SplitState.push]
    rw [tokensOf_concat, htokenizer.append]
    dsimp only
    omega
  . simp only [SplitState.push]
    rw [tokensOf_concat, htokenizer.append]
    dsimp only
    omega
  . intro _
    simp only [SplitState.push]
    split
    . omega
    next hcurrent =>
      have := h.start hcurrent
      omega
  . intro hempty
    simp only [SplitState.push, String.append_eq_empty_iff] at hempty
    exact absurd hempty.2 hne

theorem next (htokenizer : AdditiveTokens tokenizer) (h : st.Read cfg tokenizer before)
    (hcurrent : st.current ≠ "") (hne : sentence ≠ "")
    : ((st.next cfg tokenizer).push st.lastEnd sentence).Read cfg tokenizer
        (before ++ [(st.lastEnd, sentence)]) := by
  have htail := h.tail
  have hle := h.le
  have hstart := h.start hcurrent
  have hpos := utf8ByteSize_pos hne
  have hcount := @AdditiveTokens.tokens_overlapTail cfg tokenizer htokenizer st.current
  constructor
  . simp only [SplitState.push, SplitState.next]
    rw [tokensOf_concat, htokenizer.append]
    dsimp only
    omega
  . simp only [SplitState.push, SplitState.next]
    rw [tokensOf_concat, htokenizer.append]
    dsimp only
    omega
  . intro _
    unfold SplitState.push SplitState.next
    dsimp only
    split
    . omega
    . omega
  . intro hempty
    simp only [SplitState.push, String.append_eq_empty_iff] at hempty
    exact absurd hempty.2 hne

end SplitState.Read

/-! ## Sentences that leave room -/

/-- When every sentence leaves room, the open chunk honors the window after each of them. -/
theorem splitSentences_honors (htokenizer : AdditiveTokens tokenizer) {st : SplitState}
    {sentences before rest : List (Nat × String)} {text : String}
    (hsplit : sentences = before ++ rest) (hrest : Sentences st.lastEnd rest text)
    (hcount : tokensOf tokenizer sentences < 2 ^ 32) (hfit : TailsFit cfg tokenizer sentences)
    (hread : st.Read cfg tokenizer before) (hopen : HonorsWindow cfg tokenizer sentences st.chunk)
    : ∀ chunk ∈ splitSentences cfg tokenizer st rest, HonorsWindow cfg tokenizer sentences chunk := by
  induction rest generalizing st before text with
  | nil =>
    intro chunk hchunk
    unfold splitSentences at hchunk
    split at hchunk
    . rw [List.mem_singleton.mp hchunk]
      exact hopen
    . contradiction
  | cons head rest ih =>
    rcases head with ⟨idx, sentence⟩
    rcases hrest with ⟨hidx, hne, text', -, hrest⟩
    subst hidx
    have hconcat : sentences = (before ++ [(st.lastEnd, sentence)]) ++ rest := by
      rw [hsplit, List.append_assoc, List.singleton_append]
    have hmem : (st.lastEnd, sentence) ∈ sentences := by
      rw [hsplit]
      simp
    have hsum : tokens tokenizer st.current + tokens tokenizer sentence < 2 ^ 32 := by
      have hle := hread.le
      have htotal : tokensOf tokenizer sentences = tokensOf tokenizer before
          + (tokens tokenizer sentence + tokensOf tokenizer rest) := by
        rw [hsplit]
        simp [tokensOf]
      omega
    intro chunk hchunk
    unfold splitSentences at hchunk
    rw [tokenCount_eq, htokenizer.append, Nat.mod_eq_of_lt hsum] at hchunk
    split at hchunk
    next hcut =>
      rw [List.mem_cons] at hchunk
      cases hchunk with
      | inl heq =>
        rw [heq]
        exact hopen
      | inr hchunk =>
        apply @ih ((st.next cfg tokenizer).push st.lastEnd sentence) _ text' hconcat hrest
          (hread.next htokenizer hcut.2 hne) _ chunk hchunk
        -- The sentence behind the tail of the chunk: in the window, or without a tail.
        have hroom := hfit before (st.lastEnd, sentence) rest hsplit
        unfold LeavesRoom at hroom
        rw [← hread.tail] at hroom
        intro hmore
        simp only [SplitState.chunk, SplitState.push, SplitState.next] at hmore
        rw [htokenizer.append, htokenizer.tokens_overlapTail] at hmore
        have hzero : min cfg.overlapTokens (tokens tokenizer st.current) = 0 := by
          cases hroom with
          | inl hzero => exact hzero
          | inr hroom =>
            dsimp only at hroom
            omega
        refine ⟨_, hmem, ?_⟩
        simp [SplitState.chunk, SplitState.push, SplitState.next,
          htokenizer.overlapTail_eq_empty.mpr hzero]
    next hkeep =>
      apply @ih (st.push st.lastEnd sentence) _ text' hconcat hrest (hread.push htokenizer hne) _
        chunk hchunk
      intro hmore
      simp only [SplitState.chunk, SplitState.push] at hmore
      rw [htokenizer.append] at hmore
      have hempty : st.current = "" := by
        by_contra hcurrent
        exact hkeep ⟨hmore, hcurrent⟩
      refine ⟨_, hmem, ?_⟩
      simp [SplitState.chunk, SplitState.push, hempty]

/-! ## Sentences that do not -/

/-- The open chunk becomes a chunk that begins where it does and has what it has. -/
theorem exists_chunk_of_open (htokenizer : AdditiveTokens tokenizer) {st : SplitState}
    {rest : List (Nat × String)} {text : String} (hrest : Sentences st.lastEnd rest text)
    (hcurrent : st.current ≠ "")
    : ∃ chunk ∈ splitSentences cfg tokenizer st rest, chunk.startOffset = st.currentStart
      ∧ st.lastEnd ≤ chunk.endOffset
      ∧ tokens tokenizer st.current ≤ tokens tokenizer chunk.text := by
  induction rest generalizing st text with
  | nil =>
    unfold splitSentences
    rw [if_pos hcurrent]
    exact ⟨st.chunk, List.mem_singleton_self _, rfl, Nat.le_refl _, Nat.le_refl _⟩
  | cons head rest ih =>
    rcases head with ⟨idx, sentence⟩
    rcases hrest with ⟨hidx, hne, text', -, hrest⟩
    subst hidx
    unfold splitSentences
    split
    . exact ⟨st.chunk, List.mem_cons_self .., rfl, Nat.le_refl _, Nat.le_refl _⟩
    . have hpushed : (st.push st.lastEnd sentence).current ≠ "" := by
        intro hempty
        simp only [SplitState.push, String.append_eq_empty_iff] at hempty
        exact hcurrent hempty.1
      rcases @ih (st.push st.lastEnd sentence) _ hrest hpushed
        with ⟨chunk, hchunk, hstart, hend, hcount⟩
      refine ⟨chunk, hchunk, ?_, ?_, ?_⟩
      . rw [hstart]
        simp [SplitState.push, hcurrent]
      . simp only [SplitState.push] at hend
        omega
      . simp only [SplitState.push] at hcount
        rw [htokenizer.append] at hcount
        omega

theorem Sentences.start_le {sentences : List (Nat × String)} {text : String} {n : Nat}
    (h : Sentences n sentences text) : ∀ p ∈ sentences, n ≤ p.1 := by
  induction sentences generalizing n text with
  | nil =>
    intro p hp
    contradiction
  | cons head rest ih =>
    intro p hp
    rcases head with ⟨idx, s⟩
    rcases h with ⟨hidx, -, text', -, h⟩
    rw [List.mem_cons] at hp
    cases hp with
    | inl heq =>
      rw [heq, hidx]
    | inr hp =>
      have := ih h p hp
      omega

/-- A sentence that starts before another one also ends before it. -/
theorem Sentences.end_le {sentences before behind : List (Nat × String)} {text : String} {n : Nat}
    (h : Sentences n sentences text) {sentence other : Nat × String}
    (hsplit : sentences = before ++ sentence :: behind) (hother : other ∈ sentences)
    (hlt : other.1 < sentence.1) : other.1 + other.2.utf8ByteSize ≤ sentence.1 := by
  induction before generalizing n sentences text with
  | nil =>
    rw [List.nil_append] at hsplit
    subst hsplit
    rcases sentence with ⟨idx, s⟩
    have hfirst := h.start_le other hother
    rcases h with ⟨hidx, -, text', -, h⟩
    dsimp only at hlt
    omega
  | cons head before ih =>
    rw [List.cons_append] at hsplit
    subst hsplit
    rcases head with ⟨idx, s⟩
    rcases h with ⟨hidx, -, text', -, h⟩
    rw [List.mem_cons] at hother
    cases hother with
    | inl heq =>
      have := h.start_le sentence (by simp)
      rw [heq, hidx]
      exact this
    | inr hother => exact ih h rfl hother

/-- A chunk that begins before a sentence and goes on into it is not a single one. -/
theorem not_isSentence {sentences before behind : List (Nat × String)} {text : String}
    (h : Sentences 0 sentences text) {sentence : Nat × String} {chunk : Chunk}
    (hsplit : sentences = before ++ sentence :: behind) (hstart : chunk.startOffset < sentence.1)
    (hend : sentence.1 < chunk.endOffset) : ¬ IsSentence sentences chunk := by
  intro hsentence
  rcases hsentence with ⟨other, hother, hfirst, hlast, -⟩
  have := h.end_le hsplit hother (by omega)
  omega

/-- The chunk that goes on into a sentence and began before it is in the window. -/
theorem current_le_of_honors (htokenizer : AdditiveTokens tokenizer) {st : SplitState}
    {sentences before behind rest : List (Nat × String)} {text whole : String}
    {sentence : Nat × String} (hall : Sentences 0 sentences whole)
    (hsplit : sentences = before ++ sentence :: behind) (hrest : Sentences st.lastEnd rest text)
    (hhonors : ∀ chunk ∈ splitSentences cfg tokenizer st rest,
      HonorsWindow cfg tokenizer sentences chunk)
    (hcurrent : st.current ≠ "") (hstart : st.currentStart < sentence.1)
    (hend : sentence.1 < st.lastEnd) : tokens tokenizer st.current ≤ cfg.maxTokens := by
  rcases @exists_chunk_of_open cfg _ htokenizer _ _ _ hrest hcurrent
    with ⟨chunk, hchunk, hfirst, hlast, hcount⟩
  by_contra hmore
  apply not_isSentence hall hsplit (by omega) (by omega) (hhonors chunk hchunk (by omega))

/-- When the chunks honor the window, the sentence that is read next leaves room in it, and the
chunks of the state behind it honor the window too. -/
theorem splitSentences_fit_step (htokenizer : AdditiveTokens tokenizer) {st : SplitState}
    {sentences before rest : List (Nat × String)} {sentence text whole : String}
    (hall : Sentences 0 sentences whole)
    (hsplit : sentences = before ++ (st.lastEnd, sentence) :: rest)
    (hrest : Sentences (st.lastEnd + sentence.utf8ByteSize) rest text) (hne : sentence ≠ "")
    (hread : st.Read cfg tokenizer before)
    (hhonors : ∀ chunk ∈ splitSentences cfg tokenizer st ((st.lastEnd, sentence) :: rest),
      HonorsWindow cfg tokenizer sentences chunk)
    : ∃ st' : SplitState, st'.Read cfg tokenizer (before ++ [(st.lastEnd, sentence)])
        ∧ Sentences st'.lastEnd rest text
        ∧ (∀ chunk ∈ splitSentences cfg tokenizer st' rest,
            HonorsWindow cfg tokenizer sentences chunk)
        ∧ LeavesRoom cfg tokenizer before (st.lastEnd, sentence) := by
  have hpos := utf8ByteSize_pos hne
  unfold LeavesRoom
  rw [← hread.tail]
  unfold splitSentences at hhonors
  split at hhonors
  next hcut =>
    have hrestHonors := fun chunk hchunk => hhonors chunk (List.mem_cons_of_mem _ hchunk)
    refine ⟨_, hread.next htokenizer hcut.2 hne, hrest, hrestHonors, ?_⟩
    rcases Nat.eq_zero_or_pos (min cfg.overlapTokens (tokens tokenizer st.current))
      with hzero | htail
    . exact Or.inl hzero
    . right
      have hoverlap : overlapTail cfg tokenizer st.current ≠ "" := by
        rw [Ne, htokenizer.overlapTail_eq_empty]
        omega
      have hsize := utf8ByteSize_pos hoverlap
      have hlastEnd := hread.start hcut.2
      have hfits := @current_le_of_honors cfg tokenizer htokenizer
        ((st.next cfg tokenizer).push st.lastEnd sentence) _ _ _ _ _ _ _ hall hsplit hrest hrestHonors
        (by simp [SplitState.push, SplitState.next, hoverlap])
        (by
          unfold SplitState.push SplitState.next
          dsimp only
          rw [if_neg hoverlap]
          omega)
        (by simp only [SplitState.push]; omega)
      simp only [SplitState.push, SplitState.next] at hfits
      rw [htokenizer.append, htokenizer.tokens_overlapTail] at hfits
      exact hfits
  next hkeep =>
    refine ⟨_, hread.push htokenizer hne, hrest, hhonors, ?_⟩
    by_cases hcurrent : st.current = ""
    . left
      rw [hcurrent, htokenizer.tokens_empty, Nat.min_zero]
    . right
      have hstart := hread.start hcurrent
      have hfits := @current_le_of_honors cfg tokenizer htokenizer (st.push st.lastEnd sentence)
        _ _ _ _ _ _ _ hall hsplit hrest hhonors
        (by simp [SplitState.push, hcurrent])
        (by simp only [SplitState.push, if_neg hcurrent]; omega)
        (by simp only [SplitState.push]; omega)
      simp only [SplitState.push] at hfits
      rw [htokenizer.append] at hfits
      dsimp only
      omega

/-- When the chunks honor the window, every sentence that is read leaves room in it. -/
theorem splitSentences_fit (htokenizer : AdditiveTokens tokenizer) {st : SplitState}
    {sentences before rest : List (Nat × String)} {text whole : String}
    (hall : Sentences 0 sentences whole)
    (hsplit : sentences = before ++ rest) (hrest : Sentences st.lastEnd rest text)
    (hread : st.Read cfg tokenizer before)
    (hhonors : ∀ chunk ∈ splitSentences cfg tokenizer st rest,
      HonorsWindow cfg tokenizer sentences chunk)
    : ∀ middle sentence behind, rest = middle ++ sentence :: behind →
        LeavesRoom cfg tokenizer (before ++ middle) sentence := by
  induction rest generalizing st before text with
  | nil =>
    intro middle sentence behind hmiddle
    simp at hmiddle
  | cons head rest ih =>
    rcases head with ⟨idx, sentence⟩
    rcases hrest with ⟨hidx, hne, text', -, hrest⟩
    subst hidx
    have hconcat : sentences = (before ++ [(st.lastEnd, sentence)]) ++ rest := by
      rw [hsplit, List.append_assoc, List.singleton_append]
    rcases splitSentences_fit_step htokenizer hall hsplit hrest hne hread hhonors with
      ⟨st', hread', hrest', hhonors', hroom⟩
    intro middle other behind hmiddle
    cases middle with
    | nil =>
      rw [List.nil_append, List.cons.injEq] at hmiddle
      rw [List.append_nil, ← hmiddle.1]
      exact hroom
    | cons head middle =>
      rw [List.cons_append, List.cons.injEq] at hmiddle
      rw [← hmiddle.1]
      have hlater := ih hconcat hrest' hread' hhonors' middle other behind hmiddle.2
      rwa [List.append_assoc, List.singleton_append] at hlater

/-! ## Texts -/

theorem read_empty (htokenizer : AdditiveTokens tokenizer)
    : SplitState.Read cfg tokenizer ⟨"", 0, 0, 0⟩ [] := by
  constructor
  . rw [htokenizer.tokens_empty]
    rfl
  . rw [htokenizer.tokens_empty]
    exact Nat.zero_le _
  . intro h
    contradiction
  . intro _
    rfl

/-- The chunks of a text honor the window exactly when every sentence leaves room in it for the tail
of the text before. That it does is necessary for every text; it is enough for texts whose tokens can
be counted in 32 bits. -/
theorem splitText_honors_window (htokenizer : AdditiveTokens tokenizer) {text : String}
    {sentences : List (Nat × String)} (hsentences : Sentences 0 sentences text)
    : ((∀ chunk ∈ splitText cfg tokenizer sentences, HonorsWindow cfg tokenizer sentences chunk) →
        TailsFit cfg tokenizer sentences)
      ∧ (tokensOf tokenizer sentences < 2 ^ 32 → TailsFit cfg tokenizer sentences →
        ∀ chunk ∈ splitText cfg tokenizer sentences, HonorsWindow cfg tokenizer sentences chunk) := by
  constructor
  . intro hhonors before sentence behind hsplit
    exact splitSentences_fit htokenizer hsentences rfl hsentences (read_empty htokenizer) hhonors
      before sentence behind hsplit
  . intro hcount hfit
    apply @splitSentences_honors cfg tokenizer htokenizer _ sentences [] sentences text rfl hsentences
      hcount hfit (read_empty htokenizer)
    intro hmore
    simp only [SplitState.chunk] at hmore
    rw [htokenizer.tokens_empty] at hmore
    omega

/-! ## A tokenizer of characters -/

def charTokenizer : ChunkTokenizer where
  encode text := .ok (text.toList.map Char.toNat)
  decode ids := .ok (String.ofList (ids.map Char.ofNat))

theorem charTokenizer_additive : AdditiveTokens charTokenizer := by
  constructor
  . intro text
    exact ⟨_, rfl⟩
  . intro a b
    simp [tokens, charTokenizer]
  . intro text ids n hids
    cases hids
    refine ⟨_, rfl, ?_⟩
    simp [tokens, charTokenizer]
  . rfl

theorem splitText_honors_window_short
    : TailsFit ⟨10, 5⟩ charTokenizer [(0, "One. "), (5, "Two.")] := by
  have hsentences : Sentences 0 [(0, "One. "), (5, "Two.")] "One. Two." :=
    ⟨rfl, by decide, "Two.", by decide, rfl, by decide, "", by decide, rfl⟩
  have hchunks : splitText ⟨10, 5⟩ charTokenizer [(0, "One. "), (5, "Two.")]
      = [⟨0, 0, 9, "One. Two."⟩] := by
    decide +kernel
  apply (splitText_honors_window charTokenizer_additive hsentences).1
  intro chunk hchunk hmore
  rw [hchunks, List.mem_singleton] at hchunk
  rw [hchunk] at hmore
  exact absurd hmore (by decide +kernel)

/-- The tail of the first sentence does not leave the second one enough of the window, though each
of them has less than ten tokens. -/
theorem splitText_exceeds_window
    : Sentences 0 [(0, "One two. "), (9, "Three 4.")] "One two. Three 4."
      ∧ splitText ⟨10, 5⟩ charTokenizer [(0, "One two. "), (9, "Three 4.")]
          = [⟨0, 0, 9, "One two. "⟩, ⟨1, 4, 17, "two. Three 4."⟩]
      ∧ ¬ HonorsWindow ⟨10, 5⟩ charTokenizer [(0, "One two. "), (9, "Three 4.")]
          ⟨1, 4, 17, "two. Three 4."⟩ := by
  refine ⟨⟨rfl, by decide, "Three 4.", by decide, rfl, by decide, "", by decide, rfl⟩, ?_, ?_⟩
  . decide +kernel
  . intro hhonors
    have hsentence := hhonors (by decide +kernel)
    simp [IsSentence] at hsentence

end Elf
