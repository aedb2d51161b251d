import Elf.Search.Candidates
import Elf.Worker.Lemmas.Chunking
import Mathlib.Data.List.Chain

/-!
This module contains what the snippet of a chunk is: the texts of the chunk and its neighbours, one
behind the other. It is a passage of the note where no chunk repeats the tail of the one before.
-/

namespace Elf

open Text

variable {cfg : ChunkingConfig} {tokenizer : ChunkTokenizer}

/-! ## Rows -/

/-- The row of a chunk of the note. -/
def Chunk.row (ix : NoteIndexer) (noteId : Uuid) (chunk : Chunk) : ChunkRow :=
  ⟨chunkIdFor ix noteId chunk.chunkIndex, noteId, chunk.chunkIndex, chunk.startOffset,
    chunk.endOffset, chunk.text⟩

def chunkAt (chunks : List Chunk) (index : Option Int) : Option Chunk :=
  chunks.reverse.find? fun chunk => some (chunk.chunkIndex : Int) = index

/-- The chunks that the snippet of a chunk is made of. -/
def stitched (chunks : List Chunk) (chunk : Chunk) : List Chunk :=
  (neighborIndices chunk.chunkIndex).filterMap (chunkAt chunks)

theorem stitchSnippet_eq (ix : NoteIndexer) (noteId : Uuid) (chunks : List Chunk) (chunk : Chunk)
    : stitchSnippet noteId chunk.chunkIndex (chunks.map (Chunk.row ix noteId))
        = trim (String.join ((stitched chunks chunk).map Chunk.text)) := by
  have hlookup (index : Option Int)
      : (((chunks.map (Chunk.row ix noteId)).reverse.find? fun row =>
          row.noteId = noteId && some row.chunkIndex = index).map (·.text))
        = (chunkAt chunks index).map Chunk.text := by
    have hpred : (fun row : ChunkRow => row.noteId = noteId && some row.chunkIndex = index : ChunkRow → Bool)
          ∘ Chunk.row ix noteId
        = fun chunk => decide (some (chunk.chunkIndex : Int) = index) := by
      funext chunk
      have hid : decide ((Chunk.row ix noteId chunk).noteId = noteId) = true := by
        simp [Chunk.row]
      rw [Function.comp_apply, hid]
      rfl
    rw [← List.map_reverse, List.find?_map, Option.map_map, hpred]
    rfl
  unfold stitchSnippet stitched
  simp only [hlookup]
  congr 1
  generalize neighborIndices (chunk.chunkIndex : Int) = indices
  induction indices with
  | nil => rfl
  | cons index indices ih =>
    rw [List.map_cons, String.join_cons, ih]
    cases h : chunkAt chunks index with
    | none => simp [h]
    | some other => simp [h]

/-! ## Neighbours -/

theorem Numbered.chunkAt_natCast {chunks : List Chunk} (h : Numbered chunks) (i : Nat)
    : chunkAt chunks (some (i : Int)) = chunks[i]? := by
  unfold chunkAt
  cases hget : chunks[i]? with
  | none =>
    rw [List.find?_eq_none]
    intro chunk hchunk heq
    rw [List.mem_reverse, List.mem_iff_getElem?] at hchunk
    rcases hchunk with ⟨j, hj⟩
    have hidx := h j chunk hj
    have hij : j = i := by simpa [hidx] using heq
    rw [hij, hget] at hj
    cases hj
  | some chunk =>
    have hsome : (chunks.reverse.find? fun chunk => some (chunk.chunkIndex : Int) = some (i : Int)).isSome := by
      rw [List.find?_isSome]
      refine ⟨chunk, ?_, by simp [h i chunk hget]⟩
      rw [List.mem_reverse]
      exact List.mem_of_getElem? hget
    rcases Option.isSome_iff_exists.mp hsome with ⟨other, hother⟩
    have hmem := List.mem_of_find?_eq_some hother
    rw [List.mem_reverse, List.mem_iff_getElem?] at hmem
    rcases hmem with ⟨j, hj⟩
    have hidx : other.chunkIndex = i := by simpa using List.find?_some hother
    rw [h j other hj] at hidx
    rw [hother, ← hget, ← hidx, hj]

theorem Numbered.chunkAt_neg {chunks : List Chunk} : chunkAt chunks (some (-1)) = none := by
  unfold chunkAt
  rw [List.find?_eq_none]
  intro chunk _ heq
  simp at heq

theorem chunkAt_none (chunks : List Chunk) : chunkAt chunks none = none := by
  simp [chunkAt]

theorem Numbered.chunkAt_sub {chunks : List Chunk} (h : Numbered chunks) (k : Nat)
    (hk : k ≤ chunks.length)
    : chunkAt chunks (checkedSubOne (k : Int)) = (chunks.take k).getLast? := by
  cases k with
  | zero => exact chunkAt_neg
  | succ k =>
    have hsub : checkedSubOne ((k + 1 : Nat) : Int) = some (k : Int) := by
      unfold checkedSubOne
      rw [if_pos (by omega)]
      simp
    rw [hsub, h.chunkAt_natCast, List.getLast?_take, if_neg (by omega)]
    rw [Nat.add_sub_cancel]
    have hget := List.getElem?_eq_getElem (l := chunks) (i := k) (by omega)
    simp [hget]

theorem Numbered.chunkAt_add {chunks : List Chunk} (h : Numbered chunks) (k : Nat)
    : chunkAt chunks (checkedAddOne (k : Int)) = none
      ∨ chunkAt chunks (checkedAddOne (k : Int)) = (chunks.drop (k + 1)).head? := by
  unfold checkedAddOne
  split
  next =>
    right
    have hcast : ((k : Int) + 1) = ((k + 1 : Nat) : Int) := by simp
    rw [hcast, h.chunkAt_natCast, List.head?_drop]
  next =>
    left
    exact chunkAt_none chunks

/-- The chunks of a snippet are neighbours. -/
theorem stitched_run {chunks : List Chunk} {k : Nat} {chunk : Chunk} (h : Numbered chunks)
    (hchunk : chunks[k]? = some chunk)
    : ∃ left right next, chunks = left ++ stitched chunks chunk ++ right
      ∧ stitched chunks chunk = (chunks.take k).getLast?.toList ++ chunk :: next := by
  have hk : k < chunks.length := (List.getElem?_eq_some_iff.mp hchunk).1
  have hsplit : chunks = chunks.take k ++ chunk :: chunks.drop (k + 1) := by
    rw [← List.getElem?_eq_some_iff.mp hchunk |>.2, ← List.drop_eq_getElem_cons hk,
      List.take_append_drop]
  have hstitched : stitched chunks chunk = (chunks.take k).getLast?.toList
      ++ chunk :: (chunkAt chunks (checkedAddOne (k : Int))).toList := by
    unfold stitched neighborIndices
    rw [h k chunk hchunk, List.filterMap_cons, h.chunkAt_sub k hk.le, List.filterMap_cons,
      h.chunkAt_natCast, hchunk, List.filterMap_cons, List.filterMap_nil]
    cases (chunks.take k).getLast? with
    | none => cases chunkAt chunks (checkedAddOne (k : Int)) <;> rfl
    | some prev => cases chunkAt chunks (checkedAddOne (k : Int)) <;> rfl
  have hbefore : ∃ left, chunks.take k = left ++ (chunks.take k).getLast?.toList := by
    rcases List.eq_nil_or_concat (chunks.take k) with hnil | ⟨left, prev, hconcat⟩
    . exact ⟨[], by rw [hnil]; rfl⟩
    . exact ⟨left, by rw [hconcat]; simp⟩
  have hafter : ∃ right, chunks.drop (k + 1)
      = (chunkAt chunks (checkedAddOne (k : Int))).toList ++ right := by
    rcases h.chunkAt_add k with hnone | hhead
    . exact ⟨chunks.drop (k + 1), by rw [hnone]; rfl⟩
    . rw [hhead]
      cases chunks.drop (k + 1) with
      | nil => exact ⟨[], rfl⟩
      | cons next rest => exact ⟨rest, rfl⟩
  rcases hbefore with ⟨left, hleft⟩
  rcases hafter with ⟨right, hright⟩
  refine ⟨left, right, _, ?_, hstitched⟩
  rw [hstitched]
  calc chunks
    _ = chunks.take k ++ chunk :: chunks.drop (k + 1) := hsplit
    _ = (left ++ (chunks.take k).getLast?.toList) ++ chunk
          :: ((chunkAt chunks (checkedAddOne (k : Int))).toList ++ right) := by
      rw [← hleft, hright]
    _ = _ := by simp

theorem run_of_append {R : Chunk → Chunk → Prop} {chunks left run right : List Chunk}
    (h : chunks = left ++ run ++ right) (hchain : chunks.IsChain R) : run.IsChain R := by
  rw [h] at hchain
  exact hchain.left_of_append.right_of_append

/-! ## Passages -/

/-- The second chunk starts with the tail of the first and then goes on with the text. -/
def Follows (cfg : ChunkingConfig) (tokenizer : ChunkTokenizer) (c d : Chunk) : Prop :=
  ∃ own, d.text = overlapTail cfg tokenizer c.text ++ own
    ∧ d.endOffset = c.endOffset + own.utf8ByteSize

/-- How much of what they stand behind the chunks of a run repeat. -/
def carried (cfg : ChunkingConfig) (tokenizer : ChunkTokenizer) : List Chunk → Nat
  | c :: d :: run => (overlapTail cfg tokenizer c.text).utf8ByteSize
    + carried cfg tokenizer (d :: run)
  | _ => 0

/-- The texts of the run are the text from the start of its first chunk to the end of its last. -/
def IsPassage (text : String) (run : List Chunk) : Prop :=
  ∃ first last, run.head? = some first ∧ run.getLast? = some last
    ∧ Slice text first.startOffset last.endOffset (String.join (run.map Chunk.text))

theorem Laid.follows {text before overlap : String} {chunks : List Chunk}
    (h : Laid cfg tokenizer text before overlap chunks)
    : chunks.IsChain (Follows cfg tokenizer)
      ∧ ∀ chunk ∈ chunks, chunk.endOffset ≤ chunk.startOffset + chunk.text.utf8ByteSize := by
  induction chunks generalizing before overlap with
  | nil => simp
  | cons c chunks ih =>
    rcases h with ⟨own, htext, hstart, hend, h⟩
    have hsize : c.endOffset ≤ c.startOffset + c.text.utf8ByteSize := by
      rw [htext, hstart, hend, String.utf8ByteSize_append, String.utf8ByteSize_append]
      omega
    constructor
    . cases chunks with
      | nil => exact List.IsChain.singleton c
      | cons d chunks =>
        have hchain := (ih h).1
        rcases h with ⟨own', htext', -, hend', -⟩
        refine List.IsChain.cons_cons ?_ hchain
        refine ⟨own', htext', ?_⟩
        rw [hend', hend, String.utf8ByteSize_append]
    . intro chunk hchunk
      cases hchunk with
      | head => exact hsize
      | tail _ hchunk => exact (ih h).2 chunk hchunk

theorem utf8ByteSize_join {c last : Chunk} {run : List Chunk}
    (h : (c :: run).IsChain (Follows cfg tokenizer)) (hlast : (c :: run).getLast? = some last)
    : (String.join ((c :: run).map Chunk.text)).utf8ByteSize + c.endOffset
        = last.endOffset + c.text.utf8ByteSize + carried cfg tokenizer (c :: run) := by
  induction run generalizing c with
  | nil =>
    cases hlast
    simp [carried]
    omega
  | cons d run ih =>
    rw [List.isChain_cons_cons] at h
    rcases h.1 with ⟨own, htext, hend⟩
    have hrun := ih h.2 (by simpa using hlast)
    rw [List.map_cons, String.join_cons, String.utf8ByteSize_append, carried]
    rw [htext, String.utf8ByteSize_append] at hrun
    omega

theorem carried_eq_zero {text : String} {run : List Chunk}
    (h : run.IsChain (Follows cfg tokenizer))
    (hsize : ∀ chunk ∈ run, chunk.endOffset ≤ chunk.startOffset + chunk.text.utf8ByteSize)
    (hpassage : IsPassage text run) : carried cfg tokenizer run = 0 := by
  rcases hpassage with ⟨first, last, hfirst, hlast, hslice⟩
  cases run with
  | nil => cases hfirst
  | cons c run =>
    have hc : c = first := by simpa using hfirst
    subst hc
    have hjoin := utf8ByteSize_join h hlast
    have hlen := hslice.size
    have hle := hsize c List.mem_cons_self
    omega

theorem passage_of_joined {text : String} {run : List Chunk} {first last : Chunk}
    (h : run.IsChain fun c d : Chunk => d.startOffset = c.endOffset)
    (hslice : ∀ chunk ∈ run, Slice text chunk.startOffset chunk.endOffset chunk.text)
    (hfirst : run.head? = some first) (hlast : run.getLast? = some last) : 
    Slice text first.startOffset last.endOffset (String.join (run.map Chunk.text)) := by
  induction run generalizing first with
  | nil => cases hfirst
  | cons c run ih =>
    have hc : c = first := by simpa using hfirst
    subst hc
    cases run with
    | nil =>
      have hc : c = last := by simpa using hlast
      subst hc
      simpa using hslice c List.mem_cons_self
    | cons d run =>
      rw [List.isChain_cons_cons] at h
      have hrest := ih h.2 (fun chunk hchunk => hslice chunk (List.mem_cons_of_mem _ hchunk)) rfl
        (by simpa using hlast)
      rw [h.1] at hrest
      rw [List.map_cons, String.join_cons]
      exact (hslice c List.mem_cons_self).append hrest

/-- Where no tail is repeated, the chunks are parts of the text that follow each other. -/
theorem Laid.joined {text before : String} {chunks : List Chunk}
    (h : Laid cfg tokenizer text before "" chunks)
    (htails : ∀ chunk ∈ chunks.dropLast, overlapTail cfg tokenizer chunk.text = "")
    : (∀ chunk ∈ chunks, Slice text chunk.startOffset chunk.endOffset chunk.text)
      ∧ (chunks.IsChain fun c d : Chunk => d.startOffset = c.endOffset)
      ∧ ∀ first, chunks.head? = some first → first.startOffset = before.utf8ByteSize := by
  induction chunks generalizing before with
  | nil => simp
  | cons c chunks ih =>
    rcases h with ⟨own, htext, hstart, hend, h⟩
    rcases h.exists_rest with ⟨rest, hrest⟩
    rw [String.empty_append] at htext
    rw [String.utf8ByteSize_empty, Nat.sub_zero] at hstart
    have hslice : Slice text c.startOffset c.endOffset c.text := by
      refine ⟨before, rest, by rw [htext, hrest], hstart.symm, ?_⟩
      rw [hstart, hend, htext, String.utf8ByteSize_append]
    cases chunks with
    | nil => exact ⟨by simpa using hslice, List.IsChain.singleton c, by simp [hstart]⟩
    | cons d chunks =>
      rw [htails c (by simp)] at h
      rcases ih h (fun chunk hchunk => htails chunk (by simp [hchunk])) with ⟨hslices, hchain, hfirst⟩
      refine ⟨?_, ?_, by simp [hstart]⟩
      . intro chunk hchunk
        cases hchunk with
        | head => exact hslice
        | tail _ hchunk => exact hslices chunk hchunk
      . refine List.IsChain.cons_cons ?_ hchain
        rw [hfirst d rfl, hend]

theorem carried_pair {c d : Chunk} {left right : List Chunk}
    (h : carried cfg tokenizer (left ++ c :: d :: right) = 0)
    : overlapTail cfg tokenizer c.text = "" := by
  induction left with
  | nil =>
    rw [List.nil_append, carried] at h
    apply String.utf8ByteSize_eq_zero_iff.mp
    omega
  | cons b left ih =>
    apply ih
    cases left with
    | nil =>
      rw [List.cons_append, List.nil_append, carried] at h
      rw [List.nil_append]
      omega
    | cons a left =>
      rw [List.cons_append, List.cons_append, carried] at h
      rw [List.cons_append]
      omega

theorem exists_trim_append (s : String) : ∃ left right, s = left ++ trim s ++ right := by
  have hsuffix := List.dropWhile_suffix (l := s.toList) isWhitespace
  have hprefix := List.rdropWhile_prefix (l := s.toList.dropWhile isWhitespace) isWhitespace
  rcases hsuffix with ⟨left, hleft⟩
  rcases hprefix with ⟨right, hright⟩
  refine ⟨String.ofList left, String.ofList right, ?_⟩
  apply String.toList_injective
  simp only [trim, String.toList_append, String.toList_ofList]
  rw [List.append_assoc, hright, hleft]

/-! ## Snippets -/

theorem exists_next {chunks : List Chunk} {chunk : Chunk} (h : chunk ∈ chunks.dropLast)
    : ∃ left next right, chunks = left ++ chunk :: next :: right := by
  rcases List.append_of_mem h with ⟨left, right, hsplit⟩
  have hne : chunks ≠ [] := by
    intro hnil
    rw [hnil] at h
    cases h
  have hchunks : chunks = left ++ chunk :: (right ++ [chunks.getLast hne]) := by
    calc chunks
      _ = chunks.dropLast ++ [chunks.getLast hne] := (List.dropLast_append_getLast hne).symm
      _ = _ := by rw [hsplit]; simp
  cases right with
  | nil => exact ⟨left, _, [], hchunks⟩
  | cons next right => exact ⟨left, next, _, hchunks⟩

theorem overlapTail_eq_empty {text : String} {chunks : List Chunk} (hnumbered : Numbered chunks)
    (hlaid : Laid cfg tokenizer text "" "" chunks)
    (h : ∀ chunk ∈ chunks, IsPassage text (stitched chunks chunk)) {chunk : Chunk}
    (hchunk : chunk ∈ chunks.dropLast) : overlapTail cfg tokenizer chunk.text = "" := by
  rcases exists_next hchunk with ⟨left, next, right, hchunks⟩
  have hnext : chunks[left.length + 1]? = some next := by
    rw [hchunks, List.getElem?_append_right (by omega)]
    simp
  rcases stitched_run hnumbered hnext with ⟨before, after, rest, hchunks', hstitched⟩
  have htake : (chunks.take (left.length + 1)).getLast? = some chunk := by
    rw [hchunks, List.take_append]
    simp
  rw [htake] at hstitched
  have hmem : next ∈ chunks := by
    rw [hchunks]
    simp
  have hrun : stitched chunks next <:+: chunks := ⟨before, after, hchunks'.symm⟩
  have hzero := carried_eq_zero (run_of_append hchunks' hlaid.follows.1)
    (fun c hc => hlaid.follows.2 c (hrun.subset hc)) (h next hmem)
  rw [hstitched] at hzero
  apply @carried_pair _ _ chunk next [] rest
  exact hzero

theorem isPassage_stitched {text : String} {chunks : List Chunk} (hnumbered : Numbered chunks)
    (hlaid : Laid cfg tokenizer text "" "" chunks)
    (h : ∀ chunk ∈ chunks.dropLast, overlapTail cfg tokenizer chunk.text = "") {chunk : Chunk}
    (hchunk : chunk ∈ chunks) : IsPassage text (stitched chunks chunk) := by
  rcases hlaid.joined h with ⟨hslice, hchain, -⟩
  rcases List.mem_iff_getElem?.mp hchunk with ⟨k, hk⟩
  rcases stitched_run hnumbered hk with ⟨before, after, rest, hchunks', hstitched⟩
  have hrun : stitched chunks chunk <:+: chunks := ⟨before, after, hchunks'.symm⟩
  have hne : stitched chunks chunk ≠ [] := by
    rw [hstitched]
    simp
  refine ⟨(stitched chunks chunk).head hne, (stitched chunks chunk).getLast hne,
    List.head?_eq_some_head hne, List.getLast?_eq_some_getLast hne, ?_⟩
  apply passage_of_joined (run_of_append hchunks' hchain)
  . intro c hc
    exact hslice c (hrun.subset hc)
  . exact List.head?_eq_some_head hne
  . exact List.getLast?_eq_some_getLast hne

/-- The snippets of the chunks of a text are passages of it exactly when no chunk hands a tail on to
the next one, and a passage, trimmed, is a part of the text. -/
theorem snippets_are_excerpts (ix : NoteIndexer) (noteId : Uuid) (text : String)
    (hsentences : Sentences 0 (ix.sentences text) text)
    : let chunks := splitText ix.chunking ix.tokenizer (ix.sentences text)
      ((∀ chunk ∈ chunks, IsPassage text (stitched chunks chunk))
          ↔ ∀ chunk ∈ chunks.dropLast, overlapTail ix.chunking ix.tokenizer chunk.text = "")
        ∧ ∀ chunk ∈ chunks, IsPassage text (stitched chunks chunk) →
          ∃ left right, text = left
            ++ stitchSnippet noteId chunk.chunkIndex (chunks.map (Chunk.row ix noteId))
            ++ right := by
  intro chunks
  have hnumbered : Numbered chunks := splitText_numbered _ _ _
  have hlaid : Laid ix.chunking ix.tokenizer text "" "" chunks := splitText_laid hsentences
  constructor
  . constructor
    . intro h chunk hchunk
      exact overlapTail_eq_empty hnumbered hlaid h hchunk
    . intro h chunk hchunk
      exact isPassage_stitched hnumbered hlaid h hchunk
  . intro chunk _ hpassage
    rcases hpassage with ⟨first, last, -, -, before, after, htext, -⟩
    rw [stitchSnippet_eq]
    rcases exists_trim_append (String.join ((stitched chunks chunk).map Chunk.text)) with ⟨l, r, hjoin⟩
    refine ⟨before ++ l, r ++ after, ?_⟩
    rw [htext]
    nth_rewrite 1 [hjoin]
    simp only [String.append_assoc]

/-! ## A text of three sentences -/

def threeSentences : String := "One. Two. Three."

/-- A worker whose tokens are characters. -/
def characterIndexer (overlapTokens : Nat) : NoteIndexer where
  vectorDim := 1
  chunking := ⟨6, overlapTokens⟩
  tokenizer := ⟨fun text => .ok (text.toList.map Char.toNat),
    fun tokens => .ok (String.ofList (tokens.map Char.ofNat))⟩
  sentences text :=
    if text = threeSentences then [(0, "One. "), (5, "Two. "), (10, "Three.")] else [(0, text)]
  uuidV5 _ _ := 0

theorem sentences_threeSentences (overlapTokens : Nat)
    : Sentences 0 ((characterIndexer overlapTokens).sentences threeSentences) threeSentences :=
  ⟨rfl, by decide, "Two. Three.", by decide +kernel, rfl, by decide, "Three.", by decide +kernel, rfl,
    by decide, "", by decide +kernel, rfl⟩

theorem snippets_are_excerpts_threeSentences
    : (splitText ⟨6, 0⟩ (characterIndexer 0).tokenizer
        ((characterIndexer 0).sentences threeSentences)).length = 3
      ∧ ∀ chunk ∈ splitText ⟨6, 0⟩ (characterIndexer 0).tokenizer
        ((characterIndexer 0).sentences threeSentences),
        IsPassage threeSentences (stitched (splitText ⟨6, 0⟩ (characterIndexer 0).tokenizer
          ((characterIndexer 0).sentences threeSentences)) chunk) := by
  constructor
  . decide +kernel
  . apply (snippets_are_excerpts (characterIndexer 0) 1 threeSentences
      (sentences_threeSentences 0)).1.mpr
    decide +kernel

/-- With an overlap of two characters the snippet of the second chunk is no part of the text. -/
theorem not_excerpt_overlap
    : ¬ ∀ chunk ∈ splitText ⟨6, 2⟩ (characterIndexer 2).tokenizer
          ((characterIndexer 2).sentences threeSentences),
        ∃ left right, threeSentences = left
          ++ stitchSnippet 1 chunk.chunkIndex ((splitText ⟨6, 2⟩ (characterIndexer 2).tokenizer
            ((characterIndexer 2).sentences threeSentences)).map
              (Chunk.row (characterIndexer 2) 1)) ++ right := by
  intro h
  rcases h ⟨1, 3, 10, ". Two. "⟩ (by decide +kernel) with ⟨left, right, htext⟩
  have hsnippet : stitchSnippet 1 (1 : Nat) ((splitText ⟨6, 2⟩ (characterIndexer 2).tokenizer
      ((characterIndexer 2).sentences threeSentences)).map (Chunk.row (characterIndexer 2) 1))
      = "One. . Two. . Three." := by
    decide +kernel
  rw [hsnippet] at htext
  have hsize := congrArg String.utf8ByteSize htext
  rw [String.utf8ByteSize_append, String.utf8ByteSize_append] at hsize
  have hleft : threeSentences.utf8ByteSize = 16 := by decide +kernel
  have hright : "One. . Two. . Three.".utf8ByteSize = 20 := by decide +kernel
  omega

end Elf
