import Elf.Docs.Service
import Elf.Evidence.Lemmas.Windows
import Elf.Lib.Windows
import Mathlib.Data.List.GetD

/-!
This module contains that the chunks of a document are windows of its tokens, which cover all of
them and share exactly the overlap, and when a document cannot be split this way.
-/

namespace Elf

open Text
open Windows

variable {text : String} {offsets : List (Nat × Nat)} {profile : DocChunkingProfile}
  {tokenizer : Tokenizer} {w : Nat × Nat} {windows : List (Nat × Nat)} {chunk : ByteChunk}
  {chunks : List ByteChunk}

/-! ## Chunks -/

/-- The tokens are ranges of the text, one behind the other. -/
structure MonotoneWithin (text : String) (offsets : List (Nat × Nat)) : Prop where
  within : ∀ token ∈ offsets, token.1 ≤ token.2 ∧ token.2 ≤ text.utf8ByteSize
  ordered : offsets.Pairwise fun token token' => token.1 ≤ token'.1 ∧ token.2 ≤ token'.2

/-- Where the tokens of a window start in the text. -/
def windowStart (offsets : List (Nat × Nat)) (w : Nat × Nat) : Nat := (offsets.getD w.1 (0, 0)).1

def windowEnd (offsets : List (Nat × Nat)) (w : Nat × Nat) : Nat := (offsets.getD (w.2 - 1) (0, 0)).2

/-- The chunk is the part of the text that the tokens of the window take. -/
structure IsChunkOf (text : String) (offsets : List (Nat × Nat)) (w : Nat × Nat) (chunk : ByteChunk)
    : Prop where
  start : chunk.startOffset = windowStart offsets w
  stop : chunk.endOffset = windowEnd offsets w
  slice : Slice text chunk.startOffset chunk.endOffset chunk.text

theorem tokenChunk_eq_ok
    : tokenChunk text offsets w.1 w.2 = .ok chunk ↔ IsChunkOf text offsets w chunk := by
  unfold tokenChunk
  simp only [Except.bind_eq_ok, Except.ofOption_eq_ok, sliceBytes_eq_some]
  constructor
  . intro h
    rcases h with ⟨part, hpart, heq⟩
    cases heq
    exact ⟨rfl, rfl, hpart⟩
  . intro h
    refine ⟨chunk.text, ?_, ?_⟩
    . have hslice := h.slice
      rw [h.start, h.stop] at hslice
      exact hslice
    . have heq : chunk = ⟨windowStart offsets w, windowEnd offsets w, chunk.text⟩ := by
        rw [← h.start, ← h.stop]
      rw [heq]
      rfl

/-- The window starts and ends between two characters. -/
def OnBoundaries (text : String) (offsets : List (Nat × Nat)) (w : Nat × Nat) : Prop :=
  IsBoundary text (windowStart offsets w) ∧ IsBoundary text (windowEnd offsets w)

theorem MonotoneWithin.start_le_end (h : MonotoneWithin text offsets) (hlt : w.1 < w.2)
    (hle : w.2 ≤ offsets.length) : windowStart offsets w ≤ windowEnd offsets w := by
  have hfirst : w.1 < offsets.length := by omega
  have hlast : w.2 - 1 < offsets.length := by omega
  have hrange := h.within _ (List.getElem_mem hfirst)
  unfold windowStart windowEnd
  rw [List.getD_eq_getElem _ _ hfirst, List.getD_eq_getElem _ _ hlast]
  rcases Nat.lt_or_ge w.1 (w.2 - 1) with hbefore | hsame
  . have := List.pairwise_iff_getElem.mp h.ordered w.1 (w.2 - 1) hfirst hlast hbefore
    omega
  . have heq : w.2 - 1 = w.1 := by omega
    simp only [heq]
    exact hrange.1

theorem exists_isChunkOf_iff (h : MonotoneWithin text offsets) (hlt : w.1 < w.2)
    (hle : w.2 ≤ offsets.length)
    : (∃ chunk, IsChunkOf text offsets w chunk) ↔ OnBoundaries text offsets w := by
  constructor
  . intro hchunk
    rcases hchunk with ⟨chunk, hchunk⟩
    unfold OnBoundaries
    rw [← hchunk.start, ← hchunk.stop]
    exact ⟨hchunk.slice.isBoundary_left, hchunk.slice.isBoundary_right⟩
  . intro hboundaries
    rcases Slice.exists_of_isBoundary hboundaries.1 hboundaries.2 (h.start_le_end hlt hle)
      with ⟨part, hpart⟩
    exact ⟨⟨_, _, part⟩, rfl, rfl, hpart⟩

/-! ## The loop -/

theorem forall₂_cons_iff {α β : Type} {r : α → β → Prop} {a : α} {as : List α} {bs : List β}
    : List.Forall₂ r (a :: as) bs ↔ ∃ b bs', r a b ∧ List.Forall₂ r as bs' ∧ bs = b :: bs' := by
  constructor
  . intro h
    cases h with
    | cons hab hrest => exact ⟨_, _, hab, hrest, rfl⟩
  . intro h
    rcases h with ⟨b, bs', hab, hrest, heq⟩
    rw [heq]
    exact List.Forall₂.cons hab hrest

theorem exists_forall₂_iff {α β : Type} {r : α → β → Prop} {as : List α}
    : (∃ bs, List.Forall₂ r as bs) ↔ ∀ a ∈ as, ∃ b, r a b := by
  induction as with
  | nil =>
    constructor
    . intro _ a ha
      contradiction
    . intro _
      exact ⟨[], List.Forall₂.nil⟩
  | cons a as ih =>
    rw [List.forall_mem_cons, ← ih]
    constructor
    . intro h
      rcases h with ⟨bs, h⟩
      rcases forall₂_cons_iff.mp h with ⟨b, bs', hab, hrest, -⟩
      exact ⟨⟨b, hab⟩, bs', hrest⟩
    . intro h
      rcases h with ⟨⟨b, hab⟩, bs, hrest⟩
      exact ⟨b :: bs, List.Forall₂.cons hab hrest⟩

/-- One pass of the loop makes the chunk of the next window. The count of chunks is checked only when
there is a window behind it. -/
theorem splitTokensFrom_eq_ok (hprofile : profile.overlapTokens < profile.maxTokens)
    {passes k : Nat} (hk : k < count offsets.length profile.maxTokens profile.overlapTokens)
    (hpasses : offsets.length ≤ passes + k * (profile.maxTokens - profile.overlapTokens))
    (hcap : k < profile.maxChunks)
    : splitTokensFrom text profile offsets passes (k * (profile.maxTokens - profile.overlapTokens)) k
          = .ok chunks
        ↔ count offsets.length profile.maxTokens profile.overlapTokens ≤ profile.maxChunks
          ∧ List.Forall₂ (IsChunkOf text offsets)
              (windowsFrom offsets.length profile.maxTokens profile.overlapTokens k) chunks := by
  have hstart := start_lt hprofile hk
  have hcount := @succ_lt_count offsets.length profile.maxTokens profile.overlapTokens k (by omega)
    hprofile
  induction passes generalizing k chunks with
  | zero => omega
  | succ passes ih =>
    unfold splitTokensFrom
    simp only [Except.bind_eq_ok]
    have hchunk : ∀ chunk, tokenChunk text offsets (k * (profile.maxTokens - profile.overlapTokens))
        (min (k * (profile.maxTokens - profile.overlapTokens) + profile.maxTokens) offsets.length)
          = .ok chunk
        ↔ IsChunkOf text offsets (window offsets.length profile.maxTokens profile.overlapTokens k)
            chunk :=
      fun chunk => tokenChunk_eq_ok (w := window offsets.length profile.maxTokens
        profile.overlapTokens k)
    simp only [hchunk]
    split
    next hend =>
      have hlast : k + 1 = count offsets.length profile.maxTokens profile.overlapTokens := by omega
      rw [windowsFrom_last hlast, forall₂_cons_iff]
      constructor
      . intro h
        rcases h with ⟨chunk, hchunk, heq⟩
        cases heq
        exact ⟨by omega, chunk, [], hchunk, List.Forall₂.nil, rfl⟩
      . intro h
        rcases h with ⟨-, chunk, rest, hchunk, hrest, heq⟩
        cases hrest
        rw [heq]
        exact ⟨chunk, hchunk, rfl⟩
    next hend =>
      have hmore : k + 1 < count offsets.length profile.maxTokens profile.overlapTokens := by omega
      have hnext : min (k * (profile.maxTokens - profile.overlapTokens) + profile.maxTokens)
            offsets.length - profile.overlapTokens
          = (k + 1) * (profile.maxTokens - profile.overlapTokens) := by
        rw [Nat.succ_mul]
        omega
      rw [windowsFrom_cons hmore, forall₂_cons_iff, hnext]
      simp only [Except.bind_eq_ok, Except.rejectIf_eq_ok, decide_eq_false_iff_not, Nat.not_le]
      have hrest : k + 1 < profile.maxChunks → ∀ rest,
          splitTokensFrom text profile offsets passes
              ((k + 1) * (profile.maxTokens - profile.overlapTokens)) (k + 1) = .ok rest
            ↔ count offsets.length profile.maxTokens profile.overlapTokens ≤ profile.maxChunks
              ∧ List.Forall₂ (IsChunkOf text offsets)
                  (windowsFrom offsets.length profile.maxTokens profile.overlapTokens (k + 1)) rest := by
        intro hcap rest
        apply ih hmore _ hcap (start_lt hprofile hmore)
          (succ_lt_count (by omega) hprofile)
        rw [Nat.succ_mul]
        omega
      constructor
      . intro h
        rcases h with ⟨chunk, hchunk, ⟨⟩, hcap, rest, hsplit, heq⟩
        cases heq
        have hrest := (hrest hcap rest).mp hsplit
        exact ⟨hrest.1, chunk, rest, hchunk, hrest.2, rfl⟩
      . intro h
        rcases h with ⟨hcount, chunk, rest, hchunk, hforall, heq⟩
        have hcap : k + 1 < profile.maxChunks := by omega
        rw [heq]
        exact ⟨chunk, hchunk, ⟨⟩, hcap, rest, (hrest hcap rest).mpr ⟨hcount, hforall⟩, rfl⟩

theorem splitTokensByOffsets_eq_ok (htokens : tokenizer text = .ok offsets)
    (hcap : 0 < profile.maxChunks)
    : splitTokensByOffsets text profile tokenizer = .ok chunks
        ↔ profile.overlapTokens < profile.maxTokens
          ∧ count offsets.length profile.maxTokens profile.overlapTokens ≤ profile.maxChunks
          ∧ List.Forall₂ (IsChunkOf text offsets)
              (windowsFrom offsets.length profile.maxTokens profile.overlapTokens 0) chunks := by
  unfold splitTokensByOffsets
  simp only [Except.bind_eq_ok, Except.rejectIf_eq_ok, Except.mapError_eq_ok, htokens]
  have hloop : profile.overlapTokens < profile.maxTokens →
      (splitTokensFrom text profile offsets offsets.length 0 0 = .ok chunks
        ↔ count offsets.length profile.maxTokens profile.overlapTokens ≤ profile.maxChunks
          ∧ List.Forall₂ (IsChunkOf text offsets)
              (windowsFrom offsets.length profile.maxTokens profile.overlapTokens 0) chunks) := by
    intro hprofile
    cases offsets with
    | nil =>
      simp only [splitTokensFrom, windowsFrom, count, List.length_nil]
      constructor
      . intro h
        cases h
        exact ⟨Nat.zero_le _, List.Forall₂.nil⟩
      . intro h
        cases h.2
        rfl
    | cons token tokens =>
      have hloop := @splitTokensFrom_eq_ok text (token :: tokens) profile chunks hprofile
        (token :: tokens).length 0 (count_pos (by simp)) (by omega) hcap
      rw [Nat.zero_mul] at hloop
      exact hloop
  constructor
  . intro h
    rcases h with ⟨⟨⟩, -, ⟨⟩, hprofile, offsets', hoffsets, hsplit⟩
    cases hoffsets
    have hlt : profile.overlapTokens < profile.maxTokens := by simpa using hprofile
    exact ⟨hlt, (hloop hlt).mp hsplit⟩
  . intro h
    refine ⟨⟨⟩, ?_, ⟨⟩, ?_, offsets, rfl, (hloop h.1).mpr h.2⟩
    . simp
      omega
    . simpa using h.1

/-! ## Documents -/

/-- All the windows that the chunks would be made of lie between characters. -/
def WindowsOnBoundaries (text : String) (profile : DocChunkingProfile) (offsets : List (Nat × Nat))
    : Prop :=
  ∀ w ∈ windowsFrom offsets.length profile.maxTokens profile.overlapTokens 0,
    OnBoundaries text offsets w

/-- It takes more windows than chunks are allowed, however the windows are laid. -/
def NeedsMoreChunks (profile : DocChunkingProfile) (offsets : List (Nat × Nat)) : Prop :=
  ∀ windows, Tiles offsets.length profile.maxTokens profile.overlapTokens windows →
    profile.maxChunks < windows.length

theorem needsMoreChunks_iff (hprofile : profile.overlapTokens < profile.maxTokens)
    : NeedsMoreChunks profile offsets
        ↔ profile.maxChunks < count offsets.length profile.maxTokens profile.overlapTokens := by
  constructor
  . intro h
    have := h _ (tiles_windowsFrom hprofile)
    rwa [length_windowsFrom_zero] at this
  . intro h windows htiles
    exact Nat.lt_of_lt_of_le h (count_le_length hprofile htiles)

/-- The splitting of a document into windows, and exactly when there is none. -/
theorem splitTokensByOffsets_windows (htokens : tokenizer text = .ok offsets)
    (hoffsets : MonotoneWithin text offsets) (hcap : 0 < profile.maxChunks)
    : (∀ chunks, splitTokensByOffsets text profile tokenizer = .ok chunks →
        ∃ windows, Tiles offsets.length profile.maxTokens profile.overlapTokens windows
          ∧ List.Forall₂ (IsChunkOf text offsets) windows chunks
          ∧ chunks.length ≤ profile.maxChunks)
      ∧ ((∃ err, splitTokensByOffsets text profile tokenizer = .error err)
        ↔ profile.maxTokens = 0 ∨ profile.maxTokens ≤ profile.overlapTokens
          ∨ NeedsMoreChunks profile offsets ∨ ¬ WindowsOnBoundaries text profile offsets) := by
  have hok := fun chunks => @splitTokensByOffsets_eq_ok text offsets profile tokenizer chunks
    htokens hcap
  constructor
  . intro chunks hsplit
    rcases (hok chunks).mp hsplit with ⟨hprofile, hcount, hchunks⟩
    refine ⟨_, tiles_windowsFrom hprofile, hchunks, ?_⟩
    rwa [← hchunks.length_eq, length_windowsFrom_zero]
  . have hfails : (∃ err, splitTokensByOffsets text profile tokenizer = .error err)
        ↔ ¬ ∃ chunks, splitTokensByOffsets text profile tokenizer = .ok chunks := by
      cases splitTokensByOffsets text profile tokenizer with
      | error err => simp
      | ok chunks => simp
    rw [hfails]
    rcases Nat.lt_or_ge profile.overlapTokens profile.maxTokens with hprofile | hinvalid
    . have hchunks : (∃ chunks, List.Forall₂ (IsChunkOf text offsets)
            (windowsFrom offsets.length profile.maxTokens profile.overlapTokens 0) chunks)
          ↔ WindowsOnBoundaries text profile offsets := by
        rw [exists_forall₂_iff]
        apply forall₂_congr
        intro w hw
        have hinside := (tiles_windowsFrom hprofile).inside w hw
        exact exists_isChunkOf_iff hoffsets hinside.1 hinside.2
      simp only [hok, exists_and_left, hchunks, needsMoreChunks_iff hprofile]
      constructor
      . intro h
        rcases Nat.lt_or_ge profile.maxChunks
          (count offsets.length profile.maxTokens profile.overlapTokens) with hmore | hle
        . exact Or.inr (Or.inr (Or.inl hmore))
        . refine Or.inr (Or.inr (Or.inr ?_))
          intro hboundaries
          exact h ⟨hprofile, hle, hboundaries⟩
      . intro h hsplit
        rcases h with hzero | hinvalid | hmore | hboundaries
        . omega
        . omega
        . omega
        . exact hboundaries hsplit.2.2
    . constructor
      . intro _
        exact Or.inr (Or.inl hinvalid)
      . intro _ hsplit
        rcases hsplit with ⟨chunks, hsplit⟩
        have := ((hok chunks).mp hsplit).1
        omega

theorem splitTokensByOffsets_windows_three
    : ∃ windows, Tiles 3 2 1 windows
      ∧ List.Forall₂ (IsChunkOf "ab c" [(0, 1), (1, 2), (2, 4)]) windows
          [⟨0, 2, "ab"⟩, ⟨1, 4, "b c"⟩]
      ∧ [(⟨0, 2, "ab"⟩ : ByteChunk), ⟨1, 4, "b c"⟩].length ≤ 8 := by
  have hoffsets : MonotoneWithin "ab c" [(0, 1), (1, 2), (2, 4)] := by
    constructor
    . decide
    . decide
  have hsplit : splitTokensByOffsets "ab c" ⟨2, 1, 8⟩ (fun _ => .ok [(0, 1), (1, 2), (2, 4)])
      = .ok [⟨0, 2, "ab"⟩, ⟨1, 4, "b c"⟩] := by
    rfl
  exact (@splitTokensByOffsets_windows "ab c" _ ⟨2, 1, 8⟩ _ rfl hoffsets (by decide)).1 _ hsplit

/-- A token may end inside a character, where no chunk can be cut. -/
theorem splitTokensByOffsets_inside_character
    : MonotoneWithin "é" [(0, 1), (1, 2)]
      ∧ Tiles 2 1 0 [(0, 1), (1, 2)]
      ∧ splitTokensByOffsets "é" ⟨1, 0, 2⟩ (fun _ => .ok [(0, 1), (1, 2)]) = .error invalidBoundary
      ∧ ¬ ((1 : Nat) = 0 ∨ (1 : Nat) ≤ 0 ∨ NeedsMoreChunks ⟨1, 0, 2⟩ [(0, 1), (1, 2)]) := by
  have htiles : Tiles 2 1 0 [(0, 1), (1, 2)] := by
    constructor
    . decide
    . decide
    . decide
    . simp
  refine ⟨?_, htiles, rfl, ?_⟩
  . constructor
    . decide
    . decide
  . intro h
    rcases h with hzero | hinvalid | hmore
    . omega
    . omega
    . have := hmore _ htiles
      simp at this

end Elf
