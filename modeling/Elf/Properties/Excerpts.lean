import Elf.Evidence.Lemmas.Quotes
import Elf.Service.MachineArithmetic
import Elf.Evidence.Lemmas.Windows

/-!
This module contains where the excerpts of a document lie. A quote is located at the first position of
a text where it stands between its context; occurrences that overlap an earlier one are not looked at.
The window around a match is a slice of the text which is no longer than it may be and holds the match
when it can.
-/

namespace Elf

open Scan

variable {text : String} {quote : TextQuoteSelector}

/-- The quote is located, and at the first position where it matches, if it matches anywhere. -/
structure LocatesFirst (text : String) (quote : TextQuoteSelector) (result : Option (Nat × Nat))
    : Prop where
  complete : result.isSome ↔ ∃ p, Matches text quote p
  first : ∀ s e, result = some (s, e) →
    e = s + quote.exact.utf8ByteSize ∧ FirstFrom (Matches text quote) 0 s

/-- No occurrence that the scan takes covers the start of the first match. -/
def FirstMatchUncovered (text : String) (quote : TextQuoteSelector) : Prop :=
  ∀ p q, FirstFrom (Matches text quote) 0 p → Taken (Occurs text quote.exact)
    quote.exact.utf8ByteSize q → ¬ Inside quote.exact.utf8ByteSize q p

/-- Nothing is located where the quote does not match. -/
theorem locateQuote_eq_none (hexact : quote.exact ≠ "") (h : ¬ ∃ p, Matches text quote p)
    : locateQuote text quote = none := by
  cases hlocate : locateQuote text quote with
  | none => rfl
  | some range =>
    have hmatches := (locateQuote_eq_some hexact (s := range.1) (e := range.2)).mp hlocate
    exact absurd ⟨range.1, hmatches.2.2.1⟩ h

theorem locatesFirst_iff_mem (hexact : quote.exact ≠ "") {p : Nat}
    (hfirst : FirstFrom (Matches text quote) 0 p)
    : LocatesFirst text quote (locateQuote text quote) ↔ p ∈ matchIndices text quote.exact := by
  constructor
  . intro h
    have hsome := h.complete.mpr ⟨p, hfirst.occurs⟩
    rcases Option.isSome_iff_exists.mp hsome with ⟨range, hrange⟩
    have hlocated := h.first range.1 range.2 hrange
    have hmem := (locateQuote_eq_some hexact (s := range.1) (e := range.2)).mp hrange
    have hp : p = range.1 := by
      apply Nat.le_antisymm
      . exact hfirst.least _ hlocated.2.occurs (Nat.zero_le _)
      . exact hlocated.2.least _ hfirst.occurs (Nat.zero_le _)
    rw [hp]
    exact hmem.2.1
  . intro hmem
    have hlocate : locateQuote text quote = some (p, p + quote.exact.utf8ByteSize) := by
      rw [locateQuote_eq_some hexact]
      exact ⟨rfl, hmem, hfirst.occurs, fun k _ hk => hfirst.least k hk (Nat.zero_le k)⟩
    rw [hlocate]
    constructor
    . simp only [Option.isSome_some, true_iff]
      exact ⟨p, hfirst.occurs⟩
    . intro s e hrange
      cases hrange
      exact ⟨rfl, hfirst⟩

/-- The quote is located as its context says exactly when no earlier occurrence of it, among those
that the scan takes, covers the start of the first match. -/
theorem locateQuote_locatesFirst_iff (hexact : quote.exact ≠ "")
    : LocatesFirst text quote (locateQuote text quote) ↔ FirstMatchUncovered text quote := by
  have hyields := @yields_matchIndices text quote.exact hexact
  have hpos := Text.utf8ByteSize_pos hexact
  by_cases hsome : ∃ p, Matches text quote p
  . rcases FirstFrom.exists_of_occurs hsome with ⟨p, hfirst⟩
    rw [locatesFirst_iff_mem hexact hfirst]
    constructor
    . intro hmem p' q hfirst' htaken
      have hp : p' = p := by
        apply Nat.le_antisymm
        . exact hfirst'.least _ hfirst.occurs (Nat.zero_le _)
        . exact hfirst.least _ hfirst'.occurs (Nat.zero_le _)
      rw [hp]
      exact hyields.not_inside hmem ((hyields.mem_iff hpos).mpr htaken)
    . intro h
      cases hyields.covers p hfirst.occurs.exact with
      | inl hmem => exact hmem
      | inr hinside =>
        rcases hinside with ⟨q, hq, hqp⟩
        exact absurd hqp (h p q hfirst ((hyields.mem_iff hpos).mp hq))
  . rw [locateQuote_eq_none hexact hsome]
    constructor
    . intro _ p q hfirst
      exact absurd ⟨p, hfirst.occurs⟩ hsome
    . intro _
      constructor
      . simp [hsome]
      . intro s e hrange
        cases hrange

theorem locateQuote_locatesFirst_iff_word
    : LocatesFirst "to be" ⟨"be", some "to ", none⟩ (locateQuote "to be" ⟨"be", some "to ", none⟩)
        ↔ FirstMatchUncovered "to be" ⟨"be", some "to ", none⟩ :=
  locateQuote_locatesFirst_iff (by decide)

/-- The second occurrence of the quote is the one in its context, and starts inside the first. -/
theorem locateQuote_misses_overlapping
    : locateQuote "aaab" ⟨"aa", none, some "b"⟩ = none
      ∧ ¬ LocatesFirst "aaab" ⟨"aa", none, some "b"⟩ (locateQuote "aaab" ⟨"aa", none, some "b"⟩) := by
  have hnone : locateQuote "aaab" ⟨"aa", none, some "b"⟩ = none := by decide +kernel
  refine ⟨hnone, ?_⟩
  intro h
  have hmatches : Matches "aaab" ⟨"aa", none, some "b"⟩ 1 :=
    ⟨⟨"a", "b", by decide, by decide, by decide⟩, ⟨1, "a", "aab", by decide, by decide, by decide⟩,
      ⟨4, "aaa", "", by decide, by decide, by decide⟩⟩
  have hsome := h.complete.mpr ⟨1, hmatches⟩
  rw [hnone] at hsome
  contradiction

/-! ## Windows -/

open Text

variable {s e maxBytes : Nat}

/-- A window that can be cut out of the text. -/
structure IsByteWindow (text : String) (maxBytes : Nat) (window : Nat × Nat) : Prop where
  ordered : window.1 ≤ window.2
  inside : window.2 ≤ text.utf8ByteSize
  isBoundary_left : IsBoundary text window.1
  isBoundary_right : IsBoundary text window.2
  size : window.2 - window.1 ≤ maxBytes

/-- Where the window ends up does not matter for its ends being boundaries: the loops that look for
them stay inside the text. -/
theorem isWindow_boundedWindow (hle : s ≤ e) (hend : e ≤ text.utf8ByteSize)
    : IsByteWindow text maxBytes (boundedWindow s e text maxBytes) := by
  have hsize := boundedWindow_size s e text maxBytes
  have hordered : (boundedWindow s e text maxBytes).1 ≤ (boundedWindow s e text maxBytes).2 :=
    Nat.le_max_right _ _
  have hboundaries : IsBoundary text (boundedWindow s e text maxBytes).1
      ∧ IsBoundary text (boundedWindow s e text maxBytes).2 := by
    unfold boundedWindow
    simp only
    generalize hstart : s + (e - s) / 2 - maxBytes / 2 = start
    generalize min (start + maxBytes) text.utf8ByteSize = stop
    generalize hfirst : (if stop - start < maxBytes ∧ 0 < start then
      start - (maxBytes - (stop - start)) else start) = first
    have hfirstlen : first ≤ text.utf8ByteSize := by
      rw [← hfirst]
      split
      . omega
      . omega
    have hboundary := @isBoundary_ceilBoundary text first text.utf8ByteSize (by omega) hfirstlen
    generalize ceilBoundary text text.utf8ByteSize first = left at hboundary
    refine ⟨hboundary, ?_⟩
    rcases Nat.lt_or_ge left (floorBoundary text left stop) with hlt | hge
    . rw [Nat.max_eq_left (by omega)]
      exact isBoundary_floorBoundary hlt
    . rw [Nat.max_eq_right hge]
      exact hboundary
  exact ⟨hordered, hboundaries.2.le, hboundaries.1, hboundaries.2, by omega⟩

/-- No step of the computation wraps around, the result is a slice of the text of at most `maxBytes`
bytes, and it contains the match when the match is not larger than that. -/
theorem boundedWindow_contains_match (hs : IsBoundary text s) (he : IsBoundary text e)
    (hle : s ≤ e) (hlen : text.utf8ByteSize ≤ maxTextBytes) (hmax : maxBytes < Word.size)
    : ∃ start stop part, boundedWindowChecked s e text maxBytes = some (start, stop)
      ∧ boundedWindow s e text maxBytes = (start, stop)
      ∧ start ≤ stop ∧ stop ≤ text.utf8ByteSize
      ∧ IsBoundary text start ∧ IsBoundary text stop
      ∧ stop - start ≤ maxBytes
      ∧ sliceBytes text start stop = some part
      ∧ (e - s ≤ maxBytes → start ≤ s ∧ e ≤ stop) := by
  have hchecked := boundedWindowChecked_eq hlen hmax hle he.le
  have hwindow := @isWindow_boundedWindow text s e maxBytes hle he.le
  have hcovers : e - s ≤ maxBytes → Covers text s e (boundedWindow s e text maxBytes) :=
    boundedWindow_covers hs he hle
  generalize boundedWindow s e text maxBytes = window at hchecked hwindow hcovers
  rcases Slice.exists_of_isBoundary hwindow.isBoundary_left hwindow.isBoundary_right
    hwindow.ordered with ⟨part, hpart⟩
  refine ⟨window.1, window.2, part, hchecked, rfl, hwindow.ordered, hwindow.inside,
    hwindow.isBoundary_left, hwindow.isBoundary_right, hwindow.size, ?_, ?_⟩
  . exact sliceBytes_eq_some.mpr hpart
  . intro hfits
    exact ⟨(hcovers hfits).left, (hcovers hfits).right⟩

/-- A window of four bytes around the two-byte character of a text. -/
theorem boundedWindow_contains_match_accent
    : ∃ start stop part, boundedWindowChecked 3 5 "cafés" 4 = some (start, stop)
      ∧ boundedWindow 3 5 "cafés" 4 = (start, stop)
      ∧ start ≤ stop ∧ stop ≤ "cafés".utf8ByteSize
      ∧ IsBoundary "cafés" start ∧ IsBoundary "cafés" stop
      ∧ stop - start ≤ 4
      ∧ sliceBytes "cafés" start stop = some part
      ∧ (5 - 3 ≤ 4 → start ≤ 3 ∧ 5 ≤ stop) := by
  have hs : IsBoundary "cafés" 3 := ⟨"caf", "és", by decide, by decide⟩
  have he : IsBoundary "cafés" 5 := ⟨"café", "s", by decide, by decide⟩
  exact boundedWindow_contains_match hs he (by decide) (by decide) (by decide)

end Elf
