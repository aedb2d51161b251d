import Elf.Evidence.Lemmas.Windows
import Elf.Lib.Scan

/-!
This module contains where a quote is found in a text. The occurrences that are looked at are the
ones that a scan from left to right takes, and the first of these that has the context of the quote
is the one found.
-/

namespace Elf

open Text
open Scan

/-! ## The scan -/

theorem byteSize_pos {cs : List Char} (h : cs ≠ []) : 0 < byteSize cs := by
  cases cs with
  | nil => contradiction
  | cons c cs =>
    have := c.utf8Size_pos
    rw [byteSize_cons]
    omega

section

variable {pattern text : List Char} {offset skip p : Nat}

theorem occurs_of_mem_matchOffsets (hpattern : pattern ≠ [])
    (h : p ∈ matchOffsets pattern text offset skip)
    : ∃ l r, text = l ++ (pattern ++ r) ∧ p = offset + byteSize l ∧ skip ≤ l.length := by
  induction text generalizing offset skip with
  | nil =>
    unfold matchOffsets at h
    rw [if_neg (by simp [hpattern])] at h
    contradiction
  | cons c text ih =>
    have hlater : ∀ skip' ≥ skip - 1, p ∈ matchOffsets pattern text (offset + c.utf8Size) skip'
        → ∃ l r, c :: text = l ++ (pattern ++ r) ∧ p = offset + byteSize l ∧ skip ≤ l.length := by
      intro skip' hskip hp
      rcases ih hp with ⟨l, r, htext, hpl, hle⟩
      refine ⟨c :: l, r, by rw [htext, List.cons_append], ?_, ?_⟩
      . rw [hpl, byteSize_cons, Nat.add_assoc]
      . rw [List.length_cons]
        omega
    unfold matchOffsets at h
    split at h
    next hhere =>
      rw [List.mem_cons] at h
      cases h with
      | inl heq =>
        rcases List.isPrefixOf_iff_prefix.mp hhere.2 with ⟨r, hr⟩
        exact ⟨[], r, hr.symm, by rw [heq]; rfl, by simp [hhere.1]⟩
      | inr hrest =>
        apply hlater _ _ hrest
        omega
    . apply hlater _ _ h
      omega

/-- A part of a text that is shorter than another one is a proper part of it. -/
theorem byteSize_lt_of_append_eq {l r pattern text : List Char} (h : l ++ r = pattern ++ text)
    (hlt : l.length < pattern.length) : byteSize l < byteSize pattern := by
  rcases List.append_eq_append_iff.mp h with ⟨m, hpattern, -⟩ | ⟨m, hl, -⟩
  . have hm : m ≠ [] := by
      intro hm
      rw [hpattern, hm, List.append_nil] at hlt
      omega
    have := byteSize_pos hm
    rw [hpattern, byteSize_append]
    omega
  . rw [hl, List.length_append] at hlt
    omega

theorem mem_matchOffsets_or_inside {l r : List Char} (htext : text = l ++ (pattern ++ r))
    (hskip : skip ≤ l.length)
    : offset + byteSize l ∈ matchOffsets pattern text offset skip
      ∨ ∃ q ∈ matchOffsets pattern text offset skip,
          Inside (byteSize pattern) q (offset + byteSize l) := by
  induction text generalizing offset skip l with
  | nil =>
    have hnil : l = [] ∧ pattern = [] := by
      have := List.append_eq_nil_iff.mp htext.symm
      exact ⟨this.1, (List.append_eq_nil_iff.mp this.2).1⟩
    left
    unfold matchOffsets
    rw [hnil.1] at hskip ⊢
    rw [if_pos ⟨by simpa using hskip, hnil.2⟩]
    simp [byteSize]
  | cons c text ih =>
    unfold matchOffsets
    cases l with
    | nil =>
      left
      have hhere : skip = 0 ∧ pattern.isPrefixOf (c :: text) := by
        refine ⟨by simpa using hskip, ?_⟩
        rw [List.isPrefixOf_iff_prefix]
        exact ⟨r, htext.symm⟩
      rw [if_pos hhere]
      simp [byteSize]
    | cons d l =>
      rw [List.cons_append, List.cons.injEq] at htext
      rcases htext with ⟨heq, htext⟩
      subst heq
      rw [byteSize_cons, ← Nat.add_assoc]
      rw [List.length_cons] at hskip
      split
      next hhere =>
        rcases Nat.lt_or_ge l.length (pattern.length - 1) with hlt | hge
        . -- The occurrence starts in the match at the head.
          right
          rcases List.isPrefixOf_iff_prefix.mp hhere.2 with ⟨rest, hrest⟩
          have hsize : byteSize (c :: l) < byteSize pattern := by
            apply @byteSize_lt_of_append_eq _ (pattern ++ r) _ rest
            . rw [List.cons_append, ← htext, hrest]
            . rw [List.length_cons]
              omega
          have hpos := c.utf8Size_pos
          rw [byteSize_cons] at hsize
          refine ⟨offset, List.mem_cons_self .., ?_, ?_⟩
          . omega
          . omega
        . rcases @ih (offset + c.utf8Size) _ _ htext hge with hmem | hinside
          . left
            exact List.mem_cons_of_mem _ hmem
          . rcases hinside with ⟨q, hq, hqp⟩
            right
            exact ⟨q, List.mem_cons_of_mem _ hq, hqp⟩
      . apply ih htext
        omega

theorem pairwise_matchOffsets (hpattern : pattern ≠ [])
    : (matchOffsets pattern text offset skip).Pairwise fun p q => p + byteSize pattern ≤ q := by
  induction text generalizing offset skip with
  | nil =>
    unfold matchOffsets
    rw [if_neg (by simp [hpattern])]
    exact List.Pairwise.nil
  | cons c text ih =>
    unfold matchOffsets
    split
    next hhere =>
      apply List.Pairwise.cons _ ih
      intro q hq
      rcases occurs_of_mem_matchOffsets hpattern hq with ⟨l, r, htext, hql, hlength⟩
      rcases List.isPrefixOf_iff_prefix.mp hhere.2 with ⟨rest, hrest⟩
      have hsize : byteSize pattern ≤ byteSize (c :: l) := by
        rw [htext, ← List.cons_append] at hrest
        rcases List.append_eq_append_iff.mp hrest with ⟨m, hl, -⟩ | ⟨m, hp, -⟩
        . rw [hl, byteSize_append]
          omega
        . have hm : m = [] := by
            have := congrArg List.length hp
            rw [List.length_append, List.length_cons] at this
            apply List.length_eq_zero_iff.mp
            omega
          rw [hp, hm, List.append_nil]
      rw [byteSize_cons] at hsize
      omega
    . exact ih

end

variable {text : String} {quote : TextQuoteSelector} {p : Nat}

/-- The quote occurs in the text, without a look at its context. -/
def Occurs (text pattern : String) (p : Nat) : Prop := Slice text p (p + pattern.utf8ByteSize) pattern

theorem occurs_iff {pattern : String}
    : Occurs text pattern p
        ↔ ∃ l r, text.toList = l ++ (pattern.toList ++ r) ∧ p = byteSize l := by
  constructor
  . intro h
    rcases h with ⟨left, right, htext, hleft, -⟩
    refine ⟨left.toList, right.toList, ?_, ?_⟩
    . rw [htext, String.toList_append, String.toList_append, List.append_assoc]
    . rw [← utf8ByteSize_ofList, String.ofList_toList, hleft]
  . intro h
    rcases h with ⟨l, r, htext, hp⟩
    refine ⟨String.ofList l, String.ofList r, ?_, ?_, rfl⟩
    . apply String.toList_injective
      simp [htext]
    . rw [utf8ByteSize_ofList, hp]

theorem byteSize_toList (s : String) : byteSize s.toList = s.utf8ByteSize := by
  rw [← utf8ByteSize_ofList, String.ofList_toList]

/-- The occurrences that are looked at are the ones that a scan takes. -/
theorem yields_matchIndices {pattern : String} (hpattern : pattern ≠ "")
    : Yields (Occurs text pattern) pattern.utf8ByteSize (matchIndices text pattern) := by
  have hchars : pattern.toList ≠ [] := by
    intro hnil
    exact hpattern (String.toList_injective hnil)
  unfold matchIndices
  constructor
  . intro p hp
    rcases occurs_of_mem_matchOffsets hchars hp with ⟨l, r, htext, hpl, -⟩
    rw [occurs_iff]
    exact ⟨l, r, htext, by omega⟩
  . rw [← byteSize_toList]
    exact pairwise_matchOffsets hchars
  . intro p hp
    rcases occurs_iff.mp hp with ⟨l, r, htext, hpl⟩
    have hcovered := @mem_matchOffsets_or_inside pattern.toList text.toList 0 0 l r htext
      (Nat.zero_le _)
    rw [Nat.zero_add, byteSize_toList, ← hpl] at hcovered
    exact hcovered

/-! ## The context -/

/-- The quote stands at the position of the text, between its context. -/
structure Matches (text : String) (quote : TextQuoteSelector) (p : Nat) : Prop where
  exact : Occurs text quote.exact p
  before : ∃ i, Slice text i p (quote.before.getD "")
  after : ∃ j, Slice text (p + quote.exact.utf8ByteSize) j (quote.after.getD "")

theorem isSuffixOf_iff_slice {left right part : String} (htext : text = left ++ right)
    (hp : left.utf8ByteSize = p)
    : part.toList.isSuffixOf left.toList = true ↔ ∃ i, Slice text i p part := by
  rw [List.isSuffixOf_iff_suffix]
  constructor
  . intro h
    rcases h with ⟨l, hl⟩
    have hleft : left = String.ofList l ++ part := by
      apply String.toList_injective
      simp [← hl]
    refine ⟨byteSize l, String.ofList l, right, ?_, utf8ByteSize_ofList l, ?_⟩
    . rw [htext, hleft]
    . rw [← hp, hleft, String.utf8ByteSize_append, utf8ByteSize_ofList]
  . intro h
    rcases h with ⟨i, before, after, htext', hbefore, hsize⟩
    rw [htext] at htext'
    have hleft := (append_inj_of_utf8ByteSize htext'
      (by rw [String.utf8ByteSize_append]; omega)).1
    rw [hleft, String.toList_append]
    exact List.suffix_append ..

theorem isPrefixOf_iff_slice {left right part : String} (htext : text = left ++ right)
    (hp : left.utf8ByteSize = p)
    : part.toList.isPrefixOf right.toList = true ↔ ∃ j, Slice text p j part := by
  rw [List.isPrefixOf_iff_prefix]
  constructor
  . intro h
    rcases h with ⟨r, hr⟩
    refine ⟨p + part.utf8ByteSize, left, String.ofList r, ?_, hp, rfl⟩
    apply String.toList_injective
    simp [htext, ← hr]
  . intro h
    rcases h with ⟨j, before, after, htext', hbefore, hsize⟩
    rw [htext, String.append_assoc] at htext'
    have hright := (append_inj_of_utf8ByteSize htext' (by omega)).2
    rw [hright, String.toList_append]
    exact List.prefix_append ..

/-- What is found is the first of the occurrences looked at that has the context. -/
theorem locateQuote_eq (text : String) (quote : TextQuoteSelector)
    : ∃ hasContext : Nat → Bool,
        locateQuote text quote
          = ((matchIndices text quote.exact).find? hasContext).map
              (fun start => (start, start + quote.exact.utf8ByteSize))
        ∧ ∀ p, Occurs text quote.exact p → (hasContext p = true ↔ Matches text quote p) := by
  refine ⟨_, rfl, ?_⟩
  intro p hoccurs
  rcases id hoccurs with ⟨left, right, htext, hleft, -⟩
  have hfrom : splitAtByte text.toList p = some (left.toList, (quote.exact ++ right).toList) := by
    rw [splitAtByte_eq_some, String.ofList_toList, ← String.toList_append, htext,
      String.append_assoc]
    exact ⟨rfl, hleft⟩
  have hupto : splitAtByte text.toList (p + quote.exact.utf8ByteSize)
      = some ((left ++ quote.exact).toList, right.toList) := by
    rw [splitAtByte_eq_some, String.ofList_toList, ← String.toList_append, htext,
      String.utf8ByteSize_append, hleft]
    exact ⟨rfl, rfl⟩
  have hbefore := @isSuffixOf_iff_slice text p left (quote.exact ++ right) (quote.before.getD "")
    (by rw [htext, String.append_assoc]) hleft
  have hafter := @isPrefixOf_iff_slice text (p + quote.exact.utf8ByteSize) (left ++ quote.exact) right
    (quote.after.getD "") htext (by rw [String.utf8ByteSize_append, hleft])
  simp only [hfrom, hupto, Bool.and_eq_true, hbefore, hafter]
  constructor
  . intro h
    exact ⟨hoccurs, h.1, h.2⟩
  . intro h
    exact ⟨h.before, h.after⟩

theorem locateQuote_eq_some (hexact : quote.exact ≠ "") {s e : Nat}
    : locateQuote text quote = some (s, e)
        ↔ e = s + quote.exact.utf8ByteSize ∧ s ∈ matchIndices text quote.exact
          ∧ Matches text quote s
          ∧ ∀ p ∈ matchIndices text quote.exact, Matches text quote p → s ≤ p := by
  have hyields := @yields_matchIndices text quote.exact hexact
  have hsorted := hyields.pairwise_lt (utf8ByteSize_pos hexact)
  rcases locateQuote_eq text quote with ⟨hasContext, heq, hcontext⟩
  have hiff : ∀ p ∈ matchIndices text quote.exact, hasContext p = true ↔ Matches text quote p :=
    fun p hp => hcontext p (hyields.occurs p hp)
  rw [heq]
  generalize matchIndices text quote.exact = places at hsorted hiff
  rw [Option.map_eq_some_iff]
  constructor
  . intro h
    rcases h with ⟨start, hfind, hrange⟩
    cases hrange
    have hmem := List.mem_of_find?_eq_some hfind
    refine ⟨rfl, hmem, (hiff _ hmem).mp (List.find?_some hfind), ?_⟩
    intro p hp hmatches
    rcases List.find?_eq_some_iff_append.mp hfind with ⟨-, before, behind, hplaces, hnone⟩
    rw [hplaces, List.pairwise_append, List.pairwise_cons] at hsorted
    rw [hplaces, List.mem_append, List.mem_cons] at hp
    rcases hp with hp | hp | hp
    . have hno := hnone p hp
      rw [(hiff p (by rw [hplaces]; exact List.mem_append_left _ hp)).mpr hmatches] at hno
      contradiction
    . omega
    . have := hsorted.2.1.1 p hp
      omega
  . intro h
    rcases h with ⟨hend, hs, hmatches, hleast⟩
    refine ⟨s, ?_, by rw [hend]⟩
    rcases List.append_of_mem hs with ⟨before, behind, hplaces⟩
    rw [List.find?_eq_some_iff_append]
    refine ⟨(hiff s hs).mpr hmatches, before, behind, hplaces, ?_⟩
    intro p hp
    have hpmem : p ∈ places := by
      rw [hplaces]
      exact List.mem_append_left _ hp
    rw [hplaces, List.pairwise_append] at hsorted
    have hlt := hsorted.2.2 p hp s (List.mem_cons_self ..)
    cases hhere : hasContext p with
    | false => rfl
    | true =>
      have := hleast p hpmem ((hiff p hpmem).mp hhere)
      omega

/-! ## Quotes without a context -/

/-- The quote occurs in the text from the offset `i` on, and nowhere before. -/
structure FirstOccurrence (text quote : String) (i : Nat) : Prop where
  slice : Slice text i (i + quote.utf8ByteSize) quote
  least : ∀ k l, Slice text k l quote → i ≤ k

theorem locateQuote_first {text quote : String} (hquote : quote ≠ "") (h : Slice text k l quote)
    : ∃ i, locateQuote text ⟨quote, none, none⟩ = some (i, i + quote.utf8ByteSize)
      ∧ FirstOccurrence text quote i := by
  have hoccurs : ∀ k l, Slice text k l quote → Occurs text quote k := by
    intro k l hslice
    have hsize := hslice.size
    unfold Occurs
    rwa [hsize]
  have hmatches : ∀ p, Occurs text quote p → Matches text ⟨quote, none, none⟩ p := by
    intro p hp
    refine ⟨hp, ⟨p, ?_⟩, ⟨p + quote.utf8ByteSize, ?_⟩⟩
    . rcases hp with ⟨left, right, htext, hleft, -⟩
      exact ⟨left, quote ++ right, by simp [htext, String.append_assoc], hleft, by simp⟩
    . rcases hp with ⟨left, right, htext, hleft, -⟩
      exact ⟨left ++ quote, right, by simp [htext], by rw [String.utf8ByteSize_append, hleft],
        by simp⟩
  rcases FirstFrom.exists_of_occurs ⟨k, hoccurs k l h⟩ with ⟨i, hfirst⟩
  have hyields := @yields_matchIndices text quote hquote
  refine ⟨i, ?_, hfirst.occurs, ?_⟩
  . apply (locateQuote_eq_some hquote).mpr
    refine ⟨rfl, hyields.mem_of_taken (Taken.first hfirst), hmatches i hfirst.occurs, ?_⟩
    intro p hp _
    exact hfirst.least p (hyields.occurs p hp) (Nat.zero_le p)
  . intro k l hslice
    exact hfirst.least k (hoccurs k l hslice) (Nat.zero_le k)

end Elf
