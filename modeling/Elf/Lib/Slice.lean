import Mathlib.Algebra.GroupWithZero.Nat
import Mathlib.Data.List.Infix
import Mathlib.Data.List.Sort
import Mathlib.Data.List.Pairwise

/-!
This module contains the slices of a text by byte offsets. An offset is a character boundary when a
part of the text ends there, and a slice lies between two boundaries. Edits replace parts of a text
that are given by their byte offsets. The edits of a list that are apart from one another split the
text into what they keep and what they cut.
-/

namespace Text

theorem utf8ByteSize_cons (c : Char) (l : List Char)
    : (String.ofList (c :: l)).utf8ByteSize = c.utf8Size + (String.ofList l).utf8ByteSize := by
  have hcons : String.ofList (c :: l) = String.singleton c ++ String.ofList l := by
    rw [String.singleton_eq_ofList, ← String.ofList_append]
    rfl
  rw [hcons, String.utf8ByteSize_append, String.utf8ByteSize_singleton]

theorem utf8ByteSize_pos {s : String} (h : s ≠ "") : 0 < s.utf8ByteSize := by
  apply Nat.pos_of_ne_zero
  rw [Ne, String.utf8ByteSize_eq_zero_iff]
  exact h

/-- The bytes of characters. -/
def byteSize (cs : List Char) : Nat := (cs.map Char.utf8Size).sum

theorem byteSize_append (cs ds : List Char) : byteSize (cs ++ ds) = byteSize cs + byteSize ds := by
  simp [byteSize]

theorem byteSize_cons (c : Char) (cs : List Char) : byteSize (c :: cs) = c.utf8Size + byteSize cs := by
  simp [byteSize]

theorem utf8ByteSize_ofList (cs : List Char) : (String.ofList cs).utf8ByteSize = byteSize cs := by
  induction cs with
  | nil => rfl
  | cons c cs ih => rw [utf8ByteSize_cons, byteSize_cons, ih]

/-- A text that ends at a boundary of another one is a part of it. -/
theorem prefix_of_le {a b c d : String} (h : a ++ b = c ++ d)
    (hle : a.utf8ByteSize ≤ c.utf8ByteSize) : ∃ m, c = a ++ m ∧ b = m ++ d := by
  have hlist := congrArg String.toList h
  simp only [String.toList_append] at hlist
  rcases List.append_eq_append_iff.mp hlist with ⟨m, hc, hb⟩ | ⟨m, ha, hd⟩
  . refine ⟨String.ofList m, ?_, ?_⟩
    . apply String.toList_injective
      simp [hc]
    . apply String.toList_injective
      simp [hb]
  . have hac : a = c ++ String.ofList m := by
      apply String.toList_injective
      simp [ha]
    have hm : String.ofList m = "" := by
      apply String.utf8ByteSize_eq_zero_iff.mp
      rw [hac, String.utf8ByteSize_append] at hle
      omega
    refine ⟨"", ?_, ?_⟩
    . rw [hac, hm]
      simp
    . have hm' : m = [] := by simpa using congrArg String.toList hm
      apply String.toList_injective
      simp [hd, hm']

theorem append_inj_of_utf8ByteSize {a b c d : String} (h : a ++ b = c ++ d)
    (hsize : a.utf8ByteSize = c.utf8ByteSize) : a = c ∧ b = d := by
  rcases prefix_of_le h (by omega) with ⟨m, hc, hb⟩
  have hm : m = "" := by
    apply String.utf8ByteSize_eq_zero_iff.mp
    rw [hc, String.utf8ByteSize_append] at hsize
    omega
  subst hm
  simp at hc hb
  exact ⟨hc.symm, hb⟩

/-- The offset is a character boundary of the text. -/
def IsBoundary (text : String) (n : Nat) : Prop :=
  ∃ left right, text = left ++ right ∧ left.utf8ByteSize = n

/-- `part` is the text from the offset `i` up to the offset `j`. -/
def Slice (text : String) (i j : Nat) (part : String) : Prop :=
  ∃ left right, text = left ++ part ++ right ∧ left.utf8ByteSize = i
    ∧ i + part.utf8ByteSize = j

theorem IsBoundary.le {text : String} (h : IsBoundary text n) : n ≤ text.utf8ByteSize := by
  rcases h with ⟨left, right, htext, hleft⟩
  rw [htext, String.utf8ByteSize_append]
  omega

theorem isBoundary_zero (text : String) : IsBoundary text 0 :=
  ⟨"", text, by simp, by simp⟩

theorem isBoundary_end (text : String) : IsBoundary text text.utf8ByteSize :=
  ⟨text, "", by simp, rfl⟩

namespace Slice

variable {text part part' : String}

theorem size (h : Slice text i j part) : i + part.utf8ByteSize = j := by
  rcases h with ⟨_, _, -, -, hsize⟩
  exact hsize

theorem le (h : Slice text i j part) : i ≤ j := by
  have := h.size
  omega

theorem isBoundary_left (h : Slice text i j part) : IsBoundary text i := by
  rcases h with ⟨left, right, htext, hleft, -⟩
  exact ⟨left, part ++ right, by rw [htext, String.append_assoc], hleft⟩

theorem isBoundary_right (h : Slice text i j part) : IsBoundary text j := by
  rcases h with ⟨left, right, htext, hleft, hsize⟩
  refine ⟨left ++ part, right, htext, ?_⟩
  rw [String.utf8ByteSize_append]
  omega

theorem unique (h : Slice text i j part) (h' : Slice text i j part') : part' = part := by
  rcases h with ⟨left, right, htext, hleft, hsize⟩
  rcases h' with ⟨left', right', htext', hleft', hsize'⟩
  rw [htext, String.append_assoc, String.append_assoc] at htext'
  have htail := (append_inj_of_utf8ByteSize htext' (by omega)).2
  exact (append_inj_of_utf8ByteSize htail (by omega)).1.symm

/-- Between two boundaries there is a slice. -/
theorem exists_of_isBoundary (hi : IsBoundary text i) (hj : IsBoundary text j) (hle : i ≤ j)
    : ∃ part, Slice text i j part := by
  rcases hi with ⟨left, right, htext, hleft⟩
  rcases hj with ⟨left', right', htext', hleft'⟩
  rcases prefix_of_le (htext.symm.trans htext') (by omega) with ⟨part, hpart, -⟩
  refine ⟨part, left, right', by rw [htext', hpart], hleft, ?_⟩
  rw [hpart, String.utf8ByteSize_append] at hleft'
  omega

theorem append (h : Slice text i j part) (h' : Slice text j k part')
    : Slice text i k (part ++ part') := by
  rcases h with ⟨left, right, htext, hleft, hsize⟩
  rcases h' with ⟨left', right', htext', hleft', hsize'⟩
  have heq : left ++ part ++ right = left' ++ (part' ++ right') := by
    rw [← String.append_assoc, ← htext, htext']
  have hright := (append_inj_of_utf8ByteSize heq (by rw [String.utf8ByteSize_append]; omega)).2
  refine ⟨left, right', ?_, hleft, ?_⟩
  . rw [htext, hright]
    simp only [String.append_assoc]
  . rw [String.utf8ByteSize_append]
    omega

/-- A slice of a slice. -/
theorem trans (h : Slice text i j part) (h' : Slice part k l part')
    : Slice text (i + k) (i + l) part' := by
  rcases h with ⟨left, right, htext, hleft, hsize⟩
  rcases h' with ⟨left', right', htext', hleft', hsize'⟩
  refine ⟨left ++ left', right' ++ right, ?_, ?_, by omega⟩
  . rw [htext, htext']
    simp only [String.append_assoc]
  . rw [String.utf8ByteSize_append]
    omega

/-- A slice that lies inside another one. -/
theorem inside (h : Slice text i j part) (h' : Slice text k l part') (hik : i ≤ k) (hlj : l ≤ j)
    : Slice part (k - i) (l - i) part' := by
  have hkl := h'.le
  rcases exists_of_isBoundary h.isBoundary_left h'.isBoundary_left hik with ⟨before, hbefore⟩
  rcases exists_of_isBoundary h'.isBoundary_right h.isBoundary_right hlj with ⟨after, hafter⟩
  have hpart := h.unique ((hbefore.append h').append hafter)
  have hsize := hbefore.size
  have hsize' := h'.size
  exact ⟨before, after, hpart.symm, by omega, by omega⟩

theorem whole (text : String) : Slice text 0 text.utf8ByteSize text :=
  ⟨"", "", by simp, by simp, by simp⟩

end Slice

/-- `text.contains(part)` -/
def contains (text part : String) : Bool := decide (part.toList <:+: text.toList)

theorem contains_iff {text part : String}
    : contains text part = true ↔ ∃ i j, Slice text i j part := by
  unfold contains
  rw [decide_eq_true_eq]
  constructor
  . intro h
    rcases h with ⟨left, right, htext⟩
    refine ⟨_, _, String.ofList left, String.ofList right, ?_, rfl, rfl⟩
    apply String.toList_injective
    simp [← htext]
  . intro h
    rcases h with ⟨i, j, left, right, htext, -, -⟩
    refine ⟨left.toList, right.toList, ?_⟩
    rw [htext, String.toList_append, String.toList_append]

/-! ## Edits -/

/-- The part of a text between two byte offsets, and what is put in its place. -/
structure Edit where
  start : Nat
  stop : Nat
  replacement : String
deriving DecidableEq

namespace Edit

def Fits (text : String) (e : Edit) : Prop :=
  e.start ≤ e.stop ∧ IsBoundary text e.start ∧ IsBoundary text e.stop

/-- One edit ends before the other one starts. They may touch. -/
def Apart (a b : Edit) : Prop := a.stop ≤ b.start ∨ b.stop ≤ a.start

/-- An edit stands before another one that starts later or is longer. -/
def Before (a b : Edit) : Prop := a.start < b.start ∨ (a.start = b.start ∧ a.stop ≤ b.stop)

instance : Std.Symm Apart where
  symm _ _ h := Or.symm h

theorem Fits.of_append {before text : String} {e : Edit} (h : e.Fits (before ++ text))
    (hle : before.utf8ByteSize ≤ e.start)
    : ∃ kept cut rest, text = kept ++ cut ++ rest ∧ before.utf8ByteSize + kept.utf8ByteSize = e.start
      ∧ e.start + cut.utf8ByteSize = e.stop := by
  have ⟨hstartstop, hstart, hstop⟩ := h
  have ⟨cut, hcut⟩ := Slice.exists_of_isBoundary hstart hstop hstartstop
  have ⟨left, right, htext, hleft, hsize⟩ := hcut
  rw [String.append_assoc] at htext
  have ⟨kept, hkept, hrest⟩ := prefix_of_le htext (by omega)
  refine ⟨kept, cut, right, ?_, ?_, hsize⟩
  . rw [hrest, String.append_assoc]
  . rw [← hleft, hkept, String.utf8ByteSize_append]

end Edit

/-- The edits stand one behind another, from the offset on. -/
def Ordered : Nat → List Edit → Prop
  | _, [] => True
  | offset, e :: edits => offset ≤ e.start ∧ Ordered e.stop edits

/--
The text, which starts at the offset, is the kept parts and the cut ones by turns, and the result is the
kept parts and the replacements by turns.
-/
def Spliced : Nat → String → List Edit → String → Prop
  | _, text, [], result => result = text
  | offset, text, e :: edits, result => ∃ kept cut rest result',
    text = kept ++ cut ++ rest ∧ offset + kept.utf8ByteSize = e.start
      ∧ e.start + cut.utf8ByteSize = e.stop ∧ Spliced e.stop rest edits result'
      ∧ result = kept ++ e.replacement ++ result'

variable {edits edits' : List Edit} {text result result' : String}

theorem Ordered.pairwise {offset : Nat} (h : Ordered offset edits)
    (hle : ∀ e ∈ edits, e.start ≤ e.stop)
    : (∀ e ∈ edits, offset ≤ e.start) ∧ edits.Pairwise fun a b => a.stop ≤ b.start := by
  induction edits generalizing offset with
  | nil => simp
  | cons e edits ih =>
    have ⟨hoffset, h⟩ := h
    have hstop := hle e List.mem_cons_self
    have ⟨hstarts, hpairwise⟩ := ih h fun e' he' => hle e' (List.mem_cons_of_mem e he')
    constructor
    . intro e' he'
      cases he' with
      | head => exact hoffset
      | tail _ he' =>
        have := hstarts e' he'
        omega
    . exact List.pairwise_cons.mpr ⟨hstarts, hpairwise⟩

theorem ordered_of_pairwise {offset : Nat} (hoffset : ∀ e ∈ edits, offset ≤ e.start)
    (h : edits.Pairwise fun a b => a.stop ≤ b.start) : Ordered offset edits := by
  induction edits generalizing offset with
  | nil => trivial
  | cons e edits ih =>
    rw [List.pairwise_cons] at h
    constructor
    . exact hoffset e List.mem_cons_self
    . apply ih h.1 h.2

/-- Sorted edits stand one behind another exactly when any two of them are apart. -/
theorem ordered_iff_apart (hle : ∀ e ∈ edits, e.start ≤ e.stop) (hsorted : edits.Pairwise Edit.Before)
    : Ordered 0 edits ↔ edits.Pairwise Edit.Apart := by
  constructor
  . intro h
    apply (h.pairwise hle).2.imp
    intro a b hab
    exact Or.inl hab
  . intro h
    apply ordered_of_pairwise
    . intro e _
      apply Nat.zero_le
    . apply (hsorted.and h).imp_of_mem
      intro a b _ hb ⟨hbefore, hapart⟩
      have hstop := hle b hb
      -- An edit behind `a` that ends where `a` starts is empty, and so is `a`.
      unfold Edit.Before at hbefore
      unfold Edit.Apart at hapart
      omega

theorem exists_spliced {before : String} (hfits : ∀ e ∈ edits, e.Fits (before ++ text))
    (hordered : Ordered before.utf8ByteSize edits)
    : ∃ result, Spliced before.utf8ByteSize text edits result := by
  induction edits generalizing before text with
  | nil => exact ⟨text, rfl⟩
  | cons e edits ih =>
    have ⟨hoffset, hordered⟩ := hordered
    have ⟨kept, cut, rest, htext, hstart, hstop⟩ := (hfits e List.mem_cons_self).of_append hoffset
    have hsize : (before ++ kept ++ cut).utf8ByteSize = e.stop := by
      simp only [String.utf8ByteSize_append]
      omega
    rw [← hsize] at hordered
    have ⟨result, hresult⟩ := @ih rest (before ++ kept ++ cut) (by
      intro e' he'
      have hfits' := hfits e' (List.mem_cons_of_mem e he')
      rw [htext] at hfits'
      simpa only [String.append_assoc] using hfits') hordered
    rw [hsize] at hresult
    exact ⟨_, kept, cut, rest, result, htext, hstart, hstop, hresult, rfl⟩

/-- There is one way to splice a text. -/
theorem Spliced.unique {offset : Nat} (h : Spliced offset text edits result)
    (h' : Spliced offset text edits result') : result = result' := by
  induction edits generalizing offset text result result' with
  | nil => exact h.trans (Eq.symm h')
  | cons e edits ih =>
    have ⟨kept, cut, rest, spliced, htext, hstart, hstop, hrest, hresult⟩ := h
    have ⟨kept', cut', rest', spliced', htext', hstart', hstop', hrest', hresult'⟩ := h'
    rw [htext, String.append_assoc, String.append_assoc] at htext'
    have ⟨hkept, hbehind⟩ := append_inj_of_utf8ByteSize htext' (by omega)
    have ⟨_, hrests⟩ := append_inj_of_utf8ByteSize hbehind (by omega)
    subst hrests
    rw [hresult, hresult', hkept, ih hrest hrest']

/-- Edits that cut something and are apart can be sorted in one way. -/
theorem eq_of_perm_of_apart (hperm : edits.Perm edits') (hsorted : edits.Pairwise Edit.Before)
    (hsorted' : edits'.Pairwise Edit.Before) (hapart : edits.Pairwise Edit.Apart)
    (hnonempty : ∀ e ∈ edits, e.start < e.stop) : edits = edits' := by
  apply List.Perm.eq_of_pairwise _ hsorted hsorted' hperm
  intro a b ha hb hab hba
  have hb := hperm.mem_iff.mpr hb
  by_contra hne
  have hapart := hapart.forall ha hb hne
  have hcut := hnonempty a ha
  unfold Edit.Before at hab hba
  unfold Edit.Apart at hapart
  omega

end Text
