import Mathlib.Data.List.DropRight
import Mathlib.Algebra.GroupWithZero.Nat
import Mathlib.Data.List.Infix

/-!
This module contains white space trimming. A character is white space when it has the Unicode
property `White_Space`, which is a larger set than the ASCII white space. It also contains words, the
runs between the characters that separate them, and texts in which words stand with one separator
between any two.
-/

namespace Text

/-- The Unicode property `White_Space`. -/
def isWhitespace (c : Char) : Bool :=
  let n := c.toNat
  (9 ≤ n && n ≤ 13) || n == 0x20 || n == 0x85 || n == 0xA0 || n == 0x1680
    || (0x2000 ≤ n && n ≤ 0x200A) || n == 0x2028 || n == 0x2029 || n == 0x202F || n == 0x205F
    || n == 0x3000

/-- A string without its leading and trailing white space. -/
def trim (s : String) : String :=
  String.ofList ((s.toList.dropWhile isWhitespace).rdropWhile isWhitespace)

/-- A string that is empty once it is trimmed. -/
def isBlank (s : String) : Bool :=
  trim s == ""

/-- The maximal runs of characters that are not white space. -/
def splitWhitespace (s : String) : List (List Char) :=
  (s.toList.splitOnP isWhitespace).filter fun word => !word.isEmpty

/-- The words of a string, one blank between any two. -/
def collapseWhitespace (s : String) : String :=
  String.ofList ([' '].intercalate (splitWhitespace s))

theorem dropWhile_rdropWhile_dropWhile (p : α → Bool) (l : List α)
    : ((l.dropWhile p).rdropWhile p).dropWhile p = (l.dropWhile p).rdropWhile p := by
  rw [List.dropWhile_eq_self_iff]
  intro hlen
  have hprefix := List.rdropWhile_prefix (p := p) (l := l.dropWhile p)
  have hne : 0 < (l.dropWhile p).length := by
    have := hprefix.length_le
    omega
  have hhead := (List.dropWhile_eq_self_iff (p := p)).mp (List.dropWhile_idempotent p l) hne
  have hget := hprefix.getElem hlen
  simp only [hget]
  exact hhead

@[simp]
theorem trim_trim (s : String) : trim (trim s) = trim s := by
  simp only [trim, String.toList_ofList]
  rw [dropWhile_rdropWhile_dropWhile, List.rdropWhile_idempotent]

/-! ## Codes -/

/-- A number for each text: its characters are the digits. -/
def codeNumber : List Char → Nat
  | [] => 0
  | c :: cs => c.toNat + 1 + 1114112 * codeNumber cs

theorem toNat_lt (c : Char) : c.toNat < 1114112 := by
  have hvalid := c.valid
  unfold UInt32.isValidChar Nat.isValidChar at hvalid
  unfold Char.toNat
  omega

theorem codeNumber_inj (h : codeNumber cs = codeNumber ds) : cs = ds := by
  induction cs generalizing ds with
  | nil =>
    cases ds with
    | nil => rfl
    | cons d ds =>
      simp only [codeNumber] at h
      omega
  | cons c cs ih =>
    cases ds with
    | nil =>
      simp only [codeNumber] at h
      omega
    | cons d ds =>
      simp only [codeNumber] at h
      have hc := toNat_lt c
      have hd := toNat_lt d
      have htail : codeNumber cs = codeNumber ds := by omega
      rw [ih htail, Char.toNat_inj.mp (by omega : c.toNat = d.toNat)]

end Text

/-! ## Words -/

namespace Words

variable {α : Type} {c : α} {part a b : List α} {words : List (List α)}

theorem infix_append_cons_iff (hc : c ∉ part)
    : part <:+: a ++ c :: b ↔ part <:+: a ∨ part <:+: b := by
  constructor
  . intro h
    rw [List.infix_append_iff, List.infix_cons_iff] at h
    rcases h with h | (h | h) | ⟨l₁, l₂, heq, h₁, h₂⟩
    . exact Or.inl h
    . cases part with
      | nil => exact Or.inl (List.nil_infix)
      | cons d part =>
        rw [List.cons_prefix_cons] at h
        rw [h.1] at hc
        simp at hc
    . exact Or.inr h
    . cases l₂ with
      | nil =>
        rw [heq, List.append_nil]
        exact Or.inl h₁.isInfix
      | cons d l₂ =>
        rw [List.cons_prefix_cons] at h₂
        rw [heq, h₂.1] at hc
        simp at hc
  . intro h
    cases h with
    | inl h => exact List.infix_append_of_infix_left h
    | inr h => exact List.infix_append_of_infix_right (List.infix_cons h)

/-- What has no separator in it lies within one of the words. -/
theorem infix_intercalate_iff (hc : c ∉ part) (hne : part ≠ [])
    : part <:+: [c].intercalate words ↔ ∃ word ∈ words, part <:+: word := by
  induction words with
  | nil => simp [hne]
  | cons word words ih =>
    cases words with
    | nil => simp
    | cons next words =>
      rw [List.intercalate_cons_cons, List.append_assoc, List.singleton_append,
        infix_append_cons_iff hc, ih]
      simp only [List.mem_cons, exists_eq_or_imp]

theorem length_intercalate (word : List α) (words : List (List α))
    : ([c].intercalate (word :: words)).length + 1
        = ((word :: words).map fun word => word.length + 1).sum := by
  induction words generalizing word with
  | nil => simp
  | cons next words ih =>
    rw [List.intercalate_cons_cons, List.map_cons, List.sum_cons, ← ih next]
    simp only [List.length_append, List.length_singleton]
    omega

end Words

namespace Text

variable {c : Char} {text before word after : List Char}

theorem splitWhitespace_append_cons (hc : isWhitespace c)
    : splitWhitespace (String.ofList (before ++ c :: after))
        = splitWhitespace (String.ofList before) ++ splitWhitespace (String.ofList after) := by
  unfold splitWhitespace
  simp only [String.toList_ofList]
  rw [List.splitOnP_append_cons _ _ hc, List.filter_append]

theorem splitWhitespace_word (hne : word ≠ []) (hword : ∀ c ∈ word, isWhitespace c = false)
    : splitWhitespace (String.ofList word) = [word] := by
  unfold splitWhitespace
  rw [String.toList_ofList, List.splitOnP_eq_singleton hword]
  simp [hne]

end Text
