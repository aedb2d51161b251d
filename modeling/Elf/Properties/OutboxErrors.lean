import Elf.Lib.Text
import Elf.Worker.Helpers

/-!
This module contains which values are hidden by the sanitizer of error texts. It looks at the words
of a text one by one, so that a value is found when it stands in the word of its key behind the first
separator, and not when it is a word of its own.
-/

namespace Elf

open Text

variable {text : String} {value word : List Char} {words before after : List (List Char)}

/-! ## Values -/

/-- The value follows a key and a separator in the text, with or without white space between them, and
goes on up to white space or the end of the text. -/
structure FollowsKey (text value : List Char) : Prop where
  follows : ∃ before key gap sep behind after,
    text = before ++ key ++ gap ++ sep :: behind ++ value ++ after
      ∧ key.map Char.toLower ∈ sensitiveKeys.map String.toList
      ∧ (∀ c ∈ gap ++ behind, isWhitespace c = true)
      ∧ (sep = '=' ∨ sep = ':')
      ∧ ∀ c, after.head? = some c → isWhitespace c = true
  nonempty : value ≠ []
  solid : ∀ c ∈ value, isWhitespace c = false

/-- The words as they are written out, and as much of them as there may be. -/
def joinedWords (text : String) : List Char :=
  [' '].intercalate (sanitizeWords false (splitWhitespace text))

structure Conceals (text : String) (value : List Char) (output : String) : Prop where
  hidden : ¬ value <:+: output.toList
  length : output.length ≤ maxOutboxErrorChars
  whole : ∃ kept, kept <+: joinedWords text
    ∧ (output.toList = kept ∨ output.toList = kept ++ truncationMarker)

/-! ## Words -/

/-- The words, each with whether it stands behind `bearer`. -/
def behindBearer (redactNext : Bool) : List (List Char) → List (Bool × List Char)
  | [] => []
  | raw :: rest => (redactNext, raw) :: behindBearer (isBearer raw) rest

/-- The separator up to which a word is kept: the first `=`, or the first `:` of a word without `=`. -/
structure KeptUpTo (word kept : List Char) (sep : Char) : Prop where
  first : sep ∉ kept
  splits : ∃ rest, word = kept ++ sep :: rest
  sep : sep = '=' ∨ sep = ':' ∧ '=' ∉ word

/-- The value can be seen in what is left of the word. -/
inductive WordShows (value : List Char) : Bool → List Char → Prop where
  | plain {word : List Char} : isSensitive word = false → value <:+: word → WordShows value false word
  | redacted {word : List Char} : isSensitive word = false → value <:+: redactedText →
    WordShows value true word
  | kept {redactNext : Bool} {word kept : List Char} {sep : Char} : isSensitive word = true →
    KeptUpTo word kept sep → value <:+: kept ++ sep :: redactedText → WordShows value redactNext word

/-- How much of a word is left, with the blank behind it. -/
def charsLeft (redactNext : Bool) (word : List Char) : Nat :=
  if isSensitive word then
    word.idxOf (if word.contains '=' then '=' else ':') + 12
  else if redactNext then
    11
  else
    word.length + 1

/-- The value can be seen in no word, and what is left of the words is not too long. -/
structure Concealable (text : String) (value : List Char) : Prop where
  words : ∀ entry ∈ behindBearer false (splitWhitespace text), ¬ WordShows value entry.1 entry.2
  length : ((behindBearer false (splitWhitespace text)).map fun entry =>
    charsLeft entry.1 entry.2).sum ≤ maxOutboxErrorChars + 1

theorem sanitizeWords_eq (redactNext : Bool) (words : List (List Char))
    : sanitizeWords redactNext words
        = (behindBearer redactNext words).map fun entry => sanitizeWord entry.1 entry.2 := by
  induction words generalizing redactNext with
  | nil => rfl
  | cons raw rest ih =>
    unfold sanitizeWords behindBearer
    rw [ih, List.map_cons]

theorem toLower_eq {c d : Char} (hd : d = '=' ∨ d = ':') (h : c.toLower = d) : c = d := by
  by_cases hupper : c.val ≥ 'A'.val ∧ c.val ≤ 'Z'.val
  . have hval : d.val = c.val + 32 := by
      rw [← h]
      exact congrArg Char.val (dif_pos hupper)
    have hge : 65 ≤ c.val.toNat := UInt32.le_iff_toNat_le.mp hupper.1
    have hle : c.val.toNat ≤ 90 := UInt32.le_iff_toNat_le.mp hupper.2
    have hadd : d.val.toNat = (c.val.toNat + 32) % 4294967296 := by
      rw [hval]
      exact UInt32.toNat_add ..
    have hlt : d.val.toNat ≤ 61 := by
      rcases hd with rfl | rfl
      . decide
      . decide
    omega
  . have hsame : c.toLower = c := dif_neg hupper
    rw [← hsame, h]

theorem mem_of_contains_lowered {d : Char} (hd : d = '=' ∨ d = ':')
    (h : (word.map Char.toLower).contains d = true) : d ∈ word := by
  rw [List.contains_iff_mem, List.mem_map] at h
  rcases h with ⟨c, hc, heq⟩
  rw [← toLower_eq hd heq]
  exact hc

theorem keptUpTo_takeWhile {sep : Char} (hmem : sep ∈ word) (hsep : sep = '=' ∨ sep = ':' ∧ '=' ∉ word)
    : KeptUpTo word (word.takeWhile fun c => c != sep) sep where
  first := by
    intro h
    have hne := List.mem_takeWhile_imp h
    simp at hne
  splits := by
    have hsplit := List.takeWhile_append_dropWhile (p := fun c => c != sep) (l := word)
    cases hdrop : word.dropWhile fun c => c != sep with
    | nil =>
      rw [List.dropWhile_eq_nil_iff] at hdrop
      have hne := hdrop sep hmem
      simp at hne
    | cons c rest =>
      have hhead := List.head_dropWhile_not (p := fun c => c != sep) (l := word) (by rw [hdrop]; simp)
      simp only [hdrop, List.head_cons] at hhead
      have hc : c = sep := by simpa using hhead
      rw [hdrop, hc] at hsplit
      exact ⟨rest, hsplit.symm⟩
  sep := hsep

namespace KeptUpTo

variable {kept : List Char} {sep : Char}

theorem mem (h : KeptUpTo word kept sep) : sep ∈ word := by
  rcases h.splits with ⟨rest, hword⟩
  rw [hword]
  simp

theorem sep_eq (h : KeptUpTo word kept sep) : (if word.contains '=' then '=' else ':') = sep := by
  rcases h.sep with hsep | ⟨hsep, hnot⟩
  . have hmem := h.mem
    rw [hsep] at hmem ⊢
    rw [if_pos (List.contains_iff_mem.mpr hmem)]
  . rw [hsep, if_neg (by rw [List.contains_iff_mem]; exact hnot)]

theorem takeWhile_eq (h : KeptUpTo word kept sep) : word.takeWhile (fun c => c != sep) = kept := by
  rcases h.splits with ⟨rest, hword⟩
  rw [hword, List.takeWhile_append_of_pos, List.takeWhile_cons_of_neg, List.append_nil]
  . simp
  . intro c hc
    have hne : c ≠ sep := fun heq => h.first (heq ▸ hc)
    simpa using hne

theorem idxOf_eq (h : KeptUpTo word kept sep) : word.idxOf sep = kept.length := by
  rcases h.splits with ⟨rest, hword⟩
  rw [hword, List.idxOf_append_of_notMem h.first]
  simp

theorem sanitizeWord_eq (h : KeptUpTo word kept sep) (hsensitive : isSensitive word = true)
    (redactNext : Bool) : sanitizeWord redactNext word = kept ++ sep :: redactedText := by
  unfold sanitizeWord
  rw [if_pos hsensitive, h.sep_eq]
  dsimp only
  rw [h.takeWhile_eq]

end KeptUpTo

theorem exists_keptUpTo (h : isSensitive word = true) : ∃ kept sep, KeptUpTo word kept sep := by
  unfold isSensitive at h
  rw [Bool.and_eq_true, Bool.or_eq_true] at h
  by_cases heq : '=' ∈ word
  . exact ⟨_, _, keptUpTo_takeWhile heq (Or.inl rfl)⟩
  . cases h.2 with
    | inl h => exact absurd (mem_of_contains_lowered (Or.inl rfl) h) heq
    | inr h =>
      exact ⟨_, _, keptUpTo_takeWhile (mem_of_contains_lowered (Or.inr rfl) h) (Or.inr ⟨rfl, heq⟩)⟩

theorem sanitizeWord_of_not_sensitive {redactNext : Bool} (h : isSensitive word = false)
    : sanitizeWord redactNext word = if redactNext then redactedText else word := by
  rw [sanitizeWord, if_neg (by simp [h])]

theorem infix_sanitizeWord_iff (redactNext : Bool)
    : value <:+: sanitizeWord redactNext word ↔ WordShows value redactNext word := by
  constructor
  . intro h
    cases hsensitive : isSensitive word with
    | true =>
      rcases exists_keptUpTo hsensitive with ⟨kept, sep, hkept⟩
      rw [hkept.sanitizeWord_eq hsensitive] at h
      exact .kept hsensitive hkept h
    | false =>
      rw [sanitizeWord_of_not_sensitive hsensitive] at h
      cases redactNext with
      | true => exact .redacted hsensitive h
      | false => exact .plain hsensitive h
  . intro h
    cases h with
    | plain hsensitive h =>
      rw [sanitizeWord_of_not_sensitive hsensitive]
      exact h
    | redacted hsensitive h =>
      rw [sanitizeWord_of_not_sensitive hsensitive]
      exact h
    | kept hsensitive hkept h =>
      rw [hkept.sanitizeWord_eq hsensitive]
      exact h

theorem charsLeft_eq (redactNext : Bool) (word : List Char)
    : charsLeft redactNext word = (sanitizeWord redactNext word).length + 1 := by
  cases hsensitive : isSensitive word with
  | true =>
    rcases exists_keptUpTo hsensitive with ⟨kept, sep, hkept⟩
    rw [hkept.sanitizeWord_eq hsensitive, charsLeft, if_pos hsensitive, hkept.sep_eq,
      hkept.idxOf_eq, List.length_append, List.length_cons]
    rfl
  | false =>
    rw [charsLeft, sanitizeWord_of_not_sensitive hsensitive, if_neg (by simp [hsensitive])]
    cases redactNext with
    | true => rfl
    | false => rfl

/-! ## Texts -/

theorem length_joinedWords_le_iff (text : String) (max : Nat)
    : (joinedWords text).length ≤ max
      ↔ ((behindBearer false (splitWhitespace text)).map fun entry =>
          charsLeft entry.1 entry.2).sum ≤ max + 1 := by
  have hmap : ((behindBearer false (splitWhitespace text)).map fun entry => charsLeft entry.1 entry.2)
      = (sanitizeWords false (splitWhitespace text)).map fun word => word.length + 1 := by
    rw [sanitizeWords_eq, List.map_map]
    apply List.map_congr_left
    intro entry _
    exact charsLeft_eq entry.1 entry.2
  rw [hmap, joinedWords]
  cases sanitizeWords false (splitWhitespace text) with
  | nil => simp
  | cons word words =>
    rw [← Words.length_intercalate (c := ' ')]
    omega

theorem sanitizeOutboxError_eq (text : String)
    : sanitizeOutboxError text
        = if maxOutboxErrorChars < (joinedWords text).length then
            String.ofList ((joinedWords text).take maxOutboxErrorChars ++ truncationMarker)
          else
            String.ofList (joinedWords text) := by
  unfold sanitizeOutboxError joinedWords
  dsimp only

theorem length_sanitizeOutboxError_le_iff (text : String)
    : (sanitizeOutboxError text).length ≤ maxOutboxErrorChars
      ↔ (joinedWords text).length ≤ maxOutboxErrorChars := by
  rw [sanitizeOutboxError_eq]
  split
  next hlt =>
    have hlength : ((joinedWords text).take maxOutboxErrorChars ++ truncationMarker).length
        = maxOutboxErrorChars + 3 := by
      rw [List.length_append, List.length_take, Nat.min_eq_left (by omega)]
      rfl
    rw [String.length_ofList, hlength]
    omega
  . rw [String.length_ofList]

theorem sanitizeOutboxError_whole (text : String)
    : ∃ kept, kept <+: joinedWords text
      ∧ ((sanitizeOutboxError text).toList = kept
        ∨ (sanitizeOutboxError text).toList = kept ++ truncationMarker) := by
  rw [sanitizeOutboxError_eq]
  split
  . exact ⟨(joinedWords text).take maxOutboxErrorChars, List.take_prefix ..,
      Or.inr (String.toList_ofList ..)⟩
  . exact ⟨joinedWords text, List.prefix_rfl, Or.inl (String.toList_ofList ..)⟩

theorem toList_sanitizeOutboxError (h : (joinedWords text).length ≤ maxOutboxErrorChars)
    : (sanitizeOutboxError text).toList = joinedWords text := by
  rw [sanitizeOutboxError_eq, if_neg (Nat.not_lt.mpr h), String.toList_ofList]

theorem infix_joinedWords_iff (hne : value ≠ []) (hsolid : ' ' ∉ value)
    : value <:+: joinedWords text
      ↔ ∃ entry ∈ behindBearer false (splitWhitespace text), WordShows value entry.1 entry.2 := by
  rw [joinedWords, Words.infix_intercalate_iff hsolid hne, sanitizeWords_eq]
  simp only [List.mem_map, exists_exists_and_eq_and, infix_sanitizeWord_iff]

/-! ## Values that are shown -/

theorem mem_behindBearer (redactNext : Bool) (key : List Char)
    : (isBearer key, value) ∈ behindBearer redactNext (before ++ key :: value :: after) := by
  induction before generalizing redactNext with
  | nil =>
    unfold behindBearer
    unfold behindBearer
    simp
  | cons word before ih =>
    rw [List.cons_append]
    unfold behindBearer
    exact List.mem_cons_of_mem _ (ih _)

theorem isBearer_append_separator {sep : Char} (hsep : sep = '=' ∨ sep = ':') (key : List Char)
    : isBearer (key ++ [sep]) = false := by
  unfold isBearer
  rw [beq_eq_false_iff_ne]
  intro heq
  have hlast : ((key ++ [sep]).map Char.toLower).getLast? = some 'r' := by
    rw [heq]
    rfl
  rw [List.map_append, List.map_cons, List.map_nil, List.getLast?_append, List.getLast?_singleton,
    Option.some_or, Option.some.injEq] at hlast
  rcases hsep with rfl | rfl
  . exact absurd hlast (by decide)
  . exact absurd hlast (by decide)

/-- A value in the word behind its separator is shown, unless that word has a key and a separator. -/
theorem not_concealable_apart {key : List Char} {sep : Char} (hsep : sep = '=' ∨ sep = ':')
    (h : splitWhitespace text = before ++ (key ++ [sep]) :: value :: after)
    (hvalue : isSensitive value = false) : ¬ Concealable text value := by
  intro hconcealable
  have hmem := @mem_behindBearer value before after false (key ++ [sep])
  rw [isBearer_append_separator hsep, ← h] at hmem
  exact hconcealable.words _ hmem (.plain hvalue List.infix_rfl)

/-- A value behind a `:` that ends in its first `=` is shown. -/
theorem shows_padded {redactNext : Bool} {kept : List Char} (hkept : '=' ∉ kept) (hvalue : '=' ∉ value)
    (hsensitive : isSensitive (kept ++ ':' :: value ++ ['=']) = true)
    : WordShows (value ++ ['=']) redactNext (kept ++ ':' :: value ++ ['=']) := by
  refine .kept hsensitive ⟨?_, ⟨[], rfl⟩, Or.inl rfl⟩ ?_
  . simp [hkept, hvalue]
  . exact ⟨kept ++ [':'], redactedText, by simp⟩

/-! ## Error texts -/

theorem solid_of_all (h : (value.all fun c => !isWhitespace c) = true)
    : ∀ c ∈ value, isWhitespace c = false := by
  intro c hc
  simpa using List.all_eq_true.mp h c hc

theorem followsKey_token : FollowsKey "token=hunter2".toList "hunter2".toList where
  follows := ⟨[], "token".toList, [], '=', [], [], by decide, by decide, by simp, Or.inl rfl, by simp⟩
  nonempty := by decide
  solid := solid_of_all (by decide)

def paddedText (n : Nat) : String := String.ofList ("token=hunter2".toList ++ ' ' :: List.replicate n 'a')

theorem not_isSensitive_replicate (n : Nat) : isSensitive (List.replicate n 'a') = false := by
  have hlower : Char.toLower 'a' = 'a' := rfl
  unfold isSensitive
  rw [Bool.and_eq_false_iff, Bool.or_eq_false_iff, List.map_replicate, hlower, List.contains_replicate,
    List.contains_replicate]
  exact Or.inr ⟨by simp, by simp⟩

theorem splitWhitespace_paddedText {n : Nat} (hn : n ≠ 0)
    : splitWhitespace (paddedText n) = ["token=hunter2".toList, List.replicate n 'a'] := by
  have hword : ∀ c ∈ List.replicate n 'a', isWhitespace c = false := by
    intro c hc
    rw [List.eq_of_mem_replicate hc]
    rfl
  have htoken : splitWhitespace (String.ofList "token=hunter2".toList) = ["token=hunter2".toList] :=
    splitWhitespace_word (by decide) (solid_of_all (by decide))
  have hlong : splitWhitespace (String.ofList (List.replicate n 'a')) = [List.replicate n 'a'] :=
    splitWhitespace_word (by simp [hn]) hword
  have hsplit : splitWhitespace (paddedText n) = splitWhitespace (String.ofList "token=hunter2".toList)
      ++ splitWhitespace (String.ofList (List.replicate n 'a')) :=
    splitWhitespace_append_cons rfl
  rw [hsplit, htoken, hlong, List.singleton_append]

theorem toList_paddedText (n : Nat)
    : (paddedText n).toList
        = [] ++ "token".toList ++ [] ++ '=' :: [] ++ "hunter2".toList ++ ' ' :: List.replicate n 'a' := by
  unfold paddedText
  rw [String.toList_ofList]
  exact congrArg (· ++ ' ' :: List.replicate n 'a') (by decide)

theorem followsKey_paddedText (n : Nat) : FollowsKey (paddedText n).toList "hunter2".toList where
  follows := by
    refine ⟨[], "token".toList, [], '=', [], ' ' :: List.replicate n 'a', toList_paddedText n, ?_, ?_,
      Or.inl rfl, ?_⟩
    . decide
    . simp
    . intro c hc
      cases hc
      rfl
  nonempty := by decide
  solid := solid_of_all (by decide)

theorem length_sanitizeOutboxError_paddedText {n : Nat} (hn : maxOutboxErrorChars ≤ n)
    : ¬ (sanitizeOutboxError (paddedText n)).length ≤ maxOutboxErrorChars := by
  have hpos : n ≠ 0 := by
    intro hzero
    rw [hzero] at hn
    exact absurd hn (by decide)
  have hlong : charsLeft false (List.replicate n 'a') = n + 1 := by
    rw [charsLeft, not_isSensitive_replicate, List.length_replicate]
    rfl
  have htoken : charsLeft false "token=hunter2".toList = 17 := by
    decide +kernel
  have hwords : behindBearer false (splitWhitespace (paddedText n))
      = [(false, "token=hunter2".toList), (false, List.replicate n 'a')] := by
    rw [splitWhitespace_paddedText hpos]
    rfl
  rw [length_sanitizeOutboxError_le_iff, length_joinedWords_le_iff, hwords, List.map_cons,
    List.map_cons, List.map_nil, hlong, htoken, List.sum_cons, List.sum_cons, List.sum_nil]
  omega

end Elf
