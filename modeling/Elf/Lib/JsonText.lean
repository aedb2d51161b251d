import Elf.Lib.Json
import Mathlib.Data.Rat.Lemmas

/-!
This module contains the compact text of JSON values with every character escaped that has to be.
Two values have the same text only when they are the same value, also where texts follow: a separator
inside a string is no separator.
-/

namespace Json

def hexChar (n : Nat) : Char := "0123456789abcdef".toList.getD n '0'

/-- A character as it is written inside a string. -/
def escaped (c : Char) : List Char :=
  if c = '"' then ['\\', '"']
  else if c = '\\' then ['\\', '\\']
  else if 0x20 ≤ c.toNat then [c]
  else if c.toNat = 0x08 then ['\\', 'b']
  else if c.toNat = 0x09 then ['\\', 't']
  else if c.toNat = 0x0A then ['\\', 'n']
  else if c.toNat = 0x0C then ['\\', 'f']
  else if c.toNat = 0x0D then ['\\', 'r']
  else ['\\', 'u', '0', '0', hexChar (c.toNat / 16), hexChar (c.toNat % 16)]

def quoted (s : String) : List Char := '"' :: s.toList.flatMap escaped ++ ['"']

def intText : ℤ → List Char
  | .ofNat n => Nat.toDigits 10 n
  | .negSucc n => '-' :: Nat.toDigits 10 (n + 1)

-- A number that is no integer is written as a fraction.
def numText (q : ℚ) : List Char :=
  if q.den = 1 then intText q.num else intText q.num ++ '/' :: Nat.toDigits 10 q.den

mutual

/-- The compact text of a value. -/
def compact : Json → List Char
  | .null => ['n', 'u', 'l', 'l']
  | .bool true => ['t', 'r', 'u', 'e']
  | .bool false => ['f', 'a', 'l', 's', 'e']
  | .num q => numText q
  | .str s => quoted s
  | .arr [] => ['[', ']']
  | .arr (item :: items) => '[' :: item.compact ++ compactItems items
  | .obj [] => ['\x7b', '\x7d']
  | .obj ((key, value) :: entries) =>
    '\x7b' :: quoted key ++ ':' :: value.compact ++ compactEntries entries

def compactItems : List Json → List Char
  | [] => [']']
  | item :: items => ',' :: item.compact ++ compactItems items

def compactEntries : List (String × Json) → List Char
  | [] => ['\x7d']
  | (key, value) :: entries => ',' :: quoted key ++ ':' :: value.compact ++ compactEntries entries

end

/-! ## Strings -/

def hexVal (c : Char) : Nat := if c.isDigit then c.toNat - '0'.toNat else c.toNat - 'a'.toNat + 10

/-- Read one character inside a string. -/
def readEscaped : List Char → Option (Char × List Char)
  | '\\' :: '"' :: s => some ('"', s)
  | '\\' :: '\\' :: s => some ('\\', s)
  | '\\' :: 'b' :: s => some (Char.ofNat 0x08, s)
  | '\\' :: 't' :: s => some (Char.ofNat 0x09, s)
  | '\\' :: 'n' :: s => some (Char.ofNat 0x0A, s)
  | '\\' :: 'f' :: s => some (Char.ofNat 0x0C, s)
  | '\\' :: 'r' :: s => some (Char.ofNat 0x0D, s)
  | '\\' :: 'u' :: '0' :: '0' :: a :: b :: s => some (Char.ofNat (16 * hexVal a + hexVal b), s)
  | c :: s => some (c, s)
  | [] => none

theorem hexVal_hexChar (n : Nat) (h : n < 16) : hexVal (hexChar n) = n := by
  revert n
  decide

theorem char_of_toNat_eq {c : Char} (h : c.toNat = n) : Char.ofNat n = c := by
  rw [← h, Char.ofNat_toNat]

theorem readEscaped_plain {c : Char} (h : c ≠ '\\') (s : List Char)
    : readEscaped (c :: s) = some (c, s) := by
  unfold readEscaped
  split <;> simp_all

theorem readEscaped_escaped (c : Char) (s : List Char)
    : readEscaped (escaped c ++ s) = some (c, s) := by
  unfold escaped
  split
  next h =>
    subst h
    rfl
  split
  next h =>
    subst h
    rfl
  next hslash =>
    split
    . exact readEscaped_plain hslash s
    next hcontrol =>
      split
      next h => exact congrArg (fun c => some (c, s)) (char_of_toNat_eq h)
      split
      next h => exact congrArg (fun c => some (c, s)) (char_of_toNat_eq h)
      split
      next h => exact congrArg (fun c => some (c, s)) (char_of_toNat_eq h)
      split
      next h => exact congrArg (fun c => some (c, s)) (char_of_toNat_eq h)
      split
      next h => exact congrArg (fun c => some (c, s)) (char_of_toNat_eq h)
      . show some (Char.ofNat (16 * hexVal (hexChar (c.toNat / 16))
          + hexVal (hexChar (c.toNat % 16))), s) = some (c, s)
        rw [hexVal_hexChar _ (by omega), hexVal_hexChar _ (by omega), Nat.div_add_mod,
          Char.ofNat_toNat]

theorem escaped_append_inj (h : escaped c ++ s = escaped d ++ t) : c = d ∧ s = t := by
  have hread := congrArg readEscaped h
  rw [readEscaped_escaped, readEscaped_escaped] at hread
  simpa using hread

theorem escaped_append_ne_quote (c : Char) (s t : List Char) : escaped c ++ s ≠ '"' :: t := by
  intro h
  have hread := congrArg List.head? h
  unfold escaped at hread
  split at hread
  . cases hread
  . split at hread
    . cases hread
    . split at hread
      next hquote _ _ => exact hquote (by simpa using hread)
      . repeat' (split at hread <;> try cases hread)

theorem flatMap_escaped_inj (a b s t : List Char)
    (h : a.flatMap escaped ++ '"' :: s = b.flatMap escaped ++ '"' :: t) : a = b ∧ s = t := by
  induction a generalizing b with
  | nil =>
    cases b with
    | nil => simpa using h
    | cons d b =>
      rw [List.flatMap_cons, List.append_assoc] at h
      exact (escaped_append_ne_quote d _ s h.symm).elim
  | cons c a ih =>
    cases b with
    | nil =>
      rw [List.flatMap_cons, List.append_assoc] at h
      exact (escaped_append_ne_quote c _ t h).elim
    | cons d b =>
      rw [List.flatMap_cons, List.flatMap_cons, List.append_assoc, List.append_assoc] at h
      rcases escaped_append_inj h with ⟨rfl, htail⟩
      rcases ih b htail with ⟨rfl, hst⟩
      exact ⟨rfl, hst⟩

theorem quoted_append_inj (h : quoted a ++ s = quoted b ++ t) : a = b ∧ s = t := by
  unfold quoted at h
  simp only [List.cons_append, List.append_assoc, List.nil_append, List.cons.injEq, true_and] at h
  rcases flatMap_escaped_inj _ _ _ _ h with ⟨hab, hst⟩
  exact ⟨String.toList_inj.mp hab, hst⟩

/-! ## Numbers -/

/-- A text that does not go on with a digit. -/
def NoDigit (s : List Char) : Prop := ∀ c ∈ s.head?, c.isDigit = false

/-- A text that does not go on with a digit or a fraction. -/
def NoNumber (s : List Char) : Prop := NoDigit s ∧ s.head? ≠ some '/'

theorem toDigits_append_inj (hs : NoDigit s) (ht : NoDigit t)
    (h : Nat.toDigits 10 m ++ s = Nat.toDigits 10 n ++ t) : m = n ∧ s = t := by
  have htake (k : Nat) (rest : List Char) (hrest : NoDigit rest)
      : (Nat.toDigits 10 k ++ rest).takeWhile Char.isDigit = Nat.toDigits 10 k := by
    rw [List.takeWhile_append_of_pos]
    . cases rest with
      | nil => simp
      | cons c rest =>
        have hdigit := hrest c (by simp)
        simp [hdigit]
    . intro c hc
      exact Nat.isDigit_of_mem_toDigits (by decide) (by decide) hc
  have hdigits := htake m s hs
  rw [h, htake n t ht] at hdigits
  have hmn := congrArg (Nat.ofDigitChars 10 · 0) hdigits
  simp only [Nat.ofDigitChars_ten_toDigits] at hmn
  rw [← hmn] at h
  exact ⟨hmn.symm, List.append_cancel_left h⟩

theorem toDigits_head (n : Nat) : ∃ c cs, Nat.toDigits 10 n = c :: cs ∧ c.isDigit = true := by
  cases h : Nat.toDigits 10 n with
  | nil => exact absurd h Nat.toDigits_ne_nil
  | cons c cs =>
    refine ⟨c, cs, rfl, ?_⟩
    apply Nat.isDigit_of_mem_toDigits (b := 10) (n := n) (by decide) (by decide)
    rw [h]
    exact List.mem_cons_self

theorem intText_append_inj (hs : NoDigit s) (ht : NoDigit t)
    (h : intText m ++ s = intText n ++ t) : m = n ∧ s = t := by
  cases m with
  | ofNat m =>
    cases n with
    | ofNat n =>
      rcases toDigits_append_inj hs ht h with ⟨rfl, hst⟩
      exact ⟨rfl, hst⟩
    | negSucc n =>
      rcases toDigits_head m with ⟨c, cs, hdigits, hc⟩
      simp only [intText, hdigits, List.cons_append, List.cons.injEq] at h
      rw [h.1] at hc
      cases hc
  | negSucc m =>
    cases n with
    | ofNat n =>
      rcases toDigits_head n with ⟨c, cs, hdigits, hc⟩
      simp only [intText, hdigits, List.cons_append, List.cons.injEq] at h
      rw [← h.1] at hc
      cases hc
    | negSucc n =>
      simp only [intText, List.cons_append, List.cons.injEq, true_and] at h
      rcases toDigits_append_inj hs ht h with ⟨hmn, hst⟩
      exact ⟨by omega, hst⟩

theorem noDigit_slash (s : List Char) : NoDigit ('/' :: s) := by
  intro c hc
  cases hc
  rfl

theorem numText_append_inj {p q : ℚ} (hs : NoNumber s) (ht : NoNumber t)
    (h : numText p ++ s = numText q ++ t) : p = q ∧ s = t := by
  unfold numText at h
  split at h
  next hp =>
    split at h
    next hq =>
      rcases intText_append_inj hs.1 ht.1 h with ⟨hnum, hst⟩
      exact ⟨Rat.ext hnum (hp.trans hq.symm), hst⟩
    next hq =>
      rw [List.append_assoc] at h
      rcases intText_append_inj hs.1 (noDigit_slash _) h with ⟨-, hst⟩
      exact (hs.2 (by rw [hst]; rfl)).elim
  next hp =>
    rw [List.append_assoc] at h
    split at h
    next hq =>
      rcases intText_append_inj (noDigit_slash _) ht.1 h with ⟨-, hst⟩
      exact (ht.2 (by rw [← hst]; rfl)).elim
    next hq =>
      rw [List.append_assoc] at h
      rcases intText_append_inj (noDigit_slash _) (noDigit_slash _) h with ⟨hnum, htail⟩
      simp only [List.cons.injEq, true_and] at htail
      rcases toDigits_append_inj hs.1 ht.1 htail with ⟨hden, hst⟩
      exact ⟨Rat.ext hnum hden, hst⟩

theorem numText_head (q : ℚ) : ∃ c cs, numText q = c :: cs ∧ (c.isDigit = true ∨ c = '-') := by
  have hint (n : ℤ) : ∃ c cs, intText n = c :: cs ∧ (c.isDigit = true ∨ c = '-') := by
    cases n with
    | ofNat n =>
      rcases toDigits_head n with ⟨c, cs, hdigits, hc⟩
      exact ⟨c, cs, hdigits, .inl hc⟩
    | negSucc n => exact ⟨'-', _, rfl, .inr rfl⟩
  rcases hint q.num with ⟨c, cs, hnum, hc⟩
  unfold numText
  rw [hnum]
  split
  . exact ⟨c, cs, rfl, hc⟩
  . exact ⟨c, _, rfl, hc⟩

/-! ## Values -/

inductive Kind where
  | null
  | bool
  | num
  | str
  | arr
  | obj

def kind : Json → Kind
  | .null => .null
  | .bool _ => .bool
  | .num _ => .num
  | .str _ => .str
  | .arr _ => .arr
  | .obj _ => .obj

/-- The kind of value that a text is of, by its first character. -/
def kindOfHead (c : Char) : Kind :=
  if c = 'n' then .null
  else if c = 't' then .bool
  else if c = 'f' then .bool
  else if c = '"' then .str
  else if c = '[' then .arr
  else if c = '\x7b' then .obj
  else .num

theorem kindOfHead_digit (hc : c.isDigit = true) : kindOfHead c = .num ∧ c ≠ ']' := by
  have hne (d : Char) (hd : d.isDigit = false) : c ≠ d := by
    intro h
    rw [h, hd] at hc
    cases hc
  unfold kindOfHead
  rw [if_neg (hne _ rfl), if_neg (hne _ rfl), if_neg (hne _ rfl), if_neg (hne _ rfl),
    if_neg (hne _ rfl), if_neg (hne _ rfl)]
  exact ⟨rfl, hne _ rfl⟩

theorem compact_head (a : Json)
    : ∃ c cs, a.compact = c :: cs ∧ kindOfHead c = a.kind ∧ c ≠ ']' := by
  cases a with
  | null => exact ⟨_, _, rfl, rfl, by decide⟩
  | bool b =>
    cases b with
    | false => exact ⟨_, _, rfl, rfl, by decide⟩
    | true => exact ⟨_, _, rfl, rfl, by decide⟩
  | num q =>
    rcases numText_head q with ⟨c, cs, hnum, hc | rfl⟩
    . exact ⟨c, cs, hnum, kindOfHead_digit hc⟩
    . exact ⟨_, cs, hnum, rfl, by decide⟩
  | str s => exact ⟨_, _, rfl, rfl, by decide⟩
  | arr items =>
    cases items with
    | nil => exact ⟨_, _, rfl, rfl, by decide⟩
    | cons item items => exact ⟨_, _, rfl, rfl, by decide⟩
  | obj entries =>
    cases entries with
    | nil => exact ⟨_, _, rfl, rfl, by decide⟩
    | cons entry entries => exact ⟨_, _, rfl, rfl, by decide⟩

/-- Texts that start alike are of values of one kind. -/
theorem kind_of_append_eq {a b : Json} (h : a.compact ++ s = b.compact ++ t) : a.kind = b.kind := by
  rcases compact_head a with ⟨c, cs, ha, hc, -⟩
  rcases compact_head b with ⟨d, ds, hb, hd, -⟩
  rw [ha, hb] at h
  simp only [List.cons_append, List.cons.injEq] at h
  rw [← hc, ← hd, h.1]

/-- No value starts with the end of an array. -/
theorem compact_append_ne_bracket (a : Json) (s t : List Char) : a.compact ++ s ≠ ']' :: t := by
  intro h
  rcases compact_head a with ⟨c, cs, ha, -, hc⟩
  rw [ha] at h
  simp only [List.cons_append, List.cons.injEq] at h
  exact hc h.1

theorem noNumber_comma (s : List Char) : NoNumber (',' :: s) :=
  ⟨by intro c hc; cases hc; rfl, by simp⟩

theorem noNumber_items (items : List Json) (s : List Char) : NoNumber (compactItems items ++ s) := by
  cases items with
  | nil => exact ⟨by intro c hc; cases hc; rfl, by simp [compactItems]⟩
  | cons item items => exact noNumber_comma _

theorem noNumber_entries (entries : List (String × Json)) (s : List Char)
    : NoNumber (compactEntries entries ++ s) := by
  cases entries with
  | nil => exact ⟨by intro c hc; cases hc; rfl, by simp [compactEntries]⟩
  | cons entry entries => exact noNumber_comma _

mutual

theorem compact_append_inj (a b : Json) (s t : List Char) (hs : NoNumber s) (ht : NoNumber t)
    (h : a.compact ++ s = b.compact ++ t) : a = b ∧ s = t := by
  match a, b, kind_of_append_eq h with
  | .null, .null, _ => exact ⟨rfl, by simpa [compact] using h⟩
  | .bool true, .bool true, _ => exact ⟨rfl, by simpa [compact] using h⟩
  | .bool false, .bool false, _ => exact ⟨rfl, by simpa [compact] using h⟩
  | .num p, .num q, _ =>
    rcases numText_append_inj hs ht h with ⟨rfl, hst⟩
    exact ⟨rfl, hst⟩
  | .str a, .str b, _ =>
    rcases quoted_append_inj h with ⟨rfl, hst⟩
    exact ⟨rfl, hst⟩
  | .arr [], .arr [], _ => exact ⟨rfl, by simpa [compact] using h⟩
  | .arr (item :: items), .arr (item' :: items'), _ =>
    simp only [compact, List.cons_append, List.append_assoc, List.cons.injEq, true_and] at h
    rcases compact_append_inj item item' _ _ (noNumber_items items s) (noNumber_items items' t) h
      with ⟨rfl, htail⟩
    rcases compactItems_append_inj items items' s t htail with ⟨rfl, hst⟩
    exact ⟨rfl, hst⟩
  | .obj [], .obj [], _ => exact ⟨rfl, by simpa [compact] using h⟩
  | .obj ((key, value) :: entries), .obj ((key', value') :: entries'), _ =>
    simp only [compact, List.cons_append, List.append_assoc, List.cons.injEq, true_and] at h
    rcases quoted_append_inj h with ⟨rfl, hvalue⟩
    simp only [List.cons.injEq, true_and] at hvalue
    rcases compact_append_inj value value' _ _ (noNumber_entries entries s)
      (noNumber_entries entries' t) hvalue with ⟨rfl, htail⟩
    rcases compactEntries_append_inj entries entries' s t htail with ⟨rfl, hst⟩
    exact ⟨rfl, hst⟩
  | .bool true, .bool false, _ => simp [compact] at h
  | .bool false, .bool true, _ => simp [compact] at h
  | .arr [], .arr (item :: items), _ =>
    simp only [compact, List.cons_append, List.append_assoc, List.cons.injEq, true_and] at h
    exact (compact_append_ne_bracket item _ s h.symm).elim
  | .arr (item :: items), .arr [], _ =>
    simp only [compact, List.cons_append, List.append_assoc, List.cons.injEq, true_and] at h
    exact (compact_append_ne_bracket item _ t h).elim
  | .obj [], .obj ((key, value) :: entries), _ => simp [compact, quoted] at h
  | .obj ((key, value) :: entries), .obj [], _ => simp [compact, quoted] at h

theorem compactItems_append_inj (as bs : List Json) (s t : List Char)
    (h : compactItems as ++ s = compactItems bs ++ t) : as = bs ∧ s = t := by
  match as, bs with
  | [], [] => exact ⟨rfl, by simpa [compactItems] using h⟩
  | [], b :: bs => simp [compactItems] at h
  | a :: as, [] => simp [compactItems] at h
  | a :: as, b :: bs =>
    simp only [compactItems, List.cons_append, List.append_assoc, List.cons.injEq, true_and] at h
    rcases compact_append_inj a b _ _ (noNumber_items as s) (noNumber_items bs t) h
      with ⟨rfl, htail⟩
    rcases compactItems_append_inj as bs s t htail with ⟨rfl, hst⟩
    exact ⟨rfl, hst⟩

theorem compactEntries_append_inj (as bs : List (String × Json)) (s t : List Char)
    (h : compactEntries as ++ s = compactEntries bs ++ t) : as = bs ∧ s = t := by
  match as, bs with
  | [], [] => exact ⟨rfl, by simpa [compactEntries] using h⟩
  | [], (key, b) :: bs => simp [compactEntries] at h
  | (key, a) :: as, [] => simp [compactEntries] at h
  | (key, a) :: as, (key', b) :: bs =>
    simp only [compactEntries, List.cons_append, List.append_assoc, List.cons.injEq, true_and] at h
    rcases quoted_append_inj h with ⟨rfl, hvalue⟩
    simp only [List.cons.injEq, true_and] at hvalue
    rcases compact_append_inj a b _ _ (noNumber_entries as s) (noNumber_entries bs t) hvalue
      with ⟨rfl, htail⟩
    rcases compactEntries_append_inj as bs s t htail with ⟨rfl, hst⟩
    exact ⟨rfl, hst⟩

end

/-- The compact text of a value is the one of no other value. -/
theorem compact_inj {a b : Json} (h : a.compact = b.compact) : a = b := by
  have hnil : NoNumber [] := ⟨by simp [NoDigit], by simp⟩
  apply (compact_append_inj a b [] [] hnil hnil _).1
  rw [h]

end Json
