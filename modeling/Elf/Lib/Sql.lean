import Mathlib.Data.List.Infix
import Mathlib.Order.Basic

/-!
This module contains what the conditions of a query are made of. In a pattern of `LIKE`, `%` stands for
any string, `_` for any character, and a backslash takes the character behind it as it is. The truth
values are those of SQL: a comparison with an absent value is neither true nor false, and a condition
selects a row where it is true.
-/

namespace Like

inductive Token where
  | anyString
  | anyChar
  | literal (c : Char)

/-- The characters that a pattern does not take as they are. -/
def isSpecial (c : Char) : Bool := c = '%' || c = '_' || c = '\\'

/-- The tokens of a pattern. The escape character must not end it. -/
def tokens : List Char → Option (List Token)
  | [] => some []
  | ['\\'] => none
  | '\\' :: c :: pattern => (tokens pattern).map (Token.literal c :: ·)
  | '%' :: pattern => (tokens pattern).map (Token.anyString :: ·)
  | '_' :: pattern => (tokens pattern).map (Token.anyChar :: ·)
  | c :: pattern => (tokens pattern).map (Token.literal c :: ·)

/-- The tokens match the text as a whole. -/
def matchesTokens : List Token → List Char → Bool
  | [], text => text.isEmpty
  | .anyString :: rest, text => text.tails.any (matchesTokens rest)
  | .anyChar :: rest, text =>
    match text with
    | [] => false
    | _ :: text => matchesTokens rest text
  | .literal c :: rest, text =>
    match text with
    | [] => false
    | d :: text => c = d && matchesTokens rest text

/-- `text LIKE pattern` -/
def like (text pattern : List Char) : Bool := (tokens pattern).any (matchesTokens · text)

/-- The pattern of the texts that contain a string, as long as no character of it is special. -/
def containing (s : List Char) : List Char := '%' :: (s ++ ['%'])

variable {s text pattern : List Char} {rest ts : List Token} {c : Char}

/-! ## Tokens -/

theorem tokens_cons (h : isSpecial c = false)
    : tokens (c :: pattern) = (tokens pattern).map (Token.literal c :: ·) := by
  simp only [isSpecial, Bool.or_eq_false_iff, decide_eq_false_iff_not] at h
  rw [tokens]
  . exact fun hc _ => h.2 hc
  . exact fun _ _ hc _ => h.2 hc
  . exact h.1.1
  . exact h.1.2

theorem tokens_append (h : ∀ c ∈ s, isSpecial c = false)
    : tokens (s ++ pattern) = (tokens pattern).map (s.map Token.literal ++ ·) := by
  induction s with
  | nil => simp
  | cons c s ih =>
    rw [List.cons_append, tokens_cons (h c List.mem_cons_self),
      ih fun d hd => h d (List.mem_cons_of_mem c hd), Option.map_map]
    rfl

theorem literal_mem_tokens (hc : isSpecial c = false) (hts : tokens pattern = some ts)
    (hmem : c ∈ pattern) : Token.literal c ∈ ts := by
  induction pattern using tokens.induct generalizing ts with
  | case1 => cases hmem
  | case2 => cases hts
  | case3 d pattern ih =>
    rcases Option.map_eq_some_iff.mp hts with ⟨ts', hts', rfl⟩
    rcases List.mem_cons.mp hmem with rfl | hmem
    . cases hc
    . rcases List.mem_cons.mp hmem with rfl | hmem
      . exact List.mem_cons_self
      . exact List.mem_cons_of_mem _ (ih hts' hmem)
  | case4 pattern ih =>
    rcases Option.map_eq_some_iff.mp hts with ⟨ts', hts', rfl⟩
    rcases List.mem_cons.mp hmem with rfl | hmem
    . cases hc
    . exact List.mem_cons_of_mem _ (ih hts' hmem)
  | case5 pattern ih =>
    rcases Option.map_eq_some_iff.mp hts with ⟨ts', hts', rfl⟩
    rcases List.mem_cons.mp hmem with rfl | hmem
    . cases hc
    . exact List.mem_cons_of_mem _ (ih hts' hmem)
  | case6 d pattern hend hescape hstring hchar ih =>
    rw [tokens.eq_6 _ _ hend hescape hstring hchar] at hts
    rcases Option.map_eq_some_iff.mp hts with ⟨ts', hts', rfl⟩
    rcases List.mem_cons.mp hmem with rfl | hmem
    . exact List.mem_cons_self
    . exact List.mem_cons_of_mem _ (ih hts' hmem)

/-! ## Matches -/

theorem matchesTokens_anyString : matchesTokens (.anyString :: rest) text = true
    ↔ ∃ front back, text = front ++ back ∧ matchesTokens rest back = true := by
  simp only [matchesTokens, List.any_eq_true, List.mem_tails]
  constructor
  . rintro ⟨back, ⟨front, heq⟩, hback⟩
    exact ⟨front, back, heq.symm, hback⟩
  . rintro ⟨front, back, heq, hback⟩
    exact ⟨back, ⟨front, heq.symm⟩, hback⟩

theorem matchesTokens_literals : matchesTokens (s.map Token.literal ++ rest) text = true
    ↔ ∃ back, text = s ++ back ∧ matchesTokens rest back = true := by
  induction s generalizing text with
  | nil => simp
  | cons c s ih =>
    rw [List.map_cons, List.cons_append]
    cases text with
    | nil => simp [matchesTokens]
    | cons d text =>
      simp only [matchesTokens, Bool.and_eq_true, decide_eq_true_eq, ih, List.cons_append,
        List.cons.injEq]
      constructor
      . rintro ⟨rfl, back, rfl, hback⟩
        exact ⟨back, ⟨rfl, rfl⟩, hback⟩
      . rintro ⟨back, ⟨rfl, rfl⟩, hback⟩
        exact ⟨rfl, back, rfl, hback⟩

/-- Without special characters, the pattern finds the texts that contain the string. -/
theorem like_containing (h : ∀ c ∈ s, isSpecial c = false)
    : like text (containing s) = true ↔ s <:+: text := by
  have htokens : tokens (containing s)
      = some (.anyString :: (s.map Token.literal ++ [.anyString])) := by
    unfold containing
    rw [tokens, tokens_append h]
    rfl
  unfold like
  rw [htokens]
  simp only [Option.any_some, matchesTokens_anyString, matchesTokens_literals]
  constructor
  . rintro ⟨front, back, rfl, last, rfl, hlast⟩
    exact ⟨front, last, by simp⟩
  . rintro ⟨front, last, rfl⟩
    refine ⟨front, s ++ last, by simp, last, rfl, ?_⟩
    exact ⟨last, [], by simp, rfl⟩

/-- A text has the literal characters of what matches it. -/
theorem mem_of_matchesTokens (h : matchesTokens ts text = true) (hmem : Token.literal c ∈ ts)
    : c ∈ text := by
  induction ts generalizing text with
  | nil => cases hmem
  | cons t ts ih =>
    cases t with
    | anyString =>
      rcases matchesTokens_anyString.mp h with ⟨front, back, rfl, hback⟩
      exact List.mem_append_right front (ih hback (by simpa using hmem))
    | anyChar =>
      cases text with
      | nil => cases h
      | cons d text => exact List.mem_cons_of_mem d (ih h (by simpa using hmem))
    | literal d =>
      cases text with
      | nil => cases h
      | cons e text =>
        simp only [matchesTokens, Bool.and_eq_true, decide_eq_true_eq] at h
        rcases List.mem_cons.mp hmem with heq | hmem
        . cases heq
          rw [h.1]
          exact List.mem_cons_self
        . exact List.mem_cons_of_mem e (ih h.2 hmem)

/-! ## A text that matches -/

/-- A short text that the tokens match. -/
def sample : List Token → List Char
  | [] => []
  | .anyString :: rest => sample rest
  | .anyChar :: rest => 'a' :: sample rest
  | .literal c :: rest => c :: sample rest

theorem matchesTokens_sample (ts : List Token) : matchesTokens ts (sample ts) = true := by
  induction ts with
  | nil => rfl
  | cons t ts ih =>
    cases t with
    | anyString => exact matchesTokens_anyString.mpr ⟨[], sample ts, rfl, ih⟩
    | anyChar => exact ih
    | literal c => simp [sample, matchesTokens, ih]

theorem mem_of_mem_sample (hts : tokens pattern = some ts) (hc : c ∈ sample ts)
    : c ∈ pattern ∨ c = 'a' := by
  induction pattern using tokens.induct generalizing ts with
  | case1 =>
    cases hts
    cases hc
  | case2 => cases hts
  | case3 d pattern ih =>
    rcases Option.map_eq_some_iff.mp hts with ⟨ts', hts', rfl⟩
    rcases List.mem_cons.mp hc with rfl | hc
    . simp
    . exact (ih hts' hc).imp_left fun hmem => by simp [hmem]
  | case4 pattern ih =>
    rcases Option.map_eq_some_iff.mp hts with ⟨ts', hts', rfl⟩
    exact (ih hts' hc).imp_left fun hmem => List.mem_cons_of_mem _ hmem
  | case5 pattern ih =>
    rcases Option.map_eq_some_iff.mp hts with ⟨ts', hts', rfl⟩
    rcases List.mem_cons.mp hc with rfl | hc
    . exact Or.inr rfl
    . exact (ih hts' hc).imp_left fun hmem => List.mem_cons_of_mem _ hmem
  | case6 d pattern hend hescape hstring hchar ih =>
    rw [tokens.eq_6 _ _ hend hescape hstring hchar] at hts
    rcases Option.map_eq_some_iff.mp hts with ⟨ts', hts', rfl⟩
    rcases List.mem_cons.mp hc with rfl | hc
    . exact Or.inl List.mem_cons_self
    . exact (ih hts' hc).imp_left fun hmem => List.mem_cons_of_mem _ hmem

/--
A string with a special character, followed by `%`, is a pattern whose short text is another string
that is not longer.
-/
theorem exists_tokens_append (s : List Char)
    : ∃ ts, tokens (s ++ ['%']) = some ts ∧ (sample ts).length ≤ s.length
      ∧ (sample ts = s → ∀ c ∈ s, isSpecial c = false) := by
  induction s using tokens.induct with
  | case1 => exact ⟨[.anyString], rfl, by decide, by simp⟩
  | case2 => exact ⟨[.literal '%'], rfl, by decide, by decide⟩
  | case3 c s ih =>
    rcases ih with ⟨ts, hts, hlength, hsame⟩
    refine ⟨.literal c :: ts, ?_, ?_, ?_⟩
    . simp [tokens, hts]
    . simp only [sample, List.length_cons]
      omega
    . intro heq
      have hlengths := congrArg List.length heq
      simp only [sample, List.length_cons] at hlengths
      omega
  | case4 s ih =>
    rcases ih with ⟨ts, hts, hlength, hsame⟩
    refine ⟨.anyString :: ts, ?_, ?_, ?_⟩
    . simp [tokens, hts]
    . simp only [sample, List.length_cons]
      omega
    . intro heq
      have hlengths := congrArg List.length heq
      simp only [sample, List.length_cons] at hlengths
      omega
  | case5 s ih =>
    rcases ih with ⟨ts, hts, hlength, hsame⟩
    refine ⟨.anyChar :: ts, ?_, ?_, ?_⟩
    . simp [tokens, hts]
    . simp only [sample, List.length_cons]
      omega
    . intro heq
      cases heq
  | case6 c s hend hescape hstring hchar ih =>
    rcases ih with ⟨ts, hts, hlength, hsame⟩
    have hbackslash : c ≠ '\\' := by
      intro hc
      cases s with
      | nil => exact hend hc rfl
      | cons d s => exact hescape d s hc rfl
    have hc : isSpecial c = false := by
      simp only [isSpecial, Bool.or_eq_false_iff, decide_eq_false_iff_not]
      exact ⟨⟨hstring, hchar⟩, hbackslash⟩
    refine ⟨.literal c :: ts, ?_, ?_, ?_⟩
    . rw [List.cons_append, tokens_cons hc, hts]
      rfl
    . simp only [sample, List.length_cons]
      omega
    . intro heq
      simp only [sample, List.cons.injEq, true_and] at heq
      exact List.forall_mem_cons.mpr ⟨hc, hsame heq⟩

/-- With a special character, the pattern also finds a text that does not contain the string. -/
theorem exists_like_of_special (h : ∃ c ∈ s, isSpecial c = true)
    : ∃ text, like text (containing s) = true ∧ ¬s <:+: text
      ∧ ∀ c ∈ text, c ∈ s ∨ c = '%' ∨ c = 'a' := by
  rcases exists_tokens_append s with ⟨ts, hts, hlength, hsame⟩
  refine ⟨sample ts, ?_, ?_, ?_⟩
  . unfold like containing
    rw [tokens, hts]
    exact matchesTokens_anyString.mpr ⟨[], sample ts, rfl, matchesTokens_sample ts⟩
  . intro hpart
    rcases h with ⟨c, hc, hspecial⟩
    rw [hsame (hpart.eq_of_length_le hlength).symm c hc] at hspecial
    cases hspecial
  . intro c hc
    rcases mem_of_mem_sample hts hc with hmem | ha
    . rcases List.mem_append.mp hmem with hmem | hmem
      . exact Or.inl hmem
      . exact Or.inr (Or.inl (List.mem_singleton.mp hmem))
    . exact Or.inr (Or.inr ha)

theorem mem_of_like (h : like text (containing s) = true) (hc : isSpecial c = false)
    (hmem : c ∈ s) : c ∈ text := by
  unfold like at h
  cases hts : tokens (containing s) with
  | none => simp [hts] at h
  | some ts =>
    rw [hts] at h
    apply mem_of_matchesTokens h
    apply literal_mem_tokens hc hts
    simp [containing, hmem]

end Like

/-! ## Truth values -/

/-- A truth value, or `none` where it is unknown. -/
abbrev Ternary := Option Bool

namespace Ternary

def and : Ternary → Ternary → Ternary
  | some false, _ => some false
  | _, some false => some false
  | some true, some true => some true
  | _, _ => none

def or : Ternary → Ternary → Ternary
  | some true, _ => some true
  | _, some true => some true
  | some false, some false => some false
  | _, _ => none

/-- A comparison is unknown where either side is absent. -/
def compare (p : α → β → Bool) : Option α → Option β → Ternary
  | some a, some b => some (p a b)
  | _, _ => none

def isNull (a : Option α) : Ternary := some a.isNone

/-- A condition selects the rows on which it is true. -/
def selects (t : Ternary) : Bool := t = some true

/-- `COALESCE(t, false)` -/
def coalesceFalse (t : Ternary) : Bool := t.getD false

@[simp]
theorem coalesceFalse_eq (t : Ternary) : t.coalesceFalse = t.selects := by
  rcases t with _ | _ | _ <;> rfl

@[simp]
theorem selects_and (s t : Ternary) : (s.and t).selects = (s.selects && t.selects) := by
  rcases s with _ | _ | _ <;> rcases t with _ | _ | _ <;> rfl

@[simp]
theorem selects_or (s t : Ternary) : (s.or t).selects = (s.selects || t.selects) := by
  rcases s with _ | _ | _ <;> rcases t with _ | _ | _ <;> rfl

@[simp]
theorem selects_isNull (a : Option α) : (isNull a).selects = a.isNone := by
  cases a <;> rfl

@[simp]
theorem selects_compare_some (p : α → β → Bool) (a : Option α) (b : β)
    : (compare p a (some b)).selects = a.any fun a => p a b := by
  cases a with
  | none => rfl
  | some a => cases h : p a b <;> simp [compare, selects, h]

end Ternary
