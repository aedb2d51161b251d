import Elf.Domain.WriteGate
import Elf.Search.Policy
import Mathlib.Tactic.Linarith

/-!
This module contains what a query adds to a score apart from the retrieval and the rerank: the boost
of the scopes whose description it matches, and the deterministic ranking terms.
-/

namespace Elf

open Text

/-- The functions that scores use and that exact arithmetic does not have for every field. -/
structure Arithmetic (K : Type) [Field K] [LinearOrder K] where
  exp : K → K
  exp_pos : ∀ x, 0 < exp x
  exp_zero : exp 0 = 1
  exp_strictMono : StrictMono exp
  sqrt : K → K
  /-- The number that a finite float is. -/
  number : F32 → K
  number_fin : ∀ q : ℚ, number (.fin q) = q
  /-- A number as the float that a row or a response holds. -/
  float : K → F32

/-- Rational numbers, with a function in the place of the exponential that has its properties. -/
def rationalExp (x : ℚ) : ℚ := if 0 ≤ x then 1 + x else 1 / (1 - x)

theorem rationalExp_pos (x : ℚ) : 0 < rationalExp x := by
  unfold rationalExp
  split
  . next h => linarith
  . next h =>
    apply one_div_pos.mpr
    linarith

theorem rationalExp_strictMono : StrictMono rationalExp := by
  intro x y hxy
  unfold rationalExp
  split
  . next hx =>
    rw [if_pos (by linarith)]
    linarith
  . next hx =>
    have hlt : 1 / (1 - x) < 1 := by
      rw [div_lt_one] <;> linarith
    split
    . next hy => linarith
    . next hy =>
      apply one_div_lt_one_div_of_lt <;> linarith

/-- The square root is that of zero and of one. -/
def rationalArithmetic : Arithmetic ℚ where
  exp := rationalExp
  exp_pos := rationalExp_pos
  exp_zero := by simp [rationalExp]
  exp_strictMono := rationalExp_strictMono
  sqrt := id
  number
    | .fin q => q
    | _ => 0
  number_fin q := (Rat.cast_id q).symm
  float := .fin

/-! ## Tokens -/

/-- The runs of ASCII letters and digits, in lower case. -/
def asciiWords (text : String) : List String :=
  let normalized := text.toList.map fun c => if c.isAlphanum then c.toLower else ' '
  (splitWhitespace (String.ofList normalized)).map String.ofList

/-- The words from here on that are not in `out` yet, until there are `maxTerms`. -/
def collectTokens (maxTerms : Nat) : List String → List String → List String
  | [], out => out
  | token :: rest, out =>
    if token.length < 2 then
      collectTokens maxTerms rest out
    else
      let out := if out.contains token then out else out ++ [token]
      if maxTerms ≤ out.length then out else collectTokens maxTerms rest out

def tokenizeQuery (query : String) (maxTerms : Nat) : List String :=
  collectTokens maxTerms (asciiWords query) []

def tokenizeTextTerms (text : String) (maxTerms : Nat) : List String :=
  if maxTerms = 0 then [] else collectTokens maxTerms (asciiWords text) []

variable {K : Type} [Field K] [LinearOrder K]

/-- The part of the tokens that is among the terms. -/
def matchedRatio (tokens terms : List String) : K :=
  ((tokens.filter terms.contains).length : K) / (tokens.length : K)

def lexicalOverlapRatio (queryTokens : List String) (text : String) (maxTextTerms : Nat) : K :=
  if queryTokens.isEmpty then
    0
  else
    let textTerms := tokenizeTextTerms text maxTextTerms
    if textTerms.isEmpty then 0 else matchedRatio queryTokens textTerms

/-! ## Scopes -/

def descriptionTokens (description : String) : List String :=
  (asciiWords description).filter fun token => 2 ≤ token.length

def scopeDescriptionBoost (tokens : List String) (description : String) (weight : K) : K :=
  if weight ≤ 0 ∨ tokens.isEmpty then
    0
  else
    let trimmed := trim description
    if trimmed = "" ∨ !isValidText trimmed then
      0
    else
      -- Without a word in the description nothing is matched either.
      let matched := tokens.filter (descriptionTokens trimmed).contains
      if matched.isEmpty then 0 else weight * matchedRatio tokens (descriptionTokens trimmed)

def buildScopeContextBoostByScope (tokens : List String) (context : Option (SearchContext K))
    : List (String × K) :=
  match context with
  | none => []
  | some context =>
    match context.scopeBoostWeight, context.scopeDescriptions with
    | some weight, some descriptions =>
      if weight ≤ 0 ∨ tokens.isEmpty then
        []
      else
        (descriptions.map fun entry => (entry.1, scopeDescriptionBoost tokens entry.2 weight)).filter
          (0 < ·.2)
    | _, _ => []

/-! ## Deterministic ranking terms -/

structure DeterministicRankingTerms (K : Type) where
  lexicalOverlapRatio : K
  lexicalBonus : K
  hitCount : Int
  lastHitAgeDays : Option K
  hitBoost : K
  decayPenalty : K

def DeterministicRankingTerms.default : DeterministicRankingTerms K := ⟨0, 0, 0, none, 0, 0⟩

/-- The days between two times in nanoseconds. -/
def daysBetween (start stop : Nat) : K :=
  (((stop : Int) - (start : Int) : Int) : K) / 1000000000 / 86400

/-- How much of the bonus an overlap is worth. -/
def lexicalScale (minRatio ratio : K) : K :=
  let minRatio := clampUnit minRatio
  if minRatio ≤ ratio ∧ minRatio < 1 then
    clampUnit ((ratio - minRatio) / (1 - minRatio))
  else if 1 ≤ ratio ∧ 1 ≤ minRatio then
    1
  else
    0

def hitSaturation (half : K) (hitCount : Int) : K :=
  if 0 < half ∧ 0 < hitCount then clampUnit (hitCount / (hitCount + half)) else 0

def hitRecency (A : Arithmetic K) (tau : K) (lastHitAgeDays : Option K) : K :=
  if 0 < tau then
    match lastHitAgeDays with
    | some days => A.exp (-days / tau)
    | none => 1
  else
    1

def decayStaleness (A : Arithmetic K) (tau ageDays : K) : K :=
  if 0 < tau then 1 - A.exp (-ageDays / tau) else 0

/-- The overlap ratio and the bonus. -/
def lexicalTerm (lexical : RankingDeterministicLexical K) (queryTokens : List String)
    (snippet : String) : K × K :=
  if lexical.enabled ∧ 0 < lexical.weight ∧ queryTokens ≠ [] then
    let ratio := lexicalOverlapRatio queryTokens snippet lexical.maxTextTerms
    (ratio, lexical.weight * lexicalScale lexical.minRatio ratio)
  else
    (0, 0)

/-- The hit count, the age of the last hit and the boost. -/
def hitTerm (A : Arithmetic K) (hits : RankingDeterministicHits K) (noteHitCount : Int)
    (noteLastHitAt : Option Nat) (now : Nat) : Int × Option K × K :=
  if hits.enabled ∧ 0 < hits.weight then
    let hitCount := max noteHitCount 0
    let lastHitAgeDays := noteLastHitAt.map fun ts => max (daysBetween ts now) 0
    (hitCount, lastHitAgeDays, hits.weight * hitSaturation hits.halfSaturation hitCount
      * hitRecency A hits.lastHitTauDays lastHitAgeDays)
  else
    (0, none, 0)

def decayTerm (A : Arithmetic K) (decay : RankingDeterministicDecay K) (ageDays : K) : K :=
  if decay.enabled ∧ 0 < decay.weight then
    -decay.weight * clampUnit (decayStaleness A decay.tauDays (max ageDays 0))
  else
    0

def computeDeterministicRankingTerms (A : Arithmetic K) (cfg : RankingConfig K)
    (queryTokens : List String) (snippet : String) (noteHitCount : Int)
    (noteLastHitAt : Option Nat) (ageDays : K) (now : Nat) : DeterministicRankingTerms K :=
  let det := cfg.ranking.deterministic
  if !det.enabled then
    .default
  else
    let (lexicalOverlapRatio, lexicalBonus) := lexicalTerm det.lexical queryTokens snippet
    let (hitCount, lastHitAgeDays, hitBoost) := hitTerm A det.hits noteHitCount noteLastHitAt now
    let decayPenalty := decayTerm A det.decay ageDays
    { lexicalOverlapRatio, lexicalBonus, hitCount, lastHitAgeDays, hitBoost, decayPenalty }

def buildDeterministicQueryTokens (cfg : RankingConfig K) (query : String) : List String :=
  let det := cfg.ranking.deterministic
  if det.enabled ∧ det.lexical.enabled ∧ 0 < det.lexical.maxQueryTerms then
    tokenizeQuery query det.lexical.maxQueryTerms
  else
    []

end Elf
