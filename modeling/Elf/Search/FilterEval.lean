import Elf.Lib.Slice
import Elf.Lib.Sorting
import Elf.Search.Candidates
import Elf.Search.Filter

/-!
This module contains how a filter is evaluated on a note, and the report of what it dropped.
-/

namespace Elf

open Sorting

/-- The value of a field of a note. A number is a float with its exact value. -/
inductive FilterNodeValue where
  | string (value : String)
  | number (value : F32)
  | dateTime (value : ℤ)
  | null

-- Floats are equal when each is at most the other, which is false for what is not a number.
def FilterNodeValue.eq : FilterNodeValue → FilterNodeValue → Bool
  | .string a, .string b => a == b
  | .number a, .number b => a.le b && b.le a
  | .dateTime a, .dateTime b => a == b
  | .null, .null => true
  | _, _ => false

variable {T : Type}

/-- `instant` is the instant that a date-time denotes, whatever its offset. -/
def FilterValue.toNodeValue (instant : T → ℤ) : FilterValue T → FilterNodeValue
  | .string value => .string value
  | .number value => .number (.fin value)
  | .dateTime value => .dateTime (instant value)
  | .null => .null

def FilterValue.toNumeric : FilterValue T → F32
  | .number value => .fin value
  | _ => .fin 0

def FilterNodeValue.ofInstant : Option Nat → FilterNodeValue
  | some instant => .dateTime instant
  | none => .null

def FilterField.lookupNoteValue (formats : FilterFormats T) (note : NoteMeta)
    : FilterField → FilterNodeValue
  | .type => .string note.noteType
  | .key => .string (note.key.getD "")
  | .scope => .string note.scope
  | .agentId => .string note.agentId
  | .importance => .number note.importance
  | .confidence => .number note.confidence
  | .hitCount => .number (.fin (formats.asF64 note.hitCount))
  | .updatedAt => .dateTime note.updatedAt
  | .expiresAt => .ofInstant note.expiresAt
  | .lastHitAt => .ofInstant note.lastHitAt

/-! ## Evaluation -/

namespace FilterExpr

/-- The outcome of a leaf, with the reason why it is false. -/
def outcome (op : String) (field : FilterField) (passed : Bool) : Bool × Option String :=
  (passed, if passed then none else some (op ++ ":" ++ field.asStr))

variable (formats : FilterFormats T) (instant : T → ℤ) (note : NoteMeta)

def evaluateEq (field : FilterField) (value : FilterValue T) : Bool × Option String :=
  outcome "eq" field ((field.lookupNoteValue formats note).eq (value.toNodeValue instant))

def evaluateNeq (field : FilterField) (value : FilterValue T) : Bool × Option String :=
  outcome "neq" field (!(field.lookupNoteValue formats note).eq (value.toNodeValue instant))

def evaluateIn (field : FilterField) (values : List (FilterValue T)) : Bool × Option String :=
  outcome "in" field (values.any fun value =>
    (field.lookupNoteValue formats note).eq (value.toNodeValue instant))

def evaluateContains (field : FilterField) (value : String) : Bool × Option String :=
  match field.lookupNoteValue formats note with
  | .string text => outcome "contains" field (Text.contains text value)
  | _ => outcome "contains" field false

/-- A comparison of numbers or of date-times. -/
def evaluateOrder (op : String) (numbers : F32 → F32 → Bool) (dates : ℤ → ℤ → Bool)
    (field : FilterField) (value : FilterValue T) : Bool × Option String :=
  match field.lookupNoteValue formats note with
  | .number number => outcome op field (numbers number value.toNumeric)
  | .dateTime date =>
    match value with
    | .dateTime value => outcome op field (dates date (instant value))
    | _ => outcome op field false
  | _ => outcome op field false

def evaluateGt : FilterField → FilterValue T → Bool × Option String :=
  evaluateOrder formats instant note "gt" (fun a b => b.lt a) fun a b => b < a

def evaluateGte : FilterField → FilterValue T → Bool × Option String :=
  evaluateOrder formats instant note "gte" (fun a b => b.le a) fun a b => b ≤ a

def evaluateLt : FilterField → FilterValue T → Bool × Option String :=
  evaluateOrder formats instant note "lt" F32.lt fun a b => a < b

def evaluateLte : FilterField → FilterValue T → Bool × Option String :=
  evaluateOrder formats instant note "lte" F32.le fun a b => a ≤ b

mutual

def evaluate : FilterExpr T → Bool × Option String
  | .and nodes => evaluateAnd nodes
  | .or nodes => evaluateOr nodes none
  | .not node =>
    if (evaluate node).1 then (false, some "not.true") else (true, (evaluate node).2)
  | .eq field value => evaluateEq formats instant note field value
  | .neq field value => evaluateNeq formats instant note field value
  | .isIn field values => evaluateIn formats instant note field values
  | .contains field value => evaluateContains formats note field value
  | .gt field value => evaluateGt formats instant note field value
  | .gte field value => evaluateGte formats instant note field value
  | .lt field value => evaluateLt formats instant note field value
  | .lte field value => evaluateLte formats instant note field value

def evaluateAnd : List (FilterExpr T) → Bool × Option String
  | [] => (true, none)
  | node :: nodes => if (evaluate node).1 then evaluateAnd nodes else (false, (evaluate node).2)

def evaluateOr (nodes : List (FilterExpr T)) (firstReason : Option String) : Bool × Option String :=
  match nodes with
  | [] => (false, firstReason.or (some "or.no_match"))
  | node :: nodes =>
    if (evaluate node).1 then (true, none) else evaluateOr nodes (firstReason.or (evaluate node).2)

end

end FilterExpr

/-! ## Impact -/

structure SearchFilterDropReason where
  reason : String
  count : Nat
deriving DecidableEq

structure SearchFilterImpact where
  requestedCandidateK : Nat
  effectiveCandidateK : Nat
  candidateCountPre : Nat
  candidateCountPost : Nat
  droppedTotal : Nat
  topDropReasons : List SearchFilterDropReason
  filter : Json

-- The counts are a map, in the order in which the reasons were first met.
def countReason (counts : List SearchFilterDropReason) (reason : String)
    : List SearchFilterDropReason :=
  match counts with
  | [] => [⟨reason, 1⟩]
  | entry :: counts =>
    if entry.reason = reason then ⟨reason, entry.count + 1⟩ :: counts
    else entry :: countReason counts reason

def cmpDropReason (a b : SearchFilterDropReason) : Ordering :=
  (compare b.count a.count).then (compare a.reason b.reason)

def maxDropReasons : Nat := 5

namespace SearchFilter

variable (formats : FilterFormats T) (instant : T → ℤ) (filter : SearchFilter T)
  (noteMeta : Uuid → Option NoteMeta)

def evaluate (note : NoteMeta) : Bool × Option String := filter.expr.evaluate formats instant note

/-- The candidates that are kept, and the counts of the reasons of the others. -/
def tally : List ChunkCandidate → List ChunkCandidate × List SearchFilterDropReason
    → List ChunkCandidate × List SearchFilterDropReason
  | [], tallied => tallied
  | candidate :: candidates, (kept, counts) =>
    match noteMeta candidate.noteId with
    | none => tally candidates (kept, countReason counts "note_meta_missing")
    | some note =>
      let (keep, reason) := filter.evaluate formats instant note
      if keep then tally candidates (kept ++ [candidate], counts)
      else tally candidates (kept, countReason counts (reason.getD "filter.no_match"))

/-- `SearchFilterImpact::from_eval`. -/
def impact (candidates : List ChunkCandidate) (requestedCandidateK effectiveCandidateK : Nat)
    : SearchFilterImpact :=
  let (kept, counts) := filter.tally formats instant noteMeta candidates ([], [])
  { requestedCandidateK
    effectiveCandidateK
    candidateCountPre := candidates.length
    candidateCountPost := kept.length
    droppedTotal := candidates.length - kept.length
    topDropReasons := (sortBy cmpDropReason counts).take maxDropReasons
    filter := filter.json }

def eval (candidates : List ChunkCandidate) (requestedCandidateK effectiveCandidateK : Nat)
    : List ChunkCandidate × SearchFilterImpact :=
  let impact := filter.impact formats instant noteMeta candidates requestedCandidateK
    effectiveCandidateK
  let kept := candidates.filter fun candidate =>
    (noteMeta candidate.noteId).any fun note => (filter.evaluate formats instant note).1
  (kept,
    { impact with
      candidateCountPost := kept.length
      droppedTotal := candidates.length - kept.length })

end SearchFilter

end Elf
