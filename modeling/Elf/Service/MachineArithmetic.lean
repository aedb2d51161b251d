import Elf.Docs.Excerpts
import Elf.Lib.Word
import Elf.Lib.Slice
import Elf.Lib.Transaction
import Elf.Service.EventMessages

/-!
This module contains computations with the arithmetic of the machine they run on: an addition that
wraps around, a subtraction below zero and an index out of range stop the program. They are the window
around a match, the loop that splits a message into spans, and the resolution of a selection of them by
byte offsets.
-/

namespace Elf

/-- The largest number of bytes that a string has. -/
def maxTextBytes : Nat := 2 ^ 63 - 1

def ceilBoundaryChecked (text : String) (steps start : Nat) : Option Nat :=
  match steps with
  | 0 => some start
  | steps + 1 =>
    if start < text.utf8ByteSize ∧ !isCharBoundary text start then do
      let next ← Word.add start 1
      ceilBoundaryChecked text steps next
    else
      some start

def floorBoundaryChecked (text : String) (start steps stop : Nat) : Option Nat :=
  match steps with
  | 0 => some stop
  | steps + 1 =>
    if start < stop ∧ !isCharBoundary text stop then do
      let next ← Word.sub stop 1
      floorBoundaryChecked text start steps next
    else
      some stop

def boundedWindowChecked (matchStart matchEnd : Nat) (text : String) (maxBytes : Nat)
    : Option (Nat × Nat) := do
  let len := text.utf8ByteSize
  let matchCenter := Word.saturatingAdd matchStart ((matchEnd - matchStart) / 2)
  let start := matchCenter - maxBytes / 2
  let stop := min (← Word.add start maxBytes) len
  let size ← Word.sub stop start
  let start ←
    if size < maxBytes ∧ 0 < start then do
      let missing ← Word.sub maxBytes size
      pure (start - missing)
    else
      pure start
  let start ← ceilBoundaryChecked text len start
  let stop ← floorBoundaryChecked text start len stop
  return (start, max stop start)

variable {text : String} {start stop steps : Nat}

theorem ceilBoundaryChecked_eq (hlen : text.utf8ByteSize ≤ maxTextBytes)
    : ceilBoundaryChecked text steps start = some (ceilBoundary text steps start) := by
  unfold maxTextBytes at hlen
  induction steps generalizing start with
  | zero => rfl
  | succ steps ih =>
    unfold ceilBoundaryChecked ceilBoundary
    split
    next hnot =>
      rw [Word.add_eq_some (by unfold Word.size; omega), Option.bind_eq_bind, Option.bind_some]
      apply ih
    . rfl

theorem floorBoundaryChecked_eq (hsteps : stop ≤ steps)
    : floorBoundaryChecked text start steps stop = some (floorBoundary text start stop) := by
  induction stop generalizing steps with
  | zero =>
    cases steps with
    | zero => rfl
    | succ steps =>
      unfold floorBoundaryChecked floorBoundary
      rw [if_neg (by omega)]
  | succ stop ih =>
    cases steps with
    | zero => omega
    | succ steps =>
      unfold floorBoundaryChecked floorBoundary
      split
      . rw [Word.sub_eq_some (by omega), Option.bind_eq_bind, Option.bind_some, Nat.add_sub_cancel]
        apply ih
        omega
      . rfl

/-- The window of a match inside the text never leaves the words: when the window starts after the
start of the text, half of its size is less than the text. -/
theorem boundedWindowChecked_eq {matchStart matchEnd maxBytes : Nat}
    (hlen : text.utf8ByteSize ≤ maxTextBytes) (hmax : maxBytes < Word.size)
    (hle : matchStart ≤ matchEnd) (hend : matchEnd ≤ text.utf8ByteSize)
    : boundedWindowChecked matchStart matchEnd text maxBytes
        = some (boundedWindow matchStart matchEnd text maxBytes) := by
  have hbytes : text.utf8ByteSize ≤ 2 ^ 63 - 1 := hlen
  have hwords : maxBytes < 2 ^ 64 := hmax
  have hcenter : Word.saturatingAdd matchStart ((matchEnd - matchStart) / 2)
      = matchStart + (matchEnd - matchStart) / 2 := by
    apply Word.saturatingAdd_eq
    unfold Word.size
    omega
  unfold boundedWindowChecked boundedWindow
  simp only [hcenter]
  generalize hstart : matchStart + (matchEnd - matchStart) / 2 - maxBytes / 2 = start
  have hsum : Word.add start maxBytes = some (start + maxBytes) := by
    apply Word.add_eq_some
    unfold Word.size
    omega
  have hsize : Word.sub (min (start + maxBytes) text.utf8ByteSize) start
      = some (min (start + maxBytes) text.utf8ByteSize - start) := by
    apply Word.sub_eq_some
    omega
  have hstop : min (start + maxBytes) text.utf8ByteSize ≤ text.utf8ByteSize := by omega
  simp only [hsum, Option.bind_eq_bind, Option.bind_some, hsize]
  split
  next hshort =>
    rw [Word.sub_eq_some (by omega)]
    simp only [Option.bind_some, Option.pure_def, ceilBoundaryChecked_eq hlen,
      floorBoundaryChecked_eq hstop]
  . simp only [Option.bind_some, Option.pure_def, ceilBoundaryChecked_eq hlen,
      floorBoundaryChecked_eq hstop]

end Elf

/-! ## Spans of a message -/

namespace Elf

open Text

/-- `text.rfind('\n')` -/
def rfindNewline (text : String) : Option Nat :=
  let line := text.toList.rdropWhile (· != '\n')
  if line.isEmpty then none else some (byteSize line - 1)

def spanLimitTooSmall : Error :=
  .invalidRequest "Evidence byte limit cannot hold a source character."

/-- Where the span that begins at `start` ends. -/
def spanEnd (text : String) (maxBytes start : Nat) : Option (Except Error Nat) := do
  let len := text.utf8ByteSize
  let stop := min (← Word.add start maxBytes) len
  let stop ← floorBoundaryChecked text 0 len stop
  if stop = start then
    return .error spanLimitTooSmall
  else if stop < len then do
    let window ← sliceBytes text start stop
    match rfindNewline window with
    | some newline => do
      let found ← Word.add start newline
      return .ok (← Word.add found 1)
    | none => return .ok stop
  else
    return .ok stop

/-- The loop from the offset `start` on, with at most `fuel` tests of its condition. -/
def spansFrom (text : String) (maxBytes : Nat) : Nat → Nat → Option (Except Error (List String))
  | 0, _ => none
  | fuel + 1, start =>
    if start < text.utf8ByteSize then
      match spanEnd text maxBytes start with
      | none => none
      | some (.error e) => some (.error e)
      | some (.ok stop) => do
        let span ← sliceBytes text start stop
        let spans ← spansFrom text maxBytes fuel stop
        return spans.map (span :: ·)
    else
      some (.ok [])

def evidenceSpansBytes (fuel : Nat) (messages : List String) (maxBytes : Nat)
    : Option (Except Error (List (List String))) :=
  Except.mapChecked (fun text => spansFrom text maxBytes fuel 0) messages

/-- The spans of a message with their ids, as the extractor gets them. -/
def spanEntries (pieces : List String) : List (Nat × String) :=
  pieces.zipIdx.map fun item => (item.2, item.1)

/-- `pieces.get(first..=last)` -/
def getInclusive (pieces : List α) (first last : Nat) : Option (List α) :=
  if last = Word.size - 1 then none
  else if first ≤ last + 1 ∧ last + 1 ≤ pieces.length then
    some ((pieces.take (last + 1)).drop first)
  else none

def sumBytes (start : Nat) : List String → Option Nat
  | [] => some start
  | piece :: pieces => (Word.add start piece.utf8ByteSize).bind fun sum => sumBytes sum pieces

def resolveSelectionBytes (spans : List (List String)) (selection : EvidenceSelection)
    : Option (Except Error EvidenceQuote) :=
  let last := selection.endSpanId.getD selection.spanId
  let selected := spans[selection.messageIndex]?.bind fun pieces =>
    getInclusive pieces selection.spanId last
  match selected.filter fun pieces => !pieces.isEmpty with
  | none => some (.error unknownSelection)
  | some selected => do
    let quote := String.join selected
    let pieces ← spans[selection.messageIndex]?
    let before ← if selection.spanId ≤ pieces.length then some (pieces.take selection.spanId) else none
    let start ← sumBytes 0 before
    let stop ← Word.add start quote.utf8ByteSize
    return .ok ⟨some ⟨start, stop⟩, selection.messageIndex, quote⟩

def ExtractedEvidence.resolveBytes (spans : List (List String)) : ExtractedEvidence
    → Option (Except Error EvidenceQuote)
  | .selection chosen => resolveSelectionBytes spans chosen
  | .quote index text => some (.ok ⟨none, index, text⟩)

def ExtractorNote.resolveBytes (spans : List (List String)) (note : ExtractorNote)
    : Option (Except Error ExtractedNote) :=
  match note.evidence with
  | some evidence =>
    (Except.mapChecked (ExtractedEvidence.resolveBytes spans) evidence).map fun quotes =>
      quotes.map fun quotes => { note.note with evidence := some quotes }
  | none => some (.ok { note.note with evidence := none })

def resolveSelectionsBytes (spans : List (List String)) (notes : List ExtractorNote)
    : Option (Except Error (List ExtractedNote)) :=
  Except.mapChecked (ExtractorNote.resolveBytes spans) notes

end Elf
