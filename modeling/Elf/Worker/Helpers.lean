import Elf.Lib.JobQueue
import Elf.Service.History
import Elf.Lib.Text
import Mathlib.Data.List.Infix

/-!
This module contains what the handlers of the worker's queues have in common: how long a job is leased
for, when one that failed is tried again, what is taken out of the text of its error before it is
stored, and the checks of an embedding.
-/

namespace Elf

inductive WorkerError where
  | message (text : String)
  | validation (text : String)
deriving DecidableEq

def seconds (n : Nat) : Nat := 1000000000 * n

def milliseconds (n : Nat) : Nat := 1000000 * n

def claimLeaseSeconds : Nat := 30
def baseBackoffMs : Nat := 500
def maxBackoffMs : Nat := 30000

def backoffForAttempt (attempt : Nat) : Nat :=
  let attempts := max attempt 1
  let exp := min (attempts - 1) 6
  milliseconds (min (baseBackoffMs * 2 ^ exp) maxBackoffMs)

/-- `attempts.saturating_add(1)` -/
def nextAttempts (attempts : Nat) : Nat := min (attempts + 1) (2 ^ 31 - 1)

def validateVectorDim (vec : List F32) (expectedDim : Nat) : Except WorkerError Unit :=
  Except.rejectIf (vec.length ≠ expectedDim) (.validation
    ("Embedding dimension " ++ toString vec.length ++ " does not match configured vector_dim "
      ++ toString expectedDim ++ "."))

/-! ## Errors of failed jobs -/

open Text

def maxOutboxErrorChars : Nat := 1024

def sensitiveKeys : List String := ["api_key", "apikey", "password", "secret", "token"]

def redactedText : List Char := "[REDACTED]".toList

def truncationMarker : List Char := "...".toList

def isBearer (raw : List Char) : Bool := raw.map Char.toLower == "bearer".toList

/-- The word has one of the keys and one of the separators in it. -/
def isSensitive (raw : List Char) : Bool :=
  let lowered := raw.map Char.toLower
  (sensitiveKeys.any fun key => decide (key.toList <:+: lowered))
    && (lowered.contains '=' || lowered.contains ':')

def sanitizeWord (redactNext : Bool) (raw : List Char) : List Char :=
  if isSensitive raw then
    let sep := if raw.contains '=' then '=' else ':'
    raw.takeWhile (fun c => c != sep) ++ sep :: redactedText
  else if redactNext then
    redactedText
  else
    raw

def sanitizeWords (redactNext : Bool) : List (List Char) → List (List Char)
  | [] => []
  | raw :: rest => sanitizeWord redactNext raw :: sanitizeWords (isBearer raw) rest

def sanitizeOutboxError (text : String) : String :=
  let out := [' '].intercalate (sanitizeWords false (splitWhitespace text))
  if maxOutboxErrorChars < out.length then
    String.ofList (out.take maxOutboxErrorChars ++ truncationMarker)
  else
    String.ofList out

end Elf
