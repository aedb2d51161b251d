import Elf.Lib.F32
import Elf.Lib.Json
import Elf.Lib.Text
import Mathlib.Data.List.Sort

/-!
This module contains the part of the configuration that note operations read and the checks a note
passes before it is written: the format of its texts, the write policy that cuts spans out of the text,
and the write gate. Replacing a range of a text panics when the ends of the range are no character
boundaries, so that the policy is applied to a text which may be lost.
-/

namespace Elf

/-- Scope-level write toggles. -/
structure ScopeWriteAllowed where
  agentPrivate : Bool
  projectShared : Bool
  orgShared : Bool

structure Scopes where
  allowed : List String
  writeAllowed : ScopeWriteAllowed

/-- Default time to live in days by note type, where values that are not positive mean none. -/
structure TtlDays where
  plan : Int
  fact : Int
  preference : Int
  constraint : Int
  decision : Int
  profile : Int

structure MemoryPolicyRule where
  noteType : Option String
  scope : Option String
  minConfidence : Option F32
  minImportance : Option F32

structure Config where
  scopes : Scopes
  ttlDays : TtlDays
  policyRules : List MemoryPolicyRule
  ingestMaxBytes : Nat
  /-- What `embedding_version` formats from the provider, the model and the vector size. -/
  embeddingVersion : String

/-- Whether the configuration allows writes to a scope. -/
def ScopeWriteAllowed.allows (w : ScopeWriteAllowed) : String → Bool
  | "agent_private" => w.agentPrivate
  | "project_shared" => w.projectShared
  | "org_shared" => w.orgShared
  | _ => false

theorem ScopeWriteAllowed.allows_scope {w : ScopeWriteAllowed} (h : w.allows scope = true)
    : scope = "agent_private" ∨ scope = "project_shared" ∨ scope = "org_shared" := by
  unfold allows at h
  split at h
  . exact Or.inl rfl
  . exact Or.inr (Or.inl rfl)
  . exact Or.inr (Or.inr rfl)
  . cases h

/-! ## Checks of a note -/

open Text

/-- Input roles: identifiers exclude invisible directional controls as well. -/
inductive TextKind where
  | naturalLanguage
  | identifier
deriving DecidableEq

/-- The Unicode category `Cc`. -/
def isControl (c : Char) : Bool :=
  c.toNat ≤ 0x1F || (0x7F ≤ c.toNat && c.toNat ≤ 0x9F)

def isInvisibleFormat (c : Char) : Bool :=
  let n := c.toNat
  n == 0x200B || n == 0x2060 || n == 0xFEFF || (0x202A ≤ n && n ≤ 0x202E)
    || (0x2066 ≤ n && n ≤ 0x2069)

/-- `text_validation::validate`. -/
def validateText (input : String) (kind : TextKind) : Bool :=
  input.toList.all fun c =>
    !(isControl c && !(c = '\n' || c = '\r' || c = '\t'))
      && !(kind = .identifier && isInvisibleFormat c)

def isValidText (input : String) : Bool := validateText input .naturalLanguage

def isValidIdentifier (input : String) : Bool := validateText input .identifier

/-- A key as it stands in a JSON path: backslashes and quotes escaped. -/
def escapePathKey (key : String) : String :=
  (key.replace "\\" "\\\\").replace "\"" "\\\""

mutual

/-- The JSON path of the first string that is not valid text. -/
def findInvalidPath (value : Json) (path : String) : Option String :=
  match value with
  | .str text => if isValidText text then none else some path
  | .arr items => findInvalidItem items path 0
  | .obj entries => findInvalidEntry entries path
  | _ => none

def findInvalidItem (items : List Json) (path : String) (idx : Nat) : Option String :=
  match items with
  | [] => none
  | item :: items =>
    match findInvalidPath item (path ++ "[" ++ toString idx ++ "]") with
    | some found => some found
    | none => findInvalidItem items path (idx + 1)

def findInvalidEntry (entries : List (String × Json)) (path : String) : Option String :=
  match entries with
  | [] => none
  | (key, value) :: entries =>
    match findInvalidPath value (path ++ "[\"" ++ escapePathKey key ++ "\"]") with
    | some found => some found
    | none => findInvalidEntry entries path

end

/-- Half-open byte span within a text. -/
structure WriteSpan where
  start : Nat
  stop : Nat
deriving DecidableEq

inductive WriteRedaction where
  | replace (span : WriteSpan) (replacement : String)
  | remove (span : WriteSpan)

structure WritePolicy where
  exclusions : List WriteSpan
  redactions : List WriteRedaction

inductive WritePolicyError where
  | invalidSpan
  | overlappingOps
deriving DecidableEq

/-- Split a text at a byte offset, if that is a character boundary. -/
def splitAtByte (text : List Char) (offset : Nat) : Option (List Char × List Char) :=
  match offset, text with
  | 0, text => some ([], text)
  | _ + 1, [] => none
  | offset + 1, c :: text =>
    if c.utf8Size ≤ offset + 1 then
      (splitAtByte text (offset + 1 - c.utf8Size)).map fun (left, right) => (c :: left, right)
    else
      none

def validateSpan (text : List Char) (span : WriteSpan) : Bool :=
  decide (span.start ≤ span.stop) && (splitAtByte text span.start).isSome
    && (splitAtByte text span.stop).isSome

/-- `String::replace_range`, for a span that was validated. -/
def replaceRange (text : List Char) (span : WriteSpan) (replacement : String) : List Char :=
  match splitAtByte text span.start, splitAtByte text span.stop with
  | some (left, _), some (_, right) => left ++ replacement.toList ++ right
  | _, _ => text

def validateNonOverlappingOps (ops : List (WriteSpan × String)) (lastEnd : Nat) : Bool :=
  match ops with
  | [] => true
  | (span, _) :: ops => decide (lastEnd ≤ span.start) && validateNonOverlappingOps ops span.stop

def spanLe (a b : WriteSpan × String) : Prop :=
  a.1.start < b.1.start ∨ (a.1.start = b.1.start ∧ a.1.stop ≤ b.1.stop)

instance : DecidableRel spanLe := fun a b =>
  inferInstanceAs (Decidable (a.1.start < b.1.start ∨ (a.1.start = b.1.start ∧ a.1.stop ≤ b.1.stop)))

def WriteRedaction.op : WriteRedaction → WriteSpan × String
  | .replace span replacement => (span, replacement)
  | .remove span => (span, "")

/--
Apply an optional write policy: the spans are checked, sorted and cut out from the end of the text
to its start, so that the offsets of the spans still to come stay valid.
-/
def applyWritePolicy (text : String) (policy : Option WritePolicy)
    : Except WritePolicyError String :=
  match policy with
  | none => .ok text
  | some policy =>
    let exclusions := (policy.exclusions.map fun span => (span, "")).insertionSort spanLe
    let redactions := (policy.redactions.map WriteRedaction.op).insertionSort spanLe
    let ops := (exclusions ++ redactions).insertionSort spanLe
    if !ops.all (fun op => validateSpan text.toList op.1) then
      .error .invalidSpan
    else if !validateNonOverlappingOps ops 0 then
      .error .overlappingOps
    else
      .ok (String.ofList (ops.foldr (fun op chars => replaceRange chars op.1 op.2) text.toList))

inductive RejectCode where
  | rejectInvalidText
  | rejectSecret
  | rejectInvalidType
  | rejectScopeDenied
  | rejectEmpty
deriving DecidableEq

def writegateReasonCode : RejectCode → String
  | .rejectInvalidText => "REJECT_INVALID_TEXT"
  | .rejectSecret => "REJECT_SECRET"
  | .rejectInvalidType => "REJECT_INVALID_TYPE"
  | .rejectScopeDenied => "REJECT_SCOPE_DENIED"
  | .rejectEmpty => "REJECT_EMPTY"

/-- The note type, scope and text that pass through the write gate. -/
structure NoteInput where
  noteType : String
  scope : String
  text : String

def isAllowedType (noteType : String) : Bool :=
  ["preference", "constraint", "decision", "profile", "fact", "plan"].contains noteType

/--
Check a note against the write gate. `containsSecrets` are the regular expressions for secrets.
-/
def writegate (containsSecrets : String → Bool) (cfg : Config) (note : NoteInput)
    : Except RejectCode Unit :=
  if isBlank note.text then
    .error .rejectEmpty
  else if !isValidText note.text then
    .error .rejectInvalidText
  else if !isAllowedType note.noteType then
    .error .rejectInvalidType
  else if !cfg.scopes.allowed.contains note.scope then
    .error .rejectScopeDenied
  else if !cfg.scopes.writeAllowed.allows note.scope then
    .error .rejectScopeDenied
  else if containsSecrets note.text then
    .error .rejectSecret
  else
    .ok ()

variable {containsSecrets : String → Bool} {cfg : Config} {note : NoteInput}

/-- What the write gate lets through. -/
theorem writegate_ok (h : writegate containsSecrets cfg note = .ok ())
    : isBlank note.text = false ∧ isValidText note.text = true ∧ isAllowedType note.noteType = true
      ∧ cfg.scopes.allowed.contains note.scope = true
      ∧ cfg.scopes.writeAllowed.allows note.scope = true ∧ containsSecrets note.text = false := by
  unfold writegate at h
  repeat' split at h
  all_goals simp_all

theorem isBlank_of_isAllowedType (h : isAllowedType noteType = true)
    : isBlank noteType = false := by
  simp only [isAllowedType, List.contains_eq_mem, List.mem_cons, List.not_mem_nil, or_false,
    decide_eq_true_eq] at h
  rcases h with rfl | rfl | rfl | rfl | rfl | rfl <;> decide

theorem isBlank_of_allows {w : ScopeWriteAllowed} (h : w.allows scope = true)
    : isBlank scope = false := by
  rcases w.allows_scope h with rfl | rfl | rfl <;> decide

/-- The scopes that may be written are their own trim. -/
theorem trim_of_allows {w : ScopeWriteAllowed} (h : w.allows scope = true) : trim scope = scope := by
  rcases w.allows_scope h with rfl | rfl | rfl <;> decide

/-! ## Audits -/

/-- What a write policy did to a text. -/
structure WritePolicyAudit where
  exclusions : List WriteSpan
  redactions : List (WriteSpan × String)
deriving DecidableEq

def WritePolicy.audit (policy : WritePolicy) : WritePolicyAudit :=
  ⟨((policy.exclusions.map fun span => (span, "")).insertionSort spanLe).map Prod.fst,
    (policy.redactions.map WriteRedaction.op).insertionSort spanLe⟩

structure WritePolicyResult where
  transformed : String
  audit : WritePolicyAudit
deriving DecidableEq

def WritePolicyAudit.default : WritePolicyAudit := ⟨[], []⟩

-- `String::replace_range`, `none` where it panics.
def replaceRange? (text : List Char) (span : WriteSpan) (replacement : String)
    : Option (List Char) :=
  if span.start ≤ span.stop then
    match splitAtByte text span.start, splitAtByte text span.stop with
    | some (left, _), some (_, right) => some (left ++ replacement.toList ++ right)
    | _, _ => none
  else
    none

/-- The last operation first. -/
def replaceRanges? (text : List Char) : List (WriteSpan × String) → Option (List Char)
  | [] => some text
  | op :: ops =>
    match replaceRanges? text ops with
    | some text => replaceRange? text op.1 op.2
    | none => none

/-- `apply_write_policy`, `none` where it panics. -/
def applyWritePolicyWithAudit (text : String) (policy : Option WritePolicy)
    : Option (Except WritePolicyError WritePolicyResult) :=
  match policy with
  | none => some (.ok ⟨text, .default⟩)
  | some policy =>
    if policy.exclusions.isEmpty ∧ policy.redactions.isEmpty then
      some (.ok ⟨text, .default⟩)
    else
      let exclusions := (policy.exclusions.map fun span => (span, "")).insertionSort spanLe
      let redactions := (policy.redactions.map WriteRedaction.op).insertionSort spanLe
      let ops := (exclusions ++ redactions).insertionSort spanLe
      if !(exclusions ++ redactions).all (fun op => validateSpan text.toList op.1) then
        some (.error .invalidSpan)
      else if !validateNonOverlappingOps ops 0 then
        some (.error .overlappingOps)
      else
        match replaceRanges? text.toList ops with
        | some transformed => some (.ok ⟨String.ofList transformed, policy.audit⟩)
        | none => none

end Elf
