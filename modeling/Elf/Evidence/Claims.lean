import Elf.Docs.Excerpts
import Elf.Evidence.Sources
import Elf.Lib.Passes

/-!
This module contains references to ranges of documents: how one is read, and how it is resolved to the
text it refers to. It also contains how the claims of an answer are bound to their evidence: every
citation is read again, and a claim also rests on the citations of the earlier claims that it depends
on.
-/

namespace Elf

open Text

/-- A decimal number of 64 bits, which a plus sign may precede. -/
def parseUsize (s : String) : Option Nat :=
  let digits := match s.toList with
    | '+' :: digits => digits
    | digits => digits
  if digits ≠ [] ∧ digits.all Char.isDigit then
    some (digits.foldl (fun n c => 10 * n + (c.toNat - '0'.toNat)) 0) |>.filter (· < 2 ^ 64)
  else
    none

/-- `Hash::from_hex` and `to_hex`: the digits in lower case. -/
def parseHash (s : String) : Option String :=
  if s.toList.length = 64 then
    (s.toList.mapM Uuid.hexValue).map fun digits => String.ofList (digits.map Uuid.hexDigit)
  else
    none

structure SourceRange where
  docId : Uuid
  contentHash : String
  start : Nat
  stop : Nat
deriving DecidableEq

def parseParts (id hash start stop : String) : Option SourceRange := do
  let docId ← Uuid.parseStr id
  let contentHash ← parseHash hash
  let start ← parseUsize start
  let stop ← parseUsize stop
  if stop ≤ start ∨ defaultL2MaxBytes < stop - start then none
  else some ⟨docId, contentHash, start, stop⟩

/-- `reference::parse` -/
def parseReference (reference : String) : Option SourceRange :=
  if 192 < reference.utf8ByteSize then
    none
  else
    match (reference.toList.splitOn '/').map String.ofList with
    | ["elf-source-v1", id, hash, start, stop] => parseParts id hash start stop
    | _ => none

/-- The citation of a source, with the text that it quotes. -/
structure SourceCitation where
  docId : Uuid
  contentHash : String
  quote : String
deriving DecidableEq

def invalidSourceReference : Error := .invalidRequest "Invalid source reference."

variable (svc : ReadService)

def resolveEvidenceReference (db : DocStore) (context : ReadContext) (reference : String)
    : Except Error SourceCitation := do
  let range ← Except.ofOption invalidSourceReference (parseReference reference)
  let excerpt ← docsExcerptsGet svc db {
    context
    docId := range.docId
    level := "L2"
    maxBytes := none
    chunkId := none
    quote := none
    position := some ⟨range.start, range.stop⟩ }
  Except.rejectIf (!excerpt.verification.verified
      || excerpt.verification.contentHash ≠ range.contentHash)
    invalidSourceReference
  Except.rejectIf (range.start < excerpt.startOffset || range.stop < excerpt.startOffset)
    invalidSourceReference
  let quote ← Except.ofOption invalidSourceReference
    (sliceBytes excerpt.excerpt (range.start - excerpt.startOffset)
      (range.stop - excerpt.startOffset))
  Except.rejectIf (isBlank quote) invalidSourceReference
  return ⟨range.docId, range.contentHash, quote⟩

end Elf

/-! ## Claims -/

namespace Elf

open Text

def maxClaims : Nat := 12

def maxCitations : Nat := 8

inductive ClaimState where
  | supported
  | absent
  | unknown
  | conflict
deriving DecidableEq

inductive ClaimCitation where
  | reference (reference : String)
  | note (noteId : Uuid) (quote : String)
  | source (docId : Uuid) (contentHash : String) (quote : String)
deriving DecidableEq

structure ClaimEvidence where
  dependsOn : List Nat
  text : String
  state : ClaimState
  citations : List ClaimCitation

structure ClaimBinding where
  citationClaimIndices : List Nat
  claimIndex : Nat
  citationVerified : List Bool
  bindingVerified : Bool
  resolvedCitations : List (Option ClaimCitation)
deriving DecidableEq

structure EvidenceCheckRequest where
  tenantId : String
  projectId : String
  agentId : String
  readProfile : String
  claims : List ClaimEvidence

structure EvidenceCheckResponse where
  claims : List ClaimBinding
  semanticSupport : String

def EvidenceCheckRequest.context (req : EvidenceCheckRequest) : ReadContext :=
  ⟨req.tenantId, req.projectId, req.agentId, req.readProfile⟩

/-! ## Citations -/

variable (svc : ReadService)

def quoteTooLong (quote : String) : Bool := isBlank quote || 8192 < quote.utf8ByteSize

def verifyClaimCitation (db : DocStore) (now : Nat) (ctx : ReadContext)
    : ClaimCitation → Except Error Bool
  | .reference _ => .ok false
  | .note noteId quote =>
    if quoteTooLong quote then
      .ok false
    else do
      let note ← getNote svc db.memory now ⟨ctx.tenantId, ctx.projectId, ctx.agentId, noteId⟩
      let scopes ← resolveReadProfileScopes svc ctx.readProfile
      return scopes.contains note.scope && contains note.text quote
  | .source docId contentHash quote =>
    if quoteTooLong quote then
      .ok false
    else do
      let excerpt ← docsExcerptsGet svc db {
        context := ctx
        docId
        level := "L2"
        maxBytes := none
        chunkId := none
        quote := some ⟨quote, none, none⟩
        position := none }
      return excerpt.verification.verified && excerpt.verification.contentHash = contentHash
        && contains excerpt.excerpt quote

/-- The citation that one is resolved to, with the errors that the other citations do not outlive. -/
def resolveClaimCitation (db : DocStore) (now : Nat) (ctx : ReadContext) (citation : ClaimCitation)
    : Except Error (Option ClaimCitation) :=
  let resolved : Except Error (Option ClaimCitation) := match citation with
    | .reference reference => do
      let source ← resolveEvidenceReference svc db ctx reference
      return some (.source source.docId source.contentHash source.quote)
    | citation => do
      let verified ← verifyClaimCitation svc db now ctx citation
      return if verified then some citation else none
  match resolved with
  | .ok resolved => .ok resolved
  | .error e => if e.unreadable then .ok none else .error e

/-! ## Chains -/

/-- The citations of a claim while it is checked, in three vectors of one length. -/
structure Slots where
  resolved : List (Option ClaimCitation)
  verified : List Bool
  claimIndices : List Nat

def Slots.push (slots : Slots) (dependency : Nat) (citation : Option ClaimCitation) (verified : Bool)
    : Slots :=
  if citation.isSome && slots.resolved.contains citation then
    slots
  else
    ⟨slots.resolved ++ [citation], slots.verified ++ [verified], slots.claimIndices ++ [dependency]⟩

def dependencies (claims : List ClaimEvidence) (index : Nat) : List Nat :=
  (claims[index]?.map ClaimEvidence.dependsOn).getD []

/-- The direct slots of a premise: its own citations come first in its binding. -/
def Slots.pushPremise (claims : List ClaimEvidence) (bindings : List ClaimBinding) (slots : Slots)
    (dependency : Nat) : Slots :=
  match claims[dependency]?, bindings[dependency]? with
  | some claim, some prior =>
    ((prior.resolvedCitations.take claim.citations.length).zip prior.citationVerified).foldl
      (fun slots slot => slots.push dependency slot.1 slot.2) slots
  | _, _ => slots

def requiredPremises (claims : List ClaimEvidence) (claimIndex : Nat) : List Nat :=
  let required := Backward.sweep (dependencies claims) claimIndex
    fun dependency => (dependencies claims claimIndex).contains dependency
  (List.range claimIndex).filter required

def enoughCitations (state : ClaimState) (resolved : List (Option ClaimCitation)) : Bool :=
  match state with
  | .unknown => true
  | .conflict => 2 ≤ resolved.length
  | _ => !resolved.isEmpty

/-- The binding of a claim, after those of the claims before it. -/
def bindClaim (claims : List ClaimEvidence) (bindings : List ClaimBinding) (claimIndex : Nat)
    (claim : ClaimEvidence) (own : List (Option ClaimCitation)) : ClaimBinding :=
  let dependenciesBound := claim.dependsOn.all fun dependency =>
    bindings[dependency]?.any ClaimBinding.bindingVerified
  let slots : Slots := ⟨own, own.map Option.isSome, []⟩
  let slots :=
    if claim.dependsOn.isEmpty then
      slots
    else
      (requiredPremises claims claimIndex).foldl (Slots.pushPremise claims bindings)
        { slots with claimIndices := List.replicate own.length claimIndex }
  { citationClaimIndices := slots.claimIndices
    claimIndex
    citationVerified := slots.verified
    bindingVerified := dependenciesBound && enoughCitations claim.state slots.resolved
      && slots.verified.all id
    resolvedCitations := slots.resolved }

/-! ## Checks -/

/-- The own citations of the claim with the index, each read at a time of its own. -/
def resolveCitations (resolve : Nat → Nat → ClaimCitation → Except Error (Option ClaimCitation))
    (claimIndex : Nat) (claim : ClaimEvidence) : Except Error (List (Option ClaimCitation)) :=
  claim.citations.zipIdx.mapM fun (citation, index) => resolve claimIndex index citation

def checkClaims (resolve : Nat → Nat → ClaimCitation → Except Error (Option ClaimCitation))
    (claims : List ClaimEvidence)
    : List ClaimEvidence → List ClaimBinding → Except Error (List ClaimBinding)
  | [], bindings => .ok bindings
  | claim :: rest, bindings => do
    let own ← resolveCitations resolve bindings.length claim
    checkClaims resolve claims rest
      (bindings ++ [bindClaim claims bindings bindings.length claim own])

def validateClaims (claims : List ClaimEvidence) : Except Error Unit := do
  Except.rejectIf (claims.isEmpty || maxClaims < claims.length || claims.any fun claim =>
      isBlank claim.text || 8192 < claim.text.utf8ByteSize || maxCitations < claim.citations.length)
    (.invalidRequest
      "Supply 1 to 12 nonempty claims, at most 8192 bytes and 8 citations each.")
  Except.rejectIf (claims.zipIdx.any fun (claim, index) =>
      maxClaims < claim.dependsOn.length || claim.dependsOn.any fun dependency => index ≤ dependency)
    (.invalidRequest "Claim dependencies must refer to earlier claim indices.")

/-- How a request reads its citations, each from the database and at the time that it finds. -/
def EvidenceCheckRequest.resolve (req : EvidenceCheckRequest) (reads : Nat → Nat → DocStore × Nat)
    (claimIndex index : Nat) (citation : ClaimCitation) : Except Error (Option ClaimCitation) :=
  resolveClaimCitation svc (reads claimIndex index).1 (reads claimIndex index).2 req.context citation

def evidenceCheck (reads : Nat → Nat → DocStore × Nat) (req : EvidenceCheckRequest)
    : Except Error EvidenceCheckResponse := do
  let _ ← resolveReadProfileScopes svc req.readProfile
  validateClaims req.claims
  let bindings ← checkClaims (req.resolve svc reads) req.claims req.claims []
  return ⟨bindings, "not_evaluated"⟩

end Elf
