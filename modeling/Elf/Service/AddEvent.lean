import Elf.Docs.Excerpts
import Elf.Service.AddNote
import Mathlib.Data.List.Infix

/-!
This module contains what `add_event` does with one note that was extracted from an event. Such a
note has no key of its own, so it never replaces a stored one.
-/

namespace Elf

open Text Except

structure EvidenceQuote where
  /-- The span of the quote in its message, where the service resolved it. -/
  position : Option TextPositionSelector
  messageIndex : Nat
  quote : String

structure ExtractedNote where
  type : Option String
  key : Option String
  text : Option String
  structured : Option StructuredFields
  importance : Option F32
  confidence : Option F32
  ttlDays : Option Int
  scopeSuggestion : Option String
  evidence : Option (List EvidenceQuote)
  reason : Option String

structure AddEventRequest where
  tenantId : String
  projectId : String
  agentId : String
  scope : Option String
  dryRun : Option Bool

structure AddEventResult extends AddNoteResult where
  reason : Option String

/-- The fields of an extracted note with the defaults of the missing ones. -/
structure NoteProcessingData where
  noteType : String
  text : String
  structured : Option StructuredFields
  importance : F32
  confidence : F32
  reason : Option String
  ttlDays : Option Int
  scope : String
  evidence : List EvidenceQuote

/--
The event that a note was extracted from, and the checks on it that are not modelled further: those
of the structured fields and of the source documents, and how the evidence is recorded.
-/
structure EventIngestion where
  messageTexts : List String
  messagePolicyApplied : List Bool
  evidenceMinQuotes : Nat
  validateStructuredFields : StructuredFields → String → List EvidenceQuote → Except Error Unit
  validateEventSourceDocuments : String → List EvidenceQuote → Except Error Unit
  sourceRef : ExtractedNote → NoteProcessingData → Except Error Json

def NoteProcessingData.fromRequestAndNote (req : AddEventRequest) (note : ExtractedNote)
    : NoteProcessingData := {
  noteType := note.type.getD ""
  text := note.text.getD ""
  structured := note.structured
  importance := note.importance.getD (.fin 0)
  confidence := note.confidence.getD (.fin 0)
  reason := note.reason
  ttlDays := note.ttlDays
  scope := (req.scope <|> note.scopeSuggestion).getD ""
  evidence := note.evidence.getD [] }

def AddEventRequest.effectiveProjectId (req : AddEventRequest) (scope : String) : String :=
  if trim scope = "org_shared" then orgProjectId else req.projectId

def AddEventRequest.context (svc : ElfService) (req : AddEventRequest) (scope : String)
    (now : Nat) : AddNoteContext := {
  tenantId := req.tenantId
  projectId := req.effectiveProjectId scope
  agentId := req.agentId
  scope
  now
  embedVersion := svc.cfg.embeddingVersion }

/-! ## Rejections -/

def rejectEvidenceMismatch : String := "REJECT_EVIDENCE_MISMATCH"
def rejectEvidenceQuoteCount : String := "REJECT_EVIDENCE_QUOTE_COUNT"
def rejectWritePolicyMismatch : String := "REJECT_WRITE_POLICY_MISMATCH"

def rejectedEvent (reasonCode reason fieldPath : Option String) : AddEventResult := {
  noteId := none
  op := .rejected
  policyDecision := .reject
  reasonCode
  fieldPath
  reason }

def evidenceMatches (messages : List String) (index : Nat) (quote : String) : Bool :=
  if isBlank quote then
    false
  else
    messages[index]?.any fun message => decide (quote.toList <:+: message.toList)

def rejectExtractedNoteIfEvidenceInvalid (event : EventIngestion) (reason : Option String)
    (evidence : List EvidenceQuote) : Option AddEventResult :=
  if evidence.isEmpty || evidence.length < event.evidenceMinQuotes then
    some (rejectedEvent (some rejectEvidenceQuoteCount)
      (some ("Expected at least " ++ toString (max event.evidenceMinQuotes 1)
        ++ " evidence quotes; received " ++ toString evidence.length ++ "."))
      (some "evidence"))
  else
    evidence.zipIdx.findSome? fun (quote, index) =>
      if evidenceMatches event.messageTexts quote.messageIndex quote.quote then
        none
      else
        let applied := event.messagePolicyApplied.getD quote.messageIndex false
        some (rejectedEvent
          (some (if applied then rejectWritePolicyMismatch else rejectEvidenceMismatch)) reason
          (some ("evidence[" ++ toString index ++ "].quote")))

def rejectExtractedNoteIfStructuredInvalid (event : EventIngestion) (data : NoteProcessingData)
    : Option AddEventResult :=
  match data.structured.filter (!·.isEffectivelyEmpty) with
  | none => none
  | some structured =>
    match event.validateStructuredFields structured data.text data.evidence with
    | .ok () => none
    | .error err =>
      some (rejectedEvent (some rejectStructuredInvalid) data.reason
        (extractStructuredRejectionFieldPath err))

def rejectExtractedNoteIfWritegateRejects (svc : ElfService) (data : NoteProcessingData)
    : Option AddEventResult :=
  match writegate svc.containsSecrets svc.cfg ⟨data.noteType, data.scope, data.text⟩ with
  | .ok () => none
  | .error code => some (rejectedEvent (some (writegateReasonCode code)) data.reason none)

def extractedNoteRejection (svc : ElfService) (event : EventIngestion) (data : NoteProcessingData)
    : Option AddEventResult :=
  match rejectExtractedNoteIfEvidenceInvalid event data.reason data.evidence with
  | some result => some result
  | none =>
    match rejectExtractedNoteIfStructuredInvalid event data with
    | some result => some result
    | none => rejectExtractedNoteIfWritegateRejects svc data

/-! ## Materialization -/

structure PersistExtractedNoteArgs where
  ctx : AddNoteContext
  data : NoteProcessingData
  key : Option String
  expiresAt : Option Nat
  sourceRef : Json

def PersistExtractedNoteArgs.memoryNote (args : PersistExtractedNoteArgs) (noteId : Uuid)
    : MemoryNote := {
  noteId
  tenantId := args.ctx.tenantId
  projectId := args.ctx.projectId
  agentId := args.ctx.agentId
  scope := args.ctx.scope
  type := args.data.noteType
  key := args.key
  text := args.data.text
  importance := args.data.importance
  confidence := args.data.confidence
  status := "active"
  createdAt := args.ctx.now
  updatedAt := args.ctx.now
  expiresAt := args.expiresAt
  embeddingVersion := args.ctx.embedVersion
  sourceRef := args.sourceRef
  hitCount := 0
  lastHitAt := none }

def upsertExtractedFields (s : Store) (draw : Draw) (data : NoteProcessingData) (noteId : Uuid)
    (now : Nat) : Except Error Store :=
  match data.structured.filter (!·.isEffectivelyEmpty) with
  | some structured => do
    let fields ← upsertStructuredFieldsTx s.fields draw.fieldId noteId structured now
    return { s with fields }
  | none => .ok s

def persistExtractedNoteAdd (svc : ElfService) (draw : Draw) (s : Store)
    (args : PersistExtractedNoteArgs) (noteId : Uuid) : Except Error Store := do
  let s ← ensureActiveProjectScopeGrant s draw.grantId args.ctx.tenantId args.ctx.projectId
    args.ctx.scope args.ctx.agentId (draw.clock 1)
  let memoryNote := args.memoryNote noteId
  let s ← insertMemoryNoteTx s memoryNote
  let s ← insertVersion s {
    versionId := draw.versionId
    noteId
    op := .add
    prevSnapshot := none
    newSnapshot := some (noteSnapshot memoryNote)
    reason := "add_event"
    actor := args.ctx.agentId
    ts := args.ctx.now }
  let s ← enqueueOutboxTx s draw.outboxId noteId .upsert args.ctx.embedVersion args.ctx.now
  let s ← upsertExtractedFields s draw args.data noteId args.ctx.now
  persistGraphFieldsIfPresent svc noteId args.data.structured
  return s

def persistExtractedNoteUpdate (svc : ElfService) (draw : Draw) (s : Store)
    (args : PersistExtractedNoteArgs) (noteId : Uuid) : Except Error Store := do
  let row ← ofOption (.storage "no rows returned") (s.notes.find? noteId)
  let s ← ensureActiveProjectScopeGrant s draw.grantId row.tenantId row.projectId row.scope
    row.agentId (draw.clock 1)
  let s := if row.text ≠ args.data.text then deleteNoteFields s noteId else s
  let existing := { row with
    text := args.data.text
    importance := args.data.importance
    confidence := args.data.confidence
    updatedAt := args.ctx.now
    expiresAt := args.expiresAt
    sourceRef := args.sourceRef }
  let s := updateNoteRow s noteId fun row => { row with
    text := existing.text
    importance := existing.importance
    confidence := existing.confidence
    updatedAt := existing.updatedAt
    expiresAt := existing.expiresAt
    sourceRef := existing.sourceRef }
  let s ← insertVersion s {
    versionId := draw.versionId
    noteId := existing.noteId
    op := .update
    prevSnapshot := some (noteSnapshot row)
    newSnapshot := some (noteSnapshot existing)
    reason := "add_event"
    actor := args.ctx.agentId
    ts := args.ctx.now }
  let s ← enqueueOutboxTx s draw.outboxId existing.noteId .upsert existing.embeddingVersion
    args.ctx.now
  let s ← upsertExtractedFields s draw args.data existing.noteId args.ctx.now
  persistGraphFieldsIfPresent svc existing.noteId args.data.structured
  return s

def persistExtractedNoteDecision (svc : ElfService) (draw : Draw) (s : Store)
    (args : PersistExtractedNoteArgs) (decision : UpdateDecision)
    (policyDecision : MemoryPolicyDecision)
    : Except Error ((AddEventResult × Option Uuid) × Store) :=
  match decision with
  | .add noteId _ => do
    let s ← persistExtractedNoteAdd svc draw s args noteId
    return ((⟨⟨some noteId, .add, policyDecision, none, none⟩, args.data.reason⟩,
      some draw.versionId), s)
  | .update noteId _ => do
    let s ← persistExtractedNoteUpdate svc draw s args noteId
    return ((⟨⟨some noteId, .update, policyDecision, none, none⟩, args.data.reason⟩,
      some draw.versionId), s)
  | .none noteId _ =>
    .ok ((⟨⟨some noteId, .none, policyDecision, none, none⟩, args.data.reason⟩, none), s)

/-! ## One extracted note -/

def resolvePolicyForExtracted (cfg : Config) (data : NoteProcessingData)
    (baseDecision : MemoryPolicyDecision) : MemoryPolicyDecision :=
  if baseDecision = .remember || baseDecision = .update then
    evaluateMemoryPolicy cfg data.noteType data.scope data.confidence data.importance baseDecision
  else
    .ignore

/-- Whether the note carries summaries, facts, concepts or graph fields. -/
def NoteProcessingData.structuredPresent (data : NoteProcessingData) : Bool :=
  data.structured.any fun fields => !fields.isEffectivelyEmpty || fields.hasGraphFields

/-- What the response says before anything is persisted. -/
def buildResultFromDecision (decision : UpdateDecision) (policyDecision : MemoryPolicyDecision)
    (data : NoteProcessingData) : AddEventResult :=
  match decision with
  | .add noteId _ => ⟨⟨some noteId, .add, policyDecision, none, none⟩, data.reason⟩
  | .update noteId _ => ⟨⟨some noteId, .update, policyDecision, none, none⟩, data.reason⟩
  | .none noteId _ =>
    ⟨⟨some noteId, if data.structuredPresent then .update else .none, policyDecision, none, none⟩,
      data.reason⟩

def applyPolicyIgnoreAdjustments (result : AddEventResult) (decision : UpdateDecision)
    (policyDecision : MemoryPolicyDecision) (ignoreReasonCode : Option String) : AddEventResult :=
  if policyDecision ≠ .ignore then
    result
  else
    { result with
      noteId :=
        match decision with
        | .add _ _ => none
        | .update _ _ | .none _ _ => result.noteId
      op := .none
      reasonCode := ignoreReasonCode }

/-- How an extracted note is looked up: always without a key. -/
def NoteProcessingData.resolveArgs (data : NoteProcessingData) (ctx : AddNoteContext)
    (sourceRef : Json) : ResolveUpdateArgs := {
  tenantId := ctx.tenantId
  projectId := ctx.projectId
  agentId := ctx.agentId
  scope := ctx.scope
  noteType := data.noteType
  key := none
  text := data.text
  sourceRef
  now := ctx.now }

def applyExtractedNoteDecision (svc : ElfService) (event : EventIngestion) (draw : Draw)
    (s : Store) (req : AddEventRequest) (ctx : AddNoteContext) (note : ExtractedNote)
    (data : NoteProcessingData) : Except Error (AddEventResult × Store) := do
  let sourceRef ← event.sourceRef note data
  let decision := resolveUpdate s (data.resolveArgs ctx sourceRef) draw.noteId
  let baseDecision := baseDecisionForUpdate decision
  let policyDecision := resolvePolicyForExtracted svc.cfg data baseDecision
  let ignoreReasonCode :=
    ignoreReasonCodeForPolicy baseDecision policyDecision decision.metadata.matchedDup
  let built := applyPolicyIgnoreAdjustments (buildResultFromDecision decision policyDecision data)
    decision policyDecision ignoreReasonCode
  let shouldApply := policyDecision = .remember || policyDecision = .update
  let args : PersistExtractedNoteArgs := {
    ctx
    data
    key := none
    expiresAt := computeExpiresAt data.ttlDays data.noteType svc.cfg ctx.now
    sourceRef }
  let outcome :=
    if shouldApply && !req.dryRun.getD false then
      persistExtractedNoteDecision svc draw s args decision policyDecision
    else
      .ok ((built, none), s)
  let ((result, versionId), s) ← outcome
  let s ← recordIngestDecision s draw.decisionId ctx data.noteType note.key versionId baseDecision
    result.toAddNoteResult
  return (result, s)

def deferredEvent : AddEventResult := {
  noteId := none
  op := .none
  policyDecision := .ignore
  reasonCode := some deferredIngestBudget
  fieldPath := none
  reason := some ("Candidate retained in extracted output but not persisted or queued. "
    ++ "Submit it separately within the processing budget.") }

def processExtractedNote (svc : ElfService) (event : EventIngestion) (req : AddEventRequest)
    (note : ExtractedNote) (now : Nat) (withinBudget : Bool) (draw : Draw)
    : Transaction Error Store AddEventResult := fun s => do
  let data := NoteProcessingData.fromRequestAndNote req note
  let ctx := req.context svc data.scope now
  match extractedNoteRejection svc event data with
  | some result =>
    let s ← recordIngestDecision s draw.decisionId ctx data.noteType note.key none .reject
      result.toAddNoteResult
    return (result, s)
  | none =>
    event.validateEventSourceDocuments data.scope data.evidence
    if !withinBudget then
      let s ← recordIngestDecision s draw.decisionId ctx data.noteType note.key none .ignore
        deferredEvent.toAddNoteResult
      return (deferredEvent, s)
    else
      applyExtractedNoteDecision svc event draw s req ctx note data

end Elf
