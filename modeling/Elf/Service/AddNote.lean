import Elf.Storage.Models
import Elf.Lib.JsonText
import Elf.Service.History
import Mathlib.Data.List.Destutter
import Elf.Service.Access
import Elf.Service.StructuredFields

/-!
This module contains `add_note`: the memory policy, which can turn the decision to write a note into the
decision to ignore it, how the note is found that a request repeats or replaces, the validation of a
request, and for each of its notes one transaction that inserts or updates a row. Only an explicit key
authorizes replacement. Equality without a key includes the source of the text.
-/

namespace Elf

def dayNanoseconds : Nat := 86400000000000

def TtlDays.forType (ttl : TtlDays) : String → Int
  | "plan" => ttl.plan
  | "fact" => ttl.fact
  | "preference" => ttl.preference
  | "constraint" => ttl.constraint
  | "decision" => ttl.decision
  | "profile" => ttl.profile
  | _ => 0

def computeExpiresAt (ttlDays : Option Int) (noteType : String) (cfg : Config) (now : Nat)
    : Option Nat :=
  let days :=
    match ttlDays.filter (0 < ·) with
    | some value => value
    | none => cfg.ttlDays.forType noteType
  if 0 < days then some (now + days.toNat * dayNanoseconds) else none

namespace MemoryPolicyRule

def matchesExact (rule : MemoryPolicyRule) (noteType scope : String) : Bool :=
  rule.noteType = some noteType && rule.scope = some scope

def matchesNoteType (rule : MemoryPolicyRule) (noteType : String) : Bool :=
  rule.noteType = some noteType && rule.scope.isNone

def matchesScope (rule : MemoryPolicyRule) (scope : String) : Bool :=
  rule.noteType.isNone && rule.scope = some scope

end MemoryPolicyRule

def selectMemoryPolicyRule (cfg : Config) (noteType scope : String) : Option MemoryPolicyRule :=
  cfg.policyRules.find? (·.matchesExact noteType scope)
    <|> cfg.policyRules.find? (·.matchesNoteType noteType)
    <|> cfg.policyRules.find? (·.matchesScope scope)
    <|> cfg.policyRules.find? (fun rule => rule.noteType.isNone && rule.scope.isNone)

/-- The score is below the minimum, or is not finite. -/
def belowMinimum (score : F32) (minimum : Option F32) : Bool :=
  match minimum with
  | some minimum => !score.isFinite || score.lt minimum
  | none => false

def shouldDowngrade (rule : Option MemoryPolicyRule) (confidence importance : F32) : Bool :=
  match rule with
  | some rule =>
    belowMinimum confidence rule.minConfidence || belowMinimum importance rule.minImportance
  | none => false

def evaluateMemoryPolicy (cfg : Config) (noteType scope : String) (confidence importance : F32)
    (baseDecision : MemoryPolicyDecision) : MemoryPolicyDecision :=
  let rule := selectMemoryPolicyRule cfg noteType scope
  if (baseDecision = .remember || baseDecision = .update)
      && shouldDowngrade rule confidence importance then
    .ignore
  else
    baseDecision

/-! ## The note that a request is about -/

open Text

structure UpdateDecisionMetadata where
  keyMatch : Bool
  matchedDup : Bool

inductive UpdateDecision where
  | add (noteId : Uuid) (metadata : UpdateDecisionMetadata)
  | update (noteId : Uuid) (metadata : UpdateDecisionMetadata)
  | none (noteId : Uuid) (metadata : UpdateDecisionMetadata)

namespace UpdateDecision

def noteId : UpdateDecision → Uuid
  | add noteId _ | update noteId _ | none noteId _ => noteId

def metadata : UpdateDecision → UpdateDecisionMetadata
  | add _ metadata | update _ metadata | none _ metadata => metadata

end UpdateDecision

structure ResolveUpdateArgs where
  tenantId : String
  projectId : String
  agentId : String
  scope : String
  noteType : String
  key : Option String
  text : String
  sourceRef : Json
  now : Nat

/-- The key that the lookup compares: trimmed, and none when blank. -/
def lookupKey (key : Option String) : Option String :=
  (key.map trim).filter (· ≠ "")

/-- The part of an evidence item that identifies its source. -/
def evidenceIdentity (item : Json) : Json :=
  let source := item.index "source"
  if source.index "schema" ≠ .str "elf.event_source/v1" then
    item
  else
    .obj [
      ("content_hash", source.index "content_hash"),
      ("document", source.index "document"),
      ("message_id", source.index "message_id"),
      ("role", source.index "role"),
      ("timestamp", source.index "timestamp")]

def sourceIdentity (sourceRef : Json) : Json :=
  match (sourceRef.get "evidence").bind Json.asArr with
  | none => sourceRef
  | some [] => sourceRef
  | some evidence =>
    let sources := evidence.map evidenceIdentity
    .arr ((sources.insertionSort fun a b =>
      String.ofList a.compact ≤ String.ofList b.compact).destutter (· ≠ ·))

/-- The `WHERE` clause of the lookup. -/
def ResolveUpdateArgs.matches (args : ResolveUpdateArgs) (note : MemoryNote) : Bool :=
  note.tenantId = args.tenantId && note.projectId = args.projectId && note.agentId = args.agentId
    && note.scope = args.scope && note.type = args.noteType && note.status = "active"
    && !note.expired (timestamptz args.now)
    && match lookupKey args.key with
      | some key => note.key = some key
      | none => note.key = none && note.text = args.text

/-- `ORDER BY created_at, note_id`. -/
def candidateLe (a b : MemoryNote) : Prop :=
  a.createdAt < b.createdAt ∨ (a.createdAt = b.createdAt ∧ a.noteId ≤ b.noteId)

instance : DecidableRel candidateLe := fun a b =>
  inferInstanceAs
    (Decidable (a.createdAt < b.createdAt ∨ (a.createdAt = b.createdAt ∧ a.noteId ≤ b.noteId)))

def Store.candidates (s : Store) (args : ResolveUpdateArgs) : List MemoryNote :=
  (s.notes.rows.filter args.matches).insertionSort candidateLe

/-- A candidate that the request is about: any one under a key, else one of the same source. -/
def ResolveUpdateArgs.accepts (args : ResolveUpdateArgs) (note : MemoryNote) : Bool :=
  (lookupKey args.key).isSome
    || decide (sourceIdentity note.sourceRef = sourceIdentity args.sourceRef)

/-- `resolve_update`, where `newNoteId` is the identifier that a new note gets. -/
def resolveUpdate (s : Store) (args : ResolveUpdateArgs) (newNoteId : Uuid) : UpdateDecision :=
  let keyed := (lookupKey args.key).isSome
  match (s.candidates args).find? args.accepts with
  | some note =>
    let metadata := ⟨keyed, !keyed⟩
    if keyed then .update note.noteId metadata else .none note.noteId metadata
  | none => .add newNoteId ⟨false, false⟩

theorem mem_candidates {s : Store} {args : ResolveUpdateArgs}
    : note ∈ s.candidates args ↔ note ∈ s.notes ∧ args.matches note = true := by
  simp [Store.candidates, Table.mem_def]

/-- What each decision says about the store. -/
theorem resolveUpdate_cases (s : Store) (args : ResolveUpdateArgs) (newNoteId : Uuid)
    : (∃ note ∈ s.notes, args.matches note = true ∧ (lookupKey args.key).isSome = true
        ∧ resolveUpdate s args newNoteId = .update note.noteId ⟨true, false⟩)
      ∨ (∃ note ∈ s.notes, args.matches note = true ∧ (lookupKey args.key).isSome = false
        ∧ sourceIdentity note.sourceRef = sourceIdentity args.sourceRef
        ∧ resolveUpdate s args newNoteId = .none note.noteId ⟨false, true⟩)
      ∨ ((∀ note ∈ s.notes, args.matches note = true → args.accepts note = false)
        ∧ resolveUpdate s args newNoteId = .add newNoteId ⟨false, false⟩) := by
  unfold resolveUpdate
  cases hfind : (s.candidates args).find? args.accepts with
  | none =>
    right
    right
    refine ⟨?_, rfl⟩
    intro note hmem hmatch
    have := List.find?_eq_none.mp hfind note (mem_candidates.mpr ⟨hmem, hmatch⟩)
    simpa using this
  | some note =>
    have hmem := mem_candidates.mp (List.mem_of_find?_eq_some hfind)
    have haccept := List.find?_some hfind
    cases hkey : (lookupKey args.key).isSome with
    | true =>
      left
      exact ⟨note, hmem.1, hmem.2, rfl, by simp⟩
    | false =>
      right
      left
      refine ⟨note, hmem.1, hmem.2, rfl, ?_, by simp⟩
      simpa [ResolveUpdateArgs.accepts, hkey] using haccept

/-! ## Requests -/

open Text Except

structure AddNoteInput where
  type : String
  key : Option String
  text : String
  structured : Option StructuredFields
  importance : F32
  confidence : F32
  ttlDays : Option Int
  sourceRef : Json
  writePolicy : Option WritePolicy

structure AddNoteRequest where
  tenantId : String
  projectId : String
  agentId : String
  scope : String
  notes : List AddNoteInput

structure AddNoteResult where
  noteId : Option Uuid
  op : NoteOp
  policyDecision : MemoryPolicyDecision
  reasonCode : Option String
  fieldPath : Option String
deriving DecidableEq

structure UpdateRequest where
  tenantId : String
  projectId : String
  agentId : String
  noteId : Uuid
  text : Option String
  importance : Option F32
  confidence : Option F32
  ttlDays : Option Int

/--
The service: its configuration, and what note operations call that is not modelled further. The
graph tables are written by `persistGraphFields`, of which only its failure matters here.
-/
structure ElfService where
  cfg : Config
  containsSecrets : String → Bool
  validateStructuredFields : StructuredFields → String → Json → Except Error Unit
  persistGraphFields : StructuredFields → Uuid → Except Error Unit
  addNoteBytes : AddNoteInput → Nat
  updateBytes : UpdateRequest → Nat

structure AddNoteContext where
  tenantId : String
  projectId : String
  agentId : String
  scope : String
  now : Nat
  embedVersion : String

def rejectStructuredInvalid : String := "REJECT_STRUCTURED_INVALID"
def deferredIngestBudget : String := "DEFERRED_INGEST_BUDGET"
def ignoreDuplicate : String := "IGNORE_DUPLICATE"
def ignorePolicyThreshold : String := "IGNORE_POLICY_THRESHOLD"

def requiredIds : Error := .invalidRequest "tenant_id, project_id, and agent_id are required."

/-! ## Validation -/

def normalizeAddNoteRequest (req : AddNoteRequest) : AddNoteRequest :=
  { req with notes := req.notes.map fun note =>
    if note.sourceRef.isNull then { note with sourceRef := .obj [] } else note }

/-- The error of a field with invalid text, if a path to one was found. -/
def rejectPath (path : Option String) : Except Error Unit :=
  match path with
  | some path => .error (.invalidText path)
  | none => .ok ()

def validateAddNoteInput (note : AddNoteInput) (base : String) : Except Error Unit := do
  rejectIf (!note.sourceRef.isObject) (.invalidRequest "source_ref must be a JSON object.")
  rejectIf (!isValidText note.text) (.invalidText (base ++ ".text"))
  rejectIf (note.key.any (!isValidIdentifier ·)) (.invalidText (base ++ ".key"))
  rejectPath (findInvalidPathInStructured note.structured (base ++ ".structured"))
  rejectPath (findInvalidPath note.sourceRef (base ++ ".source_ref"))

def validateAddNoteInputs (notes : List AddNoteInput) (idx : Nat) : Except Error Unit :=
  match notes with
  | [] => .ok ()
  | note :: notes => do
    validateAddNoteInput note ("$.notes[" ++ toString idx ++ "]")
    validateAddNoteInputs notes (idx + 1)

def validateAddNoteRequest (req : AddNoteRequest) : Except Error Unit := do
  rejectIf req.notes.isEmpty (.invalidRequest "Notes list is empty.")
  rejectIf (isBlank req.tenantId || isBlank req.projectId || isBlank req.agentId
    || isBlank req.scope)
    (.invalidRequest "tenant_id, project_id, agent_id, and scope are required.")
  validateAddNoteInputs req.notes 0

def extractStructuredRejectionFieldPath : Error → Option String
  | .invalidText field => some field
  | .invalidRequest message =>
    if "structured.".toList.isPrefixOf message.toList then
      some (String.ofList (message.toList.takeWhile (!isWhitespace ·)))
    else
      none
  | _ => none

def rejectNoteIfStructuredInvalid (svc : ElfService) (note : AddNoteInput)
    : Option AddNoteResult :=
  match note.structured with
  | none => none
  | some structured =>
    match svc.validateStructuredFields structured note.text note.sourceRef with
    | .ok () => none
    | .error err =>
      some {
        noteId := none
        op := .rejected
        policyDecision := .reject
        reasonCode := some rejectStructuredInvalid
        fieldPath := extractStructuredRejectionFieldPath err }

def rejectNoteIfWritegateRejects (svc : ElfService) (scope : String) (note : AddNoteInput)
    : Option AddNoteResult :=
  match writegate svc.containsSecrets svc.cfg ⟨note.type, scope, note.text⟩ with
  | .ok () => none
  | .error code =>
    some {
      noteId := none
      op := .rejected
      policyDecision := .reject
      reasonCode := some (writegateReasonCode code)
      fieldPath := none }

/-! ## Audit -/

def recordIngestDecision (s : Store) (decisionId : Uuid) (ctx : AddNoteContext)
    (noteType : String) (noteKey : Option String) (noteVersionId : Option Uuid)
    (baseDecision : MemoryPolicyDecision) (result : AddNoteResult) : Except Error Store := do
  let row : IngestDecision := {
    decisionId
    tenantId := ctx.tenantId
    projectId := ctx.projectId
    agentId := ctx.agentId
    scope := ctx.scope
    noteType
    noteKey
    noteId := result.noteId
    noteVersionId
    baseDecision
    policyDecision := result.policyDecision
    noteOp := result.op
    reasonCode := result.reasonCode
    ts := timestamptz ctx.now }
  let ingestDecisions ← s.ingestDecisions.insert row duplicateKey
  return { s with ingestDecisions }

/-! ## Materialization -/

def persistGraphFieldsIfPresent (svc : ElfService) (noteId : Uuid)
    (structured : Option StructuredFields) : Except Error Unit :=
  match structured with
  | some structured =>
    if structured.hasGraphFields then svc.persistGraphFields structured noteId else .ok ()
  | none => .ok ()

/-- The structured fields of a request that have content. -/
def AddNoteInput.structuredContent (note : AddNoteInput) : Option StructuredFields :=
  note.structured.filter (!·.isEffectivelyEmpty)

def upsertStructuredIfPresent (fields : FieldTable) (draw : Draw) (note : AddNoteInput)
    (noteId : Uuid) (now : Nat) : Except Error FieldTable :=
  match note.structuredContent with
  | some structured => upsertStructuredFieldsTx fields draw.fieldId noteId structured now
  | none => .ok fields

def upsertStructuredAndEnqueueOutbox (s : Store) (draw : Draw) (note : AddNoteInput)
    (noteId : Uuid) (embedVersion : String) (now : Nat) : Except Error Store := do
  let fields ← upsertStructuredIfPresent s.fields draw note noteId now
  enqueueOutboxTx { s with fields } draw.outboxId noteId .upsert embedVersion now

/-- The row that a new note is stored as. -/
def newMemoryNote (svc : ElfService) (ctx : AddNoteContext) (note : AddNoteInput) (noteId : Uuid)
    : MemoryNote := {
  noteId
  tenantId := ctx.tenantId
  projectId := ctx.projectId
  agentId := ctx.agentId
  scope := ctx.scope
  type := note.type
  key := note.key
  text := note.text
  importance := note.importance
  confidence := note.confidence
  status := "active"
  createdAt := ctx.now
  updatedAt := ctx.now
  expiresAt := computeExpiresAt note.ttlDays note.type svc.cfg ctx.now
  embeddingVersion := ctx.embedVersion
  sourceRef := note.sourceRef
  hitCount := 0
  lastHitAt := none }

def handleAddNoteAdd (svc : ElfService) (draw : Draw) (s : Store) (ctx : AddNoteContext)
    (note : AddNoteInput) (noteId : Uuid) : Except Error (Uuid × Store) := do
  let s ← ensureActiveProjectScopeGrant s draw.grantId ctx.tenantId ctx.projectId ctx.scope
    ctx.agentId (draw.clock 1)
  let memoryNote := newMemoryNote svc ctx note noteId
  let s ← insertMemoryNoteTx s memoryNote
  let s ← insertVersion s {
    versionId := draw.versionId
    noteId
    op := .add
    prevSnapshot := none
    newSnapshot := some (noteSnapshot memoryNote)
    reason := "add_note"
    actor := ctx.agentId
    ts := ctx.now }
  let s ← upsertStructuredAndEnqueueOutbox s draw note noteId ctx.embedVersion ctx.now
  persistGraphFieldsIfPresent svc noteId note.structured
  return (draw.versionId, s)

def requestedTtlDays (note : AddNoteInput) : Option Int :=
  note.ttlDays.filter (0 < ·)

/-- `1e-6_f32`. -/
def floatEps : F32 := .fin (mkRat 8796093 8796093022208)

/-- `(b - a).whole_days()`. -/
def wholeDays (a b : Nat) : Int :=
  ((b : Int) - (a : Int)).tdiv dayNanoseconds

def expiresMatch (existing : MemoryNote) (expiresAt : Option Nat) (requestedTtl : Option Int)
    : Bool :=
  match requestedTtl with
  | none => existing.expiresAt = expiresAt
  | some ttlDays =>
    match existing.expiresAt with
    | some existingExpiresAt => wholeDays existing.updatedAt existingExpiresAt = ttlDays
    | none => false

def noteUpdateIsUnchanged (existing : MemoryNote) (note : AddNoteInput) (expiresAt : Option Nat)
    (requestedTtl : Option Int) : Bool :=
  note.structured.all (fun fields => fields.isEffectivelyEmpty && !fields.hasGraphFields)
    && existing.text = note.text
    && (existing.importance.sub note.importance).abs.le floatEps
    && (existing.confidence.sub note.confidence).abs.le floatEps
    && expiresMatch existing expiresAt requestedTtl
    && existing.sourceRef = note.sourceRef

/-- `UPDATE memory_notes SET … WHERE note_id`, where `set` assigns the columns of the statement. -/
def updateNoteRow (s : Store) (noteId : Uuid) (set : MemoryNote → MemoryNote)
    (hset : ∀ row, (set row).noteId = row.noteId := by intro _; rfl) : Store :=
  { s with notes := s.notes.modify noteId (fun row => (set row).stored) fun row =>
    (set row).stored_noteId.trans (hset row) }

/-- An update that asks for no time to live keeps the one the note has. -/
def updatedExpiresAt (svc : ElfService) (note : AddNoteInput) (existing : MemoryNote) (now : Nat)
    : Option Nat :=
  match requestedTtlDays note with
  | some ttl => computeExpiresAt (some ttl) note.type svc.cfg now
  | none => existing.expiresAt

def handleAddNoteUpdate (svc : ElfService) (draw : Draw) (s : Store) (note : AddNoteInput)
    (noteId : Uuid) (agentId : String) (now : Nat) (policyDecision : MemoryPolicyDecision)
    : Except Error ((AddNoteResult × Option Uuid) × Store) := do
  let row ← ofOption (.storage "no rows returned") (s.notes.find? noteId)
  let requestedTtl := requestedTtlDays note
  let expiresAt := updatedExpiresAt svc note row now
  if noteUpdateIsUnchanged row note expiresAt requestedTtl then
    return ((⟨some noteId, .none, .ignore, none, none⟩, none), s)
  else
    let s ← ensureActiveProjectScopeGrant s draw.grantId row.tenantId row.projectId row.scope
      row.agentId (draw.clock 1)
    let s := if row.text ≠ note.text then deleteNoteFields s noteId else s
    let existing := { row with
      text := note.text
      importance := note.importance
      confidence := note.confidence
      updatedAt := now
      expiresAt
      sourceRef := note.sourceRef }
    let s := updateNoteRow s noteId fun row => { row with
      text := existing.text
      importance := existing.importance
      confidence := existing.confidence
      updatedAt := existing.updatedAt
      expiresAt := existing.expiresAt
      sourceRef := existing.sourceRef }
    let s ← insertVersion s {
      versionId := draw.versionId
      noteId := existing.noteId
      op := .update
      prevSnapshot := some (noteSnapshot row)
      newSnapshot := some (noteSnapshot existing)
      reason := "add_note"
      actor := agentId
      ts := now }
    persistGraphFieldsIfPresent svc existing.noteId note.structured
    let s ← upsertStructuredAndEnqueueOutbox s draw note existing.noteId existing.embeddingVersion
      now
    return ((⟨some noteId, .update, policyDecision, none, none⟩, some draw.versionId), s)

/-! ## One note of a request -/

def baseDecisionForUpdate : UpdateDecision → MemoryPolicyDecision
  | .update _ _ => .update
  | .add _ _ => .remember
  | .none _ _ => .ignore

def resolvePolicyForUpdate (cfg : Config) (scope : String) (note : AddNoteInput)
    (baseDecision : MemoryPolicyDecision) : MemoryPolicyDecision :=
  if baseDecision = .remember || baseDecision = .update then
    evaluateMemoryPolicy cfg note.type scope note.confidence note.importance baseDecision
  else
    .ignore

def ignoreReasonCodeForPolicy (baseDecision policyDecision : MemoryPolicyDecision)
    (matchedDup : Bool) : Option String :=
  if policyDecision ≠ .ignore then
    none
  else
    match baseDecision with
    | .remember | .update => some ignorePolicyThreshold
    | .ignore => if matchedDup then some ignoreDuplicate else none
    | .reject => none

def applyPolicyResult (svc : ElfService) (draw : Draw) (s : Store) (decision : UpdateDecision)
    (ctx : AddNoteContext) (note : AddNoteInput) (policyDecision : MemoryPolicyDecision)
    (ignoreReasonCode : Option String) : Except Error ((AddNoteResult × Option Uuid) × Store) :=
  if policyDecision = .remember || policyDecision = .update then
    match decision with
    | .add noteId _ => do
      let (versionId, s) ← handleAddNoteAdd svc draw s ctx note noteId
      return ((⟨some noteId, .add, policyDecision, none, none⟩, some versionId), s)
    | .update noteId _ =>
      handleAddNoteUpdate svc draw s note noteId ctx.agentId ctx.now policyDecision
    | .none noteId _ => .ok ((⟨some noteId, .none, policyDecision, none, none⟩, none), s)
  else
    let noteId :=
      match decision with
      | .add _ _ => none
      | .update noteId _ | .none noteId _ => some noteId
    .ok ((⟨noteId, .none, policyDecision, ignoreReasonCode, none⟩, none), s)

/-- The note with its text as the write policy leaves it. -/
def applyWritePolicyToNote (note : AddNoteInput) : Except Error AddNoteInput :=
  match applyWritePolicy note.text note.writePolicy with
  | .ok text => .ok { note with text }
  | .error .invalidSpan => .error (.invalidRequest "Invalid write_policy span provided.")
  | .error .overlappingOps => .error (.invalidRequest "Overlapping write_policy spans provided.")

def AddNoteContext.resolveArgs (ctx : AddNoteContext) (note : AddNoteInput) : ResolveUpdateArgs := {
  tenantId := ctx.tenantId
  projectId := ctx.projectId
  agentId := ctx.agentId
  scope := ctx.scope
  noteType := note.type
  key := note.key
  text := note.text
  sourceRef := note.sourceRef
  now := ctx.now }

def processAddNoteInput (svc : ElfService) (ctx : AddNoteContext) (note : AddNoteInput)
    (withinBudget : Bool) (draw : Draw) : Transaction Error Store AddNoteResult := fun s => do
  let note ← applyWritePolicyToNote note
  match rejectNoteIfStructuredInvalid svc note <|> rejectNoteIfWritegateRejects svc ctx.scope note with
  | some result =>
    let s ← recordIngestDecision s draw.decisionId ctx note.type note.key none .reject result
    return (result, s)
  | none =>
    if !withinBudget then
      let result := ⟨none, .none, .ignore, some deferredIngestBudget, none⟩
      let s ← recordIngestDecision s draw.decisionId ctx note.type note.key none .ignore result
      return (result, s)
    else
      let decision := resolveUpdate s (ctx.resolveArgs note) draw.noteId
      let baseDecision := baseDecisionForUpdate decision
      let policyDecision := resolvePolicyForUpdate svc.cfg ctx.scope note baseDecision
      let ignoreReasonCode :=
        ignoreReasonCodeForPolicy baseDecision policyDecision decision.metadata.matchedDup
      let ((result, versionId), s) ←
        applyPolicyResult svc draw s decision ctx note policyDecision ignoreReasonCode
      let s ← recordIngestDecision s draw.decisionId ctx note.type note.key versionId baseDecision
        result
      return (result, s)

/-! ## The request -/

/-- The project that the notes of a request belong to. -/
def AddNoteRequest.effectiveProjectId (req : AddNoteRequest) : String :=
  if trim req.scope = "org_shared" then orgProjectId else req.projectId

def AddNoteRequest.context (svc : ElfService) (req : AddNoteRequest) (now : Nat)
    : AddNoteContext := {
  tenantId := req.tenantId
  projectId := req.effectiveProjectId
  agentId := req.agentId
  scope := req.scope
  now
  embedVersion := svc.cfg.embeddingVersion }

/--
The notes of a request from the index `idx` on, each in its own transaction. The first error ends
the request; the notes before it stay committed.
-/
def processAddNotes (svc : ElfService) (req : AddNoteRequest) (baseNow : Nat) (draws : Nat → Draw)
    (notes : List AddNoteInput) (idx remaining : Nat) (s : Store)
    : Except Error (List AddNoteResult) × Store :=
  match notes with
  | [] => (.ok [], s)
  | note :: notes =>
    let bytes := svc.addNoteBytes note
    let withinBudget := decide (bytes ≤ remaining)
    let remaining := if withinBudget then remaining - bytes else remaining
    let ctx := req.context svc (baseNow + 1000 * idx)
    match processAddNoteInput svc ctx note withinBudget (draws idx) s with
    | .error err => (.error err, s)
    | .ok (result, s) =>
      let (results, s) := processAddNotes svc req baseNow draws notes (idx + 1) remaining s
      (results.map (result :: ·), s)

def addNote (svc : ElfService) (req : AddNoteRequest) (baseNow : Nat) (draws : Nat → Draw)
    (s : Store) : Except Error (List AddNoteResult) × Store :=
  let req := normalizeAddNoteRequest req
  match validateAddNoteRequest req with
  | .error err => (.error err, s)
  | .ok () => processAddNotes svc req baseNow draws req.notes 0 svc.cfg.ingestMaxBytes s

end Elf
