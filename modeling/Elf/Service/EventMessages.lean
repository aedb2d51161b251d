import Elf.Service.AddEvent

/-!
This module contains how a request of `add_event` becomes the notes that are extracted from it: the
write policies of its messages, the spans of the messages that evidence selects, and the sources that
are recorded for the evidence of a note.
-/

namespace Elf

open Text Except

/-- A range of a document of the source library whose content is the message. -/
structure EventSourceDocument where
  docId : Uuid
  contentHash : String
  position : TextPositionSelector

structure EventMessage where
  role : String
  content : String
  ts : Option String
  msgId : Option String
  sourceDocument : Option EventSourceDocument
  writePolicy : Option WritePolicy

structure IngestionProfileSelector where
  id : String
  version : Option Int

structure IngestionProfileRef where
  id : String
  version : Int

structure EventRequest extends AddEventRequest where
  ingestionProfile : Option IngestionProfileSelector
  messages : List EventMessage

structure EvidenceSelection where
  messageIndex : Nat
  spanId : Nat
  endSpanId : Option Nat

/-- Evidence as the extractor returns it. The position of a quote is not read from its answer. -/
inductive ExtractedEvidence where
  | selection (selection : EvidenceSelection)
  | quote (messageIndex : Nat) (quote : String)

/-- A note as the extractor returns it, with evidence that is not resolved yet. -/
structure ExtractorNote where
  note : ExtractedNote
  evidence : Option (List ExtractedEvidence)

/-- The service with what `add_event` calls that is not modelled further, the extractor above all. -/
structure EventService where
  elf : ElfService
  blake3 : String → String
  evidenceSpanBytes : Nat
  evidenceMinQuotes : Nat
  resolveAddEventProfile : String → String → Option IngestionProfileSelector
    → Except Error IngestionProfileRef
  buildExtractorMessages : IngestionProfileRef → List (EventMessage × List String)
    → Except Error Json
  extract : IngestionProfileRef → Json → Except Error (List ExtractorNote)
  payloadBytes : Json → Nat
  noteBytes : ExtractedNote → Nat
  validateStructuredFields : StructuredFields → String → List EvidenceQuote → Except Error Unit

/-! ## The request -/

def validateEventMessage (msg : EventMessage) (idx : Nat) : Except Error Unit := do
  let field := fun name => "$.messages[" ++ toString idx ++ "]." ++ name
  Except.rejectIf (msg.msgId.any (!isValidIdentifier ·)) (.invalidText (field "msg_id"))
  Except.rejectIf (msg.ts.any (!isValidText ·)) (.invalidText (field "ts"))
  Except.rejectIf (!isValidText msg.role) (.invalidText (field "role"))
  Except.rejectIf (!isValidText msg.content) (.invalidText (field "content"))

def validateAddEventRequest (req : EventRequest) : Except Error Unit := do
  Except.rejectIf req.messages.isEmpty (.invalidRequest "Messages list is empty.")
  Except.rejectIf (isBlank req.tenantId || isBlank req.projectId || isBlank req.agentId) requiredIds
  Except.rejectIf (req.scope.any isBlank)
    (.invalidRequest "scope must not be empty when provided.")
  Except.rejectIf (req.ingestionProfile.any fun profile => isBlank profile.id)
    (.invalidRequest "ingestion_profile.id must not be empty.")
  Except.rejectIf (req.ingestionProfile.any fun profile => profile.version.any (· ≤ 0))
    (.invalidRequest "ingestion_profile.version must be greater than zero.")
  req.messages.zipIdx.forM fun (msg, idx) => validateEventMessage msg idx

/-! ## Write policies -/

def invalidWritePolicy : WritePolicyError → Error
  | .invalidSpan => .invalidRequest "Invalid write_policy span provided."
  | .overlappingOps => .invalidRequest "Overlapping write_policy spans provided."

structure ProcessedEvent where
  messages : List EventMessage
  policyApplied : List Bool
  audits : List WritePolicyAudit

/-- What the write policy of a message makes of it, `none` where it panics. -/
def applyWritePolicyToMessage (message : EventMessage)
    : Option (Except Error (EventMessage × Option WritePolicyAudit)) :=
  (applyWritePolicyWithAudit message.content message.writePolicy).map fun outcome =>
    match outcome with
    | .ok result =>
      .ok ({ message with content := result.transformed },
        if message.writePolicy.isSome then some result.audit else none)
    | .error err => .error (invalidWritePolicy err)

/-- There is an audit for every message that has a policy, in their order. -/
def applyWritePoliciesToMessages : List EventMessage → Option (Except Error ProcessedEvent)
  | [] => some (.ok ⟨[], [], []⟩)
  | message :: messages =>
    match applyWritePolicyToMessage message with
    | none => none
    | some (.error err) => some (.error err)
    | some (.ok (transformed, audit)) =>
      match applyWritePoliciesToMessages messages with
      | some (.ok processed) =>
        some (.ok ⟨transformed :: processed.messages, audit.isSome :: processed.policyApplied,
          audit.toList ++ processed.audits⟩)
      | other => other

def ProcessedEvent.texts (processed : ProcessedEvent) : List String :=
  processed.messages.map EventMessage.content

/-! ## Spans -/

-- The longest start of a text that has room in `maxBytes`.
def takeBytes (maxBytes : Nat) : List Char → List Char
  | [] => []
  | c :: rest =>
    if c.utf8Size ≤ maxBytes then c :: takeBytes (maxBytes - c.utf8Size) rest else []

-- A text up to and with its last line break.
def throughNewline (text : List Char) : List Char :=
  let lines := text.rdropWhile (· != '\n')
  if lines.isEmpty then text else lines

/-- The span at the start of a text. It is empty where the first character has no room. -/
def firstSpan (maxBytes : Nat) (text : List Char) : List Char :=
  let span := takeBytes maxBytes text
  if span.length < text.length then throughNewline span else span

def evidenceSpansOf (maxBytes : Nat) (text : List Char) : Except Error (List String) :=
  if text.isEmpty then
    .ok []
  else if _h : (firstSpan maxBytes text).length = 0 then
    .error (.invalidRequest "Evidence byte limit cannot hold a source character.")
  else do
    let spans ← evidenceSpansOf maxBytes (text.drop (firstSpan maxBytes text).length)
    return String.ofList (firstSpan maxBytes text) :: spans
termination_by text.length
decreasing_by
  rename_i hempty
  rw [List.isEmpty_iff] at hempty
  have := List.length_pos_of_ne_nil hempty
  rw [List.length_drop]
  omega

def evidenceSpans (texts : List String) (maxBytes : Nat) : Except Error (List (List String)) :=
  texts.mapM fun text => evidenceSpansOf maxBytes text.toList

/-! ## Selections -/

def unknownSelection : Error :=
  .invalidRequest "Extractor selected an unknown message or evidence span."

-- `pieces.get(first..=last)`, if it is not empty.
def selectSpans (pieces : List String) (first last : Nat) : Option (List String) :=
  if first ≤ last ∧ last < pieces.length then some ((pieces.take (last + 1)).drop first) else none

def resolveSelection (spans : List (List String)) (selection : EvidenceSelection)
    : Except Error EvidenceQuote := do
  let pieces ← ofOption unknownSelection spans[selection.messageIndex]?
  let selected ← ofOption unknownSelection
    (selectSpans pieces selection.spanId (selection.endSpanId.getD selection.spanId))
  let quote := String.join selected
  let start := ((pieces.take selection.spanId).map String.utf8ByteSize).sum
  return ⟨some ⟨start, start + quote.utf8ByteSize⟩, selection.messageIndex, quote⟩

def ExtractedEvidence.resolve (spans : List (List String)) : ExtractedEvidence
    → Except Error EvidenceQuote
  | .selection chosen => resolveSelection spans chosen
  | .quote index text => .ok ⟨none, index, text⟩

def ExtractorNote.resolve (spans : List (List String)) (note : ExtractorNote)
    : Except Error ExtractedNote :=
  match note.evidence with
  | some evidence => do
    let evidence ← evidence.mapM (ExtractedEvidence.resolve spans)
    return { note.note with evidence := some evidence }
  | none => .ok { note.note with evidence := none }

def resolveSelections (spans : List (List String)) (notes : List ExtractorNote)
    : Except Error (List ExtractedNote) :=
  notes.mapM (ExtractorNote.resolve spans)

/-! ## Sources -/

def TextPositionSelector.toJson (position : TextPositionSelector) : Json :=
  .obj [("start", .num position.start), ("end", .num position.stop)]

def WriteSpan.toJson (span : WriteSpan) : Json :=
  .obj [("start", .num span.start), ("end", .num span.stop)]

def WritePolicyAudit.toJson (audit : WritePolicyAudit) : Json :=
  .obj [("exclusions", .arr (audit.exclusions.map WriteSpan.toJson)),
    ("redactions", .arr (audit.redactions.map fun (span, replacement) =>
      .obj [("span", span.toJson), ("replacement", .str replacement)]))]

/-- The audit of a message among those of the messages that have a policy. -/
def messageAudit (messages : List EventMessage) (audits : List WritePolicyAudit) (index : Nat)
    (message : EventMessage) : Except Error (Option WritePolicyAudit) :=
  if message.writePolicy.isSome then do
    let auditIndex := (messages.take index).countP fun message => message.writePolicy.isSome
    let audit ← ofOption (.invalidRequest "Evidence source write-policy audit is missing.")
      audits[auditIndex]?
    return some audit
  else
    .ok none

/-- Where the quote is in the document, or where its message is. -/
def EventSourceDocument.locate (doc : EventSourceDocument) (position : Option TextPositionSelector)
    (content extractionText : String) : TextPositionSelector :=
  match position with
  | some position =>
    if content = extractionText then
      ⟨doc.position.start + position.start, doc.position.start + position.stop⟩
    else
      doc.position
  | none => doc.position

def EventSourceDocument.toJson (doc : EventSourceDocument) (position : TextPositionSelector)
    : Json :=
  .obj [("schema", .str "source_ref/v1"), ("resolver", .str "elf_doc_ext/v1"),
    ("ref", .obj [("doc_id", uuidJson doc.docId), ("source_record_id", uuidJson doc.docId)]),
    ("state", .obj [("content_hash", .str doc.contentHash)]),
    ("locator", .obj [("position", position.toJson)])]

def evidenceSource (svc : EventService) (messages : List EventMessage)
    (extractionTexts : List String) (audits : List WritePolicyAudit) (quote : EvidenceQuote)
    : Except Error Json := do
  let index := quote.messageIndex
  let missing : Error := .invalidRequest "Evidence source message is missing."
  let message ← ofOption missing messages[index]?
  let extractionText ← ofOption missing extractionTexts[index]?
  let audit ← messageAudit messages audits index message
  return .obj [
    ("message_index", .num index),
    ("quote", .str quote.quote),
    ("source", .obj [
      ("schema", .str "elf.event_source/v1"),
      ("message_id", .ofOption .str message.msgId),
      ("role", .str message.role),
      ("timestamp", .ofOption .str message.ts),
      ("hash_algorithm", .str "blake3"),
      ("content_hash", .str (svc.blake3 message.content)),
      ("extraction_content_hash", .str (svc.blake3 extractionText)),
      ("extraction_position", .ofOption TextPositionSelector.toJson quote.position),
      ("write_policy_audit", .ofOption WritePolicyAudit.toJson audit),
      ("document", .ofOption (fun doc =>
        doc.toJson (doc.locate quote.position message.content extractionText))
        message.sourceDocument)])]

def invalidSourceDocument : Error :=
  .invalidRequest "Source document hash or original message byte span does not match."

def validateEventSourceDocument (library : DocStore) (req : EventRequest) (noteScope : String)
    (message : EventMessage) (source : EventSourceDocument) : Except Error Unit := do
  let doc ← ofOption (.notFound "Source document not found.")
    (loadDocDocumentForRead library source.docId req.tenantId req.projectId)
  let grants := loadSharedReadGrantsWithOrgShared library.memory req.tenantId req.projectId
    req.agentId (noteScope == "org_shared")
  Except.rejectIf
    (doc.status ≠ "active" || !docReadAllowed req.agentId [noteScope] grants doc.agentId doc.scope)
    (.notFound "Source document not found in the note scope.")
  Except.rejectIf (source.contentHash ≠ doc.contentHash
      || source.position.stop ≤ source.position.start
      || sliceBytes doc.content source.position.start source.position.stop ≠ some message.content)
    invalidSourceDocument

def validateEventSourceDocuments (library : DocStore) (req : EventRequest) (noteScope : String)
    (evidence : List EvidenceQuote) : Except Error Unit :=
  evidence.forM fun quote =>
    -- The quote was found in its message.
    match req.messages[quote.messageIndex]? with
    | some message =>
      match message.sourceDocument with
      | some source => validateEventSourceDocument library req noteScope message source
      | none => .ok ()
    | none => .ok ()

/-! ## The notes of a request -/

/-- The request once the extractor answered. -/
structure ExtractedEvent where
  processed : ProcessedEvent
  profile : IngestionProfileRef
  answer : List ExtractorNote
  notes : List ExtractedNote
  /-- What the extraction left of the budget. -/
  remaining : Nat

def EventService.sourceRef (svc : EventService) (req : EventRequest) (event : ExtractedEvent)
    (note : ExtractedNote) (data : NoteProcessingData) : Except Error Json := do
  let evidence ← data.evidence.mapM
    (evidenceSource svc req.messages event.processed.texts event.processed.audits)
  return .obj [
    ("evidence", .arr evidence),
    ("reason", .str (data.reason.getD "")),
    ("extracted_key", .ofOption .str note.key),
    ("ingestion_profile",
      .obj [("id", .str event.profile.id), ("version", .num event.profile.version)])]

def EventService.ingestion (svc : EventService) (library : DocStore) (req : EventRequest)
    (event : ExtractedEvent) : EventIngestion := {
  messageTexts := event.processed.texts
  messagePolicyApplied := event.processed.policyApplied
  evidenceMinQuotes := svc.evidenceMinQuotes
  validateStructuredFields := svc.validateStructuredFields
  validateEventSourceDocuments := validateEventSourceDocuments library req
  sourceRef := svc.sourceRef req event }

/-- The notes of a request before any of them is stored, `none` where a write policy panics. -/
def EventService.extractNotes (svc : EventService) (req : EventRequest)
    : Option (Except Error ExtractedEvent) :=
  match validateAddEventRequest req with
  | .error err => some (.error err)
  | .ok () =>
    match svc.resolveAddEventProfile req.tenantId req.projectId req.ingestionProfile with
    | .error err => some (.error err)
    | .ok profile =>
      (applyWritePoliciesToMessages req.messages).map fun outcome => do
        let processed ← outcome
        let spans ← evidenceSpans processed.texts svc.evidenceSpanBytes
        let messages := processed.messages.map fun message => { message with sourceDocument := none }
        let input ← svc.buildExtractorMessages profile (messages.zip spans)
        Except.rejectIf (svc.elf.cfg.ingestMaxBytes < svc.payloadBytes input)
          (.invalidRequest ("Extraction input exceeds memory.ingest_max_bytes. Keep the original "
            ++ "and submit a smaller source window."))
        let answer ← svc.extract profile input
        let notes ← resolveSelections spans answer
        return ⟨processed, profile, answer, notes,
          svc.elf.cfg.ingestMaxBytes - svc.payloadBytes input⟩

/--
The notes from the index `idx` on, each in its own transaction, before which others may write to the
source library. The first error ends the request; the notes before it stay committed.
-/
def EventService.processExtractedNotes (svc : EventService) (library : Nat → DocStore)
    (req : EventRequest) (event : ExtractedEvent) (baseNow : Nat) (draws : Nat → Draw)
    (notes : List ExtractedNote) (idx remaining : Nat) (s : Store)
    : Except Error (List AddEventResult) × Store :=
  match notes with
  | [] => (.ok [], s)
  | note :: notes =>
    let bytes := svc.noteBytes note
    let withinBudget := decide (bytes ≤ remaining)
    let remaining := if withinBudget then remaining - bytes else remaining
    let ingestion := svc.ingestion { library idx with memory := s } req event
    match processExtractedNote svc.elf ingestion req.toAddEventRequest note (baseNow + 1000 * idx)
      withinBudget (draws idx) s with
    | .error err => (.error err, s)
    | .ok (result, s) =>
      let (results, s) :=
        svc.processExtractedNotes library req event baseNow draws notes (idx + 1) remaining s
      (results.map (result :: ·), s)

/-- `add_event`, `none` where a write policy panics. -/
def EventService.addEvent (svc : EventService) (library : Nat → DocStore) (req : EventRequest)
    (baseNow : Nat) (draws : Nat → Draw) (s : Store)
    : Option (Except Error (List AddEventResult) × Store) :=
  (svc.extractNotes req).map fun outcome =>
    match outcome with
    | .error err => (.error err, s)
    | .ok event =>
      svc.processExtractedNotes library req event baseNow draws event.notes 0 event.remaining s

end Elf
