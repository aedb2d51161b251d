import Elf.Evidence.Sources
import Elf.Lib.JsonText
import Elf.Lib.Shrink

/-!
This module contains the pack of the evidence of several notes: the windows of the originals that
the notes refer to, merged where they overlap, and cut to what the response may hold.
-/

namespace Elf

open Text

variable (svc : ReadService)

structure EvidencePackRequest where
  tenantId : String
  projectId : String
  agentId : String
  readProfile : String
  noteIds : List Uuid
  maxSourceBytes : Option Nat
  maxBytes : Option Nat

structure EvidencePackNote where
  noteId : Uuid
  noteType : String
  projectId : String
  scope : String
  text : String
  facts : List String
  evidenceQuotes : List String
  sourceReferences : List String
  complete : Bool
deriving DecidableEq

structure EvidencePackSource where
  reference : String
  docId : Uuid
  contentHash : String
  start : Nat
  stop : Nat
  text : String
  title : Option String
  origin : Option String
  sourceTimestamp : Option String
  capturedAt : Nat
deriving DecidableEq

structure EvidencePackResponse where
  schema : String
  notes : List EvidencePackNote
  sources : List EvidencePackSource
  complete : Bool
  sourceBytes : Nat
  omittedNoteIds : List Uuid
deriving DecidableEq

def EvidencePackResponse.empty : EvidencePackResponse :=
  ⟨"elf.evidence_pack/v1", [], [], true, 0, []⟩

def sourceBytesOf (sources : List EvidencePackSource) : Nat :=
  (sources.map fun source => source.text.utf8ByteSize).sum

/-! ## Assembly -/

def NoteSourceEvidence.reference (source : NoteSourceEvidence) : String :=
  sourceReference source.metadata.docId source.metadata.contentHash source.excerpt.startOffset
    source.excerpt.endOffset

def EvidencePackSource.fromEvidence (source : NoteSourceEvidence) : EvidencePackSource := {
  reference := source.reference
  docId := source.metadata.docId
  contentHash := source.metadata.contentHash
  start := source.excerpt.startOffset
  stop := source.excerpt.endOffset
  text := source.excerpt.excerpt
  title := source.metadata.title
  origin := (source.metadata.sourceRef.get "origin").bind Json.asStr
  sourceTimestamp := (source.metadata.sourceRef.get "ts").bind Json.asStr
  capturedAt := source.metadata.createdAt }

def storedQuotes (sourceRef : Json) : List String :=
  (((sourceRef.index "evidence").asArr).getD []).filterMap fun item => (item.index "quote").asStr

def EvidencePackNote.ofExpanded (noteId : Uuid) (expanded : NoteEvidenceResponse)
    : EvidencePackNote := {
  noteId
  noteType := expanded.note.type
  projectId := expanded.note.projectId
  scope := expanded.note.scope
  text := expanded.note.text
  facts := (expanded.note.structured.bind StructuredFields.facts).getD []
  evidenceQuotes := storedQuotes expanded.note.sourceRef
  sourceReferences := []
  complete := expanded.complete }

/-- The sources of one note, each of which is added unless it is there or over the budget. -/
def addSources (budget : Nat) (pack : EvidencePackResponse) (note : EvidencePackNote)
    : List NoteSourceEvidence → EvidencePackResponse × EvidencePackNote
  | [] => (pack, note)
  | source :: sources =>
    let reference := source.reference
    let cited := { note with sourceReferences := note.sourceReferences ++ [reference] }
    if pack.sources.any fun prior => prior.reference = reference then
      addSources budget pack cited sources
    else if budget - pack.sourceBytes < source.excerpt.excerpt.utf8ByteSize then
      addSources budget pack { note with complete := false } sources
    else
      let pack := { pack with
        sourceBytes := pack.sourceBytes + source.excerpt.excerpt.utf8ByteSize
        sources := pack.sources ++ [EvidencePackSource.fromEvidence source] }
      addSources budget pack cited sources

def addExpanded (budget : Nat) (pack : EvidencePackResponse) (noteId : Uuid)
    (expanded : NoteEvidenceResponse) : EvidencePackResponse :=
  let (pack, note) := addSources budget pack (EvidencePackNote.ofExpanded noteId expanded)
    expanded.sources
  { pack with complete := pack.complete && note.complete, notes := pack.notes ++ [note] }

/-- The loop over the distinct notes, each of which `resolve` reads. -/
def addNotes (resolve : Uuid → Except Error NoteEvidenceResponse) (budget : Nat)
    (pack : EvidencePackResponse) : List Uuid → Except Error EvidencePackResponse
  | [] => .ok pack
  | noteId :: noteIds =>
    match resolve noteId with
    | .ok expanded => addNotes resolve budget (addExpanded budget pack noteId expanded) noteIds
    | .error e =>
      if e.unreadable then
        addNotes resolve budget
          { pack with complete := false, omittedNoteIds := pack.omittedNoteIds ++ [noteId] } noteIds
      else
        .error e

/-! ## Overlaps -/

/-- What stops a merge whose windows do not continue each other at a character boundary. -/
def notCharBoundary : Error := .storage "byte index is not a char boundary"

/-- `&text[offset..]` -/
def dropBytes (text : String) (offset : Nat) : Option String :=
  (splitAtByte text.toList offset).map fun (_, right) => String.ofList right

/-- The order of windows: by document, version, start and end. -/
def EvidencePackSource.le (a b : EvidencePackSource) : Bool :=
  if a.docId ≠ b.docId then a.docId < b.docId
  else if a.contentHash ≠ b.contentHash then a.contentHash < b.contentHash
  else if a.start ≠ b.start then a.start < b.start
  else a.stop ≤ b.stop

def EvidencePackSource.sameVersion (a b : EvidencePackSource) : Bool :=
  a.docId = b.docId && a.contentHash = b.contentHash

/-- `prior` with what `source` adds after it. -/
def EvidencePackSource.extend (prior source : EvidencePackSource) : Option EvidencePackSource :=
  if prior.stop < source.stop then
    (dropBytes source.text (prior.stop - source.start)).map fun tail =>
      { prior with
        text := prior.text ++ tail
        stop := source.stop
        reference := sourceReference prior.docId prior.contentHash prior.start source.stop }
  else
    some { prior with
      reference := sourceReference prior.docId prior.contentHash prior.start prior.stop }

/-- Merge the ordered windows after `prior`, each with its place in the pack. -/
def mergeFrom (prior : Nat × EvidencePackSource)
    : List (Nat × EvidencePackSource) → Option (List (Nat × EvidencePackSource))
  | [] => some [prior]
  | (index, source) :: rest =>
    if prior.2.sameVersion source && source.start ≤ prior.2.stop then
      (prior.2.extend source).bind fun merged => mergeFrom (min prior.1 index, merged) rest
    else
      (mergeFrom (index, source) rest).map (prior :: ·)

def mergeOrdered : List (Nat × EvidencePackSource) → Option (List (Nat × EvidencePackSource))
  | [] => some []
  | prior :: rest => mergeFrom prior rest

def mergeSources (sources : List EvidencePackSource) : Option (List EvidencePackSource) :=
  let ordered := ((sources.zipIdx.map fun (source, index) => (index, source)).insertionSort
    fun a b => a.2.le b.2)
  (mergeOrdered ordered).map fun merged =>
    (merged.insertionSort fun a b => a.1 ≤ b.1).map Prod.snd

/-- The reference of the merged window that covers the window `old` refers to. -/
def rewriteReference (original merged : List EvidencePackSource) (old : String) : String :=
  match original.find? fun source => source.reference = old with
  | none => old
  | some window =>
    match merged.find? fun source => source.sameVersion window && source.start ≤ window.start
        && window.stop ≤ source.stop with
    | none => old
    | some source => source.reference

def EvidencePackNote.quoted (note : EvidencePackNote) (sources : List EvidencePackSource)
    (quote : String) : Bool :=
  sources.any fun source =>
    note.sourceReferences.contains source.reference && contains source.text quote

def EvidencePackNote.merge (original merged : List EvidencePackSource) (note : EvidencePackNote)
    : EvidencePackNote :=
  let note := { note with
    sourceReferences := (note.sourceReferences.map (rewriteReference original merged)).eraseDups }
  { note with
    evidenceQuotes := ((note.evidenceQuotes.filter (· ≠ "")).eraseDups).filter
      (note.quoted merged) }

def mergeOverlaps (pack : EvidencePackResponse) : Option EvidencePackResponse :=
  (mergeSources pack.sources).map fun merged =>
    { pack with
      sources := merged
      sourceBytes := sourceBytesOf merged
      notes := pack.notes.map (EvidencePackNote.merge pack.sources merged) }

/-! ## Budget -/

/-- The response without its last note and the sources that only it refers to. -/
def EvidencePackResponse.removeLastEntry (pack : EvidencePackResponse)
    : Option EvidencePackResponse :=
  match pack.notes.getLast? with
  | some note =>
    let notes := pack.notes.dropLast
    let sources := pack.sources.filter fun source =>
      !note.sourceReferences.contains source.reference
        || notes.any fun retained => retained.sourceReferences.contains source.reference
    some { pack with
      complete := false
      notes
      omittedNoteIds := pack.omittedNoteIds ++ [note.noteId]
      sources
      sourceBytes := sourceBytesOf sources }
  | none =>
    if pack.sources = [] then
      none
    else
      some { pack with
        complete := false
        sources := pack.sources.dropLast
        sourceBytes := sourceBytesOf pack.sources.dropLast }

def responseLimit (requested : Option Nat) : Except Error Nat :=
  let limit := requested.getD 32768
  if 1024 ≤ limit ∧ limit ≤ 32768 then .ok limit
  else .error (.invalidRequest "max_bytes must be between 1024 and 32768.")

def strings (texts : List String) : Json := .arr (texts.map Json.str)

def EvidencePackNote.toJson (note : EvidencePackNote) : Json :=
  .obj ([("note_id", uuidJson note.noteId), ("note_type", .str note.noteType),
      ("project_id", .str note.projectId), ("scope", .str note.scope), ("text", .str note.text)]
    ++ (if note.facts = [] then [] else [("facts", strings note.facts)])
    ++ (if note.evidenceQuotes = [] then [] else [("evidence_quotes", strings note.evidenceQuotes)])
    ++ [("source_references", strings note.sourceReferences), ("complete", .bool note.complete)])

def EvidencePackSource.toJson (source : EvidencePackSource) : Json :=
  .obj [("reference", .str source.reference), ("doc_id", uuidJson source.docId),
    ("content_hash", .str source.contentHash), ("start", .num source.start),
    ("end", .num source.stop), ("text", .str source.text), ("title", .ofOption .str source.title),
    ("origin", .ofOption .str source.origin),
    ("source_timestamp", .ofOption .str source.sourceTimestamp),
    ("captured_at", .str (svc.formatTime source.capturedAt))]

def EvidencePackResponse.toJson (pack : EvidencePackResponse) : Json :=
  .obj [("schema", .str pack.schema), ("notes", .arr (pack.notes.map EvidencePackNote.toJson)),
    ("sources", .arr (pack.sources.map (EvidencePackSource.toJson svc))),
    ("complete", .bool pack.complete), ("source_bytes", .num pack.sourceBytes),
    ("omitted_note_ids", .arr (pack.omittedNoteIds.map uuidJson))]

/-- The bytes of a value's text. -/
def serializedSize (value : Json) : Nat := (String.ofList value.compact).utf8ByteSize

def locatorsDoNotFit : Error := .invalidRequest "Evidence locators do not fit the response budget."

def EvidencePackResponse.size (pack : EvidencePackResponse) : Nat := serializedSize (pack.toJson svc)

def EvidencePackResponse.limitBytes (fuel maximum : Nat) (pack : EvidencePackResponse)
    : Option (Except Error EvidencePackResponse) :=
  shrink (size svc) removeLastEntry locatorsDoNotFit maximum fuel pack

/-! ## The request -/

def EvidencePackRequest.budget (req : EvidencePackRequest) : Nat := req.maxSourceBytes.getD 32768

/-- The distinct notes, of which duplicates are ignored. -/
def EvidencePackRequest.distinctNotes (req : EvidencePackRequest) : List Uuid :=
  req.noteIds.eraseDups

def EvidencePackRequest.windowBytes (req : EvidencePackRequest) : Nat :=
  max (req.budget / req.distinctNotes.length) 1

/-- The pack before it is cut, where `resolve` reads a note with a window of so many bytes. -/
def assemblePack (resolve : Uuid → Nat → Except Error NoteEvidenceResponse)
    (req : EvidencePackRequest) : Except Error EvidencePackResponse := do
  Except.rejectIf (req.noteIds.isEmpty || 12 < req.noteIds.length || req.budget < 1
      || 32768 < req.budget)
    (.invalidRequest "Supply 1 to 12 note IDs and a source byte budget between 1 and 32768.")
  let _ ← resolveReadProfileScopes svc req.readProfile
  let pack ← addNotes (fun noteId => resolve noteId req.windowBytes) req.budget .empty
    req.distinctNotes
  Except.ofOption notCharBoundary (mergeOverlaps pack)

/-- The pack, with at most `fuel` rounds of the loop that cuts it. -/
def evidencePack (fuel : Nat) (resolve : Uuid → Nat → Except Error NoteEvidenceResponse)
    (req : EvidencePackRequest) : Option (Except Error EvidencePackResponse) :=
  match responseLimit req.maxBytes with
  | .error e => some (.error e)
  | .ok limit =>
    match assemblePack svc resolve req with
    | .error e => some (.error e)
    | .ok pack => pack.limitBytes svc fuel limit

/-- How a request reads its notes, each from the database and at the time that it finds. -/
def EvidencePackRequest.resolve (req : EvidencePackRequest) (reads : Uuid → DocStore × Nat)
    (noteId : Uuid) (windowBytes : Nat) : Except Error NoteEvidenceResponse :=
  noteEvidenceBounded svc (reads noteId).1 (reads noteId).2
    ⟨req.tenantId, req.projectId, req.agentId, noteId⟩ req.readProfile (some windowBytes)

end Elf
