import Elf.Docs.Excerpts
import Elf.Lib.Slice
import Elf.Service.Update

/-!
This module contains the evidence of a note: the pointers to documents that its source reference
keeps, and the excerpts of the documents that they are resolved to.
-/

namespace Elf

open Text

variable (svc : ReadService)

/-! ## Notes -/

structure NoteFetchRequest where
  tenantId : String
  projectId : String
  agentId : String
  noteId : Uuid

structure NoteFetchResponse where
  noteId : Uuid
  tenantId : String
  projectId : String
  agentId : String
  scope : String
  type : String
  key : Option String
  text : String
  importance : F32
  confidence : F32
  status : String
  updatedAt : Nat
  expiresAt : Option Nat
  sourceRef : Json
  structured : Option StructuredFields

def fieldTexts (rows : List NoteField) (kind : String) : List String :=
  ((rows.filter fun row => row.fieldKind = kind).insertionSort fun a b =>
    a.itemIndex ≤ b.itemIndex).map NoteField.text

def nonEmptyList (texts : List String) : Option (List String) :=
  if texts = [] then none else some texts

/-- The structured fields of one note, unless all of them are blank. -/
def fetchStructuredFields (fields : FieldTable) (noteId : Uuid) : Option StructuredFields :=
  let rows := noteFields fields noteId
  let structured : StructuredFields := {
    summary := (fieldTexts rows "summary").find? fun text => !isBlank text
    facts := nonEmptyList (fieldTexts rows "fact")
    concepts := nonEmptyList (fieldTexts rows "concept")
    entities := none
    relations := none }
  if structured.isEffectivelyEmpty then none else some structured

def NoteFetchResponse.ofNote (note : MemoryNote) (structured : Option StructuredFields)
    : NoteFetchResponse := {
  noteId := note.noteId
  tenantId := note.tenantId
  projectId := note.projectId
  agentId := note.agentId
  scope := note.scope
  type := note.type
  key := note.key
  text := note.text
  importance := note.importance
  confidence := note.confidence
  status := note.status
  updatedAt := note.updatedAt
  expiresAt := note.expiresAt
  sourceRef := note.sourceRef
  structured }

def getNote (s : Store) (now : Nat) (req : NoteFetchRequest) : Except Error NoteFetchResponse := do
  let tenantId := trim req.tenantId
  let projectId := trim req.projectId
  let agentId := trim req.agentId
  Except.rejectIf (tenantId == "" || projectId == "" || agentId == "")
    (.invalidRequest "tenant_id, project_id, and agent_id are required.")
  let allowedScopes := svc.docs.cfg.scopes.allowed
  let note ← Except.ofOption noteNotFound ((s.notes.find? req.noteId).filter fun note =>
    note.tenantId = tenantId
      && (note.projectId = projectId || (note.projectId = orgProjectId && note.scope = "org_shared")))
  let sharedGrants :=
    if note.scope = "agent_private" then []
    else loadSharedReadGrantsWithOrgShared s tenantId projectId agentId
      (allowedScopes.contains "org_shared")
  Except.rejectIf (!noteReadAllowed note agentId allowedScopes sharedGrants now) noteNotFound
  return NoteFetchResponse.ofNote note (fetchStructuredFields s.fields note.noteId)

/-! ## Pointers -/

/-- A pointer to a range of one version of a document. -/
structure Pointer where
  resolver : String
  docId : Uuid
  contentHash : String
  position : TextPositionSelector
deriving DecidableEq

/-- The fields of a structure, which are read from an object by name or from an array in order. -/
def structFields (names : List String) : Json → Option (List Json)
  | .obj entries => names.mapM fun name => entries.lookup name
  | .arr items => if items.length = names.length then some items else none
  | _ => none

def structField (name : String) (value : Json) : Option Json :=
  match structFields [name] value with
  | some [field] => some field
  | _ => none

def TextPositionSelector.ofJson (value : Json) : Option TextPositionSelector :=
  match structFields ["start", "end"] value with
  | some [start, stop] => do
    let start ← start.asU64
    let stop ← stop.asU64
    return ⟨start.toNat, stop.toNat⟩
  | _ => none

def Pointer.ofJson (value : Json) : Option Pointer :=
  match structFields ["resolver", "ref", "state", "locator"] value with
  | some [resolver, reference, state, locator] => do
    let resolver ← resolver.asStr
    let docId ← (structField "doc_id" reference).bind Json.asStr
    let docId ← Uuid.parseStr docId
    let contentHash ← (structField "content_hash" state).bind Json.asStr
    let position ← (structField "position" locator).bind TextPositionSelector.ofJson
    return ⟨resolver, docId, contentHash, position⟩
  | _ => none

/-! ## Evidence -/

structure NoteSourceEvidence where
  metadata : DocsGetResponse
  excerpt : DocsExcerptResponse
deriving DecidableEq

structure NoteEvidenceResponse where
  note : NoteFetchResponse
  sources : List NoteSourceEvidence
  complete : Bool

def maxSources : Nat := 4

/-- The selectors of the excerpt: the stored span, or the quote where the span is too long. -/
def Pointer.excerptRequest (pointer : Pointer) (context : ReadContext)
    (evidenceQuote : Option String) (useQuote : Bool) : DocsExcerptsGetRequest := {
  context
  docId := pointer.docId
  level := "L2"
  maxBytes := none
  chunkId := none
  quote := if useQuote then evidenceQuote.map fun quote => ⟨quote, none, none⟩ else none
  position := if useQuote then none else some pointer.position }

def resolveNoteSource (db : DocStore) (context : ReadContext) (pointer : Pointer)
    (evidenceQuote : Option String) (windowBytes : Nat) : Except Error NoteSourceEvidence := do
  let metadata ← docsGet svc db ⟨context, pointer.docId⟩
  Except.rejectIf (metadata.contentHash ≠ pointer.contentHash)
    (.invalidRequest "Source pointer hash mismatch.")
  let span := pointer.position
  let useQuote := decide (windowBytes < span.stop - span.start)
  Except.rejectIf (useQuote && evidenceQuote.all isBlank)
    (.invalidRequest "A large source span requires a nonempty evidence quote.")
  let excerpt ← docsExcerptsGetBounded svc db
    (pointer.excerptRequest context evidenceQuote useQuote) (some windowBytes)
  Except.rejectIf (!excerpt.verification.verified
      || excerpt.verification.contentHash ≠ metadata.contentHash
      || !evidenceQuote.all (fun quote => contains excerpt.excerpt quote)
      || excerpt.locator.matchStartOffset < span.start
      || span.stop < excerpt.locator.matchEndOffset)
    (.invalidRequest "Source excerpt verification failed.")
  return ⟨metadata, excerpt⟩

/-- The pointers of a note, each with the quote that it is stored for. -/
def evidencePointers (sourceRef : Json) : List (Json × Option String) :=
  match (sourceRef.get "evidence").bind Json.asArr with
  | some entries =>
    entries.map fun entry => ((entry.index "source").index "document", (entry.index "quote").asStr)
  | none => [(sourceRef, none)]

/-- The errors of a source that cannot be read, which the rest of the evidence outlives. -/
def Error.unreadable : Error → Bool
  | .notFound _ | .invalidRequest _ | .scopeDenied _ => true
  | _ => false

structure EvidenceState where
  seen : List (Pointer × Option String)
  sources : List NoteSourceEvidence
  complete : Bool
  reads : Nat

def EvidenceState.incomplete (st : EvidenceState) : EvidenceState := { st with complete := false }

def NoteSourceEvidence.sameSpan (prior source : NoteSourceEvidence) : Bool :=
  prior.metadata.docId = source.metadata.docId
    && prior.metadata.contentHash = source.metadata.contentHash
    && prior.excerpt.startOffset = source.excerpt.startOffset
    && prior.excerpt.endOffset = source.excerpt.endOffset

def EvidenceState.push (st : EvidenceState) (source : NoteSourceEvidence) : EvidenceState :=
  if st.sources.any fun prior => prior.sameSpan source then st
  else { st with sources := st.sources ++ [source] }

/-- The loop over the pointers, where `resolve` reads a source. -/
def expandPointers (resolve : Pointer → Option String → Except Error NoteSourceEvidence)
    (st : EvidenceState) : List (Json × Option String) → Except Error EvidenceState
  | [] => .ok st
  | (value, quote) :: pointers =>
    match Pointer.ofJson value with
    | none => expandPointers resolve st.incomplete pointers
    | some pointer =>
      if pointer.resolver ≠ "elf_doc_ext/v1" then
        expandPointers resolve st.incomplete pointers
      else if st.seen.contains (pointer, quote) then
        expandPointers resolve st pointers
      else
        let st := { st with seen := (pointer, quote) :: st.seen }
        if st.reads = maxSources then
          expandPointers resolve st.incomplete pointers
        else
          let st := { st with reads := st.reads + 1 }
          match resolve pointer quote with
          | .ok source => expandPointers resolve (st.push source) pointers
          | .error e =>
            if e.unreadable then expandPointers resolve st.incomplete pointers
            else .error e

def noteEvidenceBounded (db : DocStore) (now : Nat) (req : NoteFetchRequest) (readProfile : String)
    (sourceBudget : Option Nat) : Except Error NoteEvidenceResponse := do
  let scopes ← resolveReadProfileScopes svc readProfile
  let note ← getNote svc db.memory now req
  Except.rejectIf (!scopes.contains note.scope) (.notFound "Note not found in the read profile.")
  let pointers := evidencePointers note.sourceRef
  let windowBytes :=
    match sourceBudget with
    | some budget => max (budget / min (max pointers.length 1) maxSources) 1
    | none => defaultL2MaxBytes
  let context : ReadContext := ⟨req.tenantId, req.projectId, req.agentId, readProfile⟩
  let st ← expandPointers
    (fun pointer quote => resolveNoteSource svc db context pointer quote windowBytes)
    ⟨[], [], !pointers.isEmpty, 0⟩ pointers
  return ⟨note, st.sources, st.complete⟩

end Elf
