import Elf.Evidence.Pack

/-!
This module contains the recall of evidence by literal subjects: the notes and the originals that a
search of the tables finds, the pack of those notes, and the sources of both in the order of their
times.
-/

namespace Elf

open Text

variable (svc : ReadService)

structure EvidenceRecallRequest where
  tenantId : String
  projectId : String
  agentId : String
  readProfile : String
  subjects : List String
  asOf : Option Int
  maxBytes : Option Nat

structure EvidenceRecallCandidate where
  noteId : Uuid
  lexicalMatch : Bool
  entityIds : List Uuid
deriving DecidableEq

structure EvidenceRecallResponse where
  schema : String
  asOf : Option Int
  truncated : Bool
  candidates : List EvidenceRecallCandidate
  pack : EvidencePackResponse
deriving DecidableEq

/-- A note that the search finds. -/
structure RecallRow where
  noteId : Uuid
  sourceRef : Json
  lexicalMatch : Bool
  entityIds : List Uuid

/-- A range of an original that the search finds. -/
structure OriginalRow where
  docId : Uuid
  start : Nat
  stop : Nat

/-! ## Originals -/

def recallOriginalWindow (db : DocStore) (context : ReadContext) (row : OriginalRow)
    : Except Error EvidencePackSource := do
  let metadata ← docsGet svc db ⟨context, row.docId⟩
  let excerpt ← docsExcerptsGet svc db {
    context
    docId := row.docId
    level := "L2"
    maxBytes := none
    chunkId := none
    quote := none
    position := some ⟨row.start, row.stop⟩ }
  Except.rejectIf (!excerpt.verification.verified
      || excerpt.verification.contentHash ≠ metadata.contentHash)
    (.invalidRequest "Source changed during recall.")
  return EvidencePackSource.fromEvidence ⟨metadata, excerpt⟩

/-- The windows that can be read, and whether all of them can. -/
def recallWindows (window : OriginalRow → Except Error EvidencePackSource)
    : List OriginalRow → Except Error (List EvidencePackSource × Bool)
  | [] => .ok ([], true)
  | row :: rows =>
    match window row with
    | .ok source => do
      let (sources, complete) ← recallWindows window rows
      return (source :: sources, complete)
    | .error e =>
      if e.unreadable then do
        let (sources, _) ← recallWindows window rows
        return (sources, false)
      else
        .error e

def recallOriginalSources (window : OriginalRow → Except Error EvidencePackSource)
    (rows : List OriginalRow) : Except Error (List EvidencePackSource × Bool) := do
  let (sources, complete) ← recallWindows window (rows.take 12)
  return (sources, rows.length ≤ 12 && complete)

/-! ## Candidates -/

/-- The documents that a note refers to. -/
def sourceIds (sourceRef : Json) : List String :=
  ((((sourceRef.get "evidence").bind Json.asArr).getD []).filterMap fun entry =>
      ((((entry.get "source").bind (·.get "document")).bind (·.get "ref")).bind
        (·.get "doc_id")).bind Json.asStr)
    ++ (((sourceRef.get "ref").bind (·.get "doc_id")).bind Json.asStr).toList

-- The loop that selects rows which refer to a document none of the selected ones refers to. The flag
-- says whether it has returned from the function.
def selectCovering (limit : Nat) (covered : List String) (selected : List Nat)
    : List (RecallRow × Nat) → List Nat × Bool
  | [] => (selected, false)
  | (row, index) :: rows =>
    let ids := sourceIds row.sourceRef
    if !ids.isEmpty && !(ids.all fun id => covered.contains id) then
      let selected := selected ++ [index]
      if selected.length = limit then
        (selected, true)
      else
        selectCovering limit (covered ++ ids) selected rows
    else
      selectCovering limit covered selected rows

def selectRemaining (limit : Nat) (selected : List Nat) : List Nat → List Nat
  | [] => selected
  | index :: indices =>
    let selected := if selected.contains index then selected else selected ++ [index]
    if selected.length = limit then selected else selectRemaining limit selected indices

def selectSourceDiverse (rows : List RecallRow) (limit : Nat) : List Nat :=
  let (selected, returned) := selectCovering limit [] [] rows.zipIdx
  if returned then selected else selectRemaining limit selected (List.range rows.length)

def RecallRow.candidate (row : RecallRow) : EvidenceRecallCandidate :=
  ⟨row.noteId, row.lexicalMatch, row.entityIds⟩

def recallCandidates (rows : List RecallRow) : List EvidenceRecallCandidate :=
  let rows := rows.take 128
  (selectSourceDiverse rows 12).filterMap fun index => rows[index]?.map RecallRow.candidate

def recallTruncated (rows : List RecallRow) : Bool :=
  128 < rows.length || (selectSourceDiverse (rows.take 128) 12).length < (rows.take 128).length

/-! ## Sources -/

/-- The sources that fit the cap, each once, and whether all of them fit. -/
def capSources (seen : List String) (bytes : Nat)
    : List EvidencePackSource → List EvidencePackSource × Bool
  | [] => ([], true)
  | source :: sources =>
    if seen.contains source.reference then
      capSources seen bytes sources
    else if 32768 < bytes + source.text.utf8ByteSize then
      ((capSources (source.reference :: seen) bytes sources).1, false)
    else
      let (kept, complete) := capSources (source.reference :: seen)
        (bytes + source.text.utf8ByteSize) sources
      (source :: kept, complete)

def recordTime (source : EvidencePackSource) : Option Int :=
  source.sourceTimestamp.bind svc.parseTime

def recordLe (a b : EvidencePackSource) : Bool :=
  match recordTime svc a, recordTime svc b with
  | none, some _ => true
  | some _, none => false
  | none, none => a.reference ≤ b.reference
  | some s, some t => if s = t then a.reference ≤ b.reference else s < t

/-- The note with the references that are among the sources. -/
def EvidencePackNote.retain (included : List EvidencePackSource) (note : EvidencePackNote)
    : EvidencePackNote :=
  let kept (reference : String) := included.any fun source => source.reference = reference
  { note with
    complete := note.complete && note.sourceReferences.all kept
    sourceReferences := note.sourceReferences.filter kept }

/-- The pack with the originals that were found directly, all within the cap. -/
def capPack (direct : List EvidencePackSource) (directComplete : Bool) (pack : EvidencePackResponse)
    : EvidencePackResponse :=
  let (sources, complete) := capSources [] 0 (direct ++ pack.sources)
  { pack with
    complete := pack.complete && directComplete && complete
    sourceBytes := sourceBytesOf sources
    sources := sources.insertionSort fun a b => recordLe svc a b
    notes := pack.notes.map (EvidencePackNote.retain sources) }

/-! ## Budget -/

def EvidenceRecallCandidate.toJson (candidate : EvidenceRecallCandidate) : Json :=
  .obj [("note_id", uuidJson candidate.noteId), ("lexical_match", .bool candidate.lexicalMatch),
    ("entity_ids", .arr (candidate.entityIds.map uuidJson))]

def EvidenceRecallResponse.toJson (response : EvidenceRecallResponse) : Json :=
  .obj [("schema", .str response.schema),
    ("as_of", .ofOption (fun t => .str (svc.formatTime t)) response.asOf),
    ("truncated", .bool response.truncated),
    ("candidates", .arr (response.candidates.map EvidenceRecallCandidate.toJson)),
    ("pack", response.pack.toJson svc)]

def visibleCandidates (pack : EvidencePackResponse) (candidates : List EvidenceRecallCandidate)
    : List EvidenceRecallCandidate :=
  candidates.filter fun candidate => pack.notes.any fun note => note.noteId = candidate.noteId

def EvidenceRecallResponse.removeLastEntry (response : EvidenceRecallResponse)
    : Option EvidenceRecallResponse :=
  response.pack.removeLastEntry.map fun pack =>
    { response with
      truncated := true
      pack
      candidates := visibleCandidates pack response.candidates }

def metadataDoesNotFit : Error := .invalidRequest "Recall metadata does not fit max_bytes."

def EvidenceRecallResponse.size (response : EvidenceRecallResponse) : Nat :=
  serializedSize (response.toJson svc)

/-- The response once it fits, which is truncated when its pack is not complete. -/
def EvidenceRecallResponse.finish (response : EvidenceRecallResponse) : EvidenceRecallResponse :=
  { response with truncated := response.truncated || !response.pack.complete }

def EvidenceRecallResponse.limitBytes (fuel maximum : Nat) (response : EvidenceRecallResponse)
    : Option (Except Error EvidenceRecallResponse) :=
  (shrink (size svc) removeLastEntry metadataDoesNotFit maximum fuel response).map (Except.map finish)

/-! ## The request -/

/-- What the request finds: rows of notes, rows of originals, and how each of them is read. -/
structure RecallFinds where
  rows : List RecallRow
  originals : List OriginalRow
  resolve : Uuid → Nat → Except Error NoteEvidenceResponse
  window : OriginalRow → Except Error EvidencePackSource

def validateSubjects (subjects : List String) : Except Error Unit :=
  Except.rejectIf (subjects.length < 1 || 4 < subjects.length
      || subjects.any fun s => (trim s).toList.length < 2 || 128 < s.utf8ByteSize)
    (.invalidRequest "Supply 1 to 4 literal subjects of 2 to 128 bytes.")

def EvidenceRecallRequest.packRequest (req : EvidenceRecallRequest) (finds : RecallFinds)
    : EvidencePackRequest := {
  tenantId := req.tenantId
  projectId := req.projectId
  agentId := req.agentId
  readProfile := req.readProfile
  noteIds := (recallCandidates finds.rows).map EvidenceRecallCandidate.noteId
  maxSourceBytes := none
  maxBytes := req.maxBytes }

def recallPack (fuel : Nat) (finds : RecallFinds) (req : EvidenceRecallRequest)
    : Option (Except Error EvidencePackResponse) :=
  if recallCandidates finds.rows = [] then some (.ok .empty)
  else evidencePack svc fuel finds.resolve (req.packRequest finds)

/-- The response before it is cut. -/
def assembleRecall (finds : RecallFinds) (req : EvidenceRecallRequest)
    (direct : List EvidencePackSource × Bool) (pack : EvidencePackResponse)
    : EvidenceRecallResponse :=
  let pack := capPack svc direct.1 direct.2 pack
  { schema := "elf.evidence_recall/v1"
    asOf := req.asOf
    truncated := recallTruncated finds.rows
    candidates := visibleCandidates pack (recallCandidates finds.rows)
    pack }

/-- The limit of the response, and the originals that are found directly. -/
def prepareRecall (finds : RecallFinds) (req : EvidenceRecallRequest)
    : Except Error (Nat × List EvidencePackSource × Bool) := do
  let limit ← responseLimit req.maxBytes
  validateSubjects req.subjects
  let _ ← resolveReadProfileScopes svc req.readProfile
  let direct ← recallOriginalSources finds.window finds.originals
  return (limit, direct)

/-- The recall, with at most `fuel` rounds of each loop that cuts it. -/
def evidenceRecall (fuel : Nat) (finds : RecallFinds) (req : EvidenceRecallRequest)
    : Option (Except Error EvidenceRecallResponse) :=
  match prepareRecall svc finds req with
  | .error e => some (.error e)
  | .ok (limit, direct) =>
    match recallPack svc fuel finds req with
    | none => none
    | some (.error e) => some (.error e)
    | some (.ok pack) => (assembleRecall svc finds req direct pack).limitBytes svc fuel limit

end Elf
