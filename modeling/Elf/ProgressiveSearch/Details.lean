import Elf.ProgressiveSearch.Session
import Elf.Service.Op

/-!
This module contains the details of a search session: the notes that a requester picks out of the
results, as far as it may read them by now, and the hits that are counted for them.
-/

namespace Elf

open Text

inductive PayloadLevel where
  | l0
  | l1
  | l2
deriving DecidableEq

structure SearchDetailsRequest where
  tenantId : String
  projectId : String
  agentId : String
  searchSessionId : Uuid
  payloadLevel : PayloadLevel
  noteIds : List Uuid
  recordHits : Option Bool

structure SearchDetailsError where
  code : String
  message : String
deriving DecidableEq

structure SearchDetailsResult where
  noteId : Uuid
  note : Option NoteFetchResponse
  error : Option SearchDetailsError

structure SearchDetailsResponse where
  isPreview : Bool
  searchSessionId : Uuid
  expiresAt : Nat
  results : List SearchDetailsResult

structure HitItem where
  noteId : Uuid
  chunkId : Uuid
  rank : Nat
  finalScore : F32
deriving DecidableEq

/-! ## Access -/

def validateNoteAccess (note : MemoryNote) (session : SearchSession) (allowedScopes : List String)
    (sharedGrants : List SharedSpaceGrantKey) (now : Nat) : Option SearchDetailsError :=
  if note.status ≠ "active" then
    some ⟨"NOTE_INACTIVE", "Note is not active."⟩
  else if note.expired now then
    some ⟨"NOTE_EXPIRED", "Note is expired."⟩
  else if !allowedScopes.contains note.scope then
    some ⟨"SCOPE_DENIED", "Note scope is not allowed for this read_profile."⟩
  else if !noteReadAllowed note session.agentId allowedScopes sharedGrants now then
    some ⟨"SCOPE_DENIED", "Note scope is not allowed for this read_profile."⟩
  else
    none

/-! ## Texts -/

def applyPayloadLevelToSearchDetailsText (rawText : String) (structured : Option StructuredFields)
    (payloadLevel : PayloadLevel) (previewMaxChars : Nat) : String :=
  match payloadLevel with
  | .l0 => buildSummary rawText previewMaxChars
  | .l1 =>
    let candidateText := ((structured.bind StructuredFields.summary).filter (!isBlank ·)).getD rawText
    buildSummary candidateText previewMaxChars
  | .l2 => rawText

/-! ## Results -/

structure SearchDetailsBuildArgs where
  sessionItemsByNoteId : NoteMap SearchSessionItemRecord
  notesById : NoteMap MemoryNote
  structuredByNote : NoteMap StructuredFields
  session : SearchSession
  sharedGrants : List SharedSpaceGrantKey
  allowedScopes : List String
  now : Nat
  recordHitsEnabled : Bool
  payloadLevel : PayloadLevel
  previewMaxChars : Nat

namespace SearchDetailsBuildArgs

variable (args : SearchDetailsBuildArgs)

def noteResponse (note : MemoryNote) : NoteFetchResponse :=
  let structured :=
    if args.payloadLevel = .l0 then none else args.structuredByNote.lookup note.noteId
  let noteText := applyPayloadLevelToSearchDetailsText note.text structured args.payloadLevel
    args.previewMaxChars
  let sourceRef := if args.payloadLevel = .l2 then note.sourceRef else .obj []
  { NoteFetchResponse.ofNote note structured with text := noteText, sourceRef }

/-- The results of the requested notes, and the hits of those that are shown for the first time. -/
def buildFrom (hitSeen : List Uuid) : List Uuid → List SearchDetailsResult × List HitItem
  | [] => ([], [])
  | noteId :: noteIds =>
    match args.sessionItemsByNoteId.lookup noteId with
    | none =>
      let (results, hits) := buildFrom hitSeen noteIds
      (⟨noteId, none, some ⟨"NOT_IN_SESSION",
        "Requested note_id is not present in the search session."⟩⟩ :: results, hits)
    | some sessionItem =>
      match args.notesById.lookup noteId with
      | none =>
        let (results, hits) := buildFrom hitSeen noteIds
        (⟨noteId, none, some ⟨"NOTE_NOT_FOUND", "Note not found."⟩⟩ :: results, hits)
      | some note =>
        match validateNoteAccess note args.session args.allowedScopes args.sharedGrants args.now with
        | some error =>
          let (results, hits) := buildFrom hitSeen noteIds
          (⟨noteId, none, some error⟩ :: results, hits)
        | none =>
          let result : SearchDetailsResult := ⟨noteId, some (args.noteResponse note), none⟩
          if args.recordHitsEnabled && !hitSeen.contains noteId then
            let (results, hits) := buildFrom (noteId :: hitSeen) noteIds
            (result :: results, {
              noteId
              chunkId := sessionItem.chunkId
              rank := sessionItem.rank
              finalScore := sessionItem.finalScore } :: hits)
          else
            let (results, hits) := buildFrom hitSeen noteIds
            (result :: results, hits)

end SearchDetailsBuildArgs

def buildSearchDetailsResults (requestedNoteIds : List Uuid) (args : SearchDetailsBuildArgs)
    : List SearchDetailsResult × List HitItem :=
  args.buildFrom [] requestedNoteIds

/-! ## Hits -/

variable (svc : SearchService)

def hitRows (query : String) (items : List HitItem) (draw : SearchDraw) : List MemoryHit :=
  items.zipIdx.map fun (item, idx) => {
    hitId := draw.hitId idx
    noteId := item.noteId
    chunkId := item.chunkId
    queryHash := svc.hashQuery query
    rank := item.rank
    finalScore := item.finalScore
    ts := timestamptz draw.now }

def countHits (noteIds : List Uuid) (now : Nat) (s : Store) : Store :=
  { s with
    notes := s.notes.updateWhere (fun row => noteIds.contains row.noteId) fun row =>
      { row with hitCount := row.hitCount + 1, lastHitAt := some (timestamptz now) } }

def recordDetailHits (query : String) (items : List HitItem) (draw : SearchDraw)
    : Transaction Error SearchDb Unit := fun db => do
  Except.rejectIf (!isValidText query) (.invalidText "$.query")
  items.forM fun item => Except.rejectIf (2147483647 < item.rank)
    (.invalidRequest "Search session rank is out of range.")
  let hits ← db.hits.insertAll (hitRows svc query items draw) duplicateKey
  return ((), { db with
    memory := countHits (items.map HitItem.noteId) draw.now db.memory
    hits })

/-! ## The request -/

/-- The items of a session by their notes. Of two items of a note the later one counts. -/
def itemsByNoteId (items : List SearchSessionItemRecord) : NoteMap SearchSessionItemRecord :=
  items.foldl (fun map item => (item.noteId, item) :: map) []

def requestedInSession (byNoteId : NoteMap SearchSessionItemRecord) (noteIds : List Uuid)
    : List Uuid :=
  (noteIds.filter fun noteId => (byNoteId.lookup noteId).isSome).eraseDups

def loadDetailNotes (s : Store) (session : SearchSession) (noteIds : List Uuid)
    : NoteMap MemoryNote :=
  (s.notes.rows.filter fun note => noteIds.contains note.noteId && note.tenantId = session.tenantId
    && (note.projectId = session.projectId
      || (note.projectId = orgProjectId && note.scope = "org_shared"))).map
    fun note => (note.noteId, note)

def fetchDetailFields (fields : FieldTable) (noteIds : List Uuid) : NoteMap StructuredFields :=
  noteIds.filterMap fun noteId =>
    (fetchStructuredFields fields noteId).map fun structured => (noteId, structured)

def detailsBuildArgs (req : SearchDetailsRequest) (session : SearchSession)
    (allowedScopes : List String) (now : Nat) (s : Store) : SearchDetailsBuildArgs :=
  let byNoteId := itemsByNoteId session.items
  let requested := requestedInSession byNoteId req.noteIds
  { sessionItemsByNoteId := byNoteId
    notesById := loadDetailNotes s session requested
    structuredByNote := if req.payloadLevel = .l0 then [] else fetchDetailFields s.fields requested
    session
    sharedGrants := loadSharedReadGrantsWithOrgShared s session.tenantId session.projectId
      (trim req.agentId) (allowedScopes.contains "org_shared")
    allowedScopes
    now
    recordHitsEnabled := req.recordHits.getD true
    payloadLevel := req.payloadLevel
    previewMaxChars := svc.previewMaxChars }

/-- The part of the request behind the session. -/
def materializeDetails (req : SearchDetailsRequest) (session : SearchSession) (expiresAt : Nat)
    (draw : SearchDraw) : Transaction Error SearchDb SearchDetailsResponse := fun db => do
  let allowedScopes ← resolveReadScopes svc session.readProfile
  let built := buildSearchDetailsResults req.noteIds
    (detailsBuildArgs svc req session allowedScopes draw.now db.memory)
  let response : SearchDetailsResponse := {
    isPreview := req.payloadLevel ≠ .l2
    searchSessionId := session.searchSessionId
    expiresAt
    results := built.1 }
  if built.2.isEmpty then
    return (response, db)
  else
    let ((), db) ← recordDetailHits svc session.query built.2 draw db
    return (response, db)

/-- The session stays touched when the rest of the request fails. -/
def searchDetails (req : SearchDetailsRequest) (draw : SearchDraw) (db : SearchDb)
    : Except Error SearchDetailsResponse × SearchDb :=
  match followUpSession svc db req.tenantId req.projectId req.agentId req.searchSessionId draw.now
    with
  | .error err => (.error err, db)
  | .ok session =>
    let touched := touchSearchSession session draw.now db
    match materializeDetails svc req session touched.1 draw touched.2 with
    | .error err => (.error err, touched.2)
    | .ok (response, db) => (.ok response, db)

/-! ## Steps -/

/-- One request, or one step of what else happens to the memory. -/
inductive SearchOp where
  | memory (step : Step)
  | search (req : SearchRequest) (path : SearchSessionizePath) (found : Except Error RawSearch)
  | session (req : SearchSessionGetRequest)
  | details (req : SearchDetailsRequest)

structure SearchStep where
  draw : SearchDraw
  op : SearchOp

def SearchStep.next (a : SearchStep) (db : SearchDb) : SearchDb :=
  match a.op with
  | .memory step => { db with memory := step.exec.next db.memory }
  | .search req path found => (searchSessionized svc req path found a.draw).next db
  | .session req => (searchSessionGet svc req a.draw.now db).2
  | .details req => (searchDetails svc req a.draw db).2

/-- The step relation of the sessions. -/
def SearchSteps (db : SearchDb) (a : SearchStep) (db' : SearchDb) : Prop := a.next svc db = db'

end Elf
