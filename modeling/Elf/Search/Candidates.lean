import Elf.Lib.PointFilter
import Elf.Service.Access

/-!
This module contains how a search gets from the points of the index to the notes it may show: the
filter that it asks the index with, the rows it loads for the candidates, and the snippets it
builds from both. The recall query gets the grants of the reader as strings.
-/

namespace Elf

open PointFilter Text

/-! ## The filter -/

def scopeConditions (agentId : String) (allowedScopes : List String) : List Condition :=
  let nonPrivateScopes := allowedScopes.filter (· ≠ "agent_private")
  (if allowedScopes.contains "agent_private" then
    [.filter (.all [.keyword "scope" "agent_private", .keyword "agent_id" agentId])]
  else
    [])
  ++ if nonPrivateScopes.isEmpty then [] else [.keywords "scope" nonPrivateScopes]

def projectOrOrgBranches (projectId agentId : String) (allowedScopes : List String)
    : List Condition :=
  let conditions := scopeConditions agentId allowedScopes
  -- Without a condition on the scope there is no minimum to ask for.
  let scopeMinCount := if conditions.isEmpty then 0 else 1
  .filter ⟨[.keyword "project_id" projectId], [], [], scopeMinCount, conditions⟩
    :: if allowedScopes.contains "org_shared" then
      [.filter (.all [.keyword "project_id" orgProjectId, .keyword "scope" "org_shared"])]
    else
      []

def buildSearchFilter (tenantId projectId agentId : String) (allowedScopes : List String)
    : Filter :=
  ⟨[.keyword "tenant_id" tenantId, .keyword "status" "active"], [], [], 1,
    projectOrOrgBranches projectId agentId allowedScopes⟩

/-! ## Points -/

structure ChunkCandidate where
  chunkId : Uuid
  noteId : Uuid
  chunkIndex : Int
  retrievalRank : Nat
  retrievalScore : Option F32
  scope : Option String
  updatedAt : Option Nat
  embeddingVersion : Option String

/-- Times as RFC 3339 texts. -/
structure Rfc3339 where
  format : Nat → Option String
  parse : String → Option Nat

inductive PointId where
  | uuid (text : String)
  | num (n : Nat)

structure ScoredPoint where
  id : Option PointId
  payload : Json
  score : F32

def readUuid (value : Json) : Option Uuid := value.asStr.bind Uuid.parseStr

def readI32 (value : Json) : Option Int :=
  value.asInt.filter fun n => -2147483648 ≤ n && n < 2147483648

def pointIdToUuid : PointId → Option Uuid
  | .uuid text => Uuid.parseStr text
  | .num _ => none

def ScoredPoint.chunkId (point : ScoredPoint) : Option Uuid :=
  (point.id.bind pointIdToUuid).or ((point.payload.get "chunk_id").bind readUuid)

def ScoredPoint.candidate (rfc : Rfc3339) (point : ScoredPoint) (chunkId : Uuid) (rank : Nat)
    : Option ChunkCandidate := do
  let noteId ← (point.payload.get "note_id").bind readUuid
  let chunkIndex ← (point.payload.get "chunk_index").bind readI32
  return {
    chunkId
    noteId
    chunkIndex
    retrievalRank := rank
    retrievalScore := some point.score
    updatedAt := ((point.payload.get "updated_at").bind Json.asStr).bind rfc.parse
    embeddingVersion := (point.payload.get "embedding_version").bind Json.asStr
    scope := (point.payload.get "scope").bind Json.asStr }

/-- The candidates of points and their places, where a chunk counts once. -/
def collectPoints (rfc : Rfc3339) : List (ScoredPoint × Nat) → List Uuid → List ChunkCandidate
  | [], _ => []
  | (point, idx) :: rest, seen =>
    match point.chunkId with
    | none => collectPoints rfc rest seen
    | some chunkId =>
      if seen.contains chunkId then
        collectPoints rfc rest seen
      else
        (point.candidate rfc chunkId (idx + 1)).toList ++ collectPoints rfc rest (chunkId :: seen)

def collectChunkCandidates (rfc : Rfc3339) (points : List ScoredPoint)
    (maxCandidates candidateK : Nat) : List ChunkCandidate :=
  let limit :=
    if maxCandidates = 0 ∨ candidateK ≤ maxCandidates then points.length else maxCandidates
  collectPoints rfc (points.take limit).zipIdx []

/-! ## Rows -/

structure NoteMeta where
  noteId : Uuid
  noteType : String
  key : Option String
  scope : String
  agentId : String
  importance : F32
  confidence : F32
  updatedAt : Nat
  expiresAt : Option Nat
  sourceRef : Json
  embeddingVersion : String
  hitCount : Nat
  lastHitAt : Option Nat
deriving DecidableEq

def NoteMeta.ofNote (note : MemoryNote) : NoteMeta := {
  noteId := note.noteId
  noteType := note.type
  key := note.key
  scope := note.scope
  agentId := note.agentId
  importance := note.importance
  confidence := note.confidence
  updatedAt := note.updatedAt
  expiresAt := note.expiresAt
  sourceRef := note.sourceRef
  embeddingVersion := note.embeddingVersion
  hitCount := note.hitCount
  lastHitAt := note.lastHitAt }

/-- Who searches, and the scopes that the search may show. -/
structure SearchReader where
  tenantId : String
  projectId : String
  agentId : String
  allowedScopes : List String

/-- The `WHERE` clause on the tenant and the project. -/
def SearchReader.reaches (reader : SearchReader) (note : MemoryNote) : Bool :=
  note.tenantId = reader.tenantId
    && (note.projectId = reader.projectId
      || (note.projectId = orgProjectId && note.scope = "org_shared"))

def SearchReader.grants (reader : SearchReader) (s : Store) : List SharedSpaceGrantKey :=
  loadSharedReadGrantsWithOrgShared s reader.tenantId reader.projectId reader.agentId
    (reader.allowedScopes.contains "org_shared")

/-- The row is selected, and the reader may read it. -/
def SearchReader.admits (reader : SearchReader) (grants : List SharedSpaceGrantKey) (now : Nat)
    (note : MemoryNote) : Bool :=
  reader.reaches note && noteReadAllowed note reader.agentId reader.allowedScopes grants now

/-- The rows of the candidates by their identifiers. -/
def fetchNoteMetaForCandidates (s : Store) (reader : SearchReader) (candidateNoteIds : List Uuid)
    (now : Nat) (noteId : Uuid) : Option NoteMeta :=
  if candidateNoteIds.contains noteId then
    ((s.notes.find? noteId).filter (reader.admits (reader.grants s) now)).map NoteMeta.ofNote
  else
    none

/-! ## Snippets -/

structure ChunkRow where
  chunkId : Uuid
  noteId : Uuid
  chunkIndex : Int
  startOffset : Int
  endOffset : Int
  text : String
deriving DecidableEq

structure ChunkMeta where
  chunkId : Uuid
  chunkIndex : Int
  startOffset : Int
  endOffset : Int
deriving DecidableEq

structure ChunkSnippet where
  note : NoteMeta
  chunk : ChunkMeta
  snippet : String
  retrievalRank : Nat
  retrievalScore : Option F32

/-- A point that was built from an older state of its note is stale. -/
def candidateMatchesNote (noteMeta : Uuid → Option NoteMeta) (candidate : ChunkCandidate) : Bool :=
  match noteMeta candidate.noteId with
  | none => false
  | some note =>
    candidate.embeddingVersion.all (· = note.embeddingVersion)
      && candidate.updatedAt.all (· = note.updatedAt)

/-- The candidates that match their notes and pass the filter of the request, if it has one. -/
def applyFilterToCandidates (candidates : List ChunkCandidate) (noteMeta : Uuid → Option NoteMeta)
    (filter : Option (NoteMeta → Bool)) : List ChunkCandidate :=
  let filtered := candidates.filter (candidateMatchesNote noteMeta)
  match filter with
  | some evaluate => filtered.filter fun candidate => (noteMeta candidate.noteId).any evaluate
  | none => filtered

-- The neighbours of a 32-bit index that are in range.
def checkedSubOne (index : Int) : Option Int := if -2147483648 < index then some (index - 1) else none

def checkedAddOne (index : Int) : Option Int := if index < 2147483647 then some (index + 1) else none

def neighborIndices (index : Int) : List (Option Int) :=
  [checkedSubOne index, some index, checkedAddOne index]

/-- `SELECT … FROM memory_note_chunks WHERE (note_id, chunk_index) …`. -/
def fetchChunksByPair (chunks : List ChunkRow) (candidates : List ChunkCandidate) : List ChunkRow :=
  chunks.filter fun row => candidates.any fun candidate =>
    candidate.noteId = row.noteId && (neighborIndices candidate.chunkIndex).contains (some row.chunkIndex)

def stitchSnippet (noteId : Uuid) (chunkIndex : Int) (rows : List ChunkRow) : String :=
  let texts := (neighborIndices chunkIndex).map fun index =>
    -- The map keeps the last row that was inserted for an index.
    ((rows.reverse.find? fun row => row.noteId = noteId && some row.chunkIndex = index).map
      (·.text)).getD ""
  trim (String.join texts)

def buildSnippetItem (rows : List ChunkRow) (noteMeta : Uuid → Option NoteMeta)
    (candidate : ChunkCandidate) : Option ChunkSnippet := do
  let row ← rows.reverse.find? (·.chunkId = candidate.chunkId)
  let snippet := stitchSnippet candidate.noteId row.chunkIndex rows
  if snippet = "" then
    none
  else
    let note ← noteMeta candidate.noteId
    return {
      note
      chunk := ⟨row.chunkId, row.chunkIndex, row.startOffset, row.endOffset⟩
      snippet
      retrievalRank := candidate.retrievalRank
      retrievalScore := candidate.retrievalScore }

def buildSnippetItems (chunks : List ChunkRow) (noteMeta : Uuid → Option NoteMeta)
    (candidates : List ChunkCandidate) : List ChunkSnippet :=
  candidates.filterMap (buildSnippetItem (fetchChunksByPair chunks candidates) noteMeta)

/-- The snippets that a search scores, and that its results are taken from. -/
def finishSearchSnippets (s : Store) (chunks : List ChunkRow) (reader : SearchReader)
    (candidates : List ChunkCandidate) (filter : Option (NoteMeta → Bool)) (now : Nat)
    : List ChunkSnippet :=
  let noteMeta := fetchNoteMetaForCandidates s reader (candidates.map (·.noteId)) now
  buildSnippetItems chunks noteMeta (applyFilterToCandidates candidates noteMeta filter)

/-! ## The recall query -/

/-- How a grant is written for a query. -/
def SharedSpaceGrantKey.keyString (grant : SharedSpaceGrantKey) : String :=
  grant.scope ++ ":" ++ grant.spaceOwnerAgentId

def sharedScopeKeyStrings (sharedGrants : List SharedSpaceGrantKey) : List String :=
  (sharedGrants.dedup.map SharedSpaceGrantKey.keyString).insertionSort (· ≤ ·)

/-- The conditions on the status, the expiry, the scope, the owner and the grants. -/
def recallVisible (note : MemoryNote) (agentId : String) (scopes grantKeys : List String)
    (now : Nat) : Bool :=
  note.status = "active"
    && (note.expiresAt.isNone || note.expiresAt.any (now < ·))
    && scopes.contains note.scope
    && ((note.scope = "agent_private" && note.agentId = agentId)
      || (["project_shared", "org_shared"].contains note.scope
        && (note.agentId = agentId || grantKeys.contains (note.scope ++ ":" ++ note.agentId))))

/-- The notes that the recall query looks at. -/
def visibleNotes (s : Store) (reader : SearchReader) (now : Nat) : List MemoryNote :=
  let grantKeys := sharedScopeKeyStrings (reader.grants s)
  s.notes.rows.filter fun note =>
    reader.reaches note && recallVisible note reader.agentId reader.allowedScopes grantKeys now

end Elf
