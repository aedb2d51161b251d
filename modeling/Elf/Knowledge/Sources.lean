import Elf.Docs.Models
import Elf.Domain.Consolidation
import Elf.Graph.Models
import Elf.Knowledge.Models
import Elf.Search.Candidates

/-!
This module contains the rows that a knowledge page may cite: documents, their chunks, notes, the
audits of events, the facts of the graph and applied proposals. They are fetched by their
identifiers for a reader, or for the page itself where there is no reader.
-/

namespace Elf

open Sorting

/-! ## Tables -/

/-- A row of `memory_ingest_decisions`, with the columns that only pages read. -/
structure IngestAudit where
  decision : IngestDecision
  pipeline : String
  details : Json

def IngestAudit.decisionId (row : IngestAudit) : Uuid := row.decision.decisionId

/-- A row of `graph_facts`, with the time of its last update. -/
structure GraphFactRow where
  fact : GraphFact
  updatedAt : Nat

def GraphFactRow.factId (row : GraphFactRow) : Uuid := row.fact.factId

/-- A row of `graph_fact_evidence`, with the time of its insertion. -/
structure GraphFactEvidenceRow where
  evidence : GraphFactEvidence
  createdAt : Nat

def GraphFactEvidenceRow.ref (row : GraphFactEvidenceRow) : Uuid × Uuid := row.evidence.ref

structure SourceDb where
  docs : DocStore
  ingestDecisions : Table IngestAudit IngestAudit.decisionId
  entities : Table GraphEntity GraphEntity.entityId
  facts : Table GraphFactRow GraphFactRow.factId
  evidence : Table GraphFactEvidenceRow GraphFactEvidenceRow.ref

namespace SourceDb

variable (db : SourceDb)

def notes : Table MemoryNote MemoryNote.noteId := db.docs.memory.notes

def proposals : Table ConsolidationProposal ConsolidationProposal.proposalId :=
  db.docs.memory.proposals

end SourceDb

/-- For whom sources are fetched. -/
structure SourceReader where
  tenantId : String
  projectId : String
  agentId : Option String
  allowedScopes : List String
  sharedGrants : List SharedSpaceGrantKey

/-- The time of the database in the statements that look at an expiry. -/
structure SourceClock where
  notes : Nat
  events : Nat
  relations : Nat

/-! ## Rows -/

structure KnowledgeDocSource where
  docId : Uuid
  agentId : String
  scope : String
  docType : String
  status : String
  title : Option String
  sourceRef : Json
  content : String
  contentBytes : Nat
  contentHash : String
  createdAt : Nat
  updatedAt : Nat
deriving DecidableEq

structure KnowledgeDocChunkSource where
  chunkId : Uuid
  docId : Uuid
  agentId : String
  scope : String
  docType : String
  status : String
  title : Option String
  sourceRef : Json
  docContentHash : String
  docUpdatedAt : Nat
  chunkIndex : Nat
  startOffset : Nat
  endOffset : Nat
  chunkText : String
  chunkHash : String
  chunkCreatedAt : Nat
deriving DecidableEq

structure KnowledgeNoteSource where
  noteId : Uuid
  agentId : String
  scope : String
  noteType : String
  key : Option String
  text : String
  importance : F32
  confidence : F32
  status : String
  createdAt : Nat
  updatedAt : Nat
  expiresAt : Option Nat
  embeddingVersion : String
  sourceRef : Json
deriving DecidableEq

structure KnowledgeEventSource where
  decisionId : Uuid
  agentId : String
  scope : String
  pipeline : String
  noteType : String
  noteKey : Option String
  noteId : Option Uuid
  policyDecision : String
  noteOp : String
  reasonCode : Option String
  details : Json
  ts : Nat
deriving DecidableEq

structure KnowledgeRelationSource where
  factId : Uuid
  agentId : String
  scope : String
  subject : String
  subjectKind : Option String
  predicate : String
  objectEntity : Option String
  objectKind : Option String
  objectValue : Option String
  validFrom : Option Int
  validTo : Option Int
  updatedAt : Nat
  evidenceNotes : Json
deriving DecidableEq

/-- The contradiction and staleness markers, which no snapshot keeps, are left out. -/
structure KnowledgeProposalSource where
  proposalId : Uuid
  runId : Uuid
  agentId : String
  proposalKind : String
  applyIntent : String
  reviewState : String
  sourceRefs : Json
  sourceSnapshot : Json
  lineage : Json
  diff : Json
  confidence : F32
  unsupportedClaimFlags : Json
  targetRef : Json
  proposedPayload : Json
  updatedAt : Nat
deriving DecidableEq

def MemoryPolicyDecision.asStr : MemoryPolicyDecision → String
  | .remember => "remember"
  | .update => "update"
  | .ignore => "ignore"
  | .reject => "reject"

def NoteOp.asStr : NoteOp → String
  | .add => "ADD"
  | .update => "UPDATE"
  | .none => "NONE"
  | .delete => "DELETE"
  | .rejected => "REJECTED"

def ConsolidationReviewState.asStr : ConsolidationReviewState → String
  | .proposed => "proposed"
  | .approved => "approved"
  | .rejected => "rejected"
  | .applied => "applied"
  | .archived => "archived"

def DocDocument.knowledgeSource (doc : DocDocument) : KnowledgeDocSource := {
  docId := doc.docId
  agentId := doc.agentId
  scope := doc.scope
  docType := doc.docType
  status := doc.status
  title := doc.title
  sourceRef := doc.sourceRef
  content := doc.content
  contentBytes := doc.contentBytes
  contentHash := doc.contentHash
  createdAt := doc.createdAt
  updatedAt := doc.updatedAt }

def DocChunk.knowledgeSource (chunk : DocChunk) (doc : DocDocument) : KnowledgeDocChunkSource := {
  chunkId := chunk.chunkId
  docId := chunk.docId
  agentId := doc.agentId
  scope := doc.scope
  docType := doc.docType
  status := doc.status
  title := doc.title
  sourceRef := doc.sourceRef
  docContentHash := doc.contentHash
  docUpdatedAt := doc.updatedAt
  chunkIndex := chunk.chunkIndex
  startOffset := chunk.startOffset
  endOffset := chunk.endOffset
  chunkText := chunk.chunkText
  chunkHash := chunk.chunkHash
  chunkCreatedAt := chunk.createdAt }

def MemoryNote.knowledgeSource (note : MemoryNote) : KnowledgeNoteSource := {
  noteId := note.noteId
  agentId := note.agentId
  scope := note.scope
  noteType := note.type
  key := note.key
  text := note.text
  importance := note.importance
  confidence := note.confidence
  status := note.status
  createdAt := note.createdAt
  updatedAt := note.updatedAt
  expiresAt := note.expiresAt
  embeddingVersion := note.embeddingVersion
  sourceRef := note.sourceRef }

def IngestAudit.knowledgeSource (row : IngestAudit) : KnowledgeEventSource := {
  decisionId := row.decision.decisionId
  agentId := row.decision.agentId
  scope := row.decision.scope
  pipeline := row.pipeline
  noteType := row.decision.noteType
  noteKey := row.decision.noteKey
  noteId := row.decision.noteId
  policyDecision := row.decision.policyDecision.asStr
  noteOp := row.decision.noteOp.asStr
  reasonCode := row.decision.reasonCode
  details := row.details
  ts := row.decision.ts }

def ConsolidationProposal.knowledgeSource (proposal : ConsolidationProposal)
    : KnowledgeProposalSource := {
  proposalId := proposal.proposalId
  runId := proposal.runId
  agentId := proposal.agentId
  proposalKind := proposal.proposalKind
  applyIntent := proposal.applyIntent.asStr
  reviewState := proposal.reviewState.asStr
  sourceRefs := proposal.sourceRefs
  sourceSnapshot := proposal.sourceSnapshot
  lineage := proposal.lineage
  diff := proposal.diff
  confidence := proposal.confidence
  unsupportedClaimFlags := proposal.unsupportedClaimFlags
  targetRef := proposal.targetRef
  proposedPayload := proposal.proposedPayload
  updatedAt := proposal.updatedAt }

/-! ## Queries -/

variable (db : SourceDb) (reader : SourceReader)

/--
The rows of a table under the identifiers, as far as `pick` selects them. There is no query where
there are no identifiers.
-/
def fetchSources {key : α → Uuid} (table : Table α key) (order : β → β → Ordering) (ids : List Uuid)
    (pick : α → Option β) : List β :=
  if ids.isEmpty then
    []
  else
    sortBy order ((table.rows.filter fun row => ids.contains (key row)).filterMap pick)

def SourceReader.reachesProject (tenantId projectId : String) : Bool :=
  tenantId = reader.tenantId && projectId = reader.projectId

/-- The conditions on the owner and the scope of a row. -/
def SourceReader.selects (agentId scope : String) : Bool :=
  (reader.agentId.isNone || scope ≠ "agent_private" || reader.agentId = some agentId)
    && reader.allowedScopes.contains scope

def docSource (doc : DocDocument) : Option KnowledgeDocSource :=
  if reader.reachesProject doc.tenantId doc.projectId && reader.selects doc.agentId doc.scope
      && doc.status = "active" then
    some doc.knowledgeSource
  else
    none

def fetchKnowledgeDocSources (docIds : List Uuid) : List KnowledgeDocSource :=
  fetchSources db.docs.documents (compareLex (compareOn (·.updatedAt)) (compareOn (·.docId))) docIds
    (docSource reader)

def docChunkSource (chunk : DocChunk) : Option KnowledgeDocChunkSource :=
  ((db.docs.documents.find? chunk.docId).filter fun doc =>
    reader.reachesProject doc.tenantId doc.projectId && reader.selects doc.agentId doc.scope
      && doc.status = "active").map chunk.knowledgeSource

def fetchKnowledgeDocChunkSources (chunkIds : List Uuid) : List KnowledgeDocChunkSource :=
  fetchSources db.docs.chunks (compareLex (compareOn (·.docUpdatedAt))
    (compareLex (compareOn (·.chunkIndex)) (compareOn (·.chunkId)))) chunkIds
    (docChunkSource db reader)

def noteSource (now : Nat) (note : MemoryNote) : Option KnowledgeNoteSource :=
  if reader.reachesProject note.tenantId note.projectId && reader.selects note.agentId note.scope
      && note.status = "active" && !note.expired now then
    some note.knowledgeSource
  else
    none

def fetchKnowledgeNoteSources (now : Nat) (noteIds : List Uuid) : List KnowledgeNoteSource :=
  fetchSources db.notes (compareLex (compareOn (·.updatedAt)) (compareOn (·.noteId))) noteIds
    (noteSource reader now)

def eventSource (now : Nat) (row : IngestAudit) : Option KnowledgeEventSource :=
  ((row.decision.noteId.bind db.notes.find?).filter fun note =>
    reader.reachesProject row.decision.tenantId row.decision.projectId
      && reader.selects row.decision.agentId row.decision.scope
      && row.pipeline = "add_event"
      && ["remember", "update"].contains row.decision.policyDecision.asStr
      && note.tenantId = row.decision.tenantId && note.projectId = row.decision.projectId
      && note.status = "active" && !note.expired now
      && reader.selects note.agentId note.scope).map fun _ => row.knowledgeSource

def fetchKnowledgeEventSources (now : Nat) (decisionIds : List Uuid) : List KnowledgeEventSource :=
  fetchSources db.ingestDecisions (compareLex (compareOn (·.ts)) (compareOn (·.decisionId)))
    decisionIds (eventSource db reader now)

/-- The conditions on the owner and the scope of a fact, or of a note that it rests on. -/
def SourceReader.selectsShared (agentId scope : String) : Bool :=
  reader.allowedScopes.contains scope
    && (reader.agentId.isNone
      || (reader.allowedScopes.contains "agent_private" && scope = "agent_private"
        && reader.agentId = some agentId)
      || (scope ≠ "agent_private"
        && (reader.agentId = some agentId
          || (sharedScopeKeyStrings reader.sharedGrants).contains (scope ++ ":" ++ agentId))))

def evidenceReadable (now : Nat) (fact : GraphFact) (note : MemoryNote) : Bool :=
  note.tenantId = fact.tenantId && note.projectId = fact.projectId && note.status = "active"
    && !note.expired now && reader.selectsShared note.agentId note.scope

/-- The notes that a fact rests on, as far as they are readable. -/
def readableEvidence (now : Nat) (fact : GraphFact) : List (GraphFactEvidenceRow × MemoryNote) :=
  (db.evidence.rows.filter fun row => row.evidence.factId = fact.factId).filterMap fun row =>
    ((db.notes.find? row.evidence.noteId).filter (evidenceReadable reader now fact)).map fun note =>
      (row, note)

def evidenceNotesJson (evidence : List (GraphFactEvidenceRow × MemoryNote)) : Json :=
  .arr ((sortBy (compareLex (compareOn fun entry => entry.1.createdAt)
      (compareOn fun entry => entry.1.evidence.noteId)) evidence).map fun entry =>
    .obj [
      ("note_id", uuidJson entry.1.evidence.noteId),
      ("status", .str entry.2.status),
      ("updated_at", timeJson entry.2.updatedAt)])

def GraphFactRow.knowledgeSource (row : GraphFactRow) (subject : GraphEntity)
    (object : Option GraphEntity) (evidenceNotes : Json) : KnowledgeRelationSource := {
  factId := row.fact.factId
  agentId := row.fact.agentId
  scope := row.fact.scope
  subject := subject.canonical
  subjectKind := subject.kind
  predicate := row.fact.predicate
  objectEntity := object.map GraphEntity.canonical
  objectKind := object.bind GraphEntity.kind
  objectValue := row.fact.objectValue
  validFrom := row.fact.validFrom
  validTo := row.fact.validTo
  updatedAt := row.updatedAt
  evidenceNotes }

def relationSource (now : Nat) (row : GraphFactRow) : Option KnowledgeRelationSource :=
  if reader.reachesProject row.fact.tenantId row.fact.projectId
      && reader.selectsShared row.fact.agentId row.fact.scope
      && !(readableEvidence db reader now row.fact).isEmpty then
    (db.entities.find? row.fact.subjectEntityId).map fun subject =>
      row.knowledgeSource subject (row.fact.objectEntityId.bind db.entities.find?)
        (evidenceNotesJson (readableEvidence db reader now row.fact))
  else
    none

def fetchKnowledgeRelationSources (now : Nat) (factIds : List Uuid)
    : List KnowledgeRelationSource :=
  fetchSources db.facts (compareLex (compareOn (·.updatedAt)) (compareOn (·.factId))) factIds
    (relationSource db reader now)

def proposalSource (proposal : ConsolidationProposal) : Option KnowledgeProposalSource :=
  if reader.reachesProject proposal.tenantId proposal.projectId
      && proposal.reviewState = .applied then
    some proposal.knowledgeSource
  else
    none

def fetchKnowledgeProposalSources (proposalIds : List Uuid) : List KnowledgeProposalSource :=
  fetchSources db.proposals (compareLex (compareOn (·.updatedAt)) (compareOn (·.proposalId)))
    proposalIds (proposalSource reader)

/-! ## Access -/

def sourceRowReadAllowed (ownerAgentId scope : String) : Bool :=
  if !reader.allowedScopes.contains scope then
    false
  else
    match reader.agentId with
    | none => true
    | some requesterAgentId =>
      if scope = "agent_private" then
        ownerAgentId = requesterAgentId
      else if !isSharedScope scope then
        false
      else if ownerAgentId = requesterAgentId then
        true
      else
        reader.sharedGrants.contains ⟨scope, ownerAgentId⟩

/-! ## Identifiers -/

structure SourceIds where
  docIds : List Uuid
  docChunkIds : List Uuid
  noteIds : List Uuid
  eventIds : List Uuid
  relationIds : List Uuid
  proposalIds : List Uuid

namespace SourceIds

def sortedUnique (ids : List Uuid) : List Uuid := ids.dedup.insertionSort (· ≤ ·)

/-- The identifiers of the sources of one kind. -/
def ofKind (ids : SourceIds) : KnowledgeSourceKind → List Uuid
  | .doc => ids.docIds
  | .docChunk => ids.docChunkIds
  | .note => ids.noteIds
  | .event => ids.eventIds
  | .relation => ids.relationIds
  | .proposal => ids.proposalIds

def citedIds (sourceRefs : List KnowledgePageSourceRef) (kind : KnowledgeSourceKind) : List Uuid :=
  sortedUnique ((sourceRefs.filter fun sourceRef =>
    KnowledgeSourceKind.parse sourceRef.sourceKind = some kind).map (·.sourceId))

def fromSourceRefs (sourceRefs : List KnowledgePageSourceRef) : Except Error SourceIds :=
  if sourceRefs.any fun sourceRef => (KnowledgeSourceKind.parse sourceRef.sourceKind).isNone then
    .error (.invalidRequest "stored knowledge page source kind is invalid")
  else
    .ok {
      docIds := citedIds sourceRefs .doc
      docChunkIds := citedIds sourceRefs .docChunk
      noteIds := citedIds sourceRefs .note
      eventIds := citedIds sourceRefs .event
      relationIds := citedIds sourceRefs .relation
      proposalIds := citedIds sourceRefs .proposal }

end SourceIds

structure SourceRows where
  docs : List KnowledgeDocSource
  docChunks : List KnowledgeDocChunkSource
  notes : List KnowledgeNoteSource
  events : List KnowledgeEventSource
  relations : List KnowledgeRelationSource
  proposals : List KnowledgeProposalSource
deriving DecidableEq

def resolveExistingSourceRows (clock : SourceClock) (ids : SourceIds) : SourceRows := {
  docs := (fetchKnowledgeDocSources db reader ids.docIds).filter fun source =>
    sourceRowReadAllowed reader source.agentId source.scope
  docChunks := (fetchKnowledgeDocChunkSources db reader ids.docChunkIds).filter fun source =>
    sourceRowReadAllowed reader source.agentId source.scope
  notes := (fetchKnowledgeNoteSources db reader clock.notes ids.noteIds).filter fun source =>
    sourceRowReadAllowed reader source.agentId source.scope
  events := (fetchKnowledgeEventSources db reader clock.events ids.eventIds).filter fun source =>
    sourceRowReadAllowed reader source.agentId source.scope
  relations := fetchKnowledgeRelationSources db reader clock.relations ids.relationIds
  proposals := fetchKnowledgeProposalSources db reader ids.proposalIds }

end Elf
