import Elf.Lib.Sorting
import Elf.Lib.Json
import Elf.Storage.Models
import Mathlib.Data.String.Basic

/-!
This module contains the tables of the derived knowledge pages: the pages with their sections, the
sources that the sections cite, and the findings of the lint, with the statements on them.
-/

namespace Elf

open Sorting

inductive KnowledgePageKind where
  | project
  | entity
  | concept
  | issue
  | decision
  | author
  | timeline
deriving DecidableEq

namespace KnowledgePageKind

def asStr : KnowledgePageKind → String
  | .project => "project"
  | .entity => "entity"
  | .concept => "concept"
  | .issue => "issue"
  | .decision => "decision"
  | .author => "author"
  | .timeline => "timeline"

def parse : String → Option KnowledgePageKind
  | "project" => some .project
  | "entity" => some .entity
  | "concept" => some .concept
  | "issue" => some .issue
  | "decision" => some .decision
  | "author" => some .author
  | "timeline" => some .timeline
  | _ => none

@[simp]
theorem parse_asStr (kind : KnowledgePageKind) : parse kind.asStr = some kind := by
  cases kind <;> rfl

end KnowledgePageKind

inductive KnowledgeSourceKind where
  | doc
  | docChunk
  | note
  | event
  | relation
  | proposal
deriving DecidableEq

namespace KnowledgeSourceKind

def asStr : KnowledgeSourceKind → String
  | .doc => "doc"
  | .docChunk => "doc_chunk"
  | .note => "note"
  | .event => "event"
  | .relation => "relation"
  | .proposal => "proposal"

def parse : String → Option KnowledgeSourceKind
  | "doc" => some .doc
  | "doc_chunk" => some .docChunk
  | "note" => some .note
  | "event" => some .event
  | "relation" => some .relation
  | "proposal" => some .proposal
  | _ => none

@[simp]
theorem parse_asStr (kind : KnowledgeSourceKind) : parse kind.asStr = some kind := by
  cases kind <;> rfl

theorem asStr_inj {a b : KnowledgeSourceKind} (h : a.asStr = b.asStr) : a = b := by
  have hparse := congrArg parse h
  simp only [parse_asStr, Option.some.injEq] at hparse
  exact hparse

end KnowledgeSourceKind

/-! ## Rebuild metadata -/

/-- What a rebuild changed. The counts of the object are the lengths of the lists. -/
structure VersionDiff where
  previousPageId : Uuid
  previousContentHash : String
  newContentHash : String
  previousSourceHash : String
  newSourceHash : String
  titleChanged : Bool
  sourceChanged : Bool
  contentChanged : Bool
  addedSectionKeys : List String
  removedSectionKeys : List String
  changedSectionKeys : List String
  unchangedSectionKeys : List String
  summary : String

structure VersionIdentity where
  pageKind : String
  pageKey : String
  sourceSnapshotHash : String
  contentHash : String
  /-- The keys of the sections, each with the hash of its section. -/
  sectionHashes : List (String × String)

structure GeneratedBy where
  actorAgentId : String
  mode : String
  sourceInputCounts : List (String × Nat)

/-- The metadata of a rebuild. The object also has a schema and a memory policy that are constant. -/
structure BaseRebuildMetadata where
  sourceSnapshotHash : String
  deterministic : Bool
  providerMetadata : SpelledJson
  generatedBy : GeneratedBy
  allowedVariance : List String

/-- The metadata in the row of a page. There is no diff where there is no previous version. -/
structure RebuildMetadata extends BaseRebuildMetadata where
  previousVersionDiff : Option VersionDiff
  versionIdentity : VersionIdentity

/-! ## Rows -/

/-- A row of `knowledge_pages`. -/
structure KnowledgePage where
  pageId : Uuid
  tenantId : String
  projectId : String
  pageKind : String
  pageKey : String
  title : String
  contractSchema : String
  status : String
  rebuildSourceHash : String
  contentHash : String
  sourceCoverage : Json
  sourceSnapshot : Json
  rebuildMetadata : RebuildMetadata
  createdAt : Nat
  updatedAt : Nat
  rebuiltAt : Nat

/--
The row as the columns keep it. A `jsonb` column keeps the value of a number, and `jsonb` says how
its spelling is read back. Only the metadata of the provider has numbers other than counts.
-/
def KnowledgePage.stored (jsonb : JsonNumber → JsonNumber) (page : KnowledgePage) : KnowledgePage :=
  { page with
    rebuildMetadata := { page.rebuildMetadata with
      providerMetadata := page.rebuildMetadata.providerMetadata.respell jsonb }
    createdAt := timestamptz page.createdAt
    updatedAt := timestamptz page.updatedAt
    rebuiltAt := timestamptz page.rebuiltAt }

/-- A row of `knowledge_page_sections`. -/
structure KnowledgePageSection where
  sectionId : Uuid
  pageId : Uuid
  sectionKey : String
  heading : String
  role : String
  content : String
  ordinal : Nat
  citations : Json
  unsupportedReason : Option String
  contentHash : String
  createdAt : Nat
  updatedAt : Nat
deriving DecidableEq

/-- A row of `knowledge_page_source_refs`. -/
structure KnowledgePageSourceRef where
  refId : Uuid
  pageId : Uuid
  sectionId : Option Uuid
  sourceKind : String
  sourceId : Uuid
  sourceStatus : Option String
  sourceUpdatedAt : Option Nat
  sourceContentHash : Option String
  sourceSnapshot : Json
  citationMetadata : Json
  createdAt : Nat
deriving DecidableEq

/-- A row of `knowledge_page_lint_findings`. -/
structure KnowledgePageLintFinding where
  findingId : Uuid
  pageId : Uuid
  sectionId : Option Uuid
  findingType : String
  severity : String
  sourceKind : Option String
  sourceId : Option Uuid
  message : String
  details : Json
  createdAt : Nat
deriving DecidableEq

@[ext]
structure KnowledgeDb where
  pages : Table KnowledgePage KnowledgePage.pageId
  sections : Table KnowledgePageSection KnowledgePageSection.sectionId
  sourceRefs : Table KnowledgePageSourceRef KnowledgePageSourceRef.refId
  lintFindings : Table KnowledgePageLintFinding KnowledgePageLintFinding.findingId

def KnowledgeDb.empty : KnowledgeDb := ⟨.empty, .empty, .empty, .empty⟩

/-! ## Queries -/

variable (db : KnowledgeDb)

def getKnowledgePage (tenantId projectId : String) (pageId : Uuid) : Option KnowledgePage :=
  (db.pages.find? pageId).filter fun page => page.tenantId = tenantId && page.projectId = projectId

/-- The columns of the unique index on the pages. -/
def KnowledgePage.contextKey (page : KnowledgePage) : String × String × String × String :=
  (page.tenantId, page.projectId, page.pageKind, page.pageKey)

def getKnowledgePageByKey (tenantId projectId pageKind pageKey : String) : Option KnowledgePage :=
  db.pages.rows.find? fun page => page.contextKey = (tenantId, projectId, pageKind, pageKey)

def listKnowledgePageSections (pageId : Uuid) : List KnowledgePageSection :=
  sortBy (compareLex (compareOn (·.ordinal)) (compareOn (·.sectionKey)))
    (db.sections.rows.filter (·.pageId = pageId))

def listKnowledgePageSourceRefs (pageId : Uuid) : List KnowledgePageSourceRef :=
  sortBy (compareLex (compareOn (·.sourceKind))
      (compareLex (compareOn (·.sourceId)) (compareOn (·.refId))))
    (db.sourceRefs.rows.filter (·.pageId = pageId))

def listKnowledgePageLintFindings (pageId : Uuid) : List KnowledgePageLintFinding :=
  -- ORDER BY severity DESC
  sortBy (compareLex (fun a b => compareOn (·.severity) b a)
      (compareLex (compareOn (·.createdAt)) (compareOn (·.findingId))))
    (db.lintFindings.rows.filter (·.pageId = pageId))

/-! ## Writes -/

/-- The row after `ON CONFLICT (tenant_id, project_id, page_kind, page_key) DO UPDATE`. -/
def KnowledgePage.replacedBy (row excluded : KnowledgePage) : KnowledgePage :=
  { excluded with
    pageId := row.pageId
    createdAt := row.createdAt }

/-- The row that is inserted or updated, and the tables with it. -/
def upsertKnowledgePage (jsonb : JsonNumber → JsonNumber) (page : KnowledgePage)
    : Except Error (KnowledgePage × KnowledgeDb) :=
  let page := page.stored jsonb
  match getKnowledgePageByKey db page.tenantId page.projectId page.pageKind page.pageKey with
  | some row =>
    let pages := db.pages.modify row.pageId fun row => row.replacedBy page
    .ok (row.replacedBy page, { db with pages })
  | none => do
    let pages ← db.pages.insert page duplicateKey
    return (page, { db with pages })

def deleteKnowledgePageChildren (pageId : Uuid) : KnowledgeDb :=
  { db with
    sections := db.sections.deleteWhere (·.pageId = pageId)
    sourceRefs := db.sourceRefs.deleteWhere (·.pageId = pageId)
    lintFindings := db.lintFindings.deleteWhere (·.pageId = pageId) }

def deleteKnowledgePageLintFindings (pageId : Uuid) : KnowledgeDb :=
  { db with lintFindings := db.lintFindings.deleteWhere (·.pageId = pageId) }

def insertKnowledgePageSection (row : KnowledgePageSection) : Except Error KnowledgeDb := do
  let sections ← db.sections.insert row duplicateKey
  return { db with sections }

def insertKnowledgePageSourceRef (row : KnowledgePageSourceRef) : Except Error KnowledgeDb := do
  let sourceRefs ← db.sourceRefs.insert row duplicateKey
  return { db with sourceRefs }

def insertKnowledgePageLintFinding (row : KnowledgePageLintFinding) : Except Error KnowledgeDb := do
  let lintFindings ← db.lintFindings.insert row duplicateKey
  return { db with lintFindings }

end Elf
