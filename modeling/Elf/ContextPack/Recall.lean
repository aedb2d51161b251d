import Elf.ContextPack.Routing

/-!
This module contains the recall panel that a context pack is read from: one layer for each surface, which
is not requested without its anchor and blocked when the surface fails.
-/

namespace Elf

open Text

-- `S` are the scores, in the total order of floats.
structure RecallDebugRow (S : Type) where
  layer : String
  itemRef : Json
  selectionState : String
  authorityLayer : String
  freshnessState : String
  sourceRefs : Json
  score : Option S
  rank : Option Nat
  rationale : Option String
  stageReason : Option String
  evidenceClass : String

structure RecallDebugLayer (S : Type) where
  layer : String
  evidenceClass : String
  summary : String
  rows : List (RecallDebugRow S)

structure RecallDebugPanelRequest where
  tenantId : String
  projectId : String
  agentId : String
  readProfile : String
  traceId : Option Uuid
  query : Option String
  docsQuery : Option String
  knowledgeQuery : Option String
  graphSubject : Option GraphQueryRef
  graphPredicate : Option GraphQueryRef
  includeDreaming : Option Bool
  limit : Option Nat
  allowProjectTraceDebug : Bool

/-! ## Surfaces -/

structure MemoryTraceItem (S : Type) where
  itemRef : Json
  status : String
  sourceRef : Json
  finalScore : S
  rank : Nat

structure MemoryTraceCandidate (S : Type) where
  itemRef : Json
  status : String
  sourceRef : Json
  retrievalScore : Option S
  retrievalRank : Nat
  stageReason : Option String

/-- A trace bundle, less the notes that the agent may not read. -/
structure MemoryTraceBundle (S : Type) where
  items : List (MemoryTraceItem S)
  dropped : List (MemoryTraceCandidate S)
  lastStage : Option String

structure DocsSearchItem (S : Type) where
  itemRef : Json
  sourceRef : Json
  score : S

structure KnowledgePageItem where
  itemRef : Json
  sourceRefs : Json
  errorCount : Nat
  warningCount : Nat
  trustState : String
  status : String

structure GraphReportFact where
  itemRef : Json
  sourceRefs : Json
  temporalStatus : String
  statusMarkers : List String

structure DreamingQueueItem (S : Type) where
  itemRef : Json
  sourceRefs : Json
  reviewState : String
  confidence : S
  policyReason : String
  autoApplyAllowed : Bool

/-- What the panel reads. A surface that fails gives the public class of its error. -/
structure RecallSurfaces (S : Type) where
  traceBundle : RecallDebugPanelRequest → Uuid → Nat → Except String (MemoryTraceBundle S)
  docsSearch : RecallDebugPanelRequest → String → Nat
    → Except String (List (DocsSearchItem S) × Option String)
  knowledgeSearch : RecallDebugPanelRequest → String → Nat → Except String (List KnowledgePageItem)
  graphReport : RecallDebugPanelRequest → GraphQueryRef → Nat → Except String (List GraphReportFact)
  dreamingQueue : RecallDebugPanelRequest → Nat → Except String (List (DreamingQueueItem S))

/-! ## Layers -/

def notRequestedLayer (layer summary : String) : RecallDebugLayer S :=
  ⟨layer, "not_requested", summary, []⟩

def blockedLayer (layer summary errorClass : String) : RecallDebugLayer S :=
  ⟨layer, "blocked", summary ++ " error_class=" ++ errorClass, []⟩

def MemoryTraceItem.toRow (lastStage : Option String) (item : MemoryTraceItem S) : RecallDebugRow S := {
  layer := layerMemory
  itemRef := item.itemRef
  selectionState := "selected"
  authorityLayer := "memory_note"
  freshnessState := item.status
  sourceRefs := .arr [item.sourceRef]
  score := some item.finalScore
  rank := some item.rank
  rationale := some "final ranked search result"
  stageReason := lastStage.or (some "final_ranking")
  evidenceClass := "pass" }

def candidateDebugRow (candidate : MemoryTraceCandidate S) : RecallDebugRow S := {
  layer := layerMemory
  itemRef := candidate.itemRef
  selectionState := "dropped"
  authorityLayer := "memory_note"
  freshnessState := candidate.status
  sourceRefs := .arr [candidate.sourceRef]
  score := candidate.retrievalScore
  rank := some candidate.retrievalRank
  rationale := some "candidate captured for replay but not selected in final result set"
  stageReason := candidate.stageReason
  evidenceClass := "pass" }

/-- The selected items leave room for a dropped candidate, if there is one. -/
def MemoryTraceBundle.rows (bundle : MemoryTraceBundle S) (limit : Nat) : List (RecallDebugRow S) :=
  let selectedCap := if !bundle.dropped.isEmpty && limit > 1 then limit - 1 else limit
  let rows := (bundle.items.take selectedCap).map (MemoryTraceItem.toRow bundle.lastStage)
  rows ++ (bundle.dropped.take (limit - rows.length)).map candidateDebugRow

def recallMemoryLayer (surfaces : RecallSurfaces S) (req : RecallDebugPanelRequest) (limit : Nat)
    : Except String (RecallDebugLayer S) :=
  match req.traceId with
  | none => .ok (notRequestedLayer layerMemory
    "Supply trace_id to show selected and dropped Memory Note candidates.")
  | some traceId => do
    let bundle ← surfaces.traceBundle req traceId limit
    return {
      layer := layerMemory
      evidenceClass := "pass"
      summary := "Search trace bundle with selected results and replay candidates."
      rows := bundle.rows limit }

def maxRecallDebugDocsLimit : Nat := 32

def docsRow (lastStage : Option String) (item : DocsSearchItem S) (index : Nat) : RecallDebugRow S := {
  layer := layerDocs
  itemRef := item.itemRef
  selectionState := "selected"
  authorityLayer := "source_library"
  freshnessState := "active"
  sourceRefs := .arr [item.sourceRef]
  score := some item.score
  rank := some (index + 1)
  rationale := some "docs_search_l0 selected chunk"
  stageReason := lastStage.or (some "docs_search_l0")
  evidenceClass := "pass" }

def docsSummary (effectiveLimit limit : Nat) : String :=
  if effectiveLimit < limit then
    "Source Library search rows selected by docs_search_l0; effective docs cap is "
      ++ toString effectiveLimit ++ "."
  else
    "Source Library search rows selected by docs_search_l0."

def recallDocsLayer (surfaces : RecallSurfaces S) (req : RecallDebugPanelRequest)
    (docsQuery : Option String) (limit : Nat) : Except String (RecallDebugLayer S) :=
  match docsQuery with
  | none => .ok (notRequestedLayer layerDocs
    "Supply query or docs_query to show Source Library document candidates.")
  | some query => do
    let effectiveLimit := min limit maxRecallDebugDocsLimit
    let (items, lastStage) ← surfaces.docsSearch req query effectiveLimit
    return {
      layer := layerDocs
      evidenceClass := "pass"
      summary := docsSummary effectiveLimit limit
      rows := items.mapIdx fun index item => docsRow lastStage item index }

def knowledgeFreshness (item : KnowledgePageItem) : String :=
  if item.errorCount > 0 then "lint_error"
  else if item.warningCount > 0 then "lint_warning"
  else if item.trustState ≠ "clean" then item.trustState
  else item.status

def knowledgeRow (item : KnowledgePageItem) (index : Nat) : RecallDebugRow S := {
  layer := layerKnowledge
  itemRef := item.itemRef
  selectionState := "selected"
  authorityLayer := "derived_knowledge_page"
  freshnessState := knowledgeFreshness item
  sourceRefs := item.sourceRefs
  score := none
  rank := some (index + 1)
  rationale := some "knowledge_pages_search selected section"
  stageReason := some "knowledge_page_search"
  evidenceClass := "pass" }

def recallKnowledgeLayer (surfaces : RecallSurfaces S) (req : RecallDebugPanelRequest)
    (knowledgeQuery : Option String) (limit : Nat) : Except String (RecallDebugLayer S) :=
  match knowledgeQuery with
  | none => .ok (notRequestedLayer layerKnowledge
    "Supply query or knowledge_query to show Knowledge Workspace page candidates.")
  | some query => do
    let items ← surfaces.knowledgeSearch req query limit
    return {
      layer := layerKnowledge
      evidenceClass := "pass"
      summary := "Knowledge Workspace sections selected by page search."
      rows := items.mapIdx fun index item => knowledgeRow item index }

def graphRow (fact : GraphReportFact) (index : Nat) : RecallDebugRow S := {
  layer := layerGraph
  itemRef := fact.itemRef
  selectionState := "available"
  authorityLayer := "graph_fact"
  freshnessState := fact.temporalStatus
  sourceRefs := fact.sourceRefs
  score := none
  rank := some (index + 1)
  rationale := some "graph_report returned source-backed fact"
  stageReason := some (",".intercalate fact.statusMarkers)
  evidenceClass := "pass" }

def recallGraphLayer (surfaces : RecallSurfaces S) (req : RecallDebugPanelRequest) (limit : Nat)
    : Except String (RecallDebugLayer S) :=
  match req.graphSubject with
  | none => .ok (notRequestedLayer layerGraph
    "Supply graph_subject to show graph fact candidates and temporal status.")
  | some subject => do
    let facts ← surfaces.graphReport req subject limit
    return {
      layer := layerGraph
      evidenceClass := "pass"
      summary := "Graph facts from source-backed graph report."
      rows := facts.mapIdx fun index fact => graphRow fact index }

def dreamingRow (item : DreamingQueueItem S) (index : Nat) : RecallDebugRow S := {
  layer := layerDreaming
  itemRef := item.itemRef
  selectionState := "reviewable"
  authorityLayer := "reviewable_dreaming_proposal"
  freshnessState := item.reviewState
  sourceRefs := item.sourceRefs
  score := some item.confidence
  rank := some (index + 1)
  rationale := some item.policyReason
  stageReason := some ("review_state=" ++ item.reviewState ++ ", auto_apply_allowed="
    ++ toString item.autoApplyAllowed)
  evidenceClass := "pass" }

def recallDreamingLayer (surfaces : RecallSurfaces S) (req : RecallDebugPanelRequest)
    (includeDreaming : Bool) (limit : Nat) : Except String (RecallDebugLayer S) :=
  if !includeDreaming then
    .ok (notRequestedLayer layerDreaming
      "Set include_dreaming=true to show reviewable Dreaming proposals.")
  else do
    let items ← surfaces.dreamingQueue req limit
    return {
      layer := layerDreaming
      evidenceClass := "pass"
      summary := "Dreaming review queue proposals available for reviewer action."
      rows := items.mapIdx fun index item => dreamingRow item index }

/-! ## Panel -/

def defaultRecallDebugLimit : Nat := 25
def maxRecallDebugLimit : Nat := 100

/-- The layer that was read, or one that is blocked by the error. -/
def orBlocked (layer summary : String) (read : Except String (RecallDebugLayer S))
    : RecallDebugLayer S :=
  match read with
  | .ok recalled => recalled
  | .error errorClass => blockedLayer layer summary errorClass

/-- `recall_debug_panel`, less what is only reported. -/
def recallDebugPanel (surfaces : RecallSurfaces S) (req : RecallDebugPanelRequest)
    : List (RecallDebugLayer S) :=
  let limit := max 1 (min (req.limit.getD defaultRecallDebugLimit) maxRecallDebugLimit)
  let docsQuery := trimmedOpt (req.docsQuery.or req.query)
  let knowledgeQuery := trimmedOpt (req.knowledgeQuery.or req.query)
  let includeDreaming := req.includeDreaming == some true
  [orBlocked layerMemory "Requested memory trace bundle could not be read."
      (recallMemoryLayer surfaces req limit),
    orBlocked layerDocs "Requested Source Library document search could not be read."
      (recallDocsLayer surfaces req docsQuery limit),
    orBlocked layerKnowledge "Requested Knowledge Workspace page search could not be read."
      (recallKnowledgeLayer surfaces req knowledgeQuery limit),
    orBlocked layerGraph "Requested graph report could not be read."
      (recallGraphLayer surfaces req limit),
    orBlocked layerDreaming "Requested Dreaming review queue could not be read."
      (recallDreamingLayer surfaces req includeDreaming limit)]

end Elf
