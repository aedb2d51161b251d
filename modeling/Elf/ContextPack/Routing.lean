import Elf.Domain.WriteGate
import Elf.Lib.Slice
import Elf.Storage.Identifiers

/-!
This module contains the routing of a context pack: which of the five recall layers a request asks for,
after its manual overrides.
-/

namespace Elf

open Text

/-! ## Requests -/

/-- An entity or a predicate of the graph, by its id or by a surface. -/
inductive GraphQueryRef where
  | byId (id : Uuid)
  | surface (name : String)

/-- Untagged, with the name of the id for the kind of reference. -/
def GraphQueryRef.toJson (idField : String) : GraphQueryRef → Json
  | .byId id => .obj [(idField, .str id.toString)]
  | .surface name => .obj [("surface", .str name)]

structure ContextPackDebugOverrides where
  enableLayers : List String
  disableLayers : List String
  pinLayers : List String

structure ContextPackRequest where
  tenantId : String
  projectId : String
  agentId : String
  readProfile : String
  task : String
  title : Option String
  description : Option String
  traceId : Option Uuid
  query : Option String
  docsQuery : Option String
  knowledgeQuery : Option String
  graphSubject : Option GraphQueryRef
  graphPredicate : Option GraphQueryRef
  includeDreaming : Option Bool
  limit : Option Nat
  debugOverrides : Option ContextPackDebugOverrides

def validateRequiredText (field value : String) : Except Error Unit :=
  if trim value = "" then
    .error (.invalidRequest (field ++ " must be non-empty."))
  else if !isValidText (trim value) then
    .error (.invalidText ("$." ++ field))
  else
    .ok ()

def validateOptionalText (field : String) (value : Option String) : Except Error Unit :=
  match value with
  | some value =>
    if trim value ≠ "" ∧ !isValidText (trim value) then
      .error (.invalidText ("$." ++ field))
    else
      .ok ()
  | none => .ok ()

/-- `validate_graph_entity_ref` and `validate_graph_predicate_ref`. -/
def validateGraphRef (field : String) (value : Option GraphQueryRef) : Except Error Unit :=
  match value with
  | some (.surface name) =>
    if !isValidIdentifier (trim name) then
      .error (.invalidText ("$." ++ field ++ ".surface"))
    else
      .ok ()
  | _ => .ok ()

def validateContextPackRequest (req : ContextPackRequest) : Except Error Unit := do
  validateRequiredText "task" req.task
  validateOptionalText "title" req.title
  validateOptionalText "description" req.description
  validateOptionalText "query" req.query
  validateOptionalText "docs_query" req.docsQuery
  validateOptionalText "knowledge_query" req.knowledgeQuery
  validateGraphRef "graph_subject" req.graphSubject
  validateGraphRef "graph_predicate" req.graphPredicate

/-! ## Layers -/

def layerMemory : String := "memory_notes"
def layerDocs : String := "source_documents"
def layerKnowledge : String := "knowledge_pages"
def layerGraph : String := "graph_facts"
def layerDreaming : String := "dreaming_proposals"

def defaultContextPackLimit : Nat := 12
def maxContextPackLimit : Nat := 50

def trimmedOpt (value : Option String) : Option String := (value.map trim).filter fun value => value ≠ ""

def toAsciiLowercase (s : String) : String := String.ofList (s.toList.map Char.toLower)

def containsAny (value : String) (needles : List String) : Bool :=
  needles.any fun needle => contains (toAsciiLowercase value) needle

def normalizeLayer (layer : String) : Option String :=
  let normalized := String.ofList ((toAsciiLowercase (trim layer)).toList.map fun c =>
    if c = '-' then '_' else c)
  if [layerMemory, "memory", "notes"].contains normalized then some layerMemory
  else if [layerDocs, "docs", "documents", "source"].contains normalized then some layerDocs
  else if [layerKnowledge, "knowledge", "pages"].contains normalized then some layerKnowledge
  else if [layerGraph, "graph", "relations"].contains normalized then some layerGraph
  else if [layerDreaming, "dreaming", "proposals"].contains normalized then some layerDreaming
  else none

/-- The names that denote a layer. They are only looked up. -/
def normalizeLayers (layers : List String) : List String := layers.filterMap normalizeLayer

/-! ## Selectors -/

structure ContextPackLayerSelector where
  layer : String
  state : String
  selectorType : String
  selector : Json
  reasonCode : String
  manualOverride : Bool
  pinned : Bool

structure ContextPackRequiredAnchor where
  layer : String
  anchor : String
  supplied : Bool
  reasonCode : String

structure LayerRouteInput where
  layer : String
  defaultEnabled : Bool
  manualEnabled : Bool
  manualDisabled : Bool
  pinned : Bool
  anchorName : String
  anchorSupplied : Bool
  selectorType : String
  selector : Json

/-- The state of a layer, with the reason for it. -/
def LayerRouteInput.activation (input : LayerRouteInput) : String × String :=
  if input.manualDisabled then
    ("suppressed", "MANUAL_DISABLED")
  else if !input.anchorSupplied && (input.manualEnabled || input.pinned) then
    ("suppressed", "PINNED_OR_ENABLED_MISSING_REQUIRED_ANCHOR")
  else if input.defaultEnabled || input.manualEnabled then
    ("selected", "AUTOMATIC_ROUTING_MATCH")
  else
    ("not_requested", "AUTOMATIC_ROUTING_NO_MATCH")

def LayerRouteInput.toSelector (input : LayerRouteInput) : ContextPackLayerSelector := {
  layer := input.layer
  state := input.activation.1
  selectorType := input.selectorType
  selector := input.selector
  reasonCode := input.activation.2
  manualOverride := input.manualEnabled || input.manualDisabled || input.pinned
  pinned := input.pinned }

def LayerRouteInput.requiredAnchor (input : LayerRouteInput) : ContextPackRequiredAnchor := {
  layer := input.layer
  anchor := input.anchorName
  supplied := input.anchorSupplied
  reasonCode := if input.anchorSupplied then "ANCHOR_SUPPLIED" else "ANCHOR_MISSING" }

-- The selectors are a map, in the order of the layers' names.
def insertSelector (selectors : List ContextPackLayerSelector) (selector : ContextPackLayerSelector)
    : List ContextPackLayerSelector :=
  match selectors with
  | [] => [selector]
  | head :: selectors =>
    if head.layer = selector.layer then selector :: selectors
    else if selector.layer < head.layer then selector :: head :: selectors
    else head :: insertSelector selectors selector

def addSelector (routes : List ContextPackLayerSelector × List ContextPackRequiredAnchor)
    (input : LayerRouteInput) : List ContextPackLayerSelector × List ContextPackRequiredAnchor :=
  (insertSelector routes.1 input.toSelector, routes.2 ++ [input.requiredAnchor])

structure SelectorSources where
  req : ContextPackRequest
  docsQuery : Option String
  knowledgeQuery : Option String
  includeDreaming : Bool
  enabled : List String
  disabled : List String
  pinned : List String

namespace SelectorSources

variable (input : SelectorSources)

/-- The selector of a layer, with what the overrides say of it. -/
def layerRoute (layer anchorName : String) (defaultEnabled anchorSupplied : Bool) (selectorType : String)
    (selector : Json) : LayerRouteInput := {
  layer
  defaultEnabled
  manualEnabled := input.enabled.contains layer
  manualDisabled := input.disabled.contains layer
  pinned := input.pinned.contains layer
  anchorName
  anchorSupplied
  selectorType
  selector }

def anchorJson (field : String) (toJson : α → Json) : Option α → Json
  | some value => .obj [(field, toJson value)]
  | none => .obj []

def dreamingRequested : Bool := input.includeDreaming || input.enabled.contains layerDreaming

def layerRoutes : List LayerRouteInput := [
  input.layerRoute layerMemory "trace_id" input.req.traceId.isSome input.req.traceId.isSome "trace"
    (anchorJson "trace_id" (fun id : Uuid => .str id.toString) input.req.traceId),
  input.layerRoute layerDocs "docs_query" input.docsQuery.isSome input.docsQuery.isSome "query"
    (anchorJson "query" .str input.docsQuery),
  input.layerRoute layerKnowledge "knowledge_query" input.knowledgeQuery.isSome
    input.knowledgeQuery.isSome "query" (anchorJson "query" .str input.knowledgeQuery),
  input.layerRoute layerGraph "graph_subject" input.req.graphSubject.isSome
    input.req.graphSubject.isSome "graph_subject"
    (anchorJson "subject" (GraphQueryRef.toJson "entity_id") input.req.graphSubject),
  input.layerRoute layerDreaming "include_dreaming" input.includeDreaming input.dreamingRequested
    "review_queue" (.obj [("include_dreaming", .bool input.dreamingRequested)])]

end SelectorSources

def routeSelectors (input : SelectorSources)
    : List ContextPackLayerSelector × List ContextPackRequiredAnchor :=
  input.layerRoutes.foldl addSelector ([], [])

structure RoutedPack where
  limit : Nat
  title : String
  description : String
  docsQuery : Option String
  knowledgeQuery : Option String
  includeDreaming : Bool
  selectors : List ContextPackLayerSelector
  requiredAnchors : List ContextPackRequiredAnchor
  disabledLayers : List String
  pinnedLayers : List String

def ContextPackRequest.overrides (req : ContextPackRequest) : ContextPackDebugOverrides :=
  req.debugOverrides.getD ⟨[], [], []⟩

def ContextPackRequest.baseQuery (req : ContextPackRequest) : Option String :=
  (trimmedOpt req.query).or (trimmedOpt (some req.task))

def ContextPackRequest.selectorSources (req : ContextPackRequest) : SelectorSources := {
  req
  docsQuery := (trimmedOpt req.docsQuery).or req.baseQuery
  knowledgeQuery := (trimmedOpt req.knowledgeQuery).or req.baseQuery
  includeDreaming := req.includeDreaming == some true
    || (trimmedOpt (some req.task)).any fun value =>
      containsAny value ["proposal", "review", "dreaming", "consolidation"]
  enabled := normalizeLayers req.overrides.enableLayers
  disabled := normalizeLayers req.overrides.disableLayers
  pinned := normalizeLayers req.overrides.pinLayers }

def routeContextPack (req : ContextPackRequest) : RoutedPack :=
  let sources := req.selectorSources
  let routes := routeSelectors sources
  { limit := max 1 (min (req.limit.getD defaultContextPackLimit) maxContextPackLimit)
    title := (trimmedOpt req.title).getD "Context Pack"
    description := (trimmedOpt req.description).getD
      "Read-time scoped context assembled from current ELF authority layers."
    docsQuery := sources.docsQuery
    knowledgeQuery := sources.knowledgeQuery
    includeDreaming := sources.dreamingRequested
    selectors := routes.1
    requiredAnchors := routes.2
    disabledLayers := sources.disabled
    pinnedLayers := sources.pinned }

def selectorEnabled (routed : RoutedPack) (layer : String) : Bool :=
  (routed.selectors.find? fun selector => selector.layer == layer).any fun selector =>
    selector.state == "selected"

end Elf
