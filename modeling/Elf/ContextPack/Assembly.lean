import Elf.ContextPack.Recall
import Elf.Lib.Sorting

/-!
This module contains how a context pack is assembled: the items are the eligible rows of the layers that
are not disabled, and the routing trace has an entry for each selector.
-/

namespace Elf

open Sorting Text

/-! ## Eligibility -/

mutual

def sourceRefsPresent (value : Json) : Bool :=
  match value with
  | .null => false
  | .arr items => !items.isEmpty
  | .obj entries =>
    sourceRefsPresentAt entries "source_refs" || sourceRefsPresentAt entries "source_ref"
      || sourceRefsPresentAt entries "source_snapshot" || sourceRefsPresentAt entries "affected_refs"
      || sourceRefsPresentAt entries "evidence_note_ids"
  | .str text => trim text ≠ ""
  | _ => true

/-- The first entry with the key. -/
def sourceRefsPresentAt (entries : List (String × Json)) (field : String) : Bool :=
  match entries with
  | [] => false
  | (key, value) :: entries =>
    if field = key then sourceRefsPresent value else sourceRefsPresentAt entries field

end

def staleOrNonCurrent (freshnessState : String) : Bool :=
  ["deleted", "deprecated", "expired", "stale", "superseded", "tombstoned", "historical",
    "future"].contains freshnessState

def layerFreshnessEligible (layer freshnessState : String) : Bool :=
  if layer = layerDreaming then ["proposed", "approved"].contains freshnessState
  else !staleOrNonCurrent freshnessState

def rowEligibleForPack (row : RecallDebugRow S) : Bool :=
  ["selected", "available", "reviewable"].contains row.selectionState && row.evidenceClass == "pass"
    && layerFreshnessEligible row.layer row.freshnessState && sourceRefsPresent row.sourceRefs

/-! ## Items -/

structure ContextPackItem (S : Type) where
  layer : String
  authorityLayer : String
  freshnessState : String
  itemRef : Json
  sourceRefs : Json
  score : Option S
  rank : Option Nat
  reasonCode : String
  pinnedPriority : Bool

def RecallDebugRow.toItem (routed : RoutedPack) (row : RecallDebugRow S) : ContextPackItem S := {
  layer := row.layer
  authorityLayer := row.authorityLayer
  freshnessState := row.freshnessState
  itemRef := row.itemRef
  sourceRefs := row.sourceRefs
  score := row.score
  rank := row.rank
  reasonCode := (row.stageReason.or row.rationale).getD "selected_by_recall_layer"
  pinnedPriority := routed.pinnedLayers.contains row.layer }

/-- The eligible rows of the layers that are not disabled, in the order in which they were recalled. -/
def eligibleRows (layers : List (RecallDebugLayer S)) (routed : RoutedPack)
    : List (RecallDebugRow S) :=
  (layers.filter fun recalled => !routed.disabledLayers.contains recalled.layer).flatMap
    fun recalled => recalled.rows.filter rowEligibleForPack

def u32Max : Nat := 2 ^ 32 - 1

section

variable [LinearOrder S] (negInfinity : S)

def cmpPackItems (left right : ContextPackItem S) : Ordering :=
  (compare right.pinnedPriority left.pinnedPriority).then
    ((compare (left.rank.getD u32Max) (right.rank.getD u32Max)).then
      ((compare (right.score.getD negInfinity) (left.score.getD negInfinity)).then
        (compare left.layer right.layer)))

def packItems (layers : List (RecallDebugLayer S)) (routed : RoutedPack) : List (ContextPackItem S) :=
  sortBy (cmpPackItems negInfinity) ((eligibleRows layers routed).map (RecallDebugRow.toItem routed))

end

/-! ## Routing trace -/

structure ContextPackRoutingTraceEntry where
  layer : String
  activationState : String
  reasonCode : String
  policyReason : String
  manualOverride : Bool
  pinned : Bool

structure ContextPackRoutingTrace where
  entries : List ContextPackRoutingTraceEntry
  selectedCount : Nat
  suppressedCount : Nat
  blockedCount : Nat
  notRequestedCount : Nat
  pinnedIneligibleCount : Nat

def selectorPolicyReason (reasonCode : String) : String :=
  if reasonCode = "MANUAL_DISABLED" then
    "Layer was suppressed by a debug override."
  else if reasonCode = "PINNED_OR_ENABLED_MISSING_REQUIRED_ANCHOR" then
    "Pinned or enabled layer stayed ineligible because a required anchor was missing."
  else if reasonCode = "AUTOMATIC_ROUTING_MATCH" then
    "Automatic routing selected this layer."
  else
    "Automatic routing did not request this layer."

-- The layers are read into a map, so that the last one with a name counts.
def findLayer (layers : List (RecallDebugLayer S)) (name : String) : Option (RecallDebugLayer S) :=
  layers.reverse.find? fun recalled => recalled.layer == name

/-- The state of a layer in the trace, the reason code and the reason. -/
def traceActivation (layers : List (RecallDebugLayer S)) (selector : ContextPackLayerSelector)
    : String × String × String :=
  let routed := (selector.state, selector.reasonCode, selectorPolicyReason selector.reasonCode)
  match findLayer layers selector.layer with
  | none => routed
  | some recalled =>
    if recalled.evidenceClass = "blocked" then
      ("blocked", "RECALL_LAYER_BLOCKED", recalled.summary)
    else if selector.state = "selected" ∧ recalled.rows.all fun row => !rowEligibleForPack row then
      (if selector.pinned then "pinned_ineligible" else "suppressed",
        "NO_CURRENT_READABLE_SELECTED_ROWS",
        "Layer returned no current readable selected, available, or reviewable rows.")
    else
      routed

def traceEntry (layers : List (RecallDebugLayer S)) (selector : ContextPackLayerSelector)
    : ContextPackRoutingTraceEntry :=
  let activation := traceActivation layers selector
  { layer := selector.layer
    activationState := activation.1
    reasonCode := activation.2.1
    policyReason := activation.2.2
    manualOverride := selector.manualOverride
    pinned := selector.pinned }

def countState (entries : List ContextPackRoutingTraceEntry) (state : String) : Nat :=
  entries.countP fun entry => entry.activationState == state

def buildRoutingTrace (routed : RoutedPack) (layers : List (RecallDebugLayer S))
    : ContextPackRoutingTrace :=
  let entries := routed.selectors.map (traceEntry layers)
  { entries
    selectedCount := countState entries "selected"
    suppressedCount := countState entries "suppressed"
    blockedCount := countState entries "blocked"
    notRequestedCount := countState entries "not_requested"
    pinnedIneligibleCount := countState entries "pinned_ineligible" }

/-! ## Response -/

/-- A response, less the texts that are the same in each. -/
structure ContextPackResponse (S : Type) where
  title : String
  description : String
  typedSelectors : List ContextPackLayerSelector
  requiredAnchors : List ContextPackRequiredAnchor
  routingTrace : ContextPackRoutingTrace
  items : List (ContextPackItem S)

def buildContextPackResponse [LinearOrder S] (negInfinity : S) (routed : RoutedPack)
    (layers : List (RecallDebugLayer S)) : ContextPackResponse S := {
  title := routed.title
  description := routed.description
  typedSelectors := routed.selectors
  requiredAnchors := routed.requiredAnchors
  routingTrace := buildRoutingTrace routed layers
  items := (packItems negInfinity layers routed).take routed.limit }

/-- What the panel is asked for a routed pack. -/
def recallRequest (req : ContextPackRequest) (routed : RoutedPack) : RecallDebugPanelRequest := {
  tenantId := req.tenantId
  projectId := req.projectId
  agentId := req.agentId
  readProfile := req.readProfile
  traceId := if selectorEnabled routed layerMemory then req.traceId else none
  query := none
  docsQuery := if selectorEnabled routed layerDocs then routed.docsQuery else none
  knowledgeQuery := if selectorEnabled routed layerKnowledge then routed.knowledgeQuery else none
  graphSubject := if selectorEnabled routed layerGraph then req.graphSubject else none
  graphPredicate := if selectorEnabled routed layerGraph then req.graphPredicate else none
  includeDreaming := some (selectorEnabled routed layerDreaming && routed.includeDreaming)
  limit := some routed.limit
  allowProjectTraceDebug := false }

def contextPackBuild [LinearOrder S] (negInfinity : S) (surfaces : RecallSurfaces S)
    (req : ContextPackRequest) : Except Error (ContextPackResponse S) := do
  validateContextPackRequest req
  let routed := routeContextPack req
  let layers := recallDebugPanel surfaces (recallRequest req routed)
  return buildContextPackResponse negInfinity routed layers

end Elf
