import Elf.ContextPack.Assembly

/-!
This module contains what the routing, the items and the trace of a context pack have to do with one
another: pins only reorder the items, every selector has one entry in the trace, and what is recalled for
a request is in the pack only if the trace says that its layer is selected.
-/

namespace Elf

open Sorting Text

variable {S : Type}

/-! ## Selectors -/

theorem insertSelector_perm {selectors : List ContextPackLayerSelector}
    {selector : ContextPackLayerSelector} (h : ∀ s ∈ selectors, s.layer ≠ selector.layer)
    : (insertSelector selectors selector).Perm (selector :: selectors) := by
  induction selectors with
  | nil => exact .refl _
  | cons head selectors ih =>
    unfold insertSelector
    rw [if_neg (h head List.mem_cons_self)]
    split
    . exact .refl _
    . have htail := ih fun s hs => h s (List.mem_cons_of_mem head hs)
      exact (htail.cons head).trans (List.Perm.swap _ _ _)

theorem foldl_addSelector {inputs : List LayerRouteInput} {selectors : List ContextPackLayerSelector}
    {anchors : List ContextPackRequiredAnchor}
    (hnodup : (selectors.map ContextPackLayerSelector.layer
      ++ inputs.map LayerRouteInput.layer).Nodup)
    : (inputs.foldl addSelector (selectors, anchors)).1.Perm
        (selectors ++ inputs.map LayerRouteInput.toSelector)
      ∧ (inputs.foldl addSelector (selectors, anchors)).2
        = anchors ++ inputs.map LayerRouteInput.requiredAnchor := by
  induction inputs generalizing selectors anchors with
  | nil => simp
  | cons input inputs ih =>
    have hperm : (insertSelector selectors input.toSelector).Perm
        (input.toSelector :: selectors) := by
      apply insertSelector_perm
      intro s hs heq
      rw [List.map_cons, List.nodup_append] at hnodup
      apply hnodup.2.2 s.layer _ input.layer _ heq
      . apply List.mem_map_of_mem hs
      . apply List.mem_cons_self
    have hmiddle : (selectors ++ input.toSelector :: inputs.map LayerRouteInput.toSelector).Perm
        ((input.toSelector :: selectors) ++ inputs.map LayerRouteInput.toSelector) :=
      List.perm_middle
    have ⟨hselectors, hanchors⟩ := @ih (insertSelector selectors input.toSelector)
      (anchors ++ [input.requiredAnchor]) (by
        have hlayers := hperm.map ContextPackLayerSelector.layer
        apply ((hlayers.append_right _).nodup_iff).mpr
        rw [List.map_cons] at hnodup
        exact (List.perm_middle.nodup_iff).mp hnodup)
    rw [List.foldl_cons, List.map_cons, List.map_cons]
    constructor
    . apply hselectors.trans
      apply (hperm.append_right _).trans hmiddle.symm
    . rw [List.append_assoc] at hanchors
      exact hanchors

variable {sources : SelectorSources} {route : LayerRouteInput}

theorem layerRoutes_layer (sources : SelectorSources)
    : sources.layerRoutes.map LayerRouteInput.layer
      = [layerMemory, layerDocs, layerKnowledge, layerGraph, layerDreaming] := by
  rfl

theorem layers_nodup : [layerMemory, layerDocs, layerKnowledge, layerGraph, layerDreaming].Nodup := by
  decide

theorem routeSelectors_perm (sources : SelectorSources)
    : (routeSelectors sources).1.Perm (sources.layerRoutes.map LayerRouteInput.toSelector) := by
  apply (foldl_addSelector _).1
  rw [layerRoutes_layer]
  exact layers_nodup

theorem routeSelectors_anchors (sources : SelectorSources)
    : (routeSelectors sources).2 = sources.layerRoutes.map LayerRouteInput.requiredAnchor := by
  apply (foldl_addSelector _).2
  rw [layerRoutes_layer]
  exact layers_nodup

theorem routeSelectors_layer (sources : SelectorSources)
    : ((routeSelectors sources).1.map ContextPackLayerSelector.layer).Perm
      [layerMemory, layerDocs, layerKnowledge, layerGraph, layerDreaming] := by
  rw [← layerRoutes_layer sources]
  have hperm := (routeSelectors_perm sources).map ContextPackLayerSelector.layer
  rw [List.map_map] at hperm
  exact hperm

theorem routeSelectors_nodup (sources : SelectorSources)
    : ((routeSelectors sources).1.map ContextPackLayerSelector.layer).Nodup := by
  apply (routeSelectors_layer sources).nodup_iff.mpr
  exact layers_nodup

/-! ## Activation -/

theorem layerRoute_anchor (h : route ∈ sources.layerRoutes)
    : route.defaultEnabled = true → route.anchorSupplied = true := by
  simp only [SelectorSources.layerRoutes, SelectorSources.layerRoute, List.mem_cons,
    List.not_mem_nil, or_false] at h
  rcases h with h | h | h | h | h
  all_goals
    subst h
    simp [SelectorSources.dreamingRequested]
  intro hdefault
  exact Or.inl hdefault

/-- Whether a layer is selected does not depend on the pins. -/
theorem activation_eq_selected (h : route ∈ sources.layerRoutes)
    : route.activation.1 = "selected" ↔ route.manualDisabled = false ∧ route.anchorSupplied = true
      ∧ (route.defaultEnabled = true ∨ route.manualEnabled = true) := by
  have hanchor := layerRoute_anchor h
  unfold LayerRouteInput.activation
  cases hdisabled : route.manualDisabled with
  | true => simp
  | false =>
    cases hsupplied : route.anchorSupplied with
    | true =>
      cases hdefault : route.defaultEnabled with
      | true => simp
      | false =>
        cases hmanual : route.manualEnabled with
        | true => simp
        | false => simp
    | false =>
      cases hdefault : route.defaultEnabled with
      | true =>
        rw [hanchor hdefault] at hsupplied
        contradiction
      | false =>
        cases hmanual : route.manualEnabled with
        | true => simp
        | false =>
          cases route.pinned with
          | true => simp
          | false => simp

variable {req : ContextPackRequest} {layer : String}

theorem selectorEnabled_iff
    : selectorEnabled (routeContextPack req) layer = true
      ↔ ∃ route ∈ req.selectorSources.layerRoutes, route.layer = layer
        ∧ route.activation.1 = "selected" := by
  have hperm := routeSelectors_perm req.selectorSources
  have hnodup := routeSelectors_nodup req.selectorSources
  unfold selectorEnabled
  simp only [Option.any_eq_true, beq_iff_eq]
  constructor
  . intro ⟨selector, hfind, hstate⟩
    have hmem := List.mem_of_find?_eq_some hfind
    have hlayer := List.find?_some hfind
    have ⟨route, hroute, heq⟩ := List.mem_map.mp (hperm.mem_iff.mp hmem)
    subst heq
    exact ⟨route, hroute, beq_iff_eq.mp hlayer, hstate⟩
  . intro ⟨route, hroute, hlayer, hstate⟩
    have hmem : route.toSelector ∈ (routeSelectors req.selectorSources).1 := by
      apply hperm.mem_iff.mpr
      apply List.mem_map_of_mem hroute
    cases hfind : (routeContextPack req).selectors.find? fun selector => selector.layer == layer with
    | none =>
      rw [List.find?_eq_none] at hfind
      exact absurd (beq_iff_eq.mpr hlayer) (hfind _ hmem)
    | some selector =>
      have hmem' := List.mem_of_find?_eq_some hfind
      have hlayer' : selector.layer = layer := by simpa using List.find?_some hfind
      have heq : selector = route.toSelector := by
        apply List.inj_on_of_nodup_map hnodup hmem' hmem
        rw [hlayer']
        exact hlayer.symm
      refine ⟨selector, rfl, ?_⟩
      rw [heq]
      exact hstate

/-- The request with other pins. -/
def ContextPackRequest.withPins (req : ContextPackRequest) (pins : List String) : ContextPackRequest :=
  { req with debugOverrides := some { req.overrides with pinLayers := pins } }

theorem layerRoutes_withPins (req : ContextPackRequest) (pins : List String)
    : (req.withPins pins).selectorSources.layerRoutes
      = req.selectorSources.layerRoutes.map fun route =>
        { route with pinned := (normalizeLayers pins).contains route.layer } := by
  rfl

theorem selectorEnabled_iff_supplied
    : selectorEnabled (routeContextPack req) layer = true
      ↔ ∃ route ∈ req.selectorSources.layerRoutes, route.layer = layer
        ∧ route.manualDisabled = false ∧ route.anchorSupplied = true
        ∧ (route.defaultEnabled = true ∨ route.manualEnabled = true) := by
  rw [selectorEnabled_iff]
  apply exists_congr
  intro route
  apply and_congr_right
  intro hroute
  rw [activation_eq_selected hroute]

theorem selectorEnabled_withPins (pins : List String)
    : selectorEnabled (routeContextPack (req.withPins pins)) layer
      = selectorEnabled (routeContextPack req) layer := by
  rw [Bool.eq_iff_iff, selectorEnabled_iff_supplied, selectorEnabled_iff_supplied,
    layerRoutes_withPins]
  simp only [List.mem_map]
  constructor
  . intro ⟨route, ⟨route', hroute', heq⟩, h⟩
    subst heq
    exact ⟨route', hroute', h⟩
  . intro ⟨route, hroute, h⟩
    exact ⟨_, ⟨route, hroute, rfl⟩, h⟩

theorem eligibleRows_withPins (layers : List (RecallDebugLayer S)) (pins : List String)
    : eligibleRows layers (routeContextPack (req.withPins pins))
      = eligibleRows layers (routeContextPack req) := by
  rfl

/-- A disabled layer is not selected, pinned or not. -/
theorem not_selectorEnabled_of_disabled (h : layer ∈ (routeContextPack req).disabledLayers)
    : selectorEnabled (routeContextPack req) layer = false := by
  rw [← Bool.not_eq_true, selectorEnabled_iff_supplied]
  intro ⟨route, hroute, hlayer, hdisabled, _⟩
  have hcontains : route.manualDisabled = (routeContextPack req).disabledLayers.contains route.layer := by
    simp only [SelectorSources.layerRoutes, SelectorSources.layerRoute, List.mem_cons,
      List.not_mem_nil, or_false] at hroute
    rcases hroute with hroute | hroute | hroute | hroute | hroute
    all_goals
      subst hroute
      rfl
  rw [hcontains, hlayer, ← Bool.not_eq_true, List.contains_iff_mem] at hdisabled
  contradiction

/-- A layer without its anchor is not selected, pinned or not. -/
theorem not_selectorEnabled_of_missing {anchor : ContextPackRequiredAnchor}
    (hanchor : anchor ∈ (routeContextPack req).requiredAnchors) (h : anchor.supplied = false)
    : selectorEnabled (routeContextPack req) anchor.layer = false := by
  have hanchors : (routeContextPack req).requiredAnchors
      = req.selectorSources.layerRoutes.map LayerRouteInput.requiredAnchor :=
    routeSelectors_anchors req.selectorSources
  rw [hanchors] at hanchor
  have ⟨missing, hmissing, heq⟩ := List.mem_map.mp hanchor
  subst heq
  rw [← Bool.not_eq_true, selectorEnabled_iff_supplied]
  intro ⟨route, hroute, hlayer, _, hsupplied, _⟩
  have hnodup : (req.selectorSources.layerRoutes.map LayerRouteInput.layer).Nodup := by
    rw [layerRoutes_layer]
    exact layers_nodup
  have hsame := List.inj_on_of_nodup_map hnodup hroute hmissing hlayer
  subst hsame
  rw [show route.anchorSupplied = false from h] at hsupplied
  contradiction

/-! ## Items -/

section

variable [LinearOrder S] {negInfinity : S}

instance : Std.TransCmp (cmpPackItems negInfinity) :=
  have : Std.TransCmp fun a b : ContextPackItem S => compare b.pinnedPriority a.pinnedPriority :=
    @Std.TransCmp.opposite _ (compareOn ContextPackItem.pinnedPriority) inferInstance
  have : Std.TransCmp fun a b : ContextPackItem S =>
      compare (b.score.getD negInfinity) (a.score.getD negInfinity) :=
    @Std.TransCmp.opposite _ (compareOn fun item : ContextPackItem S => item.score.getD negInfinity)
      inferInstance
  inferInstanceAs (Std.TransCmp (compareLex
    (fun a b : ContextPackItem S => compare b.pinnedPriority a.pinnedPriority)
    (compareLex (compareOn fun item : ContextPackItem S => item.rank.getD u32Max)
      (compareLex
        (fun a b : ContextPackItem S =>
          compare (b.score.getD negInfinity) (a.score.getD negInfinity))
        (compareOn ContextPackItem.layer)))))

end

theorem mem_eligibleRows {layers : List (RecallDebugLayer S)} {routed : RoutedPack}
    {row : RecallDebugRow S}
    : row ∈ eligibleRows layers routed ↔ ∃ recalled ∈ layers, recalled.layer ∉ routed.disabledLayers
      ∧ row ∈ recalled.rows ∧ rowEligibleForPack row = true := by
  unfold eligibleRows
  simp [and_assoc]

/-! ## Trace -/

theorem traceActivation_mem (layers : List (RecallDebugLayer S)) {selector : ContextPackLayerSelector}
    (h : selector.state ∈ ["suppressed", "selected", "not_requested"])
    : (traceActivation layers selector).1
      ∈ ["selected", "suppressed", "blocked", "not_requested", "pinned_ineligible"] := by
  have hstate : selector.state
      ∈ ["selected", "suppressed", "blocked", "not_requested", "pinned_ineligible"] := by
    simp only [List.mem_cons, List.not_mem_nil, or_false] at h
    rcases h with h | h | h
    all_goals simp [h]
  unfold traceActivation
  dsimp only
  split
  . exact hstate
  . split
    . simp
    . split
      . split
        . simp
        . simp
      . exact hstate

theorem activation_mem (route : LayerRouteInput)
    : route.activation.1 ∈ ["suppressed", "selected", "not_requested"] := by
  unfold LayerRouteInput.activation
  split
  . simp
  . split
    . simp
    . split
      . simp
      . simp

/-- Each entry is counted once. -/
theorem countState_sum {entries : List ContextPackRoutingTraceEntry}
    (h : ∀ entry ∈ entries, entry.activationState
      ∈ ["selected", "suppressed", "blocked", "not_requested", "pinned_ineligible"])
    : countState entries "selected" + countState entries "suppressed" + countState entries "blocked"
      + countState entries "not_requested" + countState entries "pinned_ineligible"
      = entries.length := by
  unfold countState
  induction entries with
  | nil => rfl
  | cons entry entries ih =>
    have hentry := h entry List.mem_cons_self
    have htail := ih fun e he => h e (List.mem_cons_of_mem entry he)
    simp only [List.countP_cons, List.length_cons]
    rw [← htail]
    simp only [List.mem_cons, List.not_mem_nil, or_false] at hentry
    rcases hentry with hentry | hentry | hentry | hentry | hentry
    all_goals
      rw [hentry]
      simp
      try omega

/-! ## Recall -/

/-- A recalled layer has rows only if it was asked for and read. -/
structure ReadOf (name : String) (asked : Bool) (recalled : RecallDebugLayer S) : Prop where
  layer : recalled.layer = name
  rows : ∀ row ∈ recalled.rows, row.layer = name
  read : recalled.rows ≠ [] → recalled.evidenceClass ≠ "blocked" ∧ asked = true

variable {surfaces : RecallSurfaces S} {panel : RecallDebugPanelRequest} {limit : Nat}
  {recalled : RecallDebugLayer S} {query : Option String} {asked : Bool}

theorem ReadOf.imp {asked' : Bool} (h : ReadOf layer asked recalled)
    (hasked : asked = true → asked' = true) : ReadOf layer asked' recalled := by
  refine ⟨h.layer, h.rows, ?_⟩
  intro hrows
  exact ⟨(h.read hrows).1, hasked (h.read hrows).2⟩

theorem readOf_notRequested (layer summary : String)
    : ReadOf layer asked (notRequestedLayer layer summary : RecallDebugLayer S) :=
  ⟨rfl, by simp [notRequestedLayer], by simp [notRequestedLayer]⟩

theorem readOf_orBlocked {summary : String} {read : Except String (RecallDebugLayer S)}
    (h : ∀ recalled, read = .ok recalled → ReadOf layer asked recalled)
    : ReadOf layer asked (orBlocked layer summary read) := by
  unfold orBlocked
  cases read with
  | ok recalled => exact h recalled rfl
  | error errorClass => exact ⟨rfl, by simp [blockedLayer], by simp [blockedLayer]⟩

theorem recallMemoryLayer_readOf (h : recallMemoryLayer surfaces panel limit = .ok recalled)
    : ReadOf layerMemory panel.traceId.isSome recalled := by
  unfold recallMemoryLayer at h
  split at h
  . cases h
    apply readOf_notRequested
  next traceId htrace =>
    simp only [Except.bind_eq_ok, Except.pure_eq_ok] at h
    have ⟨bundle, _, hrecalled⟩ := h
    subst hrecalled
    refine ⟨rfl, ?_, ?_⟩
    . intro row hrow
      simp only [MemoryTraceBundle.rows, List.mem_append, List.mem_map] at hrow
      rcases hrow with ⟨_, _, hrow⟩ | ⟨_, _, hrow⟩
      all_goals
        subst hrow
        rfl
    . simp [htrace]

theorem recallDocsLayer_readOf (h : recallDocsLayer surfaces panel query limit = .ok recalled)
    : ReadOf layerDocs query.isSome recalled := by
  unfold recallDocsLayer at h
  split at h
  . cases h
    apply readOf_notRequested
  . simp only [Except.bind_eq_ok, Except.pure_eq_ok] at h
    have ⟨⟨items, lastStage⟩, _, hrecalled⟩ := h
    subst hrecalled
    refine ⟨rfl, ?_, by simp⟩
    intro row hrow
    have ⟨_, _, hrow⟩ := List.mem_mapIdx.mp hrow
    subst hrow
    rfl

theorem recallKnowledgeLayer_readOf (h : recallKnowledgeLayer surfaces panel query limit = .ok recalled)
    : ReadOf layerKnowledge query.isSome recalled := by
  unfold recallKnowledgeLayer at h
  split at h
  . cases h
    apply readOf_notRequested
  . simp only [Except.bind_eq_ok, Except.pure_eq_ok] at h
    have ⟨items, _, hrecalled⟩ := h
    subst hrecalled
    refine ⟨rfl, ?_, by simp⟩
    intro row hrow
    have ⟨_, _, hrow⟩ := List.mem_mapIdx.mp hrow
    subst hrow
    rfl

theorem recallGraphLayer_readOf (h : recallGraphLayer surfaces panel limit = .ok recalled)
    : ReadOf layerGraph panel.graphSubject.isSome recalled := by
  unfold recallGraphLayer at h
  split at h
  . cases h
    apply readOf_notRequested
  next subject hsubject =>
    simp only [Except.bind_eq_ok, Except.pure_eq_ok] at h
    have ⟨facts, _, hrecalled⟩ := h
    subst hrecalled
    refine ⟨rfl, ?_, by simp [hsubject]⟩
    intro row hrow
    have ⟨_, _, hrow⟩ := List.mem_mapIdx.mp hrow
    subst hrow
    rfl

theorem recallDreamingLayer_readOf (h : recallDreamingLayer surfaces panel asked limit = .ok recalled)
    : ReadOf layerDreaming asked recalled := by
  unfold recallDreamingLayer at h
  split at h
  . cases h
    apply readOf_notRequested
  next hasked =>
    simp only [Except.bind_eq_ok, Except.pure_eq_ok] at h
    have ⟨items, _, hrecalled⟩ := h
    subst hrecalled
    refine ⟨rfl, ?_, by simp_all⟩
    intro row hrow
    have ⟨_, _, hrow⟩ := List.mem_mapIdx.mp hrow
    subst hrow
    rfl

/-- The panel has a layer for each name. -/
theorem recallDebugPanel_layer (surfaces : RecallSurfaces S) (panel : RecallDebugPanelRequest)
    : (recallDebugPanel surfaces panel).map RecallDebugLayer.layer
      = [layerMemory, layerDocs, layerKnowledge, layerGraph, layerDreaming] := by
  unfold recallDebugPanel
  simp only [List.map_cons, List.map_nil]
  rw [(readOf_orBlocked fun _ h => recallMemoryLayer_readOf h).layer,
    (readOf_orBlocked fun _ h => recallDocsLayer_readOf h).layer,
    (readOf_orBlocked fun _ h => recallKnowledgeLayer_readOf h).layer,
    (readOf_orBlocked fun _ h => recallGraphLayer_readOf h).layer,
    (readOf_orBlocked fun _ h => recallDreamingLayer_readOf h).layer]

theorem isSome_of_trimmedOpt {value : Option String} (h : (trimmedOpt value).isSome = true)
    : value.isSome = true := by
  cases value with
  | none => cases h
  | some value => rfl

theorem eq_true_of_isSome_ite {p : Bool} {value : Option α}
    (h : (if p = true then value else none).isSome = true) : p = true := by
  cases p with
  | true => rfl
  | false => cases h

/-- What a request recalls comes from layers that the routing selected. -/
theorem recallDebugPanel_readOf (req : ContextPackRequest)
    (h : recalled ∈ recallDebugPanel surfaces (recallRequest req (routeContextPack req)))
    : ∃ layer, ReadOf layer (selectorEnabled (routeContextPack req) layer) recalled := by
  simp only [recallDebugPanel, List.mem_cons, List.not_mem_nil, or_false] at h
  rcases h with h | h | h | h | h
  . subst h
    refine ⟨layerMemory, (readOf_orBlocked fun _ h => recallMemoryLayer_readOf h).imp ?_⟩
    apply eq_true_of_isSome_ite
  . subst h
    refine ⟨layerDocs, (readOf_orBlocked fun _ h => recallDocsLayer_readOf h).imp ?_⟩
    intro hasked
    have hasked := isSome_of_trimmedOpt hasked
    rw [show (recallRequest req (routeContextPack req)).query = none from rfl, Option.or_none] at hasked
    exact eq_true_of_isSome_ite hasked
  . subst h
    refine ⟨layerKnowledge, (readOf_orBlocked fun _ h => recallKnowledgeLayer_readOf h).imp ?_⟩
    intro hasked
    have hasked := isSome_of_trimmedOpt hasked
    rw [show (recallRequest req (routeContextPack req)).query = none from rfl, Option.or_none] at hasked
    exact eq_true_of_isSome_ite hasked
  . subst h
    refine ⟨layerGraph, (readOf_orBlocked fun _ h => recallGraphLayer_readOf h).imp ?_⟩
    apply eq_true_of_isSome_ite
  . subst h
    refine ⟨layerDreaming, (readOf_orBlocked fun _ h => recallDreamingLayer_readOf h).imp ?_⟩
    intro hasked
    have hasked := eq_of_beq hasked
    simp only [recallRequest, Option.some.injEq, Bool.and_eq_true] at hasked
    exact hasked.1

/-- The layer of a name is the one that was recalled under it. -/
theorem findLayer_of_mem {layers : List (RecallDebugLayer S)}
    (hnodup : (layers.map RecallDebugLayer.layer).Nodup) (h : recalled ∈ layers)
    : findLayer layers recalled.layer = some recalled := by
  unfold findLayer
  cases hfind : layers.reverse.find? fun other => other.layer == recalled.layer with
  | none =>
    rw [List.find?_eq_none] at hfind
    have hne := hfind recalled (List.mem_reverse.mpr h)
    simp at hne
  | some other =>
    have hmem := List.mem_reverse.mp (List.mem_of_find?_eq_some hfind)
    have hlayer : other.layer = recalled.layer := by simpa using List.find?_some hfind
    rw [List.inj_on_of_nodup_map hnodup hmem h hlayer]

/-- The trace says "selected" of every layer that the pack has an item of. -/
theorem traceEntry_of_mem_eligibleRows {row : RecallDebugRow S} {entry : ContextPackRoutingTraceEntry}
    (hrow : row ∈ eligibleRows (recallDebugPanel surfaces (recallRequest req (routeContextPack req)))
      (routeContextPack req))
    (hentry : entry ∈ (buildRoutingTrace (routeContextPack req)
      (recallDebugPanel surfaces (recallRequest req (routeContextPack req)))).entries)
    (hlayer : row.layer = entry.layer) : entry.activationState = "selected" := by
  have ⟨recalled, hrecalled, _, hmem, heligible⟩ := mem_eligibleRows.mp hrow
  have ⟨layer, hread⟩ := recallDebugPanel_readOf req hrecalled
  have ⟨hblocked, henabled⟩ := hread.read (List.ne_nil_of_mem hmem)
  have ⟨selector, hselector, heq⟩ := List.mem_map.mp hentry
  subst heq
  have hname : selector.layer = recalled.layer := by
    rw [hread.layer, ← hread.rows row hmem]
    exact hlayer.symm
  have hstate : selector.state = "selected" := by
    unfold selectorEnabled at henabled
    rw [Option.any_eq_true] at henabled
    have ⟨enabled, hfind, henabled⟩ := henabled
    have hsame : enabled.layer = selector.layer := by
      rw [hname, hread.layer]
      simpa using List.find?_some hfind
    have heq := List.inj_on_of_nodup_map (routeSelectors_nodup req.selectorSources)
      (List.mem_of_find?_eq_some hfind) hselector hsame
    rw [← heq]
    exact eq_of_beq henabled
  have hnodup : ((recallDebugPanel surfaces (recallRequest req (routeContextPack req))).map
      RecallDebugLayer.layer).Nodup := by
    rw [recallDebugPanel_layer]
    exact layers_nodup
  unfold traceEntry traceActivation
  dsimp only
  rw [hname, findLayer_of_mem hnodup hrecalled]
  dsimp only
  rw [if_neg hblocked, if_neg]
  . exact hstate
  . intro ⟨_, hnone⟩
    rw [List.all_eq_true] at hnone
    have hnot := hnone row hmem
    rw [heligible] at hnot
    contradiction

/-! ## Context packs -/

/--
The items of a context pack are the eligible rows of the layers that are not disabled, in the order of
the pack. Pins change neither these rows nor the layers that are selected, and they do not override what
disables a layer or a missing anchor. The trace has one entry for each selector, which is counted once.
And an item of what is recalled for the request is of a layer that the trace calls selected.
-/
theorem context_packs [LinearOrder S] (negInfinity : S) (req : ContextPackRequest)
    : (∀ layers : List (RecallDebugLayer S),
        (packItems negInfinity layers (routeContextPack req)).Perm
          ((eligibleRows layers (routeContextPack req)).map
            (RecallDebugRow.toItem (routeContextPack req)))
        ∧ ((packItems negInfinity layers (routeContextPack req)).Pairwise fun a b =>
          (cmpPackItems negInfinity a b).isLE)
        ∧ ∀ item, (packItems negInfinity layers (routeContextPack req)).filter
            (fun other => cmpPackItems negInfinity item other == .eq)
          = ((eligibleRows layers (routeContextPack req)).map
            (RecallDebugRow.toItem (routeContextPack req))).filter
              fun other => cmpPackItems negInfinity item other == .eq)
      ∧ (∀ pins,
        (∀ layers : List (RecallDebugLayer S),
          eligibleRows layers (routeContextPack (req.withPins pins))
            = eligibleRows layers (routeContextPack req))
        ∧ ∀ layer, selectorEnabled (routeContextPack (req.withPins pins)) layer
          = selectorEnabled (routeContextPack req) layer)
      ∧ (∀ layer ∈ (routeContextPack req).disabledLayers,
        selectorEnabled (routeContextPack req) layer = false)
      ∧ (∀ anchor ∈ (routeContextPack req).requiredAnchors, anchor.supplied = false →
        selectorEnabled (routeContextPack req) anchor.layer = false)
      ∧ (∀ layers : List (RecallDebugLayer S),
        let trace := buildRoutingTrace (routeContextPack req) layers
        trace.entries.map ContextPackRoutingTraceEntry.layer
            = (routeContextPack req).selectors.map ContextPackLayerSelector.layer
        ∧ (trace.entries.map ContextPackRoutingTraceEntry.layer).Nodup
        ∧ (∀ entry ∈ trace.entries, entry.activationState
          ∈ ["selected", "suppressed", "blocked", "not_requested", "pinned_ineligible"])
        ∧ trace.selectedCount + trace.suppressedCount + trace.blockedCount + trace.notRequestedCount
          + trace.pinnedIneligibleCount = (routeContextPack req).selectors.length)
      ∧ ∀ surfaces : RecallSurfaces S,
        let layers := recallDebugPanel surfaces (recallRequest req (routeContextPack req))
        ∀ entry ∈ (buildRoutingTrace (routeContextPack req) layers).entries,
          entry.activationState ≠ "selected" →
          ∀ item ∈ packItems negInfinity layers (routeContextPack req), item.layer ≠ entry.layer := by
  refine ⟨?_, ?_, ?_, ?_, ?_, ?_⟩
  . intro layers
    refine ⟨sortBy_perm _, sortBy_pairwise _, ?_⟩
    intro item
    apply filter_sortBy
  . intro pins
    constructor
    . intro layers
      exact eligibleRows_withPins layers pins
    . intro layer
      exact selectorEnabled_withPins pins
  . intro layer hlayer
    exact not_selectorEnabled_of_disabled hlayer
  . intro anchor hanchor hmissing
    exact not_selectorEnabled_of_missing hanchor hmissing
  . intro layers trace
    have hlayers : trace.entries.map ContextPackRoutingTraceEntry.layer
        = (routeContextPack req).selectors.map ContextPackLayerSelector.layer := by
      apply List.map_map
    have hstates : ∀ entry ∈ trace.entries, entry.activationState
        ∈ ["selected", "suppressed", "blocked", "not_requested", "pinned_ineligible"] := by
      intro entry hentry
      have ⟨selector, hselector, heq⟩ := List.mem_map.mp hentry
      subst heq
      apply traceActivation_mem
      have ⟨route, _, heq⟩ := List.mem_map.mp
        ((routeSelectors_perm req.selectorSources).mem_iff.mp hselector)
      subst heq
      exact activation_mem route
    refine ⟨hlayers, ?_, hstates, ?_⟩
    . rw [hlayers]
      exact routeSelectors_nodup req.selectorSources
    . have hlength : trace.entries.length = (routeContextPack req).selectors.length :=
        List.length_map _
      rw [← hlength]
      exact countState_sum hstates
  . intro surfaces layers entry hentry hstate item hitem heq
    have hitem := mem_sortBy.mp hitem
    have ⟨row, hrow, hitem⟩ := List.mem_map.mp hitem
    subst hitem
    exact hstate (traceEntry_of_mem_eligibleRows hrow hentry heq)

end Elf
