import Elf.Knowledge.Lemmas.Runs

/-!
This module contains what a rebuild of a page from its own references does, as long as the sources
are what they were: it asks for the same sources, and builds the same sections of them.
-/

namespace Elf

open Except

variable {svc : KnowledgeService} {db db' : SourceDb} {draw draw' : KnowledgeDraw}
  {req : KnowledgePageRebuildRequest} {kdb mid kdb' : KnowledgeDb} {page : KnowledgePage}
  {sections : List DraftSection} {sources : List SourceSnapshot} {kind : KnowledgeSourceKind}
  {id : Uuid} {clock : SourceClock} {ids : SourceIds}

/-! ## Identifiers -/

theorem resolveSources_eq_ok
    : resolveSources svc db clock req ids = .ok sources
        ↔ ids.requireCounts (resolveExistingSourceRows db (rebuildReader svc db req) clock ids) = .ok ()
          ∧ sourceSnapshots svc (resolveExistingSourceRows db (rebuildReader svc db req) clock ids)
            = sources := by
  unfold resolveSources
  simp only [Except.bind_eq_ok, Except.pure_eq_ok]
  constructor
  . rintro ⟨u, hcounts, rfl⟩
    exact ⟨hcounts, rfl⟩
  . rintro ⟨hcounts, rfl⟩
    exact ⟨(), hcounts, rfl⟩

/-- A rebuild has a source for each identifier of the request, and no other one. -/
theorem mem_ofKind_of_resolved (h : resolveSources svc db clock req ids = .ok sources)
    : id ∈ ids.ofKind kind ↔ ∃ source ∈ sources, source.kind = kind ∧ source.id = id := by
  rcases resolveSources_eq_ok.mp h with ⟨hcounts, rfl⟩
  constructor
  . intro hid
    have hexists : ∃ source, db.source svc (rebuildReader svc db req) clock kind id = some source :=
      exists_source_of_requireCounts hcounts hid
    rcases hexists with ⟨source, hsource⟩
    rcases source_key hsource with ⟨hkind, hsourceId⟩
    refine ⟨source, ?_, hkind, hsourceId⟩
    rw [mem_sourceSnapshots, hkind, hsourceId]
    exact ⟨hid, hsource⟩
  . rintro ⟨source, hmem, rfl, rfl⟩
    exact (mem_sourceSnapshots.mp hmem).1

theorem source_of_resolved (h : resolveSources svc db clock req ids = .ok sources)
    {source : SourceSnapshot} (hsource : source ∈ sources)
    : db.source svc (rebuildReader svc db req) clock source.kind source.id = some source := by
  rcases resolveSources_eq_ok.mp h with ⟨-, rfl⟩
  exact (mem_sourceSnapshots.mp hsource).2

/-- The sources of the request, by their kind. -/
def KnowledgePageRebuildRequest.idsOf (req : KnowledgePageRebuildRequest)
    : KnowledgeSourceKind → List Uuid
  | .doc => req.docIds
  | .docChunk => req.docChunkIds
  | .note => req.noteIds
  | .event => req.eventIds
  | .relation => req.relationIds
  | .proposal => req.proposalIds

theorem ofKind_requested (req : KnowledgePageRebuildRequest) (kind : KnowledgeSourceKind)
    : (SourceIds.requested req).ofKind kind = SourceIds.sortedUnique (req.idsOf kind) := by
  cases kind <;> rfl

theorem nodup_ofKind_requested (req : KnowledgePageRebuildRequest) (kind : KnowledgeSourceKind)
    : ((SourceIds.requested req).ofKind kind).Nodup := by
  rw [ofKind_requested]
  exact SourceIds.nodup_sortedUnique _

/-- The references of a page name the sources that were asked for. -/
theorem citedIds_eq (hholds : PageHolds kdb page sections sources)
    (hresolved : resolveSources svc db clock req (SourceIds.requested req) = .ok sources)
    : SourceIds.citedIds (listKnowledgePageSourceRefs kdb page.pageId) kind
        = (SourceIds.requested req).ofKind kind := by
  rw [ofKind_requested]
  apply SourceIds.sortedUnique_congr
  intro id
  have hid := @mem_ofKind_of_resolved svc db req sources kind id clock _ hresolved
  rw [ofKind_requested, SourceIds.mem_sortedUnique] at hid
  rw [hid, ← SourceIds.mem_sortedUnique]
  change id ∈ SourceIds.citedIds (listKnowledgePageSourceRefs kdb page.pageId) kind ↔ _
  rw [SourceIds.mem_citedIds]
  constructor
  . rintro ⟨sourceRef, href, hkind, rfl⟩
    rcases hholds.cited sourceRef href with ⟨source, hsource, hcites⟩
    rw [hcites.sourceKind, KnowledgeSourceKind.parse_asStr] at hkind
    exact ⟨source, hsource, Option.some.inj hkind, hcites.sourceId.symm⟩
  . rintro ⟨source, hsource, rfl, rfl⟩
    rcases hholds.cites source hsource with ⟨sourceRef, href, hcites⟩
    refine ⟨sourceRef, href, ?_, hcites.sourceId⟩
    rw [hcites.sourceKind, KnowledgeSourceKind.parse_asStr]

theorem PageHolds.kinds (hholds : PageHolds kdb page sections sources)
    : ∀ sourceRef ∈ listKnowledgePageSourceRefs kdb page.pageId,
      (KnowledgeSourceKind.parse sourceRef.sourceKind).isSome := by
  intro sourceRef href
  rcases hholds.cited sourceRef href with ⟨source, -, hcites⟩
  rw [hcites.sourceKind, KnowledgeSourceKind.parse_asStr]
  rfl

theorem fromSourceRefs_eq (hholds : PageHolds kdb page sections sources)
    (hresolved : resolveSources svc db clock req (SourceIds.requested req) = .ok sources)
    : SourceIds.fromSourceRefs (listKnowledgePageSourceRefs kdb page.pageId)
        = .ok (SourceIds.requested req) := by
  unfold SourceIds.fromSourceRefs
  rw [if_neg]
  . rw [citedIds_eq hholds hresolved, citedIds_eq hholds hresolved, citedIds_eq hholds hresolved,
      citedIds_eq hholds hresolved, citedIds_eq hholds hresolved, citedIds_eq hholds hresolved]
    rfl
  . rw [Bool.not_eq_true, List.any_eq_false]
    intro sourceRef href
    rw [Option.isNone_eq_false_iff.mpr (hholds.kinds sourceRef href)]
    decide

/-! ## Requests -/

/-- The request that the stored page makes. -/
def KnowledgePageRebuildRequest.again (jsonb : JsonNumber → JsonNumber)
    (req : KnowledgePageRebuildRequest) : KnowledgePageRebuildRequest :=
  { req with
    title := some (req.title.getD (generatedTitle req.pageKind req.pageKey))
    docIds := (SourceIds.requested req).docIds
    docChunkIds := (SourceIds.requested req).docChunkIds
    noteIds := (SourceIds.requested req).noteIds
    eventIds := (SourceIds.requested req).eventIds
    relationIds := (SourceIds.requested req).relationIds
    proposalIds := (SourceIds.requested req).proposalIds
    providerMetadata := req.providerMetadata.respell jsonb }

theorem requested_again (jsonb : JsonNumber → JsonNumber) (req : KnowledgePageRebuildRequest)
    : SourceIds.requested (req.again jsonb) = SourceIds.requested req := by
  have hagain (ids : List Uuid)
      : SourceIds.sortedUnique (SourceIds.sortedUnique ids) = SourceIds.sortedUnique ids :=
    SourceIds.sortedUnique_congr fun _ => SourceIds.mem_sortedUnique
  unfold SourceIds.requested KnowledgePageRebuildRequest.again SourceIds.requested
  dsimp only
  rw [hagain, hagain, hagain, hagain, hagain, hagain]

theorem rebuildRequestFromPage_eq (hrebuilds : Rebuilds svc db draw req kdb sources page mid kdb')
    {refs : List KnowledgePageSourceRef}
    (hrefs : SourceIds.fromSourceRefs refs = .ok (SourceIds.requested req))
    : rebuildRequestFromPage req.agentId page refs = .ok (req.again svc.jsonb) := by
  rcases hrebuilds.key with ⟨htenant, hproject, hkind, hpageKey⟩
  have htitle : page.title = req.title.getD (generatedTitle req.pageKind req.pageKey) :=
    congrArg KnowledgePage.title hrebuilds.upserts.columns
  have hmetadata : page.rebuildMetadata.providerMetadata = req.providerMetadata.respell svc.jsonb :=
    congrArg (fun row => row.rebuildMetadata.providerMetadata) hrebuilds.upserts.columns
  have hobject : (req.providerMetadata.respell svc.jsonb).isObject = true := by
    rw [SpelledJson.isObject_respell]
    exact hrebuilds.accepted.providerMetadata
  unfold rebuildRequestFromPage
  rw [hrefs, htenant, hproject, hkind, hpageKey, htitle, hmetadata]
  simp only [Except.bind_eq_ok, Except.pure_eq_ok]
  refine ⟨_, rfl, req.pageKind, ?_, ?_⟩
  . exact Except.ofOption_eq_ok.mpr (KnowledgePageKind.parse_asStr req.pageKind)
  . rw [if_pos hobject]
    rfl

theorem accepted_again (jsonb : JsonNumber → JsonNumber) (h : req.Accepted)
    : (req.again jsonb).Accepted := by
  refine ⟨h.context, h.pageKey, ?_, ?_⟩
  . change (req.providerMetadata.respell jsonb).isObject = true
    rw [SpelledJson.isObject_respell]
    exact h.providerMetadata
  . rw [requested_again]
    exact h.ids

/-! ## Hashes -/

theorem sourceCoverageValue_citedSections (draw' draw : KnowledgeDraw) (pageKind : KnowledgePageKind)
    (pageKey : String)
    : sourceCoverageValue pageKind pageKey (citedSections svc draw' sources) sources
        = sourceCoverageValue pageKind pageKey (citedSections svc draw sources) sources := by
  have hreasons : (citedSections svc draw' sources).map DraftSection.unsupportedReason
      = (citedSections svc draw sources).map DraftSection.unsupportedReason :=
    map_citedSections fun _ _ => rfl
  have hlen := congrArg List.length hreasons
  rw [List.length_map, List.length_map] at hlen
  have hcount := congrArg (List.countP Option.isSome) hreasons
  rw [List.countP_map, List.countP_map] at hcount
  change (citedSections svc draw' sources).countP (fun draft => draft.unsupportedReason.isSome)
    = (citedSections svc draw sources).countP (fun draft => draft.unsupportedReason.isSome) at hcount
  unfold sourceCoverageValue
  rw [flatMap_sourceIndexes, flatMap_sourceIndexes, hlen, hcount]

theorem sectionHashes_citedSections (draw' draw : KnowledgeDraw)
    : (citedSections svc draw' sources).map (fun draft => (draft.sectionKey, draft.contentHash))
        = (citedSections svc draw sources).map fun draft => (draft.sectionKey, draft.contentHash) :=
  map_citedSections fun _ _ => rfl

theorem llmDerived_respell (jsonb : JsonNumber → JsonNumber) (value : SpelledJson)
    : llmDerived (value.respell jsonb) = llmDerived value := by
  unfold llmDerived
  rw [SpelledJson.get_respell]
  cases value.get "llm_derived" with
  | none => rfl
  | some value =>
    rw [Option.map_some, Option.bind_some, Option.bind_some, SpelledJson.asBool_respell]

/-- The metadata as the stored page gives them back. -/
def respelledMetadata (jsonb : JsonNumber → JsonNumber) (sourceHash : String)
    (req : KnowledgePageRebuildRequest) : BaseRebuildMetadata :=
  { rebuildMetadata sourceHash req with providerMetadata := req.providerMetadata.respell jsonb }

/-- The content hash of the page that is built of these sources, with these metadata. -/
def contentHashOf (svc : KnowledgeService) (draw : KnowledgeDraw) (req : KnowledgePageRebuildRequest)
    (sources : List SourceSnapshot) (metadata : BaseRebuildMetadata) : String :=
  pageContentHash svc (req.title.getD (generatedTitle req.pageKind req.pageKey))
    (citedSections svc draw sources)
    (sourceCoverageValue req.pageKind req.pageKey (citedSections svc draw sources) sources) metadata

theorem contentHash_nextPage
    : (nextPage svc draw req kdb sources).contentHash
        = contentHashOf svc draw req sources
          (rebuildMetadata (svc.hashStored (sourceSnapshotValue sources)) req) := rfl

theorem contentHash_again (kdb : KnowledgeDb) (draw' draw : KnowledgeDraw)
    : (nextPage svc draw' (req.again svc.jsonb) kdb sources).contentHash
        = contentHashOf svc draw req sources
          (respelledMetadata svc.jsonb (svc.hashStored (sourceSnapshotValue sources)) req) := by
  have hpayloads : (citedSections svc draw' sources).map sectionHashPayload
      = (citedSections svc draw sources).map sectionHashPayload :=
    map_citedSections fun _ _ => rfl
  have hmetadata (sourceHash : String)
      : contentHashRebuildMetadata (rebuildMetadata sourceHash (req.again svc.jsonb))
        = contentHashRebuildMetadata (respelledMetadata svc.jsonb sourceHash req) := by
    unfold contentHashRebuildMetadata rebuildMetadata respelledMetadata
      KnowledgePageRebuildRequest.again
    dsimp only
    rw [llmDerived_respell]
    rfl
  have hcoverage : sourceCoverageValue req.pageKind req.pageKey (citedSections svc draw' sources)
      sources = sourceCoverageValue req.pageKind req.pageKey (citedSections svc draw sources) sources :=
    sourceCoverageValue_citedSections draw' draw req.pageKind req.pageKey
  rw [contentHash_nextPage]
  unfold contentHashOf pageContentHash
  rw [hpayloads, hmetadata, ← hcoverage]
  rfl

/-- A column that keeps every number as it is spelled keeps the content hash. -/
theorem contentHashOf_respelled (h : req.providerMetadata.respell svc.jsonb = req.providerMetadata)
    (sourceHash : String)
    : contentHashOf svc draw req sources (respelledMetadata svc.jsonb sourceHash req)
        = contentHashOf svc draw req sources (rebuildMetadata sourceHash req) := by
  unfold respelledMetadata
  rw [h]
  rfl

/-- Otherwise the content hash is another one, unless two values share one. -/
theorem respell_of_contentHashOf (hinjective : Function.Injective svc.hashJson) {sourceHash : String}
    (h : contentHashOf svc draw req sources (respelledMetadata svc.jsonb sourceHash req)
      = contentHashOf svc draw req sources (rebuildMetadata sourceHash req))
    : req.providerMetadata.respell svc.jsonb = req.providerMetadata := by
  unfold contentHashOf pageContentHash contentHashRebuildMetadata at h
  have hpayload := hinjective h
  simp only [SpelledJson.obj.injEq, List.cons.injEq, Prod.mk.injEq, true_and, and_true] at hpayload
  rcases hpayload with ⟨-, -, hprovider, -⟩
  exact hprovider

/-! ## Diffs -/

/-- The diff reports each of the sections, and reports it as unchanged. -/
structure VersionDiff.AllUnchanged (diff : VersionDiff) (keys : List String) : Prop where
  added : diff.addedSectionKeys = []
  removed : diff.removedSectionKeys = []
  changed : diff.changedSectionKeys = []
  unchanged : diff.unchangedSectionKeys = keys

theorem map_sectionKey_listed (hholds : PageHolds kdb page (citedSections svc draw sources) sources)
    (draw' : KnowledgeDraw) (key : String)
    : key ∈ (listKnowledgePageSections kdb page.pageId).map KnowledgePageSection.sectionKey
        ↔ key ∈ (citedSections svc draw' sources).map DraftSection.sectionKey := by
  have hkeys : (citedSections svc draw' sources).map DraftSection.sectionKey
      = (citedSections svc draw sources).map DraftSection.sectionKey :=
    map_citedSections fun _ _ => rfl
  rw [hkeys, List.mem_map, List.mem_map]
  constructor
  . rintro ⟨row, hrow, rfl⟩
    rcases hholds.shown row hrow with ⟨draft, hdraft, hshows⟩
    exact ⟨draft, hdraft, hshows.sectionKey.symm⟩
  . rintro ⟨draft, hdraft, rfl⟩
    rcases hholds.shows draft hdraft with ⟨row, hrow, hshows⟩
    exact ⟨row, hrow, hshows.sectionKey⟩

/-- What the row of a section shows of it. -/
def DraftSection.face (draft : DraftSection)
    : String × String × String × Option String × String :=
  (draft.sectionKey, draft.heading, draft.role, draft.unsupportedReason, draft.contentHash)

/-- A section that is built again is what the row of its key shows. -/
theorem shows_again (hholds : PageHolds kdb page (citedSections svc draw sources) sources)
    {row : KnowledgePageSection} {draft : DraftSection}
    (hrow : row ∈ listKnowledgePageSections kdb page.pageId)
    (hdraft : draft ∈ citedSections svc draw' sources) (hkey : row.sectionKey = draft.sectionKey)
    : row.Shows draft := by
  have hface : (citedSections svc draw' sources).map DraftSection.face
      = (citedSections svc draw sources).map DraftSection.face :=
    map_citedSections fun _ _ => rfl
  have hmem := List.mem_map_of_mem (f := DraftSection.face) hdraft
  rw [hface] at hmem
  rcases List.mem_map.mp hmem with ⟨before, hbefore, heq⟩
  unfold DraftSection.face at heq
  simp only [Prod.mk.injEq] at heq
  rcases heq with ⟨hsectionKey, hheading, hrole, hreason, hhash⟩
  rcases hholds.shown row hrow with ⟨shown, hshown, hshows⟩
  have hsame : shown = before := by
    apply List.inj_on_of_nodup_map nodup_sectionKeys hshown hbefore
    rw [← hshows.sectionKey, hkey, hsectionKey]
  rw [hsame] at hshows
  exact ⟨hkey, hshows.heading.trans hheading, hshows.role.trans hrole,
    hshows.unsupportedReason.trans hreason, hshows.contentHash.trans hhash⟩

theorem exists_find?_reverse {α : Type} {p : α → Bool} {l : List α} {a : α} (ha : a ∈ l)
    (hp : p a = true) : ∃ b, l.reverse.find? p = some b := by
  apply Option.isSome_iff_exists.mp
  rw [List.find?_isSome]
  exact ⟨a, List.mem_reverse.mpr ha, hp⟩

theorem sectionUnchanged_again
    (hholds : PageHolds kdb page (citedSections svc draw sources) sources) {key : String}
    (hkey : key ∈ (listKnowledgePageSections kdb page.pageId).map KnowledgePageSection.sectionKey)
    : sectionUnchanged (listKnowledgePageSections kdb page.pageId) (citedSections svc draw' sources)
        key = true := by
  have hkey' := (map_sectionKey_listed hholds draw' key).mp hkey
  unfold sectionUnchanged
  split
  next row draft hrow hdraft =>
    have hrowKey := List.find?_some hrow
    have hdraftKey := List.find?_some hdraft
    rw [decide_eq_true_eq] at hrowKey hdraftKey
    have hshows := shows_again hholds (List.mem_reverse.mp (List.mem_of_find?_eq_some hrow))
      (List.mem_reverse.mp (List.mem_of_find?_eq_some hdraft)) (hrowKey.trans hdraftKey.symm)
    rw [hshows.contentHash, hshows.heading, hshows.role, hshows.unsupportedReason]
    simp
  next hnone =>
    rcases List.mem_map.mp hkey with ⟨row, hrow, hrowKey⟩
    rcases List.mem_map.mp hkey' with ⟨draft, hdraft, hdraftKey⟩
    rcases exists_find?_reverse (p := fun row => decide (row.sectionKey = key)) hrow
      (decide_eq_true hrowKey) with ⟨foundRow, hfoundRow⟩
    rcases exists_find?_reverse (p := fun draft => decide (draft.sectionKey = key)) hdraft
      (decide_eq_true hdraftKey) with ⟨foundDraft, hfoundDraft⟩
    exact absurd hfoundDraft (hnone foundRow foundDraft hfoundRow)

theorem versionDiff_allUnchanged
    (hholds : PageHolds kdb page (citedSections svc draw sources) sources) (draw' : KnowledgeDraw)
    (title sourceHash contentHash : String)
    : (versionDiff page (listKnowledgePageSections kdb page.pageId) title sourceHash contentHash
        (citedSections svc draw' sources)).AllUnchanged
          (sectionKeys ((citedSections svc draw' sources).map DraftSection.sectionKey)) := by
  have hkeys : sectionKeys ((listKnowledgePageSections kdb page.pageId).map
      KnowledgePageSection.sectionKey)
        = sectionKeys ((citedSections svc draw' sources).map DraftSection.sectionKey) :=
    SortDedup.insertionSort_dedup_congr (map_sectionKey_listed hholds draw')
  have hmem : ∀ key ∈ sectionKeys ((citedSections svc draw' sources).map DraftSection.sectionKey),
      sectionUnchanged (listKnowledgePageSections kdb page.pageId) (citedSections svc draw' sources)
        key = true := by
    intro key hkey
    unfold sectionKeys at hkey
    rw [List.mem_insertionSort, List.mem_dedup] at hkey
    exact sectionUnchanged_again hholds ((map_sectionKey_listed hholds draw' key).mpr hkey)
  unfold versionDiff
  dsimp only
  rw [hkeys]
  generalize sectionKeys ((citedSections svc draw' sources).map DraftSection.sectionKey) = keys at hmem
  have hcommon : keys.filter (fun key => keys.contains key) = keys := by
    rw [List.filter_eq_self]
    intro key hkey
    exact List.contains_iff_mem.mpr hkey
  have hnone : keys.filter (fun key => !keys.contains key) = [] := by
    rw [List.filter_eq_nil_iff]
    intro key hkey
    rw [List.contains_iff_mem.mpr hkey]
    decide
  rw [hcommon]
  refine ⟨hnone, hnone, ?_, ?_⟩
  . rw [List.filter_eq_nil_iff]
    intro key hkey
    rw [hmem key hkey]
    decide
  . rw [List.filter_eq_self]
    exact hmem

/-! ## Rebuilds -/

/-- The sources that were resolved are found again where none of them changed. -/
theorem resolveSources_again
    (hresolved : resolveSources svc db clock req (SourceIds.requested req) = .ok sources)
    {clock' : SourceClock}
    (hunchanged : ∀ source ∈ sources,
      db'.source svc (rebuildReader svc db' req) clock' source.kind source.id = some source)
    : resolveSources svc db' clock' (req.again svc.jsonb)
        (SourceIds.requested (req.again svc.jsonb)) = .ok sources := by
  have hsame : ∀ kind, ∀ id ∈ (SourceIds.requested req).ofKind kind, ∃ source,
      db'.source svc (rebuildReader svc db' req) clock' kind id = some source
        ∧ db.source svc (rebuildReader svc db req) clock kind id = some source := by
    intro kind id hid
    rcases (mem_ofKind_of_resolved hresolved).mp hid with ⟨source, hsource, rfl, rfl⟩
    exact ⟨source, hunchanged source hsource, source_of_resolved hresolved hsource⟩
  have hreader : rebuildReader svc db' (req.again svc.jsonb) = rebuildReader svc db' req := rfl
  rw [requested_again, resolveSources_eq_ok, hreader]
  constructor
  . apply requireCounts_of_exists (nodup_ofKind_requested req)
    intro kind id hid
    rcases hsame kind id hid with ⟨source, hsource, -⟩
    exact ⟨source, hsource⟩
  . rw [← (resolveSources_eq_ok.mp hresolved).2]
    apply sourceSnapshots_congr
    intro kind id hid
    rcases hsame kind id hid with ⟨source, hsource, hbefore⟩
    rw [hsource, hbefore]

theorem upsertKnowledgePage_of_found {row next : KnowledgePage} (jsonb : JsonNumber → JsonNumber)
    (h : getKnowledgePageByKey kdb next.tenantId next.projectId next.pageKind next.pageKey = some row)
    : ∃ mid, upsertKnowledgePage kdb jsonb next = .ok (row.replacedBy (next.stored jsonb), mid) := by
  unfold upsertKnowledgePage
  dsimp only [KnowledgePage.stored]
  rw [h]
  exact ⟨_, rfl⟩

/-- The page is rebuilt from its references, of the sources that it was built of. -/
theorem rebuilds_again {kdb₀ kdb₁ mid₀ : KnowledgeDb}
    (hrebuilds : Rebuilds svc db draw req kdb₀ sources page mid₀ kdb₁)
    (hholds : PageHolds kdb page (citedSections svc draw sources) sources)
    (hunique : kdb.UniqueKeys)
    (hunchanged : ∀ source ∈ sources,
      db'.source svc (rebuildReader svc db' req) draw'.clock source.kind source.id = some source)
    (hfresh : draw'.Fresh kdb)
    : previousPage kdb (req.again svc.jsonb) = some page
      ∧ ∃ mid kdb', Rebuilds svc db' draw' (req.again svc.jsonb) kdb sources
        (page.replacedBy ((nextPage svc draw' (req.again svc.jsonb) kdb sources).stored svc.jsonb))
          mid kdb' := by
  have hfound := hunique.getByKey (Table.mem_of_find? hholds.row)
  rcases hrebuilds.key with ⟨htenant, hproject, hkind, hpageKey⟩
  rw [htenant, hproject, hkind, hpageKey] at hfound
  have hupsert : ∃ mid, upsertKnowledgePage kdb svc.jsonb
      (nextPage svc draw' (req.again svc.jsonb) kdb sources) = .ok (page.replacedBy
        ((nextPage svc draw' (req.again svc.jsonb) kdb sources).stored svc.jsonb), mid) :=
    upsertKnowledgePage_of_found svc.jsonb hfound
  rcases hupsert with ⟨mid, hmid⟩
  have hupserts := upsertKnowledgePage_upserts hmid
  have hfreshMid : draw'.Fresh mid := by
    refine ⟨hfresh.sectionIds, hfresh.refIds, hfresh.findingIds, ?_, ?_, ?_⟩
    . rw [hupserts.sections]
      exact hfresh.sections
    . rw [hupserts.sourceRefs]
      exact hfresh.sourceRefs
    . rw [hupserts.lintFindings]
      exact hfresh.lintFindings
  have hreplaced : ∃ kdb', replacePageChildren draw' page.pageId (citedSections svc draw' sources)
      sources [] mid = .ok kdb' := replacePageChildren_ok hfreshMid
  rcases hreplaced with ⟨kdb', hkdb'⟩
  exact ⟨hfound, mid, kdb', accepted_again svc.jsonb hrebuilds.accepted,
    resolveSources_again hrebuilds.resolved hunchanged, buildSections_of_ok hrebuilds.built draw',
    hmid, hkdb'⟩

end Elf
