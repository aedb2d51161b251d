import Elf.Knowledge.Lemmas.Repetition

/-!
This module contains what a page is worth later on. As long as its sources are what they were, it is
rebuilt from its own references as the page that it is. A lint reports the references whose sources
changed or are gone, and no other ones.
-/

namespace Elf

open Except

variable {svc : KnowledgeService} {db db' : SourceDb} {draw draw' : KnowledgeDraw}
  {req : KnowledgePageRebuildRequest} {kdb kdb' kdb₀ kdb₁ kdb₂ mid mid₀ : KnowledgeDb}
  {page : KnowledgePage} {sources : List SourceSnapshot}
  {sourceRef : KnowledgePageSourceRef} {kind : KnowledgeSourceKind} {clock clock' : SourceClock}

/-! ## Rebuilds -/

/-- The sources of the references are for the agent of the request what they were. -/
def SourcesUnchanged (svc : KnowledgeService) (req : KnowledgePageRebuildRequest)
    (sourceRefs : List KnowledgePageSourceRef) (db : SourceDb) (clock : SourceClock)
    (db' : SourceDb) (clock' : SourceClock) : Prop :=
  ∀ sourceRef ∈ sourceRefs, ∀ kind, KnowledgeSourceKind.parse sourceRef.sourceKind = some kind →
    db'.source svc (rebuildReader svc db' req) clock' kind sourceRef.sourceId
      = db.source svc (rebuildReader svc db req) clock kind sourceRef.sourceId

/-- The page is rebuilt as what it was before, the metadata of the provider aside. -/
structure KnowledgePage.RebuiltAs (page' page : KnowledgePage) : Prop where
  pageId : page'.pageId = page.pageId
  sourceHash : page'.rebuildSourceHash = page.rebuildSourceHash
  sectionHashes : page'.rebuildMetadata.versionIdentity.sectionHashes
    = page.rebuildMetadata.versionIdentity.sectionHashes
  diff : ∃ diff, page'.rebuildMetadata.previousVersionDiff = some diff
    ∧ diff.AllUnchanged (sectionKeys
      (page.rebuildMetadata.versionIdentity.sectionHashes.map Prod.fst))
    ∧ diff.titleChanged = false ∧ diff.sourceChanged = false
    ∧ (diff.contentChanged = false ↔ page'.contentHash = page.contentHash)

/-- The sections of the page have the same keys, and each the same hash. -/
def SameSections (kdb kdb' : KnowledgeDb) (pageId : Uuid) : Prop :=
  ∀ key hash, (∃ row ∈ listKnowledgePageSections kdb' pageId, row.sectionKey = key
      ∧ row.contentHash = hash)
    ↔ ∃ row ∈ listKnowledgePageSections kdb pageId, row.sectionKey = key ∧ row.contentHash = hash

theorem sources_of_unchanged (hholds : PageHolds kdb page (citedSections svc draw sources) sources)
    (hresolved : resolveSources svc db clock req (SourceIds.requested req) = .ok sources)
    (h : SourcesUnchanged svc req (listKnowledgePageSourceRefs kdb page.pageId) db clock db' clock')
    : ∀ source ∈ sources,
      db'.source svc (rebuildReader svc db' req) clock' source.kind source.id = some source := by
  intro source hsource
  rcases hholds.cites source hsource with ⟨sourceRef, href, hcites⟩
  have hkind : KnowledgeSourceKind.parse sourceRef.sourceKind = some source.kind := by
    rw [hcites.sourceKind, KnowledgeSourceKind.parse_asStr]
  have hsame := h sourceRef href source.kind hkind
  rw [hcites.sourceId, source_of_resolved hresolved hsource] at hsame
  exact hsame

/-- What the row of a page has of the sources that it was built of. -/
structure KnowledgePage.BuiltOf (page : KnowledgePage) (svc : KnowledgeService)
    (draw : KnowledgeDraw) (req : KnowledgePageRebuildRequest) (sources : List SourceSnapshot)
    : Prop where
  title : page.title = req.title.getD (generatedTitle req.pageKind req.pageKey)
  sourceHash : page.rebuildSourceHash = svc.hashStored (sourceSnapshotValue sources)
  sectionHashes : page.rebuildMetadata.versionIdentity.sectionHashes
    = (citedSections svc draw sources).map fun draft => (draft.sectionKey, draft.contentHash)
  contentHash : page.contentHash = contentHashOf svc draw req sources
    (Elf.rebuildMetadata (svc.hashStored (sourceSnapshotValue sources)) req)

theorem Rebuilds.builtOf (h : Rebuilds svc db draw req kdb sources page mid kdb')
    : page.BuiltOf svc draw req sources := by
  have hcolumns := h.upserts.columns
  rw [hcolumns]
  exact ⟨rfl, rfl, rfl, rfl⟩

/-- What a page comes to when it is rebuilt of the sources that it was built of. -/
theorem rebuiltAs_again (hbuilt : page.BuiltOf svc draw req sources)
    (hholds : PageHolds kdb page (citedSections svc draw sources) sources)
    (hprevious : previousPage kdb (req.again svc.jsonb) = some page)
    : (page.replacedBy ((nextPage svc draw' (req.again svc.jsonb) kdb sources).stored
        svc.jsonb)).RebuiltAs page where
  pageId := rfl
  sourceHash := hbuilt.sourceHash.symm
  sectionHashes := by
    rw [hbuilt.sectionHashes]
    exact sectionHashes_citedSections draw' draw
  diff := by
    have hkeys : page.rebuildMetadata.versionIdentity.sectionHashes.map Prod.fst
        = (citedSections svc draw' sources).map DraftSection.sectionKey := by
      rw [hbuilt.sectionHashes, ← sectionHashes_citedSections draw' draw, List.map_map]
      rfl
    refine ⟨versionDiff page (listKnowledgePageSections kdb page.pageId) page.title
      page.rebuildSourceHash (nextPage svc draw' (req.again svc.jsonb) kdb sources).contentHash
      (citedSections svc draw' sources), ?_, ?_, ?_, ?_, ?_⟩
    . rw [hbuilt.title, hbuilt.sourceHash]
      change (previousPage kdb (req.again svc.jsonb)).map (fun previous => versionDiff previous
        (previousSections kdb (previousPage kdb (req.again svc.jsonb))) _ _ _ _) = _
      rw [hprevious]
      rfl
    . rw [hkeys]
      exact versionDiff_allUnchanged hholds draw' _ _ _
    . exact decide_eq_false (not_not_intro rfl)
    . exact decide_eq_false (not_not_intro rfl)
    . unfold versionDiff
      rw [decide_eq_false_iff_not, not_not]
      exact eq_comm

theorem PageHolds.sectionHash_iff
    (h : PageHolds kdb page (citedSections svc draw sources) sources) {key hash : String}
    : (∃ row ∈ listKnowledgePageSections kdb page.pageId, row.sectionKey = key
          ∧ row.contentHash = hash)
        ↔ (key, hash) ∈ (citedSections svc draw sources).map fun draft =>
          (draft.sectionKey, draft.contentHash) := by
  rw [List.mem_map]
  constructor
  . rintro ⟨row, hrow, rfl, rfl⟩
    rcases h.shown row hrow with ⟨draft, hdraft, hshows⟩
    exact ⟨draft, hdraft, by rw [hshows.sectionKey, hshows.contentHash]⟩
  . rintro ⟨draft, hdraft, heq⟩
    rcases h.shows draft hdraft with ⟨row, hrow, hshows⟩
    cases heq
    exact ⟨row, hrow, hshows.sectionKey, hshows.contentHash⟩

/-- The page is rebuilt from its own references. -/
theorem knowledgePageRebuild_again
    (hrebuilds : Rebuilds svc db draw req kdb₀ sources page mid₀ kdb₁)
    (hholds : PageHolds kdb page (citedSections svc draw sources) sources)
    (hunique : kdb.UniqueKeys) (hfresh : draw'.Fresh kdb)
    (hunchanged : SourcesUnchanged svc req (listKnowledgePageSourceRefs kdb page.pageId) db draw.clock
      db' draw'.clock)
    : ∃ req' resp' kdb', rebuildRequestFromPage req.agentId page
        (listKnowledgePageSourceRefs kdb page.pageId) = .ok req'
      ∧ knowledgePageRebuild svc db' draw' req' kdb = .ok (resp', kdb')
      ∧ resp'.page.RebuiltAs page ∧ SameSections kdb kdb' page.pageId
      ∧ resp'.page.contentHash = contentHashOf svc draw req sources
        (respelledMetadata svc.jsonb (svc.hashStored (sourceSnapshotValue sources)) req) := by
  have hrefs := fromSourceRefs_eq hholds hrebuilds.resolved
  have hrequest := rebuildRequestFromPage_eq hrebuilds hrefs
  have hsources := sources_of_unchanged hholds hrebuilds.resolved hunchanged
  rcases rebuilds_again hrebuilds hholds hunique hsources hfresh with
    ⟨hprevious, mid, kdb', hagain⟩
  refine ⟨req.again svc.jsonb, _, kdb', hrequest, hagain.ok, ?_, ?_, ?_⟩
  . exact rebuiltAs_again hrebuilds.builtOf hholds hprevious
  . intro key hash
    rw [hholds.sectionHash_iff, ← sectionHashes_citedSections draw' draw]
    exact hagain.pageHolds.sectionHash_iff
  . exact contentHash_again kdb draw' draw

/-! ## Lints -/

/-- The finding is one on the reference. -/
structure KnowledgePageLintFinding.IsOn (finding : KnowledgePageLintFinding)
    (sourceRef : KnowledgePageSourceRef) (severity message : String) : Prop where
  findingType : finding.findingType = "stale_source_ref"
  severity : finding.severity = severity
  message : finding.message = message
  sectionId : finding.sectionId = sourceRef.sectionId
  sourceKind : finding.sourceKind = some sourceRef.sourceKind
  sourceId : finding.sourceId = some sourceRef.sourceId

def KnowledgePageLintFinding.ReportsMissing (finding : KnowledgePageLintFinding)
    (sourceRef : KnowledgePageSourceRef) : Prop :=
  finding.IsOn sourceRef "error" "Knowledge page source reference no longer resolves."

def KnowledgePageLintFinding.ReportsStale (finding : KnowledgePageLintFinding)
    (sourceRef : KnowledgePageSourceRef) : Prop :=
  finding.IsOn sourceRef "warning" "Knowledge page source reference snapshot is stale."

/--
Each reference names a source that was there when the page was built. The findings report those whose
sources do not resolve any more for the page, and those whose sources are in another state.
-/
structure LintExact (svc : KnowledgeService) (req : KnowledgePageRebuildRequest)
    (page : KnowledgePage) (sourceRefs : List KnowledgePageSourceRef) (db : SourceDb)
    (clock : SourceClock) (db' : SourceDb) (clock' : SourceClock)
    (findings : List KnowledgePageLintFinding) : Prop where
  refs : ∀ sourceRef ∈ sourceRefs, ∃ kind source,
    KnowledgeSourceKind.parse sourceRef.sourceKind = some kind
      ∧ db.source svc (rebuildReader svc db req) clock kind sourceRef.sourceId = some source
      ∧ ((∃ finding ∈ findings, finding.ReportsMissing sourceRef)
        ↔ db'.source svc (pageReader svc page) clock' kind sourceRef.sourceId = none)
      ∧ ((∃ finding ∈ findings, finding.ReportsStale sourceRef)
        ↔ ∃ current, db'.source svc (pageReader svc page) clock' kind sourceRef.sourceId = some current
          ∧ ¬current.SameState source)
  others : ∀ finding ∈ findings, finding.findingType = "stale_source_ref" →
    ∃ sourceRef ∈ sourceRefs, finding.ReportsMissing sourceRef ∨ finding.ReportsStale sourceRef

theorem sourceChanged_iff {source current : SourceSnapshot} (hcites : sourceRef.Cites source)
    : sourceChanged sourceRef current = true ↔ ¬current.SameState source := by
  unfold sourceChanged
  rw [hcites.status, hcites.updatedAt, hcites.contentHash]
  simp only [Bool.or_eq_true, decide_eq_true_eq]
  constructor
  . rintro hchanged hsame
    rcases hchanged with (hstatus | hupdatedAt) | hcontentHash
    . exact hstatus hsame.status.symm
    . exact hupdatedAt hsame.updatedAt.symm
    . exact hcontentHash hsame.contentHash.symm
  . intro hsame
    by_contra hnot
    simp only [not_or, not_not] at hnot
    exact hsame ⟨hnot.1.1.symm, hnot.1.2.symm, hnot.2.symm⟩

/-- What the lint says of a reference, told by what its source has come to. -/
theorem isOn_of_refFinding {findingId pageId : Uuid} {now : Nat} {draft : LintDraft}
    (hkind : KnowledgeSourceKind.parse sourceRef.sourceKind = some kind)
    (h : refFinding sourceRef (db'.source svc (pageReader svc page) clock' kind sourceRef.sourceId)
      = some draft)
    : (db'.source svc (pageReader svc page) clock' kind sourceRef.sourceId = none
          ∧ (draft.row findingId pageId now).ReportsMissing sourceRef)
        ∨ (∃ current, db'.source svc (pageReader svc page) clock' kind sourceRef.sourceId
            = some current
          ∧ sourceChanged sourceRef current = true
          ∧ (draft.row findingId pageId now).ReportsStale sourceRef) := by
  have hname := KnowledgeSourceKind.asStr_of_parse hkind
  cases hcurrent : db'.source svc (pageReader svc page) clock' kind sourceRef.sourceId with
  | none =>
    rw [hcurrent] at h
    cases h
    refine Or.inl ⟨rfl, rfl, rfl, rfl, rfl, ?_, rfl⟩
    change (KnowledgeSourceKind.parse sourceRef.sourceKind).map KnowledgeSourceKind.asStr = _
    rw [hkind, Option.map_some, hname]
  | some current =>
    rw [hcurrent] at h
    rcases source_key hcurrent with ⟨hcurrentKind, hcurrentId⟩
    unfold refFinding at h
    split at h
    next heq => cases heq
    next snapshot heq =>
      cases heq
      split at h
      next hchanged =>
        cases h
        refine Or.inr ⟨current, rfl, hchanged, rfl, rfl, rfl, rfl, ?_, ?_⟩
        . change some current.kind.asStr = _
          rw [hcurrentKind, hname]
        . change some current.id = _
          rw [hcurrentId]
      . cases h

theorem KnowledgePageLintFinding.IsOn.same {finding : KnowledgePageLintFinding}
    {sourceRef' : KnowledgePageSourceRef} {severity severity' message message' : String}
    (h : finding.IsOn sourceRef severity message) (h' : finding.IsOn sourceRef' severity' message')
    : sourceRef'.sourceKind = sourceRef.sourceKind ∧ sourceRef'.sourceId = sourceRef.sourceId
      ∧ severity' = severity :=
  ⟨Option.some.inj (h'.sourceKind.symm.trans h.sourceKind),
    Option.some.inj (h'.sourceId.symm.trans h.sourceId), h'.severity.symm.trans h.severity⟩

/-- Two references to one source cite it in one state. -/
theorem cites_of_same {sourceRef' : KnowledgePageSourceRef} {source : SourceSnapshot}
    (hholds : PageHolds kdb page (citedSections svc draw sources) sources)
    (hresolved : resolveSources svc db clock req (SourceIds.requested req) = .ok sources)
    (href : sourceRef' ∈ listKnowledgePageSourceRefs kdb page.pageId)
    (hsource : source ∈ sources) (hkind : sourceRef'.sourceKind = source.kind.asStr)
    (hid : sourceRef'.sourceId = source.id) : sourceRef'.Cites source := by
  rcases hholds.cited sourceRef' href with ⟨source', hsource', hcites'⟩
  have hbefore := source_of_resolved hresolved hsource
  have hbefore' := source_of_resolved hresolved hsource'
  rw [hcites'.sourceKind] at hkind
  rw [hcites'.sourceId] at hid
  rw [KnowledgeSourceKind.asStr_inj hkind, hid, hbefore] at hbefore'
  rw [Option.some.inj hbefore']
  exact hcites'

/-- The findings on sources are what there is to say of each of the references. -/
structure RefsReported (svc : KnowledgeService) (page : KnowledgePage)
    (sourceRefs : List KnowledgePageSourceRef) (db' : SourceDb) (clock' : SourceClock)
    (rows : List KnowledgePageLintFinding) : Prop where
  sound : ∀ row ∈ rows, row.findingType = "stale_source_ref" →
    ∃ sourceRef ∈ sourceRefs, ∃ kind, KnowledgeSourceKind.parse sourceRef.sourceKind = some kind
      ∧ ((db'.source svc (pageReader svc page) clock' kind sourceRef.sourceId = none
          ∧ row.ReportsMissing sourceRef)
        ∨ ∃ current, db'.source svc (pageReader svc page) clock' kind sourceRef.sourceId = some current
          ∧ sourceChanged sourceRef current = true ∧ row.ReportsStale sourceRef)
  missing : ∀ sourceRef ∈ sourceRefs, ∀ kind,
    KnowledgeSourceKind.parse sourceRef.sourceKind = some kind →
    db'.source svc (pageReader svc page) clock' kind sourceRef.sourceId = none →
    ∃ row ∈ rows, row.ReportsMissing sourceRef
  stale : ∀ sourceRef ∈ sourceRefs, ∀ kind current,
    KnowledgeSourceKind.parse sourceRef.sourceKind = some kind →
    db'.source svc (pageReader svc page) clock' kind sourceRef.sourceId = some current →
    sourceChanged sourceRef current = true → ∃ row ∈ rows, row.ReportsStale sourceRef

theorem refsReported_of_perm {sourceRefs : List KnowledgePageSourceRef} {findings : List LintDraft}
    {rows : List KnowledgePageLintFinding}
    (hperm : rows.Perm (findingRows draw' page.pageId findings))
    (hfindings : ∀ draft, (draft ∈ findings ∧ draft.findingType = "stale_source_ref")
      ↔ ∃ sourceRef ∈ sourceRefs, ∃ kind, KnowledgeSourceKind.parse sourceRef.sourceKind = some kind
        ∧ refFinding sourceRef (db'.source svc (pageReader svc page) clock' kind sourceRef.sourceId)
          = some draft) : RefsReported svc page sourceRefs db' clock' rows := by
  have hcomplete : ∀ sourceRef ∈ sourceRefs, ∀ kind,
      KnowledgeSourceKind.parse sourceRef.sourceKind = some kind → ∀ draft,
      refFinding sourceRef (db'.source svc (pageReader svc page) clock' kind sourceRef.sourceId)
        = some draft → ∃ findingId, draft.row findingId page.pageId draw'.now ∈ rows := by
    intro sourceRef href kind hkind draft hfinding
    have hdraft := ((hfindings draft).mpr ⟨sourceRef, href, kind, hkind, hfinding⟩).1
    rcases exists_mem_findingRows draw' page.pageId hdraft with ⟨findingId, hrow⟩
    exact ⟨findingId, hperm.mem_iff.mpr hrow⟩
  refine ⟨?_, ?_, ?_⟩
  . intro row hrow htype
    rcases mem_findingRows (hperm.mem_iff.mp hrow) with ⟨draft, hdraft, findingId, rfl⟩
    rcases (hfindings draft).mp ⟨hdraft, htype⟩ with ⟨sourceRef, href, kind, hkind, hfinding⟩
    exact ⟨sourceRef, href, kind, hkind, isOn_of_refFinding hkind hfinding⟩
  . intro sourceRef href kind hkind hnone
    have hfinding : refFinding sourceRef (db'.source svc (pageReader svc page) clock' kind
        sourceRef.sourceId) = some (missingSourceFinding sourceRef) := by
      rw [hnone]
      rfl
    rcases hcomplete sourceRef href kind hkind _ hfinding with ⟨findingId, hrow⟩
    rcases isOn_of_refFinding hkind hfinding with ⟨-, hmissing⟩ | ⟨current, hcurrent, -, -⟩
    . exact ⟨_, hrow, hmissing⟩
    . rw [hnone] at hcurrent
      cases hcurrent
  . intro sourceRef href kind current hkind hcurrent hchanged
    have hfinding : refFinding sourceRef (db'.source svc (pageReader svc page) clock' kind
        sourceRef.sourceId) = some (staleSourceFinding sourceRef current) := by
      rw [hcurrent]
      exact if_pos hchanged
    rcases hcomplete sourceRef href kind hkind _ hfinding with ⟨findingId, hrow⟩
    rcases isOn_of_refFinding hkind hfinding with ⟨hnone, -⟩ | ⟨_, -, -, hstale⟩
    . rw [hnone] at hcurrent
      cases hcurrent
    . exact ⟨_, hrow, hstale⟩

section

variable {rows : List KnowledgePageLintFinding} {source : SourceSnapshot}

theorem RefsReported.missing_iff {sourceRefs : List KnowledgePageSourceRef}
    (h : RefsReported svc page sourceRefs db' clock' rows) (href : sourceRef ∈ sourceRefs)
    (hkind : KnowledgeSourceKind.parse sourceRef.sourceKind = some kind)
    : (∃ row ∈ rows, row.ReportsMissing sourceRef)
        ↔ db'.source svc (pageReader svc page) clock' kind sourceRef.sourceId = none := by
  constructor
  . rintro ⟨row, hrow, hreports⟩
    rcases h.sound row hrow hreports.findingType with
      ⟨sourceRef', -, kind', hkind', ⟨hnone, hmissing⟩ | ⟨current, -, -, hstale⟩⟩
    . rcases hreports.same hmissing with ⟨hsameKind, hsameId, -⟩
      rw [hsameKind, hkind] at hkind'
      rw [← Option.some.inj hkind', hsameId] at hnone
      exact hnone
    . exact absurd (hreports.same hstale).2.2 (by decide)
  . exact h.missing sourceRef href kind hkind

theorem RefsReported.stale_iff
    (h : RefsReported svc page (listKnowledgePageSourceRefs kdb page.pageId) db' clock' rows)
    (hholds : PageHolds kdb page (citedSections svc draw sources) sources)
    (hresolved : resolveSources svc db clock req (SourceIds.requested req) = .ok sources)
    (href : sourceRef ∈ listKnowledgePageSourceRefs kdb page.pageId) (hsource : source ∈ sources)
    (hcites : sourceRef.Cites source)
    : (∃ row ∈ rows, row.ReportsStale sourceRef)
        ↔ ∃ current, db'.source svc (pageReader svc page) clock' source.kind sourceRef.sourceId
            = some current ∧ ¬current.SameState source := by
  have hkind : KnowledgeSourceKind.parse sourceRef.sourceKind = some source.kind := by
    rw [hcites.sourceKind, KnowledgeSourceKind.parse_asStr]
  constructor
  . rintro ⟨row, hrow, hreports⟩
    rcases h.sound row hrow hreports.findingType with
      ⟨sourceRef', href', kind', hkind', ⟨-, hmissing⟩ | ⟨current, hcurrent, hchanged, hstale⟩⟩
    . exact absurd (hreports.same hmissing).2.2 (by decide)
    . rcases hreports.same hstale with ⟨hsameKind, hsameId, -⟩
      have hcites' : sourceRef'.Cites source := by
        apply cites_of_same hholds hresolved href' hsource
        . rw [hsameKind, hcites.sourceKind]
        . rw [hsameId, hcites.sourceId]
      rw [hsameKind, hkind] at hkind'
      rw [← Option.some.inj hkind', hsameId] at hcurrent
      exact ⟨current, hcurrent, (sourceChanged_iff hcites').mp hchanged⟩
  . rintro ⟨current, hcurrent, hnot⟩
    exact h.stale sourceRef href source.kind current hkind hcurrent
      ((sourceChanged_iff hcites).mpr hnot)

theorem RefsReported.lintExact
    (h : RefsReported svc page (listKnowledgePageSourceRefs kdb page.pageId) db' clock' rows)
    (hholds : PageHolds kdb page (citedSections svc draw sources) sources)
    (hresolved : resolveSources svc db clock req (SourceIds.requested req) = .ok sources)
    : LintExact svc req page (listKnowledgePageSourceRefs kdb page.pageId) db clock db' clock' rows := by
  constructor
  . intro sourceRef href
    rcases hholds.cited sourceRef href with ⟨source, hsource, hcites⟩
    have hkind : KnowledgeSourceKind.parse sourceRef.sourceKind = some source.kind := by
      rw [hcites.sourceKind, KnowledgeSourceKind.parse_asStr]
    have hbefore := source_of_resolved hresolved hsource
    rw [← hcites.sourceId] at hbefore
    exact ⟨source.kind, source, hkind, hbefore, h.missing_iff href hkind,
      h.stale_iff hholds hresolved href hsource hcites⟩
  . intro row hrow htype
    rcases h.sound row hrow htype with
      ⟨sourceRef, href, kind, -, ⟨-, hmissing⟩ | ⟨current, -, -, hstale⟩⟩
    . exact ⟨sourceRef, href, Or.inl hmissing⟩
    . exact ⟨sourceRef, href, Or.inr hstale⟩

/-- Sources that are for the agent what they were give nothing to report. -/
theorem LintExact.nothing_of_unchanged {sourceRefs : List KnowledgePageSourceRef}
    (h : LintExact svc req page sourceRefs db clock db' clock' rows)
    (hwidens : (pageReader svc page).Widens (rebuildReader svc db' req))
    (hunchanged : SourcesUnchanged svc req sourceRefs db clock db' clock')
    : ∀ row ∈ rows, row.findingType ≠ "stale_source_ref" := by
  intro row hrow htype
  rcases h.others row hrow htype with ⟨sourceRef, href, hreports⟩
  rcases h.refs sourceRef href with ⟨kind, source, hkind, hbefore, hmissing, hstale⟩
  have hsame := hunchanged sourceRef href kind hkind
  rw [hbefore] at hsame
  rcases source_widens hwidens hsame with ⟨current, hcurrent, hstate⟩
  rcases hreports with hreports | hreports
  . rw [hmissing.mp ⟨row, hrow, hreports⟩] at hcurrent
    cases hcurrent
  . rcases hstale.mp ⟨row, hrow, hreports⟩ with ⟨current', hcurrent', hnot⟩
    rw [hcurrent] at hcurrent'
    cases hcurrent'
    exact hnot hstate

end

theorem Rebuilds.widens (h : Rebuilds svc db draw req kdb sources page mid kdb') (db' : SourceDb)
    : (pageReader svc page).Widens (rebuildReader svc db' req) :=
  ⟨h.key.1, h.key.2.1, rfl, rfl⟩

theorem getKnowledgePage_built (h : Rebuilds svc db draw req kdb₀ sources page mid₀ kdb₁)
    (hrow : kdb.pages.find? page.pageId = some page)
    : getKnowledgePage kdb req.tenantId req.projectId page.pageId = some page := by
  unfold getKnowledgePage
  rw [hrow]
  simp [h.key.1, h.key.2.1]

/-- A page that was built is linted exactly. -/
theorem knowledgePageLint_exact (h : Rebuilds svc db draw req kdb₀ sources page mid₀ kdb₁)
    (hholds : PageHolds kdb page (citedSections svc draw sources) sources) (hfresh : draw'.Fresh kdb)
    : ∃ found kdb', knowledgePageLint svc db' draw' ⟨req.tenantId, req.projectId, page.pageId⟩ kdb
        = .ok (found, kdb')
      ∧ LintExact svc req page (listKnowledgePageSourceRefs kdb page.pageId) db draw.clock db'
        draw'.clock found.findings
      ∧ (SourcesUnchanged svc req (listKnowledgePageSourceRefs kdb page.pageId) db draw.clock db'
          draw'.clock →
        ∀ finding ∈ found.findings, finding.findingType ≠ "stale_source_ref") := by
  have hpage := getKnowledgePage_built h hholds.row
  have hkind : (KnowledgePageKind.parse page.pageKind).isSome := by
    rw [h.key.2.2.1, KnowledgePageKind.parse_asStr]
    rfl
  rcases knowledgePageLint_ok svc db' ⟨req.tenantId, req.projectId, page.pageId⟩ hpage hkind
      hholds.kinds hfresh.findingIds hfresh.lintFindings with
    ⟨found, kdb', findings, hlint, hperm, hfindings⟩
  have hexact := (refsReported_of_perm hperm hfindings).lintExact hholds h.resolved
  exact ⟨found, kdb', hlint, hexact, hexact.nothing_of_unchanged (h.widens db')⟩

/-! ## Pages over time -/

/--
A page that was built stays as it is until it is rebuilt. Of the sources that it was built of, it is
rebuilt with the same hashes and without a change in any section, except that the content hash is the
same where the column of the metadata keeps every number of the provider as it is spelled, and, if no
two values share a hash, nowhere else.
-/
theorem knowledgePageRebuild_repeats {as bs : List KnowledgeStep} {resp : KnowledgePageResponse}
    (hrun : Run (KnowledgeSteps svc) .empty as kdb₀)
    (hrebuild : knowledgePageRebuild svc db draw req kdb₀ = .ok (resp, kdb₁))
    (hlater : Run (Run.Guarded (fun _ a => a.Spares req.contextKey) (KnowledgeSteps svc)) kdb₁ bs kdb₂)
    (hfresh : draw'.Fresh kdb₂)
    : getKnowledgePage kdb₂ req.tenantId req.projectId resp.page.pageId = some resp.page
      ∧ (SourcesUnchanged svc req (listKnowledgePageSourceRefs kdb₂ resp.page.pageId) db draw.clock
          db' draw'.clock →
        ∃ req' resp' kdb₃, rebuildRequestFromPage req.agentId resp.page
            (listKnowledgePageSourceRefs kdb₂ resp.page.pageId) = .ok req'
          ∧ knowledgePageRebuild svc db' draw' req' kdb₂ = .ok (resp', kdb₃)
          ∧ resp'.page.RebuiltAs resp.page ∧ SameSections kdb₂ kdb₃ resp.page.pageId
          ∧ (req.providerMetadata.respell svc.jsonb = req.providerMetadata →
            resp'.page.contentHash = resp.page.contentHash)
          ∧ (Function.Injective svc.hashJson → resp'.page.contentHash = resp.page.contentHash →
            req.providerMetadata.respell svc.jsonb = req.providerMetadata))
      ∧ ∃ found kdb₃, knowledgePageLint svc db' draw'
          ⟨req.tenantId, req.projectId, resp.page.pageId⟩ kdb₂ = .ok (found, kdb₃)
        ∧ LintExact svc req resp.page (listKnowledgePageSourceRefs kdb₂ resp.page.pageId) db
          draw.clock db' draw'.clock found.findings
        ∧ (SourcesUnchanged svc req (listKnowledgePageSourceRefs kdb₂ resp.page.pageId) db draw.clock
            db' draw'.clock →
          ∀ finding ∈ found.findings, finding.findingType ≠ "stale_source_ref") := by
  rcases rebuilds_of_ok hrebuild with ⟨sources, mid, hrebuilds⟩
  have hstep : KnowledgeSteps svc kdb₀ ⟨db, draw, .rebuild req⟩ kdb₁ :=
    Transaction.next_of_ok hrebuild
  have hunique := uniqueKeys_of_run ((hrun.snoc hstep).append hlater.of_guarded)
  rw [← hrebuilds.contextKey] at hlater
  have hholds := pageHolds_of_run hrebuilds.pageHolds hlater
  refine ⟨getKnowledgePage_built hrebuilds hholds.row, ?_,
    knowledgePageLint_exact hrebuilds hholds hfresh⟩
  intro hunchanged
  rcases knowledgePageRebuild_again hrebuilds hholds hunique hfresh hunchanged with
    ⟨req', resp', kdb₃, hrequest, hagain, hrebuilt, hsections, hcontent⟩
  refine ⟨req', resp', kdb₃, hrequest, hagain, hrebuilt, hsections, ?_, ?_⟩
  . intro hspelled
    rw [hcontent, hrebuilds.builtOf.contentHash]
    exact contentHashOf_respelled hspelled _
  . intro hinjective hsame
    rw [hcontent, hrebuilds.builtOf.contentHash] at hsame
    exact respell_of_contentHashOf hinjective hsame

/-! ## A page on a plan -/

def planDocument : DocDocument := {
  docId := 7
  tenantId := "t"
  projectId := "p"
  agentId := "a"
  scope := "agent_private"
  docType := "knowledge"
  status := "active"
  title := some "Plan"
  sourceRef := .obj []
  content := "The launch is in May."
  contentBytes := 21
  contentHash := "h"
  createdAt := 0
  updatedAt := 0 }

def planSources : SourceDb := {
  docs := { DocStore.empty with documents := ⟨[planDocument], List.nodup_singleton _⟩ }
  ingestDecisions := .empty
  entities := .empty
  facts := .empty
  evidence := .empty }

/-- The identifiers are drawn from `start` on. -/
def planDraw (start : Nat) : KnowledgeDraw := {
  now := 0
  clock := ⟨0, 0, 0⟩
  pageId := 1
  sectionId := fun place => start + place
  refId := fun index => start + index
  findingId := fun place => start + place }

def planRequest (temperature : JsonNumber) : KnowledgePageRebuildRequest := {
  tenantId := "t"
  projectId := "p"
  agentId := "a"
  pageKind := .project
  pageKey := "plan"
  title := none
  docIds := [7]
  docChunkIds := []
  noteIds := []
  eventIds := []
  relationIds := []
  proposalIds := []
  providerMetadata := .obj [("temperature", .num temperature)] }

/-- A service whose hash of a page shows the sign of the temperature. -/
def signService : KnowledgeService := {
  docs := sampleDocsService
  hashJson := fun value =>
    match ((value.get "rebuild_metadata").bind fun metadata =>
        metadata.get "provider_metadata").bind fun metadata => metadata.get "temperature" with
    | some (.num (.float true _)) => "negative"
    | _ => "positive"
  -- a column has no negative zero
  jsonb := fun number => if number = .float true 0 then .float false 0 else number }

/-- The rebuild of the page, and what it takes of the identifiers. -/
def planRebuilt (temperature : JsonNumber) : Option (List Uuid × List Uuid × List Uuid) :=
  (knowledgePageRebuild signService planSources (planDraw 0) (planRequest temperature)
    .empty).toOption.map fun out =>
      (out.2.sections.rows.map KnowledgePageSection.sectionId,
        out.2.sourceRefs.rows.map KnowledgePageSourceRef.refId,
        out.2.lintFindings.rows.map KnowledgePageLintFinding.findingId)

theorem planDraw_fresh (hsections : kdb.sections.rows.map KnowledgePageSection.sectionId = [0])
    (hrefs : kdb.sourceRefs.rows.map KnowledgePageSourceRef.refId = [0])
    (hfindings : kdb.lintFindings.rows.map KnowledgePageLintFinding.findingId = [])
    : (planDraw 1).Fresh kdb := by
  have hinjective : Function.Injective fun place => 1 + place := add_right_injective 1
  refine ⟨hinjective, hinjective, hinjective, ?_, ?_, ?_⟩
  . intro place
    change kdb.sections.find? (1 + place) = none
    rw [Table.find?_eq_none_iff_notMem, hsections, List.mem_singleton]
    exact Nat.ne_of_gt (Nat.add_pos_left Nat.one_pos place)
  . intro index
    change kdb.sourceRefs.find? (1 + index) = none
    rw [Table.find?_eq_none_iff_notMem, hrefs, List.mem_singleton]
    exact Nat.ne_of_gt (Nat.add_pos_left Nat.one_pos index)
  . intro place
    rw [Table.find?_eq_none_iff_notMem, hfindings]
    exact List.not_mem_nil

theorem planRebuild_ok (temperature : JsonNumber)
    (h : planRebuilt temperature = some ([0], [0], []))
    : ∃ resp kdb, knowledgePageRebuild signService planSources (planDraw 0) (planRequest temperature)
        .empty = .ok (resp, kdb) ∧ (planDraw 1).Fresh kdb := by
  unfold planRebuilt at h
  cases hrebuild : knowledgePageRebuild signService planSources (planDraw 0)
      (planRequest temperature) .empty with
  | error e =>
    rw [hrebuild] at h
    cases h
  | ok out =>
    rw [hrebuild] at h
    simp only [Except.toOption, Option.map_some, Option.some.injEq, Prod.mk.injEq] at h
    exact ⟨out.1, out.2, rfl, planDraw_fresh h.1 h.2.1 h.2.2⟩

/-- The page of a plan is rebuilt as what it is, and the lint has nothing to say of its document. -/
theorem knowledgePageRebuild_repeats_plan
    : ∃ resp kdb, knowledgePageRebuild signService planSources (planDraw 0)
        (planRequest (.float false 1)) .empty = .ok (resp, kdb)
      ∧ (∃ req' resp' kdb', rebuildRequestFromPage "a" resp.page
          (listKnowledgePageSourceRefs kdb resp.page.pageId) = .ok req'
        ∧ knowledgePageRebuild signService planSources (planDraw 1) req' kdb = .ok (resp', kdb')
        ∧ resp'.page.RebuiltAs resp.page ∧ resp'.page.contentHash = resp.page.contentHash)
      ∧ ∃ found kdb', knowledgePageLint signService planSources (planDraw 1)
          ⟨"t", "p", resp.page.pageId⟩ kdb = .ok (found, kdb')
        ∧ ∀ finding ∈ found.findings, finding.findingType ≠ "stale_source_ref" := by
  rcases planRebuild_ok (.float false 1) (by decide +kernel) with
    ⟨resp, kdb, hrebuild, hfresh⟩
  have hrepeats := @knowledgePageRebuild_repeats signService planSources planSources (planDraw 0)
    (planDraw 1) (planRequest (.float false 1)) .empty kdb kdb [] [] resp (.nil _) hrebuild (.nil _)
    hfresh
  have hunchanged : SourcesUnchanged signService (planRequest (.float false 1))
      (listKnowledgePageSourceRefs kdb resp.page.pageId) planSources (planDraw 0).clock planSources
      (planDraw 1).clock := fun _ _ _ _ => rfl
  rcases hrepeats.2.1 hunchanged with
    ⟨req', resp', kdb', hrequest, hagain, hrebuilt, -, hcontent, -⟩
  rcases hrepeats.2.2 with ⟨found, linted, hlint, -, hnothing⟩
  exact ⟨resp, kdb, hrebuild, ⟨req', resp', kdb', hrequest, hagain, hrebuilt, hcontent (by rfl)⟩,
    found, linted, hlint, hnothing hunchanged⟩

/-- The column of the metadata has no negative zero, and the content hash is another one. -/
theorem negativeZero_respelled
    : ∃ resp kdb req' resp' kdb', knowledgePageRebuild signService planSources (planDraw 0)
        (planRequest (.float true 0)) .empty = .ok (resp, kdb)
      ∧ rebuildRequestFromPage "a" resp.page
        (listKnowledgePageSourceRefs kdb resp.page.pageId) = .ok req'
      ∧ knowledgePageRebuild signService planSources (planDraw 1) req' kdb = .ok (resp', kdb')
      ∧ resp.page.contentHash = "negative" ∧ resp'.page.contentHash = "positive" := by
  rcases planRebuild_ok (.float true 0) (by decide +kernel) with
    ⟨resp, kdb, hrebuild, hfresh⟩
  rcases rebuilds_of_ok hrebuild with ⟨sources, mid, hrebuilds⟩
  have hstep : KnowledgeSteps signService .empty
      ⟨planSources, planDraw 0, .rebuild (planRequest (.float true 0))⟩ kdb :=
    Transaction.next_of_ok hrebuild
  have hunique := uniqueKeys_of_run (Run.single hstep)
  have hunchanged : SourcesUnchanged signService (planRequest (.float true 0))
      (listKnowledgePageSourceRefs kdb resp.page.pageId) planSources (planDraw 0).clock planSources
      (planDraw 1).clock := fun _ _ _ _ => rfl
  rcases knowledgePageRebuild_again hrebuilds hrebuilds.pageHolds hunique hfresh hunchanged with
    ⟨req', resp', kdb', hrequest, hagain, -, -, hcontent⟩
  refine ⟨resp, kdb, req', resp', kdb', hrebuild, hrequest, hagain, ?_, ?_⟩
  . rw [hrebuilds.builtOf.contentHash]
    rfl
  . rw [hcontent]
    rfl

end Elf
