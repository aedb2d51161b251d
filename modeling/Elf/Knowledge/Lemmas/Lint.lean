import Elf.Knowledge.Lemmas.Sources

/-!
This module contains what a lint of a page returns: for each reference what its source has come to,
and what there is to say of the sections.
-/

namespace Elf

open Except

variable {svc : KnowledgeService} {db : SourceDb} {draw : KnowledgeDraw} {clock : SourceClock}
  {reader : SourceReader} {kdb kdb' : KnowledgeDb} {page : KnowledgePage} {pageId : Uuid}
  {sourceRefs : List KnowledgePageSourceRef} {sourceRef : KnowledgePageSourceRef}
  {kind : KnowledgeSourceKind} {ids : SourceIds} {draft : LintDraft}

/-! ## References -/

/-- What there is to say of a reference whose source reads so now. -/
def refFinding (sourceRef : KnowledgePageSourceRef) : Option SourceSnapshot → Option LintDraft
  | none => some (missingSourceFinding sourceRef)
  | some snapshot =>
    if sourceChanged sourceRef snapshot then some (staleSourceFinding sourceRef snapshot) else none

theorem currentSource_eq (hids : SourceIds.fromSourceRefs sourceRefs = .ok ids)
    (href : sourceRef ∈ sourceRefs)
    (hkind : KnowledgeSourceKind.parse sourceRef.sourceKind = some kind)
    : currentSource (sourceSnapshots svc (resolveExistingSourceRows db reader clock ids))
        (currentKey sourceRef.sourceKind sourceRef.sourceId)
          = db.source svc reader clock kind sourceRef.sourceId := by
  unfold currentSource
  cases hfind : (sourceSnapshots svc (resolveExistingSourceRows db reader clock ids)).reverse.find?
      fun source => sourceKey source = currentKey sourceRef.sourceKind sourceRef.sourceId with
  | some snapshot =>
    have hmem := List.mem_reverse.mp (List.mem_of_find?_eq_some hfind)
    have hkey := List.find?_some hfind
    rw [decide_eq_true_eq] at hkey
    exact ((mem_sourceSnapshots_of_ref hids href hkind).mp ⟨hmem, hkey⟩).symm
  | none =>
    symm
    rw [Option.eq_none_iff_forall_ne_some]
    intro snapshot hsource
    rcases (mem_sourceSnapshots_of_ref hids href hkind).mpr hsource with ⟨hmem, hkey⟩
    exact List.find?_eq_none.mp hfind snapshot (List.mem_reverse.mpr hmem) (decide_eq_true hkey)

/-- The findings on the references are those on each of them. -/
theorem lintSourceRefs_ok (svc : KnowledgeService) (db : SourceDb) (clock : SourceClock)
    (hpage : (KnowledgePageKind.parse page.pageKind).isSome)
    (hkinds : ∀ sourceRef ∈ sourceRefs, (KnowledgeSourceKind.parse sourceRef.sourceKind).isSome)
    : ∃ findings, lintSourceRefs svc db clock page sourceRefs = .ok findings
      ∧ ∀ draft, draft ∈ findings ↔ ∃ sourceRef ∈ sourceRefs, ∃ kind,
        KnowledgeSourceKind.parse sourceRef.sourceKind = some kind
          ∧ refFinding sourceRef (db.source svc (pageReader svc page) clock kind sourceRef.sourceId)
            = some draft := by
  rcases SourceIds.fromSourceRefs_ok hkinds with ⟨ids, hids⟩
  rcases Option.isSome_iff_exists.mp hpage with ⟨pageKind, hpageKind⟩
  unfold lintSourceRefs resolveCurrentSourceMap
  rw [hids, hpageKind]
  refine ⟨_, rfl, ?_⟩
  intro draft
  rw [List.mem_filterMap]
  constructor
  . rintro ⟨sourceRef, href, hdraft⟩
    rcases Option.isSome_iff_exists.mp (hkinds sourceRef href) with ⟨kind, hkind⟩
    refine ⟨sourceRef, href, kind, hkind, ?_⟩
    rw [← currentSource_eq hids href hkind]
    exact hdraft
  . rintro ⟨sourceRef, href, kind, hkind, hdraft⟩
    rw [← currentSource_eq hids href hkind] at hdraft
    exact ⟨sourceRef, href, hdraft⟩

theorem findingType_of_refFinding {current : Option SourceSnapshot}
    (h : refFinding sourceRef current = some draft) : draft.findingType = "stale_source_ref" := by
  unfold refFinding at h
  split at h
  . cases h
    rfl
  . split at h
    . cases h
      rfl
    . cases h

/-- What a lint says of the sections is not about sources. -/
theorem findingType_of_mem_lintPageSections {sections : List KnowledgePageSection}
    (h : draft ∈ lintPageSections page sections sourceRefs)
    : draft.findingType ≠ "stale_source_ref" := by
  unfold lintPageSections at h
  rcases List.mem_append.mp h with h | h
  . rcases List.mem_flatMap.mp h with ⟨row, -, hrow⟩
    unfold lintOneSection at hrow
    rcases List.mem_append.mp hrow with hrow | hmissingRef
    . rcases List.mem_append.mp hrow with hunsupported | hmissingCitation
      . split at hunsupported
        . rw [List.mem_singleton.mp hunsupported]
          change "unsupported_claim" ≠ "stale_source_ref"
          decide
        . cases hunsupported
      . split at hmissingCitation
        . rw [List.mem_singleton.mp hmissingCitation]
          change "missing_citation" ≠ "stale_source_ref"
          decide
        . cases hmissingCitation
    . split at hmissingRef
      . rw [List.mem_singleton.mp hmissingRef]
        change "missing_source_ref" ≠ "stale_source_ref"
        decide
      . cases hmissingRef
  . split at h
    . cases h
    . rw [List.mem_singleton.mp h]
      change "low_source_coverage" ≠ "stale_source_ref"
      decide

/-! ## Findings -/

/-- The rows of the findings of a lint. -/
def findingRows (draw : KnowledgeDraw) (pageId : Uuid) (findings : List LintDraft)
    : List KnowledgePageLintFinding :=
  findings.zipIdx.map fun item => item.1.row (draw.findingId item.2) pageId draw.now

theorem insertLintFindings_eq_ok_iff {findings : List LintDraft}
    : insertLintFindings kdb draw pageId findings = .ok kdb'
        ↔ ∃ lintFindings, kdb.lintFindings.insertAll (findingRows draw pageId findings) duplicateKey
            = .ok lintFindings
          ∧ kdb' = { kdb with lintFindings } := by
  unfold insertLintFindings findingRows Table.insertAll
  generalize findings.zipIdx = items
  induction items generalizing kdb with
  | nil =>
    constructor
    . intro h
      cases h
      exact ⟨_, rfl, rfl⟩
    . rintro ⟨lintFindings, h, rfl⟩
      cases h
      rfl
  | cons item items ih =>
    rw [List.foldlM_cons, List.map_cons, List.foldlM_cons]
    unfold insertKnowledgePageLintFinding
    simp only [Except.bind_eq_ok, Except.pure_eq_ok]
    constructor
    . rintro ⟨next, ⟨inserted, hinsert, rfl⟩, hrest⟩
      rcases ih.mp hrest with ⟨lintFindings, hall, heq⟩
      exact ⟨lintFindings, ⟨inserted, hinsert, hall⟩, heq⟩
    . rintro ⟨lintFindings, ⟨inserted, hinsert, hall⟩, heq⟩
      exact ⟨_, ⟨inserted, hinsert, rfl⟩, ih.mpr ⟨lintFindings, hall, heq⟩⟩

/-! ## Lints -/

theorem mem_findingRows {findings : List LintDraft} {row : KnowledgePageLintFinding}
    (h : row ∈ findingRows draw pageId findings)
    : ∃ draft ∈ findings, ∃ findingId, draft.row findingId pageId draw.now = row := by
  unfold findingRows at h
  rcases List.mem_map.mp h with ⟨item, hitem, rfl⟩
  exact ⟨item.1, List.fst_mem_of_mem_zipIdx hitem, _, rfl⟩

theorem exists_mem_findingRows (draw : KnowledgeDraw) (pageId : Uuid) {findings : List LintDraft}
    (h : draft ∈ findings)
    : ∃ findingId, draft.row findingId pageId draw.now ∈ findingRows draw pageId findings := by
  have hplace : draft ∈ findings.zipIdx.map Prod.fst := by
    rw [List.zipIdx_map_fst]
    exact h
  rcases List.mem_map.mp hplace with ⟨item, hitem, rfl⟩
  exact ⟨_, List.mem_map_of_mem hitem⟩

/-- After its old findings are gone, a page has the new ones. -/
theorem perm_listKnowledgePageLintFindings {findings : List LintDraft}
    (h : insertLintFindings (deleteKnowledgePageLintFindings kdb pageId) draw pageId findings
      = .ok kdb')
    : (listKnowledgePageLintFindings kdb' pageId).Perm (findingRows draw pageId findings) := by
  rcases insertLintFindings_eq_ok_iff.mp h with ⟨lintFindings, hinsert, rfl⟩
  have hold : (deleteKnowledgePageLintFindings kdb pageId).lintFindings.rows.filter
      (fun row => decide (row.pageId = pageId)) = [] := by
    rw [List.filter_eq_nil_iff]
    intro row hrow
    have hother := ((Table.mem_deleteWhere ..).mp hrow).2
    rw [hother]
    decide
  have hnew : (findingRows draw pageId findings).filter
      (fun row => decide (row.pageId = pageId)) = findingRows draw pageId findings := by
    rw [List.filter_eq_self]
    intro row hrow
    rcases mem_findingRows hrow with ⟨draft, -, findingId, rfl⟩
    exact decide_eq_true rfl
  unfold listKnowledgePageLintFindings
  rw [Table.rows_insertAll hinsert, List.filter_append, hold, hnew, List.nil_append]
  exact Sorting.sortBy_perm _

theorem nodup_findingIds {findings : List LintDraft} (hids : Function.Injective draw.findingId)
    : ((findingRows draw pageId findings).map KnowledgePageLintFinding.findingId).Nodup := by
  have hsnd : findings.zipIdx.map Prod.snd = List.range' 0 findings.length :=
    List.zipIdx_map_snd 0 findings
  have hmap : (findingRows draw pageId findings).map KnowledgePageLintFinding.findingId
      = (List.range' 0 findings.length).map draw.findingId := by
    unfold findingRows
    rw [← hsnd, List.map_map, List.map_map]
    rfl
  rw [hmap]
  exact List.Nodup.map hids List.nodup_range'

theorem insertLintFindings_ok (pageId : Uuid) (hids : Function.Injective draw.findingId)
    (hfresh : ∀ place, kdb.lintFindings.find? (draw.findingId place) = none)
    (findings : List LintDraft)
    : ∃ kdb', insertLintFindings (deleteKnowledgePageLintFindings kdb pageId) draw pageId findings
      = .ok kdb' := by
  have hnodup : (((deleteKnowledgePageLintFindings kdb pageId).lintFindings.rows
      ++ findingRows draw pageId findings).map KnowledgePageLintFinding.findingId).Nodup := by
    apply Table.nodup_append_of_unused (nodup_findingIds hids)
    intro row hrow
    unfold findingRows at hrow
    rcases List.mem_map.mp hrow with ⟨item, -, rfl⟩
    unfold deleteKnowledgePageLintFindings
    rw [Table.find?_deleteWhere]
    change (kdb.lintFindings.find? (draw.findingId item.2)).filter _ = none
    rw [hfresh item.2]
    rfl
  rcases Table.insertAll_of_nodup hnodup duplicateKey with ⟨lintFindings, hinsert⟩
  exact ⟨_, insertLintFindings_eq_ok_iff.mpr ⟨lintFindings, hinsert, rfl⟩⟩

/-- A lint returns what it finds, and of the sources exactly what there is to say of each reference. -/
theorem knowledgePageLint_ok (svc : KnowledgeService) (db : SourceDb) (req : KnowledgePageLintRequest)
    (hpage : getKnowledgePage kdb req.tenantId req.projectId req.pageId = some page)
    (hkind : (KnowledgePageKind.parse page.pageKind).isSome)
    (hkinds : ∀ sourceRef ∈ listKnowledgePageSourceRefs kdb page.pageId,
      (KnowledgeSourceKind.parse sourceRef.sourceKind).isSome)
    (hids : Function.Injective draw.findingId)
    (hfresh : ∀ place, kdb.lintFindings.find? (draw.findingId place) = none)
    : ∃ resp kdb' findings, knowledgePageLint svc db draw req kdb = .ok (resp, kdb')
      ∧ resp.findings.Perm (findingRows draw page.pageId findings)
      ∧ ∀ draft, (draft ∈ findings ∧ draft.findingType = "stale_source_ref")
        ↔ ∃ sourceRef ∈ listKnowledgePageSourceRefs kdb page.pageId, ∃ kind,
          KnowledgeSourceKind.parse sourceRef.sourceKind = some kind
            ∧ refFinding sourceRef
              (db.source svc (pageReader svc page) draw.clock kind sourceRef.sourceId)
                = some draft := by
  rcases lintSourceRefs_ok svc db draw.clock hkind hkinds with
    ⟨ofRefs, hofRefs, hmem⟩
  have hinserted := insertLintFindings_ok page.pageId hids hfresh (ofRefs
    ++ lintPageSections page (listKnowledgePageSections kdb page.pageId)
      (listKnowledgePageSourceRefs kdb page.pageId))
  rcases hinserted with ⟨kdb', hkdb'⟩
  have hlint : knowledgePageLint svc db draw req kdb
      = .ok (⟨page.pageId, listKnowledgePageLintFindings kdb' page.pageId⟩, kdb') := by
    unfold knowledgePageLint
    rw [hpage]
    simp only [Except.bind_eq_ok, Except.pure_eq_ok]
    exact ⟨page, rfl, ofRefs, hofRefs, kdb', hkdb', rfl⟩
  refine ⟨_, kdb', _, hlint, perm_listKnowledgePageLintFindings hkdb', ?_⟩
  intro draft
  rw [← hmem draft, List.mem_append]
  constructor
  . rintro ⟨hrefs | hsections, htype⟩
    . exact hrefs
    . exact absurd htype (findingType_of_mem_lintPageSections hsections)
  . intro hrefs
    rcases (hmem draft).mp hrefs with ⟨sourceRef, -, kind, -, hfinding⟩
    exact ⟨Or.inl hrefs, findingType_of_refFinding hfinding⟩

end Elf
