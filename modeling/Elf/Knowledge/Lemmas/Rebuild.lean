import Elf.Knowledge.Lemmas.References
import Elf.Knowledge.Lemmas.Sources

/-!
This module contains what a rebuild writes: the sections of a page in a closed form, and the rows
that replace the children of the page.
-/

namespace Elf

open Except

variable {svc : KnowledgeService} {draw draw' : KnowledgeDraw} {sources : List SourceSnapshot}
  {pageId : Uuid}

/-! ## Sections -/

/-- The sections that have something to cite. -/
def citedSpecs (sources : List SourceSnapshot) : List SectionSpec :=
  sectionSpecs.filter fun spec => !(sourceIndexes sources spec.kind).isEmpty

/-- The section at a place of the page. -/
def specSection (draw : KnowledgeDraw) (sources : List SourceSnapshot) (spec : SectionSpec)
    (place : Nat) : DraftSection := {
  sectionId := draw.sectionId place
  sectionKey := spec.sectionKey
  heading := spec.heading
  role := spec.role
  content := sectionContent sources (sourceIndexes sources spec.kind)
  ordinal := min place (2 ^ 31 - 1)
  sourceIndexes := sourceIndexes sources spec.kind
  unsupportedReason := none
  contentHash := ""
  citations := .arr [] }

def specSections (draw : KnowledgeDraw) (sources : List SourceSnapshot) : List DraftSection :=
  (citedSpecs sources).zipIdx.map fun item => specSection draw sources item.1 item.2

/-- The sections with their citations, as they are written. -/
def citedSections (svc : KnowledgeService) (draw : KnowledgeDraw) (sources : List SourceSnapshot)
    : List DraftSection :=
  (specSections draw sources).map (DraftSection.cite svc sources)

theorem foldl_pushSection (specs : List SectionSpec) (sections : List DraftSection)
    : specs.foldl (pushSection draw sources) sections
        = sections ++ ((specs.filter fun spec =>
          !(sourceIndexes sources spec.kind).isEmpty).zipIdx sections.length).map fun item =>
            specSection draw sources item.1 item.2 := by
  induction specs generalizing sections with
  | nil => simp
  | cons spec specs ih =>
    rw [List.foldl_cons, ih]
    unfold pushSection
    cases hempty : (sourceIndexes sources spec.kind).isEmpty with
    | true => simp [hempty]
    | false => simp [hempty, specSection]

theorem buildSections_eq (draw : KnowledgeDraw) (sources : List SourceSnapshot)
    : buildSections draw sources
        = if (specSections draw sources).isEmpty then
            .error (.invalidRequest "knowledge page rebuild did not produce any cited sections")
          else
            .ok (specSections draw sources) := by
  unfold buildSections
  rw [foldl_pushSection]
  rfl

theorem buildSections_eq_ok {drafts : List DraftSection}
    (h : buildSections draw sources = .ok drafts) : drafts = specSections draw sources := by
  rw [buildSections_eq] at h
  split at h
  . cases h
  . cases h
    rfl

theorem buildSections_of_ok {drafts : List DraftSection} (h : buildSections draw sources = .ok drafts)
    (draw' : KnowledgeDraw) : buildSections draw' sources = .ok (specSections draw' sources) := by
  rw [buildSections_eq] at h ⊢
  split at h
  . cases h
  next hnonempty =>
    rw [if_neg]
    unfold specSections at hnonempty ⊢
    rw [List.isEmpty_map] at hnonempty ⊢
    exact hnonempty

theorem lintUnsupportedSections_specSections (draw : KnowledgeDraw) (sources : List SourceSnapshot)
    : lintUnsupportedSections (specSections draw sources) = [] := by
  unfold lintUnsupportedSections specSections
  rw [List.filterMap_map, List.filterMap_eq_nil_iff]
  intro item _
  rfl

/-- What does not look at the identifier of a section does not depend on what is drawn for it. -/
theorem map_citedSections {α : Type} {f : DraftSection → α}
    (h : ∀ draft sectionId, f { draft with sectionId } = f draft)
    : (citedSections svc draw' sources).map f = (citedSections svc draw sources).map f := by
  unfold citedSections specSections
  rw [List.map_map, List.map_map, List.map_map, List.map_map]
  apply List.map_congr_left
  intro item _
  exact h ((specSection draw sources item.1 item.2).cite svc sources) (draw'.sectionId item.2)

theorem map_sectionKey_citedSections
    : (citedSections svc draw sources).map DraftSection.sectionKey
        = (citedSpecs sources).map SectionSpec.sectionKey := by
  have hfst : (citedSpecs sources).zipIdx.map Prod.fst = citedSpecs sources :=
    List.zipIdx_map_fst 0 (citedSpecs sources)
  unfold citedSections specSections
  conv =>
    rhs
    rw [← hfst, List.map_map]
  rw [List.map_map, List.map_map]
  rfl

theorem nodup_sectionKeys : ((citedSections svc draw sources).map DraftSection.sectionKey).Nodup := by
  have hspecs : (sectionSpecs.map SectionSpec.sectionKey).Nodup := by decide
  rw [map_sectionKey_citedSections]
  exact (List.filter_sublist.map SectionSpec.sectionKey).nodup hspecs

theorem map_sectionId_citedSections
    : (citedSections svc draw sources).map DraftSection.sectionId
        = (List.range (citedSpecs sources).length).map draw.sectionId := by
  have hsnd : (citedSpecs sources).zipIdx.map Prod.snd = List.range' 0 (citedSpecs sources).length :=
    List.zipIdx_map_snd 0 (citedSpecs sources)
  unfold citedSections specSections
  rw [List.range_eq_range', ← hsnd, List.map_map, List.map_map, List.map_map]
  rfl

/-! ## Places of sources -/

theorem mem_sourceIndexes {kind : KnowledgeSourceKind} {index : Nat}
    : index ∈ sourceIndexes sources kind
        ↔ ∃ source, sources[index]? = some source ∧ source.kind = kind := by
  unfold sourceIndexes
  simp only [List.mem_map, List.mem_filter, decide_eq_true_eq, List.mem_zipIdx_iff_getElem?]
  constructor
  . rintro ⟨item, ⟨hget, hkind⟩, rfl⟩
    exact ⟨item.1, hget, hkind⟩
  . rintro ⟨source, hget, hkind⟩
    exact ⟨(source, index), ⟨hget, hkind⟩, rfl⟩

theorem nodup_sourceIndexes (sources : List SourceSnapshot) (kind : KnowledgeSourceKind)
    : (sourceIndexes sources kind).Nodup := by
  have hsnd : sources.zipIdx.map Prod.snd = List.range' 0 sources.length :=
    List.zipIdx_map_snd 0 sources
  unfold sourceIndexes
  apply (List.filter_sublist.map Prod.snd).nodup
  rw [hsnd]
  exact List.nodup_range'

theorem mem_citedSpecs {spec : SectionSpec}
    : spec ∈ citedSpecs sources
        ↔ spec ∈ sectionSpecs ∧ ∃ source ∈ sources, source.kind = spec.kind := by
  unfold citedSpecs
  rw [List.mem_filter, Bool.not_eq_true', List.isEmpty_eq_false_iff_exists_mem]
  apply and_congr_right
  intro _
  constructor
  . rintro ⟨index, hindex⟩
    rcases mem_sourceIndexes.mp hindex with ⟨source, hget, hkind⟩
    exact ⟨source, List.mem_of_getElem? hget, hkind⟩
  . rintro ⟨source, hsource, hkind⟩
    rcases List.mem_iff_getElem?.mp hsource with ⟨index, hget⟩
    exact ⟨index, mem_sourceIndexes.mpr ⟨source, hget, hkind⟩⟩

/-! ## Rows -/

variable {kdb kdb' mid : KnowledgeDb} {sections : List KnowledgePageSection}
  {refs : List KnowledgePageSourceRef} {draft : DraftSection} {drafts : List DraftSection}

/-- The rows of the sources at the places that a section cites. -/
def DraftSection.refRows (draw : KnowledgeDraw) (pageId : Uuid) (sources : List SourceSnapshot)
    (draft : DraftSection) : List KnowledgePageSourceRef :=
  draft.sourceIndexes.filterMap fun index => sources[index]?.map fun source =>
    source.row (draw.refId index) pageId draft.sectionId draw.now

/-- The tables have some more sections and references at their ends. -/
structure KnowledgeDb.Extends (kdb kdb' : KnowledgeDb) (sections : List KnowledgePageSection)
    (refs : List KnowledgePageSourceRef) : Prop where
  pages : kdb'.pages = kdb.pages
  lintFindings : kdb'.lintFindings = kdb.lintFindings
  sections : kdb'.sections.rows = kdb.sections.rows ++ sections
  refs : kdb'.sourceRefs.rows = kdb.sourceRefs.rows ++ refs

theorem KnowledgeDb.Extends.refl (kdb : KnowledgeDb) : kdb.Extends kdb [] [] :=
  ⟨rfl, rfl, (List.append_nil _).symm, (List.append_nil _).symm⟩

theorem KnowledgeDb.Extends.trans {sections' : List KnowledgePageSection}
    {refs' : List KnowledgePageSourceRef} (h : kdb.Extends mid sections refs)
    (h' : mid.Extends kdb' sections' refs')
    : kdb.Extends kdb' (sections ++ sections') (refs ++ refs') where
  pages := h'.pages.trans h.pages
  lintFindings := h'.lintFindings.trans h.lintFindings
  sections := by rw [h'.sections, h.sections, List.append_assoc]
  refs := by rw [h'.refs, h.refs, List.append_assoc]

theorem insertSourceRef_extends {sectionId : Uuid} {index : Nat}
    (h : insertSourceRef draw pageId sectionId sources kdb index = .ok kdb')
    : ∃ source, sources[index]? = some source
      ∧ kdb.Extends kdb' [] [source.row (draw.refId index) pageId sectionId draw.now] := by
  unfold insertSourceRef insertKnowledgePageSourceRef at h
  rcases Except.bind_eq_ok.mp h with ⟨source, hsource, h⟩
  rcases Except.bind_eq_ok.mp h with ⟨sourceRefs, hinsert, h⟩
  cases h
  refine ⟨source, Except.ofOption_eq_ok.mp hsource, rfl, rfl, (List.append_nil _).symm, ?_⟩
  exact Table.rows_insert? (Table.insert_eq_ok.mp hinsert)

theorem insertSourceRefs_extends {sectionId : Uuid} {indexes : List Nat}
    (h : indexes.foldlM (insertSourceRef draw pageId sectionId sources) kdb = .ok kdb')
    : kdb.Extends kdb' [] (indexes.filterMap fun index => sources[index]?.map fun source =>
      source.row (draw.refId index) pageId sectionId draw.now) := by
  induction indexes generalizing kdb with
  | nil =>
    cases h
    exact KnowledgeDb.Extends.refl _
  | cons index indexes ih =>
    rcases Except.bind_eq_ok.mp h with ⟨mid, hindex, hrest⟩
    rcases insertSourceRef_extends hindex with ⟨source, hsource, hextends⟩
    rw [List.filterMap_cons, hsource]
    exact hextends.trans (ih hrest)

theorem insertSection_extends (h : insertSection draw pageId sources kdb draft = .ok kdb')
    : kdb.Extends kdb' [draft.row pageId draw.now] (draft.refRows draw pageId sources) := by
  unfold insertSection insertKnowledgePageSection at h
  rcases Except.bind_eq_ok.mp h with ⟨mid, hmid, hrefs⟩
  rcases Except.bind_eq_ok.mp hmid with ⟨inserted, hinsert, hmid⟩
  cases hmid
  have hsection : kdb.Extends { kdb with sections := inserted } [draft.row pageId draw.now] [] :=
    ⟨rfl, rfl, Table.rows_insert? (Table.insert_eq_ok.mp hinsert), (List.append_nil _).symm⟩
  exact hsection.trans (insertSourceRefs_extends hrefs)

theorem insertSections_extends (h : drafts.foldlM (insertSection draw pageId sources) kdb = .ok kdb')
    : kdb.Extends kdb' (drafts.map fun draft => draft.row pageId draw.now)
      (drafts.flatMap (DraftSection.refRows draw pageId sources)) := by
  induction drafts generalizing kdb with
  | nil =>
    cases h
    exact KnowledgeDb.Extends.refl _
  | cons draft drafts ih =>
    rcases Except.bind_eq_ok.mp h with ⟨mid, hdraft, hrest⟩
    exact (insertSection_extends hdraft).trans (ih hrest)

theorem insertSourceRefs_ok {sectionId : Uuid} {indexes : List Nat}
    (hindexes : ∀ index ∈ indexes, ∃ source, sources[index]? = some source)
    (hnodup : ((kdb.sourceRefs.rows ++ indexes.filterMap fun index => sources[index]?.map fun source =>
      source.row (draw.refId index) pageId sectionId draw.now).map
        KnowledgePageSourceRef.refId).Nodup)
    : ∃ kdb', indexes.foldlM (insertSourceRef draw pageId sectionId sources) kdb = .ok kdb' := by
  induction indexes generalizing kdb with
  | nil => exact ⟨kdb, rfl⟩
  | cons index indexes ih =>
    rcases hindexes index List.mem_cons_self with ⟨source, hsource⟩
    rw [List.filterMap_cons, hsource, Option.map_some, List.append_cons] at hnodup
    have hfirst : ((kdb.sourceRefs.rows ++ [source.row (draw.refId index) pageId sectionId
        draw.now]).map KnowledgePageSourceRef.refId).Nodup := by
      rw [List.map_append] at hnodup
      exact hnodup.of_append_left
    rcases Table.insert_of_nodup hfirst duplicateKey with ⟨sourceRefs, hinsert⟩
    have hindex : insertSourceRef draw pageId sectionId sources kdb index
        = .ok { kdb with sourceRefs } := by
      unfold insertSourceRef insertKnowledgePageSourceRef
      rw [hsource]
      exact Except.bind_eq_ok.mpr ⟨source, rfl, Except.bind_eq_ok.mpr ⟨sourceRefs, hinsert, rfl⟩⟩
    rw [← Table.rows_insert? (Table.insert_eq_ok.mp hinsert)] at hnodup
    have hrest : ∃ kdb', indexes.foldlM (insertSourceRef draw pageId sectionId sources)
        { kdb with sourceRefs } = .ok kdb' :=
      ih (fun other hother => hindexes other (List.mem_cons_of_mem index hother)) hnodup
    rcases hrest with ⟨kdb', hkdb'⟩
    exact ⟨kdb', Except.bind_eq_ok.mpr ⟨_, hindex, hkdb'⟩⟩

theorem insertSections_ok
    (hindexes : ∀ draft ∈ drafts, ∀ index ∈ draft.sourceIndexes,
      ∃ source, sources[index]? = some source)
    (hsections : ((kdb.sections.rows ++ drafts.map fun draft => draft.row pageId draw.now).map
      KnowledgePageSection.sectionId).Nodup)
    (hrefs : ((kdb.sourceRefs.rows ++ drafts.flatMap (DraftSection.refRows draw pageId sources)).map
      KnowledgePageSourceRef.refId).Nodup)
    : ∃ kdb', drafts.foldlM (insertSection draw pageId sources) kdb = .ok kdb' := by
  induction drafts generalizing kdb with
  | nil => exact ⟨kdb, rfl⟩
  | cons draft drafts ih =>
    rw [List.map_cons, List.append_cons] at hsections
    rw [List.flatMap_cons, ← List.append_assoc] at hrefs
    have hsection : ((kdb.sections.rows ++ [draft.row pageId draw.now]).map
        KnowledgePageSection.sectionId).Nodup := by
      rw [List.map_append] at hsections
      exact hsections.of_append_left
    have hrefRows : ((kdb.sourceRefs.rows ++ draft.refRows draw pageId sources).map
        KnowledgePageSourceRef.refId).Nodup := by
      rw [List.map_append] at hrefs
      exact hrefs.of_append_left
    rcases Table.insert_of_nodup hsection duplicateKey with ⟨inserted, hinsert⟩
    have hrefsInserted : ∃ mid, draft.sourceIndexes.foldlM
        (insertSourceRef draw pageId draft.sectionId sources) { kdb with sections := inserted }
          = .ok mid :=
      insertSourceRefs_ok (hindexes draft List.mem_cons_self) hrefRows
    rcases hrefsInserted with ⟨mid, hmid⟩
    have hdraft : insertSection draw pageId sources kdb draft = .ok mid := by
      unfold insertSection insertKnowledgePageSection
      exact Except.bind_eq_ok.mpr
        ⟨_, Except.bind_eq_ok.mpr ⟨inserted, hinsert, rfl⟩, hmid⟩
    have hextends := insertSection_extends hdraft
    have hrest : ∃ kdb', drafts.foldlM (insertSection draw pageId sources) mid = .ok kdb' := by
      apply ih
      . intro other hother
        exact hindexes other (List.mem_cons_of_mem draft hother)
      . rw [hextends.sections]
        exact hsections
      . rw [hextends.refs]
        exact hrefs
    rcases hrest with ⟨kdb', hkdb'⟩
    exact ⟨kdb', Except.bind_eq_ok.mpr ⟨mid, hdraft, hkdb'⟩⟩

/-! ## Fresh identifiers -/

/-- The identifiers that are drawn are new ones. -/
structure KnowledgeDraw.Fresh (draw : KnowledgeDraw) (kdb : KnowledgeDb) : Prop where
  sectionIds : Function.Injective draw.sectionId
  refIds : Function.Injective draw.refId
  findingIds : Function.Injective draw.findingId
  sections : ∀ place, kdb.sections.find? (draw.sectionId place) = none
  sourceRefs : ∀ index, kdb.sourceRefs.find? (draw.refId index) = none
  lintFindings : ∀ place, kdb.lintFindings.find? (draw.findingId place) = none

theorem mem_citedSections
    : draft ∈ citedSections svc draw sources
        ↔ ∃ item ∈ (citedSpecs sources).zipIdx,
          (specSection draw sources item.1 item.2).cite svc sources = draft := by
  unfold citedSections specSections
  rw [List.map_map, List.mem_map]
  rfl

theorem sourceIndexes_of_mem (h : draft ∈ citedSections svc draw sources)
    : ∀ index ∈ draft.sourceIndexes, ∃ source, sources[index]? = some source := by
  rcases mem_citedSections.mp h with ⟨item, -, rfl⟩
  intro index hindex
  rcases mem_sourceIndexes.mp hindex with ⟨source, hsource, -⟩
  exact ⟨source, hsource⟩

theorem flatMap_sourceIndexes
    : (citedSections svc draw sources).flatMap DraftSection.sourceIndexes
        = (citedSpecs sources).flatMap fun spec => sourceIndexes sources spec.kind := by
  have hfst : (citedSpecs sources).zipIdx.map Prod.fst = citedSpecs sources :=
    List.zipIdx_map_fst 0 (citedSpecs sources)
  unfold citedSections specSections
  conv =>
    rhs
    rw [← hfst, List.flatMap_map]
  rw [List.flatMap_map, List.flatMap_map]
  rfl

theorem nodup_flatMap_sourceIndexes
    : ((citedSections svc draw sources).flatMap DraftSection.sourceIndexes).Nodup := by
  have hspecs : sectionSpecs.Pairwise fun a b => a.kind ≠ b.kind := by decide
  rw [flatMap_sourceIndexes, List.nodup_flatMap]
  constructor
  . intro spec _
    exact nodup_sourceIndexes sources spec.kind
  . apply (hspecs.sublist List.filter_sublist).imp
    intro a b hab index ha hb
    rcases mem_sourceIndexes.mp ha with ⟨source, hsource, hkind⟩
    rcases mem_sourceIndexes.mp hb with ⟨other, hother, hkind'⟩
    rw [hsource] at hother
    injection hother with hother
    exact hab (by rw [← hkind, ← hkind', hother])

theorem map_refId_refRows (h : ∀ index ∈ draft.sourceIndexes, ∃ source, sources[index]? = some source)
    : (draft.refRows draw pageId sources).map KnowledgePageSourceRef.refId
        = draft.sourceIndexes.map draw.refId := by
  unfold DraftSection.refRows
  generalize draft.sourceIndexes = indexes at h
  induction indexes with
  | nil => rfl
  | cons index indexes ih =>
    rcases h index List.mem_cons_self with ⟨source, hsource⟩
    rw [List.filterMap_cons, hsource, Option.map_some, List.map_cons, List.map_cons,
      ih fun other hother => h other (List.mem_cons_of_mem index hother)]
    rfl

theorem map_refId_citedSections
    : ((citedSections svc draw sources).flatMap (DraftSection.refRows draw pageId sources)).map
        KnowledgePageSourceRef.refId
          = ((citedSections svc draw sources).flatMap DraftSection.sourceIndexes).map draw.refId := by
  rw [List.map_flatMap, List.map_flatMap]
  apply List.flatMap_congr
  intro draft hdraft
  exact map_refId_refRows (sourceIndexes_of_mem hdraft)

theorem replacePageChildren_ok (hfresh : draw.Fresh kdb)
    : ∃ kdb', replacePageChildren draw pageId (citedSections svc draw sources) sources [] kdb
      = .ok kdb' := by
  have hsections : (((citedSections svc draw sources).map fun draft =>
      draft.row pageId draw.now).map KnowledgePageSection.sectionId).Nodup := by
    rw [List.map_map]
    change ((citedSections svc draw sources).map DraftSection.sectionId).Nodup
    rw [map_sectionId_citedSections]
    exact List.nodup_range.map hfresh.sectionIds
  have hrefs : (((citedSections svc draw sources).flatMap (DraftSection.refRows draw pageId
      sources)).map KnowledgePageSourceRef.refId).Nodup := by
    rw [map_refId_citedSections]
    exact nodup_flatMap_sourceIndexes.map hfresh.refIds
  have hinserted : ∃ kdb', (citedSections svc draw sources).foldlM
      (insertSection draw pageId sources) (deleteKnowledgePageChildren kdb pageId) = .ok kdb' := by
    apply insertSections_ok
    . intro draft hdraft
      exact sourceIndexes_of_mem hdraft
    . apply Table.nodup_append_of_unused hsections
      intro row hrow
      have hid := List.mem_map_of_mem (f := KnowledgePageSection.sectionId) hrow
      rw [List.map_map] at hid
      change _ ∈ (citedSections svc draw sources).map DraftSection.sectionId at hid
      rw [map_sectionId_citedSections] at hid
      rcases List.mem_map.mp hid with ⟨place, -, heq⟩
      rw [← heq]
      unfold deleteKnowledgePageChildren
      rw [Table.find?_deleteWhere, hfresh.sections place]
      rfl
    . apply Table.nodup_append_of_unused hrefs
      intro row hrow
      have hid := List.mem_map_of_mem (f := KnowledgePageSourceRef.refId) hrow
      rw [map_refId_citedSections] at hid
      rcases List.mem_map.mp hid with ⟨index, -, heq⟩
      rw [← heq]
      unfold deleteKnowledgePageChildren
      rw [Table.find?_deleteWhere, hfresh.sourceRefs index]
      rfl
  rcases hinserted with ⟨kdb', hkdb'⟩
  exact ⟨kdb', Except.bind_eq_ok.mpr ⟨kdb', hkdb', rfl⟩⟩

theorem replacePageChildren_extends {drafts : List DraftSection}
    (h : replacePageChildren draw pageId drafts sources [] kdb = .ok kdb')
    : (deleteKnowledgePageChildren kdb pageId).Extends kdb'
      (drafts.map fun draft => draft.row pageId draw.now)
      (drafts.flatMap (DraftSection.refRows draw pageId sources)) := by
  unfold replacePageChildren at h
  rcases Except.bind_eq_ok.mp h with ⟨inserted, hinserted, h⟩
  cases h
  exact insertSections_extends hinserted

/-! ## What a page holds -/

/-- The row of a section shows what the section does. -/
structure KnowledgePageSection.Shows (row : KnowledgePageSection) (draft : DraftSection) : Prop where
  sectionKey : row.sectionKey = draft.sectionKey
  heading : row.heading = draft.heading
  role : row.role = draft.role
  unsupportedReason : row.unsupportedReason = draft.unsupportedReason
  contentHash : row.contentHash = draft.contentHash

/-- The reference is one to the source, in the state in which the source is. -/
structure KnowledgePageSourceRef.Cites (sourceRef : KnowledgePageSourceRef) (source : SourceSnapshot)
    : Prop where
  sourceKind : sourceRef.sourceKind = source.kind.asStr
  sourceId : sourceRef.sourceId = source.id
  status : sourceRef.sourceStatus = source.status
  updatedAt : sourceRef.sourceUpdatedAt = source.updatedAt
  contentHash : sourceRef.sourceContentHash = source.contentHash

/-- The rows of a page are those of its sections and of the sources that these cite. -/
structure PageHolds (kdb : KnowledgeDb) (page : KnowledgePage) (sections : List DraftSection)
    (sources : List SourceSnapshot) : Prop where
  row : kdb.pages.find? page.pageId = some page
  shown : ∀ row ∈ listKnowledgePageSections kdb page.pageId, ∃ draft ∈ sections, row.Shows draft
  shows : ∀ draft ∈ sections, ∃ row ∈ listKnowledgePageSections kdb page.pageId, row.Shows draft
  cited : ∀ sourceRef ∈ listKnowledgePageSourceRefs kdb page.pageId,
    ∃ source ∈ sources, sourceRef.Cites source
  cites : ∀ source ∈ sources,
    ∃ sourceRef ∈ listKnowledgePageSourceRefs kdb page.pageId, sourceRef.Cites source

theorem mem_listKnowledgePageSections {row : KnowledgePageSection}
    : row ∈ listKnowledgePageSections kdb pageId ↔ row ∈ kdb.sections.rows ∧ row.pageId = pageId := by
  unfold listKnowledgePageSections
  rw [Sorting.mem_sortBy, List.mem_filter, decide_eq_true_eq]

theorem mem_listKnowledgePageSourceRefs {sourceRef : KnowledgePageSourceRef}
    : sourceRef ∈ listKnowledgePageSourceRefs kdb pageId
        ↔ sourceRef ∈ kdb.sourceRefs.rows ∧ sourceRef.pageId = pageId := by
  unfold listKnowledgePageSourceRefs
  rw [Sorting.mem_sortBy, List.mem_filter, decide_eq_true_eq]

/-- The children of a page are the new ones only. -/
theorem mem_sections_of_extends {row : KnowledgePageSection}
    (h : (deleteKnowledgePageChildren kdb pageId).Extends kdb' sections refs)
    (hsections : ∀ row ∈ sections, row.pageId = pageId)
    : row ∈ listKnowledgePageSections kdb' pageId ↔ row ∈ sections := by
  rw [mem_listKnowledgePageSections, h.sections, List.mem_append]
  constructor
  . rintro ⟨hold | hnew, hpage⟩
    . have hother := ((Table.mem_deleteWhere ..).mp hold).2
      exact absurd hpage (of_decide_eq_false hother)
    . exact hnew
  . intro hnew
    exact ⟨Or.inr hnew, hsections row hnew⟩

theorem mem_refs_of_extends {sourceRef : KnowledgePageSourceRef}
    (h : (deleteKnowledgePageChildren kdb pageId).Extends kdb' sections refs)
    (hrefs : ∀ sourceRef ∈ refs, sourceRef.pageId = pageId)
    : sourceRef ∈ listKnowledgePageSourceRefs kdb' pageId ↔ sourceRef ∈ refs := by
  rw [mem_listKnowledgePageSourceRefs, h.refs, List.mem_append]
  constructor
  . rintro ⟨hold | hnew, hpage⟩
    . have hother := ((Table.mem_deleteWhere ..).mp hold).2
      exact absurd hpage (of_decide_eq_false hother)
    . exact hnew
  . intro hnew
    exact ⟨Or.inr hnew, hrefs sourceRef hnew⟩

theorem mem_refRows {sourceRef : KnowledgePageSourceRef}
    : sourceRef ∈ draft.refRows draw pageId sources
        ↔ ∃ index ∈ draft.sourceIndexes, ∃ source, sources[index]? = some source
          ∧ source.row (draw.refId index) pageId draft.sectionId draw.now = sourceRef := by
  unfold DraftSection.refRows
  simp only [List.mem_filterMap, Option.map_eq_some_iff]

/-- Every kind of source has its section. -/
theorem exists_spec (kind : KnowledgeSourceKind) : ∃ spec ∈ sectionSpecs, spec.kind = kind := by
  cases kind <;> decide

theorem exists_section_of_source (svc : KnowledgeService) (draw : KnowledgeDraw)
    {source : SourceSnapshot} (h : source ∈ sources)
    : ∃ draft ∈ citedSections svc draw sources, ∃ index ∈ draft.sourceIndexes,
      sources[index]? = some source := by
  rcases exists_spec source.kind with ⟨spec, hspec, hkind⟩
  have hcited : spec ∈ citedSpecs sources := mem_citedSpecs.mpr ⟨hspec, source, h, hkind.symm⟩
  have hplace : spec ∈ (citedSpecs sources).zipIdx.map Prod.fst := by
    rw [List.zipIdx_map_fst]
    exact hcited
  rcases List.mem_map.mp hplace with ⟨item, hitem, rfl⟩
  rcases List.mem_iff_getElem?.mp h with ⟨index, hindex⟩
  refine ⟨_, mem_citedSections.mpr ⟨item, hitem, rfl⟩, index, ?_, hindex⟩
  exact mem_sourceIndexes.mpr ⟨source, hindex, hkind.symm⟩

theorem pageHolds_of_replaced {page : KnowledgePage}
    (hpage : kdb.pages.find? page.pageId = some page)
    (h : replacePageChildren draw page.pageId (citedSections svc draw sources) sources [] kdb
      = .ok kdb') : PageHolds kdb' page (citedSections svc draw sources) sources := by
  have hextends := replacePageChildren_extends h
  have hsections : ∀ row, row ∈ listKnowledgePageSections kdb' page.pageId
      ↔ row ∈ (citedSections svc draw sources).map fun draft => draft.row page.pageId draw.now := by
    intro row
    apply mem_sections_of_extends hextends
    intro row hrow
    rcases List.mem_map.mp hrow with ⟨draft, -, rfl⟩
    rfl
  have hrefs : ∀ sourceRef, sourceRef ∈ listKnowledgePageSourceRefs kdb' page.pageId
      ↔ sourceRef ∈ (citedSections svc draw sources).flatMap
        (DraftSection.refRows draw page.pageId sources) := by
    intro sourceRef
    apply mem_refs_of_extends hextends
    intro sourceRef href
    rcases List.mem_flatMap.mp href with ⟨draft, -, hrow⟩
    rcases mem_refRows.mp hrow with ⟨index, -, source, -, rfl⟩
    rfl
  refine ⟨?_, ?_, ?_, ?_, ?_⟩
  . rw [hextends.pages]
    exact hpage
  . intro row hrow
    rw [hsections] at hrow
    rcases List.mem_map.mp hrow with ⟨draft, hdraft, rfl⟩
    exact ⟨draft, hdraft, rfl, rfl, rfl, rfl, rfl⟩
  . intro draft hdraft
    refine ⟨draft.row page.pageId draw.now, ?_, rfl, rfl, rfl, rfl, rfl⟩
    rw [hsections]
    exact List.mem_map_of_mem hdraft
  . intro sourceRef href
    rw [hrefs] at href
    rcases List.mem_flatMap.mp href with ⟨draft, -, hrow⟩
    rcases mem_refRows.mp hrow with ⟨index, -, source, hsource, rfl⟩
    exact ⟨source, List.mem_of_getElem? hsource, rfl, rfl, rfl, rfl, rfl⟩
  . intro source hsource
    rcases exists_section_of_source svc draw hsource with
      ⟨draft, hdraft, index, hindex, hget⟩
    refine ⟨source.row (draw.refId index) page.pageId draft.sectionId draw.now, ?_,
      rfl, rfl, rfl, rfl, rfl⟩
    rw [hrefs]
    exact List.mem_flatMap.mpr ⟨draft, hdraft, mem_refRows.mpr ⟨index, hindex, source, hget, rfl⟩⟩

/-! ## The row of a page -/

section

variable {page row other : KnowledgePage} {jsonb : JsonNumber → JsonNumber}

/-- No two pages are in one place of a context. -/
def KnowledgeDb.UniqueKeys (kdb : KnowledgeDb) : Prop :=
  ∀ a ∈ kdb.pages, ∀ b ∈ kdb.pages, a.contextKey = b.contextKey → a = b

theorem getKnowledgePageByKey_eq_some {tenantId projectId pageKind pageKey : String}
    (h : getKnowledgePageByKey kdb tenantId projectId pageKind pageKey = some page)
    : page ∈ kdb.pages ∧ page.contextKey = (tenantId, projectId, pageKind, pageKey) := by
  unfold getKnowledgePageByKey at h
  have hkey := List.find?_some h
  exact ⟨List.mem_of_find?_eq_some h, by simpa using hkey⟩

theorem getKnowledgePageByKey_eq_none {tenantId projectId pageKind pageKey : String}
    (h : getKnowledgePageByKey kdb tenantId projectId pageKind pageKey = none) (hpage : page ∈ kdb.pages)
    : page.contextKey ≠ (tenantId, projectId, pageKind, pageKey) := by
  unfold getKnowledgePageByKey at h
  intro hkey
  have hnot := List.find?_eq_none.mp h page hpage
  rw [hkey] at hnot
  exact hnot (decide_eq_true rfl)

theorem KnowledgeDb.UniqueKeys.getByKey (h : kdb.UniqueKeys) (hpage : page ∈ kdb.pages)
    : getKnowledgePageByKey kdb page.tenantId page.projectId page.pageKind page.pageKey
      = some page := by
  cases hfind : getKnowledgePageByKey kdb page.tenantId page.projectId page.pageKind page.pageKey with
  | none => exact absurd rfl (getKnowledgePageByKey_eq_none hfind hpage)
  | some found =>
    rcases getKnowledgePageByKey_eq_some hfind with ⟨hfound, hkey⟩
    rw [h found hfound page hpage hkey]

/-- What an upsert of a page comes to. -/
structure KnowledgeDb.Upserts (kdb : KnowledgeDb) (jsonb : JsonNumber → JsonNumber)
    (page row : KnowledgePage) (kdb' : KnowledgeDb) : Prop where
  columns : row = { page.stored jsonb with pageId := row.pageId, createdAt := row.createdAt }
  found : kdb'.pages.find? row.pageId = some row
  others : ∀ pageId, pageId ≠ row.pageId → kdb'.pages.find? pageId = kdb.pages.find? pageId
  apart : ∀ other ∈ kdb.pages, other.contextKey ≠ row.contextKey → other.pageId ≠ row.pageId
  unique : kdb.UniqueKeys → kdb'.UniqueKeys
  sections : kdb'.sections = kdb.sections
  sourceRefs : kdb'.sourceRefs = kdb.sourceRefs
  lintFindings : kdb'.lintFindings = kdb.lintFindings

theorem upsertKnowledgePage_upserts (h : upsertKnowledgePage kdb jsonb page = .ok (row, kdb'))
    : kdb.Upserts jsonb page row kdb' := by
  unfold upsertKnowledgePage at h
  dsimp only at h
  split at h
  next old hold =>
    rcases getKnowledgePageByKey_eq_some hold with ⟨hmem, hkey⟩
    have hfind := Table.find?_key kdb.pages hmem
    have hmodified := Table.find?_modify_of_find? hfind
      (fun row => row.replacedBy (page.stored jsonb)) fun _ => rfl
    have hmodify := Table.mem_modify kdb.pages old.pageId
      (fun row => row.replacedBy (page.stored jsonb)) fun _ => rfl
    cases h
    refine ⟨rfl, ?_, ?_, ?_, ?_, rfl, rfl, rfl⟩
    . exact (hmodified _).trans (if_pos rfl)
    . intro pageId hne
      exact (hmodified _).trans (if_neg fun heq => hne heq.symm)
    . intro other hother hne heq
      apply hne
      rw [Table.eq_of_key_eq kdb.pages hother hmem heq, hkey]
      rfl
    . intro hunique a ha b hb hab
      rcases (hmodify a).mp ha with ⟨c, hc, rfl⟩
      rcases (hmodify b).mp hb with ⟨d, hd, rfl⟩
      have hkeys (c : KnowledgePage) (hc : c ∈ kdb.pages)
          : (if c.pageId = old.pageId then c.replacedBy (page.stored jsonb) else c).contextKey
            = c.contextKey := by
        split
        next heq =>
          rw [Table.eq_of_key_eq kdb.pages hc hmem heq, hkey]
          rfl
        . rfl
      rw [hkeys c hc, hkeys d hd] at hab
      rw [hunique c hc d hd hab]
  next hnone =>
    rcases Except.bind_eq_ok.mp h with ⟨pages, hinsert, h⟩
    have hinsert := Table.insert_eq_ok.mp hinsert
    have hfresh := Table.insert?_fresh hinsert
    cases h
    refine ⟨rfl, ?_, ?_, ?_, ?_, rfl, rfl, rfl⟩
    . exact (Table.find?_insert? hinsert _).trans (if_pos rfl)
    . intro pageId hne
      exact (Table.find?_insert? hinsert _).trans (if_neg fun heq => hne heq.symm)
    . intro other hother _ heq
      have hfind := Table.find?_key kdb.pages hother
      rw [heq, hfresh] at hfind
      cases hfind
    . intro hunique a ha b hb hab
      rcases (Table.mem_insert? hinsert a).mp ha with ha | rfl
      . rcases (Table.mem_insert? hinsert b).mp hb with hb | rfl
        . exact hunique a ha b hb hab
        . exact absurd hab (getKnowledgePageByKey_eq_none hnone ha)
      . rcases (Table.mem_insert? hinsert b).mp hb with hb | rfl
        . exact absurd hab.symm (getKnowledgePageByKey_eq_none hnone hb)
        . rfl

end

/-! ## Rebuilds -/

section

variable {db : SourceDb} {req : KnowledgePageRebuildRequest} {page : KnowledgePage}

/-- The request passes the checks that look at nothing else. -/
structure KnowledgePageRebuildRequest.Accepted (req : KnowledgePageRebuildRequest) : Prop where
  context : validateContext req.tenantId req.projectId req.agentId = .ok ()
  pageKey : validateNonEmpty "page_key" req.pageKey = .ok ()
  providerMetadata : req.providerMetadata.isObject = true
  ids : (SourceIds.requested req).validateNonEmpty = .ok ()

def previousPage (kdb : KnowledgeDb) (req : KnowledgePageRebuildRequest) : Option KnowledgePage :=
  getKnowledgePageByKey kdb req.tenantId req.projectId req.pageKind.asStr req.pageKey

def previousSections (kdb : KnowledgeDb) : Option KnowledgePage → List KnowledgePageSection
  | some page => listKnowledgePageSections kdb page.pageId
  | none => []

/-- The row that a rebuild writes for the sources. -/
def nextPage (svc : KnowledgeService) (draw : KnowledgeDraw) (req : KnowledgePageRebuildRequest)
    (kdb : KnowledgeDb) (sources : List SourceSnapshot) : KnowledgePage :=
  rebuiltPage svc draw req (previousPage kdb req) (previousSections kdb (previousPage kdb req))
    sources (citedSections svc draw sources)

/-- What a rebuild does: the sources that it resolves, and the rows that it writes of them. -/
structure Rebuilds (svc : KnowledgeService) (db : SourceDb) (draw : KnowledgeDraw)
    (req : KnowledgePageRebuildRequest) (kdb : KnowledgeDb) (sources : List SourceSnapshot)
    (page : KnowledgePage) (mid kdb' : KnowledgeDb) : Prop where
  accepted : req.Accepted
  resolved : resolveSources svc db draw.clock req (SourceIds.requested req) = .ok sources
  built : buildSections draw sources = .ok (specSections draw sources)
  upserted : upsertKnowledgePage kdb svc.jsonb (nextPage svc draw req kdb sources) = .ok (page, mid)
  replaced : replacePageChildren draw page.pageId (citedSections svc draw sources) sources [] mid
    = .ok kdb'

theorem rebuilds_of_ok {resp : KnowledgePageResponse}
    (h : knowledgePageRebuild svc db draw req kdb = .ok (resp, kdb'))
    : ∃ sources mid, Rebuilds svc db draw req kdb sources resp.page mid kdb' := by
  unfold knowledgePageRebuild SourceIds.fromRequest at h
  simp only [Except.bind_eq_ok, Except.pure_eq_ok] at h
  rcases h with
    ⟨_, hcontext, _, hpageKey, _, hmetadata, ids, ⟨_, hids, rfl⟩, sources, hresolved, drafts, hbuilt,
      ⟨page, mid⟩, hupserted, rebuilt, hreplaced, heq⟩
  have hdrafts := buildSections_eq_ok hbuilt
  cases heq
  rw [hdrafts] at hbuilt hupserted hreplaced
  rw [lintUnsupportedSections_specSections] at hreplaced
  have hobject := Except.rejectIf_eq_ok.mp hmetadata
  rw [Bool.not_eq_false'] at hobject
  refine ⟨sources, mid, ⟨hcontext, hpageKey, hobject, hids⟩, hresolved, hbuilt, ?_, hreplaced⟩
  unfold nextPage previousPage
  cases hprevious : getKnowledgePageByKey kdb req.tenantId req.projectId req.pageKind.asStr
      req.pageKey with
  | none =>
    rw [hprevious] at hupserted
    exact hupserted
  | some page =>
    rw [hprevious] at hupserted
    exact hupserted

theorem Rebuilds.ok (h : Rebuilds svc db draw req kdb sources page mid kdb')
    : knowledgePageRebuild svc db draw req kdb = .ok (knowledgePageResponse kdb' page, kdb') := by
  have hupserted := h.upserted
  have hreplaced := h.replaced
  rw [← lintUnsupportedSections_specSections draw sources] at hreplaced
  unfold knowledgePageRebuild SourceIds.fromRequest
  simp only [Except.bind_eq_ok, Except.pure_eq_ok]
  refine ⟨(), h.accepted.context, (), h.accepted.pageKey, (), ?_, _, ⟨(), h.accepted.ids, rfl⟩,
    sources, h.resolved, _, h.built, (page, mid), ?_, kdb', hreplaced, rfl⟩
  . apply Except.rejectIf_eq_ok.mpr
    rw [h.accepted.providerMetadata]
    rfl
  . unfold nextPage previousPage at hupserted
    cases hprevious : getKnowledgePageByKey kdb req.tenantId req.projectId req.pageKind.asStr
        req.pageKey with
    | none =>
      rw [hprevious] at hupserted
      exact hupserted
    | some page =>
      rw [hprevious] at hupserted
      exact hupserted

end

end Elf
