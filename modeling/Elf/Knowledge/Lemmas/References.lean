import Elf.Knowledge.Lemmas.Lint
import Elf.Knowledge.Search

/-!
This module contains the references of the sections to their sources: what the tables enforce of
them, and what every rebuild of a page keeps.
-/

namespace Elf

open Sorting Except

variable {db db' : KnowledgeDb} {draw : KnowledgeDraw} {pageId : Uuid}

/--
What the tables enforce, and what a rebuild keeps: a reference is of one of the kinds, and is on the
page of its section.
-/
structure KnowledgeDb.WellFormed (db : KnowledgeDb) : Prop where
  kinds : ∀ sourceRef ∈ db.sourceRefs, (KnowledgeSourceKind.parse sourceRef.sourceKind).isSome
  sections : ∀ sourceRef ∈ db.sourceRefs, ∀ sectionId, sourceRef.sectionId = some sectionId →
    ∃ row, db.sections.find? sectionId = some row ∧ row.pageId = sourceRef.pageId

/-- The references of a section. -/
def KnowledgeDb.sectionRefs (db : KnowledgeDb) (sectionId : Uuid) : List KnowledgePageSourceRef :=
  sortBy sourceRefOrder (db.sourceRefs.rows.filter fun sourceRef =>
    sourceRef.sectionId = some sectionId)

theorem mem_sectionRefs {sectionId : Uuid} {sourceRef : KnowledgePageSourceRef}
    : sourceRef ∈ db.sectionRefs sectionId
        ↔ sourceRef ∈ db.sourceRefs ∧ sourceRef.sectionId = some sectionId := by
  unfold KnowledgeDb.sectionRefs
  rw [mem_sortBy, List.mem_filter, decide_eq_true_eq, Table.mem_def]

theorem mem_listKnowledgePageSourceRefsForPages {pageIds : List Uuid}
    {sourceRef : KnowledgePageSourceRef}
    : sourceRef ∈ listKnowledgePageSourceRefsForPages db pageIds
        ↔ sourceRef ∈ db.sourceRefs ∧ sourceRef.pageId ∈ pageIds := by
  unfold listKnowledgePageSourceRefsForPages
  cases pageIds with
  | nil => simp
  | cons first rest =>
    simp only [List.isEmpty_cons, Bool.false_eq_true, if_false, mem_sortBy, List.mem_filter,
      List.contains_iff_mem, Table.mem_def]

instance : Std.TransCmp sourceRefOrder :=
  inferInstanceAs (Std.TransCmp (compareLex (compareOn KnowledgePageSourceRef.pageId)
    (compareLex (compareOn KnowledgePageSourceRef.sourceKind)
      (compareLex (compareOn KnowledgePageSourceRef.sourceId)
        (compareOn KnowledgePageSourceRef.refId)))))

/-- The references of a section of one of the pages are all there. -/
theorem sourceRefsOf_listForPages (hdb : db.WellFormed) {pageIds : List Uuid}
    {row : KnowledgePageSection} (hrow : row ∈ db.sections) (hpage : row.pageId ∈ pageIds)
    : sourceRefsOf (listKnowledgePageSourceRefsForPages db pageIds) row.sectionId
        = db.sectionRefs row.sectionId := by
  have hne : pageIds.isEmpty = false := by
    rw [List.isEmpty_eq_false_iff]
    exact List.ne_nil_of_mem hpage
  unfold sourceRefsOf listKnowledgePageSourceRefsForPages KnowledgeDb.sectionRefs
  rw [hne, if_neg Bool.false_ne_true, sortBy_filter, List.filter_filter]
  congr 1
  apply List.filter_congr
  intro sourceRef href
  rw [Bool.and_eq_left_iff_imp, decide_eq_true_eq, List.contains_iff_mem]
  intro hsection
  rcases hdb.sections sourceRef href row.sectionId hsection with ⟨owner, howner, hpageId⟩
  rw [Table.find?_key db.sections hrow] at howner
  cases howner
  rw [← hpageId]
  exact hpage

/-! ## Writes -/

theorem wellFormed_empty : KnowledgeDb.empty.WellFormed where
  kinds := fun _ hmem => absurd hmem (Table.not_mem_empty _)
  sections := fun _ hmem => absurd hmem (Table.not_mem_empty _)

/-- The tables of the sections and of the references are all there is to it. -/
theorem KnowledgeDb.WellFormed.congr (h : db.WellFormed) (hsections : db'.sections = db.sections)
    (hrefs : db'.sourceRefs = db.sourceRefs) : db'.WellFormed where
  kinds := by
    rw [hrefs]
    exact h.kinds
  sections := by
    rw [hrefs, hsections]
    exact h.sections

theorem deleteKnowledgePageChildren_wellFormed (h : db.WellFormed)
    : (deleteKnowledgePageChildren db pageId).WellFormed where
  kinds := by
    intro sourceRef href
    exact h.kinds sourceRef (((Table.mem_deleteWhere ..).mp href).1)
  sections := by
    intro sourceRef href sectionId hsection
    rcases (Table.mem_deleteWhere ..).mp href with ⟨hmem, hpage⟩
    rcases h.sections sourceRef hmem sectionId hsection with ⟨row, hrow, hsame⟩
    refine ⟨row, ?_, hsame⟩
    change (db.sections.deleteWhere _).find? sectionId = some row
    rw [Table.find?_deleteWhere, hrow, Option.filter_some, if_pos]
    rw [hsame, hpage]
    rfl

theorem insertKnowledgePageSection_wellFormed {row : KnowledgePageSection} (h : db.WellFormed)
    (hinsert : insertKnowledgePageSection db row = .ok db')
    : db'.WellFormed ∧ db'.sections.find? row.sectionId = some row := by
  unfold insertKnowledgePageSection at hinsert
  simp only [Except.bind_eq_ok, Table.insert_eq_ok, Except.pure_eq_ok] at hinsert
  rcases hinsert with ⟨sections, hsections, rfl⟩
  refine ⟨⟨h.kinds, ?_⟩, ?_⟩
  . intro sourceRef href sectionId hsection
    rcases h.sections sourceRef href sectionId hsection with ⟨owner, howner, hpage⟩
    refine ⟨owner, ?_, hpage⟩
    rw [Table.find?_insert? hsections, if_neg, howner]
    intro hsame
    have hfresh := Table.insert?_fresh hsections
    rw [hsame, howner] at hfresh
    cases hfresh
  . rw [Table.find?_insert? hsections, if_pos rfl]

theorem insertSourceRef_wellFormed {sectionId : Uuid} {snapshots : List SourceSnapshot}
    {index : Nat} {row : KnowledgePageSection} (h : db.WellFormed)
    (hsection : db.sections.find? sectionId = some row) (hpage : row.pageId = pageId)
    (hinsert : insertSourceRef draw pageId sectionId snapshots db index = .ok db')
    : db'.WellFormed ∧ db'.sections = db.sections := by
  unfold insertSourceRef insertKnowledgePageSourceRef at hinsert
  simp only [Except.bind_eq_ok, Table.insert_eq_ok, Except.pure_eq_ok] at hinsert
  rcases hinsert with ⟨source, _, sourceRefs, hrefs, rfl⟩
  refine ⟨⟨?_, ?_⟩, rfl⟩
  . apply Table.forall_insert? hrefs h.kinds
    unfold SourceSnapshot.row
    rw [KnowledgeSourceKind.parse_asStr]
    rfl
  . apply Table.forall_insert? hrefs h.sections
    intro cited hcited
    cases hcited
    exact ⟨row, hsection, hpage⟩

theorem insertSection_wellFormed {snapshots : List SourceSnapshot} {draft : DraftSection}
    (h : db.WellFormed) (hinsert : insertSection draw pageId snapshots db draft = .ok db')
    : db'.WellFormed := by
  unfold insertSection at hinsert
  rcases Except.bind_eq_ok.mp hinsert with ⟨inserted, hsection, hrefs⟩
  have hstart := insertKnowledgePageSection_wellFormed h hsection
  have hkept : db'.WellFormed ∧ db'.sections = inserted.sections := by
    apply Except.foldlM_keeps (p := fun db => db.WellFormed ∧ db.sections = inserted.sections)
      _ ⟨hstart.1, rfl⟩ hrefs
    rintro current index next _ ⟨hcurrent, hsame⟩ hnext
    have hfound : current.sections.find? draft.sectionId = some (draft.row pageId draw.now) := by
      rw [hsame]
      exact hstart.2
    have hinserted := insertSourceRef_wellFormed hcurrent hfound rfl hnext
    exact ⟨hinserted.1, hinserted.2.trans hsame⟩
  exact hkept.1

theorem replacePageChildren_wellFormed {sections : List DraftSection}
    {snapshots : List SourceSnapshot} {lint : List LintDraft} (h : db.WellFormed)
    (hreplace : replacePageChildren draw pageId sections snapshots lint db = .ok db')
    : db'.WellFormed := by
  unfold replacePageChildren at hreplace
  rcases Except.bind_eq_ok.mp hreplace with ⟨inserted, hsections, hlint⟩
  have hinserted : inserted.WellFormed :=
    Except.foldlM_keeps (fun _ _ _ _ => insertSection_wellFormed)
      (deleteKnowledgePageChildren_wellFormed h) hsections
  rcases insertLintFindings_eq_ok_iff.mp hlint with ⟨lintFindings, -, rfl⟩
  exact hinserted.congr rfl rfl

end Elf
