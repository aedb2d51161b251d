import Elf.Knowledge.Lemmas.Lint
import Elf.Knowledge.Lemmas.Rebuild

/-!
This module contains what runs of rebuilds and lints keep: that there is one page in each place, and
what a page holds, as long as it is not rebuilt itself.
-/

namespace Elf

open Except

variable {svc : KnowledgeService} {db : SourceDb} {draw : KnowledgeDraw}
  {kdb kdb' mid : KnowledgeDb} {page other : KnowledgePage} {sections : List DraftSection}
  {sources : List SourceSnapshot} {pageId : Uuid}

/-! ## Frames -/

/-- The page has the same rows in both tables, the findings aside. -/
structure SamePage (pageId : Uuid) (kdb kdb' : KnowledgeDb) : Prop where
  row : kdb'.pages.find? pageId = kdb.pages.find? pageId
  sections : listKnowledgePageSections kdb' pageId = listKnowledgePageSections kdb pageId
  sourceRefs : listKnowledgePageSourceRefs kdb' pageId = listKnowledgePageSourceRefs kdb pageId

theorem SamePage.refl (pageId : Uuid) (kdb : KnowledgeDb) : SamePage pageId kdb kdb := ⟨rfl, rfl, rfl⟩

theorem SamePage.trans (h : SamePage pageId kdb mid) (h' : SamePage pageId mid kdb')
    : SamePage pageId kdb kdb' :=
  ⟨h'.row.trans h.row, h'.sections.trans h.sections, h'.sourceRefs.trans h.sourceRefs⟩

theorem SamePage.of_eq (hpages : kdb'.pages.find? pageId = kdb.pages.find? pageId)
    (hsections : kdb'.sections = kdb.sections) (hrefs : kdb'.sourceRefs = kdb.sourceRefs)
    : SamePage pageId kdb kdb' := by
  refine ⟨hpages, ?_, ?_⟩
  . unfold listKnowledgePageSections
    rw [hsections]
  . unfold listKnowledgePageSourceRefs
    rw [hrefs]

theorem PageHolds.of_samePage (h : PageHolds kdb page sections sources)
    (hsame : SamePage page.pageId kdb kdb') : PageHolds kdb' page sections sources where
  row := by rw [hsame.row, h.row]
  shown := by
    rw [hsame.sections]
    exact h.shown
  shows := by
    rw [hsame.sections]
    exact h.shows
  cited := by
    rw [hsame.sourceRefs]
    exact h.cited
  cites := by
    rw [hsame.sourceRefs]
    exact h.cites

/-- The children of one page are replaced, and those of the others are left alone. -/
theorem samePage_of_replaced {drafts : List DraftSection} {otherId : Uuid} (hne : pageId ≠ otherId)
    (h : replacePageChildren draw otherId drafts sources [] kdb = .ok kdb')
    : SamePage pageId kdb kdb' := by
  have hextends := replacePageChildren_extends h
  refine ⟨?_, ?_, ?_⟩
  . rw [hextends.pages]
    rfl
  . unfold listKnowledgePageSections
    rw [hextends.sections, List.filter_append]
    have hnew : (drafts.map fun draft => draft.row otherId draw.now).filter
        (fun row => decide (row.pageId = pageId)) = [] := by
      rw [List.filter_eq_nil_iff]
      intro row hrow
      rcases List.mem_map.mp hrow with ⟨draft, -, rfl⟩
      rw [decide_eq_true_eq]
      exact fun heq => hne heq.symm
    rw [hnew, List.append_nil]
    unfold deleteKnowledgePageChildren
    rw [Table.rows_deleteWhere, List.filter_filter]
    congr 1
    apply List.filter_congr
    intro row _
    rw [Bool.and_eq_left_iff_imp, decide_eq_true_eq, Bool.not_eq_true', decide_eq_false_iff_not]
    intro heq
    rw [heq]
    exact hne
  . unfold listKnowledgePageSourceRefs
    rw [hextends.refs, List.filter_append]
    have hnew : (drafts.flatMap (DraftSection.refRows draw otherId sources)).filter
        (fun sourceRef => decide (sourceRef.pageId = pageId)) = [] := by
      rw [List.filter_eq_nil_iff]
      intro sourceRef href
      rcases List.mem_flatMap.mp href with ⟨draft, -, hrow⟩
      rcases mem_refRows.mp hrow with ⟨index, -, source, -, rfl⟩
      rw [decide_eq_true_eq]
      exact fun heq => hne heq.symm
    rw [hnew, List.append_nil]
    unfold deleteKnowledgePageChildren
    rw [Table.rows_deleteWhere, List.filter_filter]
    congr 1
    apply List.filter_congr
    intro sourceRef _
    rw [Bool.and_eq_left_iff_imp, decide_eq_true_eq, Bool.not_eq_true', decide_eq_false_iff_not]
    intro heq
    rw [heq]
    exact hne

/-! ## Steps -/

variable {db : SourceDb} {req : KnowledgePageRebuildRequest} {a : KnowledgeStep}

theorem tables_of_lint {req : KnowledgePageLintRequest} {resp : KnowledgePageLintResponse}
    (h : knowledgePageLint svc db draw req kdb = .ok (resp, kdb'))
    : kdb'.pages = kdb.pages ∧ kdb'.sections = kdb.sections ∧ kdb'.sourceRefs = kdb.sourceRefs := by
  unfold knowledgePageLint at h
  simp only [Except.bind_eq_ok, Except.pure_eq_ok] at h
  rcases h with ⟨page, -, findings, -, linted, hlinted, heq⟩
  cases heq
  rcases insertLintFindings_eq_ok_iff.mp hlinted with ⟨lintFindings, -, rfl⟩
  exact ⟨rfl, rfl, rfl⟩

/-- Where the page of a request is. -/
def KnowledgePageRebuildRequest.contextKey (req : KnowledgePageRebuildRequest)
    : String × String × String × String :=
  (req.tenantId, req.projectId, req.pageKind.asStr, req.pageKey)

theorem Rebuilds.upserts (h : Rebuilds svc db draw req kdb sources page mid kdb')
    : kdb.Upserts svc.jsonb (nextPage svc draw req kdb sources) page mid :=
  upsertKnowledgePage_upserts h.upserted

theorem Rebuilds.contextKey (h : Rebuilds svc db draw req kdb sources page mid kdb')
    : page.contextKey = req.contextKey :=
  congrArg KnowledgePage.contextKey h.upserts.columns

/-- The parts of the key of a page that was built. -/
theorem Rebuilds.key (h : Rebuilds svc db draw req kdb sources page mid kdb')
    : page.tenantId = req.tenantId ∧ page.projectId = req.projectId
      ∧ page.pageKind = req.pageKind.asStr ∧ page.pageKey = req.pageKey := by
  have hkey := h.contextKey
  unfold KnowledgePage.contextKey KnowledgePageRebuildRequest.contextKey at hkey
  simp only [Prod.mk.injEq] at hkey
  exact hkey

theorem Rebuilds.pages (h : Rebuilds svc db draw req kdb sources page mid kdb')
    : kdb'.pages = mid.pages :=
  (replacePageChildren_extends h.replaced).pages

theorem Rebuilds.pageHolds (h : Rebuilds svc db draw req kdb sources page mid kdb')
    : PageHolds kdb' page (citedSections svc draw sources) sources :=
  pageHolds_of_replaced h.upserts.found h.replaced

/-- A rebuild leaves the pages in other places alone. -/
theorem Rebuilds.samePage (h : Rebuilds svc db draw req kdb sources page mid kdb')
    (hother : kdb.pages.find? other.pageId = some other) (hne : other.contextKey ≠ req.contextKey)
    : SamePage other.pageId kdb kdb' := by
  have hid : other.pageId ≠ page.pageId := by
    apply h.upserts.apart other (Table.mem_of_find? hother)
    rw [h.contextKey]
    exact hne
  have hupserted : SamePage other.pageId kdb mid :=
    SamePage.of_eq (h.upserts.others other.pageId hid) h.upserts.sections h.upserts.sourceRefs
  exact hupserted.trans (samePage_of_replaced hid h.replaced)

/-- A rebuild keeps the references on the pages of their sections. -/
theorem Rebuilds.wellFormed (h : Rebuilds svc db draw req kdb sources page mid kdb')
    (hkdb : kdb.WellFormed) : kdb'.WellFormed :=
  replacePageChildren_wellFormed (hkdb.congr h.upserts.sections h.upserts.sourceRefs) h.replaced

/-- The step does not rebuild the page in a place. -/
def KnowledgeStep.Spares (contextKey : String × String × String × String) (a : KnowledgeStep) : Prop :=
  ∀ req, a.op = .rebuild req → req.contextKey ≠ contextKey

theorem knowledgeSteps_cases (h : KnowledgeSteps svc kdb a kdb')
    : kdb' = kdb
      ∨ (∃ req, a.op = .rebuild req ∧ ∃ sources page mid,
        Rebuilds svc a.sources a.draw req kdb sources page mid kdb')
      ∨ (kdb'.pages = kdb.pages ∧ kdb'.sections = kdb.sections ∧ kdb'.sourceRefs = kdb.sourceRefs) := by
  unfold KnowledgeSteps KnowledgeStep.next at h
  cases hop : a.op with
  | rebuild req =>
    rw [hop] at h
    rcases Transaction.next_cases (knowledgePageRebuild svc a.sources a.draw req) kdb with
      ⟨resp, hresp⟩ | ⟨-, -, hsame⟩
    . dsimp only at h
      rw [h] at hresp
      rcases rebuilds_of_ok hresp with ⟨sources, mid, hrebuilds⟩
      exact Or.inr (Or.inl ⟨req, rfl, sources, resp.page, mid, hrebuilds⟩)
    . exact Or.inl (h.symm.trans hsame)
  | lint req =>
    rw [hop] at h
    rcases Transaction.next_cases (knowledgePageLint svc a.sources a.draw req) kdb with
      ⟨resp, hresp⟩ | ⟨-, -, hsame⟩
    . dsimp only at h
      rw [h] at hresp
      exact Or.inr (Or.inr (tables_of_lint hresp))
    . exact Or.inl (h.symm.trans hsame)

theorem uniqueKeys_of_step (hunique : kdb.UniqueKeys) (h : KnowledgeSteps svc kdb a kdb')
    : kdb'.UniqueKeys := by
  rcases knowledgeSteps_cases h with rfl | ⟨req, -, sources, page, mid, hrebuilds⟩ | ⟨hpages, -, -⟩
  . exact hunique
  . unfold KnowledgeDb.UniqueKeys
    rw [hrebuilds.pages]
    exact hrebuilds.upserts.unique hunique
  . unfold KnowledgeDb.UniqueKeys
    rw [hpages]
    exact hunique

theorem wellFormed_of_step (hkdb : kdb.WellFormed) (h : KnowledgeSteps svc kdb a kdb')
    : kdb'.WellFormed := by
  rcases knowledgeSteps_cases h with rfl | ⟨req, -, sources, page, mid, hrebuilds⟩ |
    ⟨-, hsections, hrefs⟩
  . exact hkdb
  . exact hrebuilds.wellFormed hkdb
  . exact hkdb.congr hsections hrefs

theorem pageHolds_of_step (hholds : PageHolds kdb page sections sources)
    (hspares : a.Spares page.contextKey) (h : KnowledgeSteps svc kdb a kdb')
    : PageHolds kdb' page sections sources := by
  apply hholds.of_samePage
  rcases knowledgeSteps_cases h with rfl | ⟨req, hop, others, other, mid, hrebuilds⟩ |
    ⟨hpages, hsections, hrefs⟩
  . exact SamePage.refl page.pageId _
  . exact hrebuilds.samePage hholds.row (hspares req hop).symm
  . exact SamePage.of_eq (by rw [hpages]) hsections hrefs

/-! ## Runs -/

/-- There is one page in each place, after any run. -/
theorem uniqueKeys_of_run {as : List KnowledgeStep} (h : Run (KnowledgeSteps svc) .empty as kdb)
    : kdb.UniqueKeys := by
  have hstep : ∀ kdb a kdb', KnowledgeDb.UniqueKeys kdb → KnowledgeSteps svc kdb a kdb' →
      KnowledgeDb.UniqueKeys kdb' := fun _ _ _ => uniqueKeys_of_step
  apply h.invariant hstep
  intro page hpage
  cases hpage

/-- The references are on the pages of their sections, after any run. -/
theorem wellFormed_of_run {as : List KnowledgeStep} (h : Run (KnowledgeSteps svc) .empty as kdb)
    : kdb.WellFormed := by
  have hstep : ∀ kdb a kdb', KnowledgeDb.WellFormed kdb → KnowledgeSteps svc kdb a kdb' →
      KnowledgeDb.WellFormed kdb' := fun _ _ _ => wellFormed_of_step
  exact h.invariant hstep wellFormed_empty

/-- A page holds what it was built of until it is rebuilt. -/
theorem pageHolds_of_run {as : List KnowledgeStep} (hholds : PageHolds kdb page sections sources)
    (h : Run (Run.Guarded (fun _ a => a.Spares page.contextKey) (KnowledgeSteps svc)) kdb as kdb')
    : PageHolds kdb' page sections sources := by
  have hstep : ∀ kdb a kdb', PageHolds kdb page sections sources →
      Run.Guarded (fun _ a => a.Spares page.contextKey) (KnowledgeSteps svc) kdb a kdb' →
      PageHolds kdb' page sections sources := by
    intro kdb a kdb' hkdb hguarded
    exact pageHolds_of_step hkdb hguarded.1 hguarded.2
  have hinvariant := h.invariant hstep
  exact hinvariant hholds

end Elf
