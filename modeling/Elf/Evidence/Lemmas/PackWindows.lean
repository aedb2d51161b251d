import Elf.Evidence.Lemmas.Windows
import Elf.Evidence.Lemmas.Pack

/-!
This module contains that the windows of a pack are text of the documents: those that a note is
resolved to, and those that they are merged into.
-/

namespace Elf

open Text

variable {svc : ReadService} {db : DocStore} {doc : DocDocument}

/-! ## Excerpts -/

theorem excerptLevelMax_le (h : excerptLevelMax level = .ok levelMax) : levelMax ≤ defaultL2MaxBytes := by
  unfold excerptLevelMax at h
  split at h
  . cases h
    decide
  . cases h
    decide
  . cases h
    decide
  . cases h

/-- What a reference that an excerpt carries refers to. -/
theorem excerpt_reference {req : DocsExcerptsGetRequest} {maxBytes : Option Nat}
    {response : DocsExcerptResponse} (h : docsExcerptsGetBounded svc db req maxBytes = .ok response)
    (hverified : response.verification.verified = true)
    : ∃ doc, Reads svc db req.context req.docId doc
      ∧ response.verification.contentHash = doc.contentHash
      ∧ response.reference = some (sourceReference doc.docId doc.contentHash response.startOffset
        response.endOffset)
      ∧ Slice doc.content response.startOffset response.endOffset response.excerpt
      ∧ response.startOffset < response.endOffset
      ∧ response.endOffset - response.startOffset ≤ defaultL2MaxBytes := by
  rcases docsExcerptsGetBounded_eq_ok.mp h with ⟨-, -, doc, levelMax, found, hreads, hlevel, -, heq⟩
  subst heq
  have hnonempty := (excerptOfMatch_verified.mp hverified).2
  have hslice := excerptOfMatch_slice hnonempty
  have hspan := hslice.size
  have hpos := utf8ByteSize_pos hnonempty
  have hsize := @excerptOfMatch_size svc doc req (req.window levelMax maxBytes) found
  have hmax := excerptLevelMax_le hlevel
  have hwindow : req.window levelMax maxBytes ≤ levelMax := by
    unfold DocsExcerptsGetRequest.window
    omega
  refine ⟨doc, hreads, rfl, ?_, hslice, by omega, by omega⟩
  unfold excerptOfMatch at hverified ⊢
  dsimp only at hverified ⊢
  rw [if_pos hverified]

/-! ## Windows -/

/-- The source is text of a document of the tables, as its reference says. -/
structure IsWindow (db : DocStore) (source : EvidencePackSource) : Prop where
  reference : source.reference
    = sourceReference source.docId source.contentHash source.start source.stop
  nonempty : source.start < source.stop
  slice : ∃ doc, db.documents.find? source.docId = some doc ∧ doc.contentHash = source.contentHash
    ∧ Slice doc.content source.start source.stop source.text

theorem IsWindow.size (h : IsWindow db source)
    : source.start + source.text.utf8ByteSize = source.stop := by
  rcases h.slice with ⟨doc, -, -, hslice⟩
  exact hslice.size

/-- The content of the documents of the tables, whichever version is asked for. -/
def contentOf (db : DocStore) : Contents := fun docId _ =>
  ((db.documents.find? docId).map DocDocument.content).getD ""

theorem contentOf_eq {docId : Uuid} (h : db.documents.find? docId = some doc) (hash : String)
    : contentOf db docId hash = doc.content := by
  unfold contentOf
  rw [h, Option.map_some, Option.getD_some]

theorem IsWindow.windowOf (h : IsWindow db source) : WindowOf (contentOf db) source := by
  rcases h.slice with ⟨doc, hdoc, -, hslice⟩
  refine ⟨h.reference, ?_⟩
  rw [contentOf_eq hdoc]
  exact hslice

/-- The windows of a pack are merged into windows, which are no longer together. -/
theorem mergeSources_windows {sources : List EvidencePackSource}
    (h : ∀ source ∈ sources, IsWindow db source)
    : ∃ merged, mergeSources sources = some merged ∧ (∀ source ∈ merged, IsWindow db source)
      ∧ sourceBytesOf merged ≤ sourceBytesOf sources := by
  rcases mergeSources_windowOf fun source hsource => (h source hsource).windowOf
    with ⟨merged, hmerged, hwindows, hbytes⟩
  refine ⟨merged, hmerged, ?_, hbytes⟩
  intro m hm
  -- A merged window has the document and some of the bytes of one that it was merged from.
  rcases mergeSources_within hmerged m hm with ⟨source, hsource, hin⟩
  have hsame := EvidencePackSource.sameVersion_iff.mp hin.version
  have hspan := (h source hsource).nonempty
  have hstart := hin.start
  have hstop := hin.stop
  rcases (h source hsource).slice with ⟨doc, hdoc, hhash, -⟩
  have hslice := (hwindows m hm).slice
  rw [← hsame.1] at hdoc
  rw [contentOf_eq hdoc] at hslice
  exact ⟨(hwindows m hm).reference, by omega, doc, hdoc, hhash.trans hsame.2.symm, hslice⟩

/-! ## Notes -/

/-- A source that a pointer is resolved to is a window, of the document that the reader sees. -/
theorem resolveNoteSource_window {context : ReadContext} {pointer : Pointer}
    {quote : Option String} {windowBytes : Nat} {source : NoteSourceEvidence}
    (h : resolveNoteSource svc db context pointer quote windowBytes = .ok source)
    : IsWindow db (EvidencePackSource.fromEvidence source) := by
  unfold resolveNoteSource at h
  simp only [Except.bind_eq_ok, Except.rejectIf_eq_ok, Except.pure_eq_ok] at h
  rcases h with ⟨metadata, hget, -, -, -, -, excerpt, hexcerpt, -, hguard, hsource⟩
  rcases docsGet_eq_ok.mp hget with ⟨doc, hreads, hmetadata⟩
  simp only [Bool.or_eq_false_iff, Bool.not_eq_false'] at hguard
  have hverified := hguard.1.1.1.1
  rcases excerpt_reference hexcerpt hverified with ⟨doc', hreads', -, -, hslice, hlt, -⟩
  have hdoc := hreads.unique hreads'
  have hfind := hreads.find
  have hid := Table.key_of_find? hfind
  subst hdoc
  rw [hsource, hmetadata]
  refine ⟨rfl, hlt, _, ?_, rfl, hslice⟩
  unfold EvidencePackSource.fromEvidence DocsGetResponse.ofDocument
  dsimp only
  rw [hid]
  exact hfind

theorem expandPointers_sources {P : NoteSourceEvidence → Prop}
    {resolve : Pointer → Option String → Except Error NoteSourceEvidence}
    (hresolve : ∀ pointer quote source, resolve pointer quote = .ok source → P source)
    {pointers : List (Json × Option String)} {st st' : EvidenceState}
    (hst : ∀ source ∈ st.sources, P source) (h : expandPointers resolve st pointers = .ok st')
    : ∀ source ∈ st'.sources, P source := by
  induction pointers generalizing st with
  | nil =>
    cases h
    exact hst
  | cons entry pointers ih =>
    rcases entry with ⟨value, quote⟩
    unfold expandPointers at h
    split at h
    . apply @ih st.incomplete hst h
    next pointer _ =>
      dsimp only at h
      split at h
      . apply @ih st.incomplete hst h
      . split at h
        . apply ih hst h
        . split at h
          . exact ih (by exact hst) h
          . split at h
            next source hsource =>
              apply ih ?_ h
              intro found hfound
              unfold EvidenceState.push at hfound
              split at hfound
              . exact hst found hfound
              . cases List.mem_append.mp hfound with
                | inl hold => exact hst found hold
                | inr hnew =>
                  rw [List.mem_singleton] at hnew
                  rw [hnew]
                  exact hresolve pointer quote source hsource
            . split at h
              . exact ih (by exact hst) h
              . cases h

theorem noteEvidenceBounded_windows {now : Nat} {req : NoteFetchRequest} {readProfile : String}
    {budget : Option Nat} {expanded : NoteEvidenceResponse}
    (h : noteEvidenceBounded svc db now req readProfile budget = .ok expanded)
    : ∀ source ∈ expanded.sources, IsWindow db (EvidencePackSource.fromEvidence source) := by
  unfold noteEvidenceBounded at h
  simp only [Except.bind_eq_ok, Except.pure_eq_ok] at h
  rcases h with ⟨scopes, -, note, -, -, -, st, hst, hexpanded⟩
  rw [hexpanded]
  have hempty : ∀ source ∈ ([] : List NoteSourceEvidence),
      IsWindow db (EvidencePackSource.fromEvidence source) := by
    intro source hsource
    cases hsource
  exact expandPointers_sources (fun _ _ _ hsource => resolveNoteSource_window hsource) hempty hst

/-- The documents are still there, with the content and the hash that they had. -/
def Unchanged (db db' : DocStore) : Prop :=
  ∀ docId doc, db.documents.find? docId = some doc → ∃ doc', db'.documents.find? docId = some doc'
    ∧ doc'.content = doc.content ∧ doc'.contentHash = doc.contentHash

theorem Unchanged.refl (db : DocStore) : Unchanged db db := fun _ doc hdoc => ⟨doc, hdoc, rfl, rfl⟩

theorem IsWindow.unchanged (h : IsWindow db source) (hdb : Unchanged db db') : IsWindow db' source := by
  rcases h.slice with ⟨doc, hdoc, hhash, hslice⟩
  rcases hdb _ doc hdoc with ⟨doc', hdoc', hcontent, hhash'⟩
  exact ⟨h.reference, h.nonempty, doc', hdoc', by rw [hhash', hhash], by rw [hcontent]; exact hslice⟩

/-! ## Packs -/

/-- The sources of a pack under assembly. -/
structure PackWindows (db : DocStore) (budget : Nat) (pack : EvidencePackResponse) : Prop where
  window : ∀ source ∈ pack.sources, IsWindow db source
  bytes : pack.sourceBytes = sourceBytesOf pack.sources
  budget : pack.sourceBytes ≤ budget

theorem addSources_windows {budget : Nat} {pack : EvidencePackResponse} {note : EvidencePackNote}
    {sources : List NoteSourceEvidence} (h : PackWindows db budget pack)
    (hsources : ∀ source ∈ sources, IsWindow db (EvidencePackSource.fromEvidence source))
    : PackWindows db budget (addSources budget pack note sources).1 := by
  induction sources generalizing pack note with
  | nil => exact h
  | cons source sources ih =>
    have hlater : ∀ source ∈ sources, IsWindow db (EvidencePackSource.fromEvidence source) :=
      fun later hlater => hsources later (List.mem_cons_of_mem _ hlater)
    unfold addSources
    dsimp only
    split
    . exact ih h hlater
    . split
      . exact ih h hlater
      next hfits =>
        apply ih ?_ hlater
        have hbytes := h.bytes
        have hbudget := h.budget
        have htext : (EvidencePackSource.fromEvidence source).text = source.excerpt.excerpt := rfl
        constructor
        . intro found hfound
          cases List.mem_append.mp hfound with
          | inl hold => exact h.window found hold
          | inr hnew =>
            rw [List.mem_singleton] at hnew
            rw [hnew]
            exact hsources source (List.mem_cons_self ..)
        . unfold sourceBytesOf at hbytes ⊢
          dsimp only
          rw [List.map_append, List.sum_append, List.map_cons, List.map_nil, List.sum_singleton,
            htext, hbytes]
        . dsimp only
          omega

theorem addNotes_windows {resolve : Uuid → Except Error NoteEvidenceResponse}
    (hresolve : ∀ noteId expanded, resolve noteId = .ok expanded →
      ∀ source ∈ expanded.sources, IsWindow db (EvidencePackSource.fromEvidence source))
    {budget : Nat} {pack pack' : EvidencePackResponse} {noteIds : List Uuid}
    (hpack : PackWindows db budget pack) (h : addNotes resolve budget pack noteIds = .ok pack')
    : PackWindows db budget pack' := by
  induction noteIds generalizing pack with
  | nil =>
    cases h
    exact hpack
  | cons noteId noteIds ih =>
    unfold addNotes at h
    split at h
    next expanded hexpanded =>
      apply ih ?_ h
      have hadded := @addSources_windows db budget pack (EvidencePackNote.ofExpanded noteId expanded)
        expanded.sources hpack (hresolve noteId expanded hexpanded)
      exact ⟨hadded.window, hadded.bytes, hadded.budget⟩
    . split at h
      . apply ih ?_ h
        exact ⟨hpack.window, hpack.bytes, hpack.budget⟩
      . cases h

theorem mergeOverlaps_windows {budget : Nat} {pack : EvidencePackResponse}
    (h : PackWindows db budget pack)
    : ∃ merged, mergeOverlaps pack = some merged ∧ PackWindows db budget merged := by
  rcases mergeSources_windows h.window with ⟨sources, hsources, hwindows, hbytes⟩
  have hbudget := h.budget
  rw [h.bytes] at hbudget
  unfold mergeOverlaps
  rw [hsources]
  exact ⟨_, rfl, hwindows, rfl, Nat.le_trans hbytes hbudget⟩

theorem mem_sourceBytesOf {sources : List EvidencePackSource} {source : EvidencePackSource}
    (h : source ∈ sources) : source.text.utf8ByteSize ≤ sourceBytesOf sources := by
  have hperm := sourceBytesOf_perm (List.perm_cons_erase h)
  unfold sourceBytesOf at hperm ⊢
  rw [hperm, List.map_cons, List.sum_cons]
  omega

/-- Every source of a pack is a window that is no longer than an excerpt may be. -/
theorem evidencePack_windows {resolve : Uuid → Nat → Except Error NoteEvidenceResponse}
    (hresolve : ∀ noteId bytes expanded, resolve noteId bytes = .ok expanded →
      ∀ source ∈ expanded.sources, IsWindow db (EvidencePackSource.fromEvidence source))
    {req : EvidencePackRequest} {pack : EvidencePackResponse}
    (h : evidencePack svc fuel resolve req = some (.ok pack))
    : ∀ source ∈ pack.sources, IsWindow db source
      ∧ source.stop - source.start ≤ defaultL2MaxBytes := by
  unfold evidencePack at h
  split at h
  . cases h
  . split at h
    . cases h
    next assembled hassembled =>
      have hcut := (limitBytes_spec h).2
      unfold assemblePack at hassembled
      simp only [Except.bind_eq_ok, Except.rejectIf_eq_ok, Except.ofOption_eq_ok] at hassembled
      rcases hassembled with ⟨-, hguard, -, -, added, hadded, hmerged⟩
      simp only [Bool.or_eq_false_iff, decide_eq_false_iff_not, Nat.not_lt] at hguard
      have hempty : PackWindows db req.budget .empty := by
        refine ⟨?_, rfl, Nat.zero_le _⟩
        intro source hsource
        cases hsource
      have hwindows := addNotes_windows (fun noteId expanded => hresolve noteId _ expanded) hempty hadded
      rcases mergeOverlaps_windows hwindows with ⟨merged, hmerged', hmergedwindows⟩
      rw [hmerged'] at hmerged
      cases hmerged
      intro source hsource
      have hmem := hcut.sources hsource
      have hwindow := hmergedwindows.window source hmem
      have hsize := hwindow.size
      have hbytes := mem_sourceBytesOf hmem
      have hbudget := hmergedwindows.budget
      rw [hmergedwindows.bytes] at hbudget
      refine ⟨hwindow, ?_⟩
      unfold defaultL2MaxBytes
      omega

end Elf
