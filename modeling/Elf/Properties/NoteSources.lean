import Elf.Evidence.Lemmas.Quotes
import Elf.Evidence.Sources
import Elf.Properties.EvidenceReferences

/-!
This module contains when the evidence of a note is resolved: a span that fits the window always is,
a longer one if and only if the document has no occurrence of the quote before it.
-/

namespace Elf

open Text

variable {svc : ReadService} {db : DocStore} {doc : DocDocument} {context : ReadContext}
variable {pointer : Pointer} {quote : String} {windowBytes : Nat}

/-! ## Definitions -/

/-- A stored pointer to a span of the document, with a quote that occurs in the span. -/
structure StoredPointer (doc : DocDocument) (pointer : Pointer) (quote : String) (windowBytes : Nat)
    : Prop where
  contentHash : doc.contentHash = pointer.contentHash
  start : IsBoundary doc.content pointer.position.start
  stop : IsBoundary doc.content pointer.position.stop
  nonempty : quote ≠ ""
  occurs : ∃ i j, Slice doc.content i j quote ∧ pointer.position.start ≤ i ∧ j ≤ pointer.position.stop
  fits : quote.utf8ByteSize ≤ windowBytes

/-- The pointer is resolved to an excerpt that shows an occurrence of the quote inside the span. -/
def Resolves (svc : ReadService) (db : DocStore) (context : ReadContext) (doc : DocDocument)
    (pointer : Pointer) (quote : String) (windowBytes : Nat) : Prop :=
  ∃ source, resolveNoteSource svc db context pointer (some quote) windowBytes = .ok source
    ∧ Slice doc.content source.excerpt.startOffset source.excerpt.endOffset source.excerpt.excerpt
    ∧ ∃ i j, Slice doc.content i j quote
      ∧ pointer.position.start ≤ i ∧ j ≤ pointer.position.stop
      ∧ source.excerpt.startOffset ≤ i ∧ j ≤ source.excerpt.endOffset

/--
The span fits the window, or the quote is a text that is not blank and that does not occur before
the span.
-/
def SpanFitsOrQuoteLeads (doc : DocDocument) (pointer : Pointer) (quote : String)
    (windowBytes : Nat) : Prop :=
  pointer.position.stop - pointer.position.start ≤ windowBytes
    ∨ (isValidText quote = true ∧ isBlank quote = false
      ∧ ∀ i j, Slice doc.content i j quote → pointer.position.start ≤ i)

/-! ## Steps -/

theorem StoredPointer.span (h : StoredPointer doc pointer quote windowBytes)
    : pointer.position.start < pointer.position.stop := by
  rcases h.occurs with ⟨i, j, hslice, hi, hj⟩
  have hsize := hslice.size
  have hpos := utf8ByteSize_pos h.nonempty
  omega

/-- What the resolver asks of the excerpt. -/
theorem resolveNoteSource_eq_ok {evidenceQuote : Option String} {source : NoteSourceEvidence}
    : resolveNoteSource svc db context pointer evidenceQuote windowBytes = .ok source
        ↔ ∃ doc, Reads svc db context pointer.docId doc ∧ doc.contentHash = pointer.contentHash
          ∧ (decide (windowBytes < pointer.position.stop - pointer.position.start)
              && evidenceQuote.all isBlank) = false
          ∧ source.metadata = DocsGetResponse.ofDocument doc
          ∧ docsExcerptsGetBounded svc db (pointer.excerptRequest context evidenceQuote
              (decide (windowBytes < pointer.position.stop - pointer.position.start)))
              (some windowBytes) = .ok source.excerpt
          ∧ source.excerpt.verification.verified = true
          ∧ source.excerpt.verification.contentHash = doc.contentHash
          ∧ (∀ quote ∈ evidenceQuote, contains source.excerpt.excerpt quote = true)
          ∧ pointer.position.start ≤ source.excerpt.locator.matchStartOffset
          ∧ source.excerpt.locator.matchEndOffset ≤ pointer.position.stop := by
  unfold resolveNoteSource
  simp only [Except.bind_eq_ok, Except.rejectIf_eq_ok, Except.pure_eq_ok, docsGet_eq_ok,
    decide_eq_false_iff_not, not_not, Bool.or_eq_false_iff, Bool.not_eq_false', Option.all_eq_true,
    Nat.not_lt]
  constructor
  . intro h
    rcases h with ⟨metadata, ⟨doc, hreads, hmetadata⟩, ⟨⟩, hhash, ⟨⟩, hblank, excerpt, hexcerpt, ⟨⟩,
      ⟨⟨⟨⟨hverified, hexcerpthash⟩, hcontains⟩, hstart⟩, hstop⟩, hsource⟩
    rw [hsource]
    rw [hmetadata] at hhash hexcerpthash
    exact ⟨doc, hreads, hhash, hblank, hmetadata, hexcerpt, hverified, hexcerpthash, hcontains,
      hstart, hstop⟩
  . intro h
    rcases h with ⟨doc, hreads, hhash, hblank, hmetadata, hexcerpt, hverified, hexcerpthash,
      hcontains, hstart, hstop⟩
    rcases source with ⟨metadata, excerpt⟩
    dsimp only at hmetadata
    subst hmetadata
    exact ⟨_, ⟨doc, hreads, rfl⟩, (), hhash, (), hblank, excerpt, hexcerpt, (),
      ⟨⟨⟨⟨hverified, hexcerpthash⟩, hcontains⟩, hstart⟩, hstop⟩, rfl⟩

/-- What the request of a pointer is answered with. -/
theorem excerptRequest_eq_ok {useQuote : Bool} {excerpt : DocsExcerptResponse}
    (hreads : Reads svc db context pointer.docId doc) (hwindow : windowBytes ≤ defaultL2MaxBytes)
    : docsExcerptsGetBounded svc db (pointer.excerptRequest context (some quote) useQuote)
          (some windowBytes) = .ok excerpt
        ↔ validateQuoteSelector (pointer.excerptRequest context (some quote) useQuote).quote = .ok ()
          ∧ ∃ found, resolveExcerptsMatchRange db doc
              (pointer.excerptRequest context (some quote) useQuote) = .ok found
            ∧ excerpt = excerptOfMatch svc doc
              (pointer.excerptRequest context (some quote) useQuote) windowBytes found := by
  have hbytes : (pointer.excerptRequest context (some quote) useQuote).window defaultL2MaxBytes
      (some windowBytes) = windowBytes := by
    unfold DocsExcerptsGetRequest.window Pointer.excerptRequest
    simp only [Option.getD_some, Option.getD_none]
    omega
  rw [docsExcerptsGetBounded_eq_ok]
  constructor
  . intro h
    rcases h with ⟨-, hselector, doc', levelMax, found, hreads', hlevel, hfound, hexcerpt⟩
    have hdoc := hreads.unique hreads'
    subst hdoc
    cases hlevel
    rw [hbytes] at hexcerpt
    exact ⟨hselector, found, hfound, hexcerpt⟩
  . intro h
    rcases h with ⟨hselector, found, hfound, hexcerpt⟩
    refine ⟨by simp [Pointer.excerptRequest], hselector, doc, defaultL2MaxBytes, found, hreads, rfl,
      hfound, ?_⟩
    rw [hbytes]
    exact hexcerpt

/-- An excerpt that shows an occurrence of the quote inside the span is what is asked for. -/
theorem resolves_of_shows {useQuote : Bool} {found : DocExcerptMatch} {i j : Nat}
    (hreads : Reads svc db context pointer.docId doc)
    (h : StoredPointer doc pointer quote windowBytes) (hwindow : windowBytes ≤ defaultL2MaxBytes)
    (huse : decide (windowBytes < pointer.position.stop - pointer.position.start) = useQuote)
    (hblank : (useQuote && (some quote).all isBlank) = false)
    (hselector : validateQuoteSelector (pointer.excerptRequest context (some quote) useQuote).quote
      = .ok ())
    (hfound : resolveExcerptsMatchRange db doc (pointer.excerptRequest context (some quote) useQuote)
      = .ok found)
    (hshows : Shows doc found.matchStartOffset found.matchEndOffset (excerptOfMatch svc doc
      (pointer.excerptRequest context (some quote) useQuote) windowBytes found))
    (hstart : pointer.position.start ≤ found.matchStartOffset)
    (hstop : found.matchEndOffset ≤ pointer.position.stop) (hslice : Slice doc.content i j quote)
    (hi : found.matchStartOffset ≤ i) (hj : j ≤ found.matchEndOffset)
    : Resolves svc db context doc pointer quote windowBytes := by
  have hleft := hshows.left
  have hright := hshows.right
  refine ⟨⟨DocsGetResponse.ofDocument doc, excerptOfMatch svc doc
    (pointer.excerptRequest context (some quote) useQuote) windowBytes found⟩, ?_, hshows.slice, i, j,
    hslice, by omega, by omega, by dsimp only; omega, by dsimp only; omega⟩
  rw [resolveNoteSource_eq_ok, huse]
  refine ⟨doc, hreads, h.contentHash, hblank, rfl, (excerptRequest_eq_ok hreads hwindow).mpr
    ⟨hselector, found, hfound, rfl⟩, hshows.verified, rfl, ?_, hstart, hstop⟩
  intro other hother
  cases hother
  rw [contains_iff]
  exact ⟨_, _, hshows.slice.inside hslice (by omega) (by omega)⟩

/-! ## Spans -/

/-- A span that fits the window is resolved. -/
theorem resolves_of_fits (hreads : Reads svc db context pointer.docId doc)
    (h : StoredPointer doc pointer quote windowBytes) (hwindow : windowBytes ≤ defaultL2MaxBytes)
    (hfits : pointer.position.stop - pointer.position.start ≤ windowBytes)
    : Resolves svc db context doc pointer quote windowBytes := by
  rcases h.occurs with ⟨i, j, hslice, hi, hj⟩
  rcases Slice.exists_of_isBoundary h.start h.stop (Nat.le_of_lt h.span) with ⟨span, hspan⟩
  have hfound : resolveExcerptsMatchRange db doc (pointer.excerptRequest context (some quote) false)
      = .ok ⟨.position, pointer.position.start, pointer.position.stop, []⟩ := by
    rw [← positionMatch_eq hspan]
    exact resolveExcerptsMatchRange_position rfl rfl rfl
  have hshows := @excerpt_shows svc doc (pointer.excerptRequest context (some quote) false) windowBytes
    ⟨.position, pointer.position.start, pointer.position.stop, []⟩ span hspan h.span hfits rfl
  exact resolves_of_shows hreads h hwindow (by simp; omega) rfl rfl hfound hshows (Nat.le_refl _)
    (Nat.le_refl _) hslice hi hj

theorem validateQuoteSelector_quote
    : validateQuoteSelector (some ⟨quote, none, none⟩) = .ok () ↔ isValidText quote = true := by
  unfold validateQuoteSelector validateQuoteSelectorText
  simp [Except.bind_eq_ok, Except.rejectIf_eq_ok]

/-- A span that does not fit is resolved by the first occurrence of the quote. -/
theorem resolves_iff_of_long (hreads : Reads svc db context pointer.docId doc)
    (h : StoredPointer doc pointer quote windowBytes) (hwindow : windowBytes ≤ defaultL2MaxBytes)
    (hlong : windowBytes < pointer.position.stop - pointer.position.start)
    : Resolves svc db context doc pointer quote windowBytes
        ↔ isValidText quote = true ∧ isBlank quote = false
          ∧ ∀ i j, Slice doc.content i j quote → pointer.position.start ≤ i := by
  rcases h.occurs with ⟨i, j, hslice, hi, hj⟩
  have hsize := hslice.size
  rcases locateQuote_first h.nonempty hslice with ⟨first, hlocate, hfirst⟩
  have hleast := hfirst.least i j hslice
  have hfound : resolveExcerptsMatchRange db doc (pointer.excerptRequest context (some quote) true)
      = .ok ⟨.quote, first, first + quote.utf8ByteSize, []⟩ := by
    unfold resolveExcerptsMatchRange Pointer.excerptRequest
    simp [hlocate]
  have huse : decide (windowBytes < pointer.position.stop - pointer.position.start) = true :=
    decide_eq_true hlong
  constructor
  . intro hresolves
    rcases hresolves with ⟨source, hsource, -⟩
    rcases resolveNoteSource_eq_ok.mp hsource with ⟨doc', hreads', -, hblank, -, hexcerpt, -, -, -,
      hstart, -⟩
    rw [huse] at hblank hexcerpt
    rcases (excerptRequest_eq_ok hreads hwindow).mp hexcerpt with ⟨hselector, found, hfound', heq⟩
    rw [hfound] at hfound'
    cases hfound'
    refine ⟨validateQuoteSelector_quote.mp hselector, by simpa using hblank, ?_⟩
    intro k l hoccurrence
    have hfirstle := hfirst.least k l hoccurrence
    rw [heq] at hstart
    exact Nat.le_trans hstart hfirstle
  . intro hleads
    rcases hleads with ⟨hvalid, hblank, hbefore⟩
    have hpos := utf8ByteSize_pos h.nonempty
    have hfits := h.fits
    have hshows := @excerpt_shows svc doc (pointer.excerptRequest context (some quote) true) windowBytes
      ⟨.quote, first, first + quote.utf8ByteSize, []⟩ quote hfirst.slice (by dsimp only; omega)
      (by dsimp only; omega) rfl
    exact resolves_of_shows hreads h hwindow huse (by simpa using hblank)
      (validateQuoteSelector_quote.mpr hvalid) hfound hshows (hbefore _ _ hfirst.slice)
      (by dsimp only; omega) hfirst.slice (Nat.le_refl _) (Nat.le_refl _)

/-- When the stored evidence of a note is resolved. -/
theorem note_sources_resolve (hreads : Reads svc db context pointer.docId doc)
    (h : StoredPointer doc pointer quote windowBytes) (hwindow : windowBytes ≤ defaultL2MaxBytes)
    : Resolves svc db context doc pointer quote windowBytes
        ↔ SpanFitsOrQuoteLeads doc pointer quote windowBytes := by
  unfold SpanFitsOrQuoteLeads
  rcases Nat.lt_or_ge windowBytes (pointer.position.stop - pointer.position.start) with hlong | hfits
  . rw [resolves_iff_of_long hreads h hwindow hlong]
    constructor
    . exact Or.inr
    . intro hor
      exact hor.resolve_left (by omega)
  . constructor
    . intro _
      exact Or.inl hfits
    . intro _
      exact resolves_of_fits hreads h hwindow hfits

/-! ## A letter of a sentence -/

/-- A pointer to a part of the sentence. -/
def sentencePointer (start stop : Nat) : Pointer := {
  resolver := "elf_doc_ext/v1"
  docId := 26960453086384087833471462887905244371
  contentHash := "46f9898348ff1625a4173428637c74354c3f6e6099a662ef4349f2e690b1c06a"
  position := ⟨start, stop⟩ }

theorem sentencePointer_stored (hcontent : doc.content = "All ports are open.")
    (hcontentHash : doc.contentHash
      = "46f9898348ff1625a4173428637c74354c3f6e6099a662ef4349f2e690b1c06a")
    : StoredPointer doc (sentencePointer 9 19) "p" 1 := by
  refine ⟨hcontentHash, ?_, ?_, by decide, ⟨15, 16, ?_, by decide, by decide⟩, by decide⟩
  . rw [hcontent]
    exact ⟨"All ports", " are open.", by decide, by decide⟩
  . rw [hcontent]
    exact ⟨"All ports are open.", "", by decide, by decide⟩
  . rw [hcontent]
    exact ⟨"All ports are o", "en.", by decide, by decide, by decide⟩

theorem note_sources_resolve_sentence
    : ∃ doc, Reads sentenceService sentenceStore sentenceContext (sentencePointer 9 19).docId doc
      ∧ (Resolves sentenceService sentenceStore sentenceContext doc (sentencePointer 9 19) "p" 1
        ↔ SpanFitsOrQuoteLeads doc (sentencePointer 9 19) "p" 1) := by
  rcases sentence_reads with ⟨doc, -, hreads, -, hcontent, hcontentHash⟩
  exact ⟨doc, hreads, note_sources_resolve hreads (sentencePointer_stored hcontent hcontentHash)
    (by decide)⟩

/-- The letter also occurs before the span, which is longer than the window. -/
theorem not_resolved_repeated
    : ∃ doc, Reads sentenceService sentenceStore sentenceContext (sentencePointer 9 19).docId doc
      ∧ StoredPointer doc (sentencePointer 9 19) "p" 1
      ∧ ¬ Resolves sentenceService sentenceStore sentenceContext doc (sentencePointer 9 19) "p" 1 := by
  rcases sentence_reads with ⟨doc, -, hreads, -, hcontent, hcontentHash⟩
  have herror : resolveNoteSource sentenceService sentenceStore sentenceContext (sentencePointer 9 19)
      (some "p") 1 = .error (.invalidRequest "Source excerpt verification failed.") := by
    decide +kernel
  refine ⟨doc, hreads, sentencePointer_stored hcontent hcontentHash, ?_⟩
  intro h
  rcases h with ⟨source, hsource, -⟩
  rw [herror] at hsource
  cases hsource

end Elf
