import Elf.Docs.Lemmas
import Elf.Evidence.Lemmas.PackWindows
import Elf.Evidence.Lemmas.Reference

/-!
This module contains that evidence references round-trip: what refers to a range of a document is
read back as that range, and is resolved to its text. Only a range of white space is not resolved.
-/

namespace Elf

open Text

variable {svc : ReadService} {db : DocStore} {doc : DocDocument}

/-! ## Rows -/

/-- What the documented hash and identifier functions guarantee of every row. -/
structure WellFormed (doc : DocDocument) : Prop where
  docId : doc.docId < 2 ^ 128
  contentHash : IsDigest doc.contentHash

theorem wellFormed_of_sound {svc : DocsService} (hhash : ∀ text, IsDigest (svc.blake3 text))
    (hid : ∀ ns name, svc.uuidV5 ns name < 2 ^ 128) (hdb : db.Sound svc)
    (h : db.documents.find? docId = some doc) : WellFormed doc := by
  rcases hdb.document docId doc h with ⟨docType, hsound, -⟩
  constructor
  . rw [hsound.docId]
    apply hid
  . rw [hsound.contentHash]
    apply hhash

/-! ## Resolving -/

/-- The request that a reference is resolved with. -/
def SourceRange.request (range : SourceRange) (context : ReadContext) : DocsExcerptsGetRequest := {
  context
  docId := range.docId
  level := "L2"
  maxBytes := none
  chunkId := none
  quote := none
  position := some ⟨range.start, range.stop⟩ }

/-- The excerpt that a reference is resolved with. -/
theorem docsExcerptsGet_range {range : SourceRange} {context : ReadContext}
    {excerpt : DocsExcerptResponse}
    : docsExcerptsGet svc db (range.request context) = .ok excerpt
        ↔ ∃ doc, Reads svc db context range.docId doc
          ∧ excerpt = excerptOfMatch svc doc (range.request context) defaultL2MaxBytes
            (positionMatch doc ⟨range.start, range.stop⟩ []) := by
  unfold docsExcerptsGet
  rw [docsExcerptsGetBounded_eq_ok]
  have hmatch (doc : DocDocument) := @resolveExcerptsMatchRange_position db doc
    (range.request context) ⟨range.start, range.stop⟩ rfl rfl rfl
  constructor
  . intro h
    rcases h with ⟨-, -, doc, levelMax, found, hreads, hlevel, hfound, hexcerpt⟩
    refine ⟨doc, hreads, ?_⟩
    rw [hmatch doc] at hfound
    cases hlevel
    cases hfound
    exact hexcerpt
  . intro h
    rcases h with ⟨doc, hreads, hexcerpt⟩
    refine ⟨by simp [SourceRange.request], rfl, doc, defaultL2MaxBytes, _, hreads, rfl,
      hmatch doc, ?_⟩
    exact hexcerpt

theorem parseReference_range {reference : String} {range : SourceRange}
    (h : parseReference reference = some range)
    : range.start < range.stop ∧ range.stop - range.start ≤ defaultL2MaxBytes := by
  unfold parseReference at h
  split at h
  . cases h
  . split at h
    next id hash start stop _ =>
      unfold parseParts at h
      simp only [Option.bind_eq_bind, Option.bind_eq_some_iff] at h
      rcases h with ⟨docId, -, contentHash, -, start, -, stop, -, h⟩
      split at h
      . cases h
      next hrange =>
        cases h
        dsimp only
        omega
    . cases h

/-- A reference is resolved to the text of its range, unless that is white space. -/
theorem resolveEvidenceReference_eq_ok {context : ReadContext} {reference : String}
    {citation : SourceCitation}
    : resolveEvidenceReference svc db context reference = .ok citation
        ↔ ∃ range doc, parseReference reference = some range
          ∧ Reads svc db context range.docId doc
          ∧ doc.contentHash = range.contentHash
          ∧ Slice doc.content range.start range.stop citation.quote
          ∧ isBlank citation.quote = false
          ∧ citation.docId = range.docId ∧ citation.contentHash = range.contentHash := by
  unfold resolveEvidenceReference
  simp only [Except.bind_eq_ok, Except.ofOption_eq_ok, Except.rejectIf_eq_ok, Except.pure_eq_ok,
    sliceBytes_eq_some]
  constructor
  . intro h
    rcases h with ⟨range, hparse, excerpt, hget, ⟨⟩, hverified, ⟨⟩, hlocal, quote, hquote, ⟨⟩, hblank,
      hcitation⟩
    have hrange := parseReference_range hparse
    rcases docsExcerptsGet_range.mp hget with ⟨doc, hreads, hexcerpt⟩
    rw [hcitation]
    simp only [Bool.or_eq_false_iff, Bool.not_eq_false', decide_eq_false_iff_not, not_not,
      Nat.not_lt] at hverified hlocal
    rw [hexcerpt] at hverified hlocal hquote
    have hnonempty := (excerptOfMatch_verified.mp hverified.1).2
    have hslice := (excerptOfMatch_slice hnonempty).trans hquote
    rw [Nat.add_sub_cancel' hlocal.1, Nat.add_sub_cancel' hlocal.2] at hslice
    exact ⟨range, doc, hparse, hreads, hverified.2, hslice, hblank, rfl, rfl⟩
  . intro h
    rcases h with ⟨range, doc, hparse, hreads, hhash, hslice, hblank, hid, hcontentHash⟩
    have hrange := parseReference_range hparse
    have hshows : Shows doc range.start range.stop (excerptOfMatch svc doc (range.request context)
        defaultL2MaxBytes (positionMatch doc ⟨range.start, range.stop⟩ [])) := by
      rw [positionMatch_eq hslice]
      exact @excerpt_shows svc doc _ _ ⟨.position, range.start, range.stop, []⟩ citation.quote hslice
        hrange.1 hrange.2 rfl
    have hleft := hshows.left
    refine ⟨range, hparse, _, docsExcerptsGet_range.mpr ⟨doc, hreads, rfl⟩, (), ?_, (), ?_,
      citation.quote, hshows.slice.inside hslice hshows.left hshows.right, (), hblank, ?_⟩
    . simp only [hshows.verified, Bool.not_true, Bool.false_or, decide_eq_false_iff_not, not_not]
      exact hhash
    . simp only [Bool.or_eq_false_iff, decide_eq_false_iff_not]
      omega
    . rcases citation with ⟨docId, contentHash, quote⟩
      dsimp only at hid hcontentHash ⊢
      rw [hid, hcontentHash]

/-! ## Round trip -/

/-- What refers to a range of a document is read back as that range. -/
theorem parse_of_range (hdoc : WellFormed doc) (hstop : j < 2 ^ 64) (hlt : i < j)
    (hsize : j - i ≤ defaultL2MaxBytes)
    : parseReference (sourceReference doc.docId doc.contentHash i j)
        = some ⟨doc.docId, doc.contentHash, i, j⟩ :=
  parseReference_sourceReference hdoc.docId hdoc.contentHash hstop hlt hsize

/-- The document is the one that is found, with the content and the hash that it had. -/
structure Same (doc doc' : DocDocument) : Prop where
  content : doc'.content = doc.content
  contentHash : doc'.contentHash = doc.contentHash

theorem resolve_of_range (hdoc : WellFormed doc) (hquote : Slice doc.content i j quote)
    (hlt : i < j) (hsize : j - i ≤ defaultL2MaxBytes) (hstop : j < 2 ^ 64)
    (hreads : Reads svc db context doc.docId doc') (hsame : Same doc doc')
    : resolveEvidenceReference svc db context (sourceReference doc.docId doc.contentHash i j)
        = .ok ⟨doc.docId, doc.contentHash, quote⟩ ↔ isBlank quote = false := by
  have hparse := parse_of_range hdoc hstop hlt hsize
  rw [resolveEvidenceReference_eq_ok]
  constructor
  . intro h
    rcases h with ⟨-, -, -, -, -, -, hblank, -⟩
    exact hblank
  . intro hblank
    refine ⟨_, doc', hparse, hreads, hsame.contentHash, ?_, hblank, rfl, rfl⟩
    dsimp only
    rw [hsame.content]
    exact hquote

/--
References round-trip: what an excerpt or a pack emits refers to its own text, a reference to a range
is read back as the range, and it is resolved to the text of the range unless that is white space.
Whatever is resolved is the text of the range that the reference says, under the hash that it says.
-/
theorem evidence_references (hhash : ∀ text, IsDigest (svc.docs.blake3 text))
    (hid : ∀ ns name, svc.docs.uuidV5 ns name < 2 ^ 128)
    (hrun : Run (DocSteps svc.docs) .empty trace db)
    : (∀ req maxBytes response, docsExcerptsGetBounded svc db req maxBytes = .ok response →
          response.verification.verified = true →
            ∃ doc, Reads svc db req.context req.docId doc
              ∧ response.reference = some (sourceReference doc.docId doc.contentHash
                response.startOffset response.endOffset)
              ∧ Slice doc.content response.startOffset response.endOffset response.excerpt
              ∧ response.startOffset < response.endOffset
              ∧ response.endOffset - response.startOffset ≤ defaultL2MaxBytes)
      ∧ (∀ fuel req reads pack, (∀ noteId : Uuid, Unchanged (reads noteId).1 db) →
          evidencePack svc fuel (req.resolve svc reads) req = some (.ok pack) →
            ∀ source ∈ pack.sources, IsWindow db source
              ∧ source.stop - source.start ≤ defaultL2MaxBytes)
      ∧ (∀ docId doc i j quote, db.documents.find? docId = some doc →
          Slice doc.content i j quote → i < j → j - i ≤ defaultL2MaxBytes → j < 2 ^ 64 →
            parseReference (sourceReference doc.docId doc.contentHash i j)
                = some ⟨doc.docId, doc.contentHash, i, j⟩
              ∧ ∀ db' context doc', Reads svc db' context doc.docId doc' → Same doc doc' →
                (resolveEvidenceReference svc db' context
                    (sourceReference doc.docId doc.contentHash i j)
                  = .ok ⟨doc.docId, doc.contentHash, quote⟩ ↔ isBlank quote = false))
      ∧ ∀ db' context reference citation,
        resolveEvidenceReference svc db' context reference = .ok citation →
          ∃ range doc, parseReference reference = some range
            ∧ Reads svc db' context range.docId doc ∧ doc.contentHash = range.contentHash
            ∧ Slice doc.content range.start range.stop citation.quote := by
  have hsound : db.Sound svc.docs :=
    hrun.invariant (fun _ _ _ hdb hstep => DocSteps.sound hstep hdb) (DocStore.Sound.empty svc.docs)
  refine ⟨?_, ?_, ?_, ?_⟩
  . intro req maxBytes response hresponse hverified
    rcases excerpt_reference hresponse hverified with ⟨doc, hreads, -, hrest⟩
    exact ⟨doc, hreads, hrest⟩
  . intro fuel req reads pack hreads hpack
    refine evidencePack_windows ?_ hpack
    intro noteId bytes expanded hexpanded source hsource
    exact (noteEvidenceBounded_windows hexpanded source hsource).unchanged (hreads noteId)
  . intro docId doc i j quote hdoc hquote hlt hsize hstop
    have hwell := wellFormed_of_sound hhash hid hsound hdoc
    refine ⟨parse_of_range hwell hstop hlt hsize, ?_⟩
    intro db' context doc' hreads hsame
    exact resolve_of_range hwell hquote hlt hsize hstop hreads hsame
  . intro db' context reference citation h
    rcases resolveEvidenceReference_eq_ok.mp h with ⟨range, doc, hparse, hreads, hhash, hslice, -⟩
    exact ⟨range, doc, hparse, hreads, hhash, hslice⟩

/-! ## A sentence -/

/-- A service with the digest and the identifier of one sentence. -/
def sentenceDocsService : DocsService := {
  sampleDocsService with
  blake3 := fun text =>
    if text = "All ports are open." then
      "46f9898348ff1625a4173428637c74354c3f6e6099a662ef4349f2e690b1c06a"
    else
      "af1349b9f5f9a1a6a0404dea36dcc9499bcb25c9adc112b7cc9a93cae41f3262"
  uuidV5 := fun ns _ =>
    match ns with
    | .url => 26960453086384087833471462887905244371
    | .oid => 1 }

def sentenceService : ReadService := { sampleReadService with docs := sentenceDocsService }

def sentenceStore : DocStore :=
  (DocOp.put (sampleDocsPut 1)).exec sentenceDocsService (sampleDocsDraw 1) .empty

def sentenceContext : ReadContext := ⟨"t", "p", "a", "private_only"⟩

/-- The reference to a range of the sentence. -/
def sentenceReference (i j : Nat) : String :=
  sourceReference 26960453086384087833471462887905244371
    "46f9898348ff1625a4173428637c74354c3f6e6099a662ef4349f2e690b1c06a" i j

theorem isDigest_of_all {hash : String} (hlen : hash.toList.length = 64)
    (h : hash.toList.all (fun c => "0123456789abcdef".toList.contains c) = true) : IsDigest hash := by
  refine ⟨hlen, ?_⟩
  intro c hc
  have hdigits : "0123456789abcdef".toList = (List.range 16).map Uuid.hexDigit := by rfl
  have hdigit := List.contains_iff_mem.mp (List.all_eq_true.mp h c hc)
  rw [hdigits, List.mem_map] at hdigit
  rcases hdigit with ⟨n, hn, hc⟩
  exact ⟨n, List.mem_range.mp hn, hc.symm⟩

/-- The document of the sentence. -/
theorem sentence_reads
    : ∃ doc, sentenceStore.documents.find? 26960453086384087833471462887905244371 = some doc
      ∧ Reads sentenceService sentenceStore sentenceContext 26960453086384087833471462887905244371 doc
      ∧ doc.docId = 26960453086384087833471462887905244371
      ∧ doc.content = "All ports are open."
      ∧ doc.contentHash = "46f9898348ff1625a4173428637c74354c3f6e6099a662ef4349f2e690b1c06a" := by
  have hfields : (sentenceStore.documents.find? 26960453086384087833471462887905244371).map
      (fun doc => (doc.content, doc.contentHash)) = some ("All ports are open.",
        "46f9898348ff1625a4173428637c74354c3f6e6099a662ef4349f2e690b1c06a") := by decide +kernel
  have hload : loadDocsExcerptContext sentenceService sentenceStore sentenceContext.trim
      26960453086384087833471462887905244371
        = Except.ofOption docNotFound
          (sentenceStore.documents.find? 26960453086384087833471462887905244371) := by
    decide +kernel
  rcases Option.map_eq_some_iff.mp hfields with ⟨doc, hdoc, hpair⟩
  rw [hdoc] at hload
  exact ⟨doc, hdoc, ⟨by decide +kernel, hload⟩, Table.key_of_find? hdoc, congrArg Prod.fst hpair,
    congrArg Prod.snd hpair⟩

theorem evidence_references_sentence
    : parseReference (sentenceReference 4 9) = some ⟨26960453086384087833471462887905244371,
          "46f9898348ff1625a4173428637c74354c3f6e6099a662ef4349f2e690b1c06a", 4, 9⟩
      ∧ resolveEvidenceReference sentenceService sentenceStore sentenceContext
          (sentenceReference 4 9)
        = .ok ⟨26960453086384087833471462887905244371,
          "46f9898348ff1625a4173428637c74354c3f6e6099a662ef4349f2e690b1c06a", "ports"⟩ := by
  have hhash : ∀ text, IsDigest (sentenceService.docs.blake3 text) := by
    intro text
    show IsDigest (if text = "All ports are open." then _ else _)
    split
    . exact isDigest_of_all (by decide) (by decide)
    . exact isDigest_of_all (by decide) (by decide)
  have hid : ∀ ns name, sentenceService.docs.uuidV5 ns name < 2 ^ 128 := by
    intro ns name
    cases ns with
    | oid =>
      show 1 < 2 ^ 128
      decide
    | url =>
      show 26960453086384087833471462887905244371 < 2 ^ 128
      decide
  have hrun : Run (DocSteps sentenceService.docs) .empty [(sampleDocsDraw 1, .put (sampleDocsPut 1))]
      sentenceStore := Run.single rfl
  have hquote : Slice "All ports are open." 4 9 "ports" :=
    ⟨"All ", " are open.", by decide, by decide, by decide⟩
  rcases sentence_reads with ⟨doc, hdoc, hreads, hdocId, hcontent, hcontentHash⟩
  rw [← hcontent] at hquote
  rcases (evidence_references hhash hid hrun).2.2.1 _ doc 4 9 "ports" hdoc hquote (by decide)
    (by decide) (by decide) with ⟨hparse, hresolve⟩
  rw [← hdocId] at hreads
  have hcitation := (hresolve _ _ _ hreads ⟨rfl, rfl⟩).mpr (by decide +kernel)
  rw [hdocId, hcontentHash] at hparse hcitation
  exact ⟨hparse, hcitation⟩

/-- A range of white space has a verified reference that is not resolved. -/
theorem not_resolved_blank
    : (docsExcerptsGet sentenceService sentenceStore {
          context := sentenceContext
          docId := 26960453086384087833471462887905244371
          level := "L2"
          maxBytes := some 1
          chunkId := none
          quote := none
          position := some ⟨3, 4⟩ }).toOption.bind DocsExcerptResponse.reference
        = some (sentenceReference 3 4)
      ∧ resolveEvidenceReference sentenceService sentenceStore sentenceContext
          (sentenceReference 3 4) = .error invalidSourceReference := by
  decide +kernel

end Elf
