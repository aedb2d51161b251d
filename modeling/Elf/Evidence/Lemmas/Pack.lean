import Elf.Evidence.Lemmas.Overlaps
import Elf.Evidence.Recall

/-!
This module contains what the passes over a pack of evidence keep: every reference of a note names a
source of the pack, every quote of a note occurs in a source that the note refers to, and the notes
that are returned and those that are left out are the ones that were asked for. It also contains what the
source cap of a recall and the cut to its limit keep.
-/

namespace Elf

open Text

/-! ## Closure -/

def ReferencesIn (sources : List EvidencePackSource) (note : EvidencePackNote) : Prop :=
  ∀ reference ∈ note.sourceReferences, ∃ source ∈ sources, source.reference = reference

def QuotesIn (sources : List EvidencePackSource) (note : EvidencePackNote) : Prop :=
  ∀ quote ∈ note.evidenceQuotes, ∃ source ∈ sources,
    source.reference ∈ note.sourceReferences ∧ contains source.text quote = true

namespace EvidencePackResponse

/-- Every source reference of a note names a source. -/
def ReferencesClosed (pack : EvidencePackResponse) : Prop :=
  ∀ note ∈ pack.notes, ReferencesIn pack.sources note

/-- Every quote of a note occurs in a source that the note refers to. -/
def QuotesClosed (pack : EvidencePackResponse) : Prop :=
  ∀ note ∈ pack.notes, QuotesIn pack.sources note

/-- The notes that are returned, and those that are left out. -/
def ids (pack : EvidencePackResponse) : List Uuid :=
  pack.notes.map EvidencePackNote.noteId ++ pack.omittedNoteIds

end EvidencePackResponse

theorem ReferencesIn.mono (h : ReferencesIn sources note) (hsub : sources ⊆ sources')
    : ReferencesIn sources' note := by
  intro reference hreference
  rcases h reference hreference with ⟨source, hsource, heq⟩
  exact ⟨source, hsub hsource, heq⟩

/-! ## Assembly -/

variable {budget : Nat} {pack pack' : EvidencePackResponse} {note note' : EvidencePackNote}

/-- What the sources of one note add. -/
structure Adds (pack pack' : EvidencePackResponse) (note note' : EvidencePackNote) : Prop where
  notes : pack'.notes = pack.notes
  omitted : pack'.omittedNoteIds = pack.omittedNoteIds
  sources : pack.sources ⊆ pack'.sources
  noteId : note'.noteId = note.noteId
  references : ReferencesIn pack'.sources note'

theorem addSources_adds (h : ReferencesIn pack.sources note) (sources : List NoteSourceEvidence)
    : Adds pack (addSources budget pack note sources).1 note
        (addSources budget pack note sources).2 := by
  induction sources generalizing pack note with
  | nil => exact ⟨rfl, rfl, List.Subset.refl _, rfl, h⟩
  | cons source sources ih =>
    unfold addSources
    simp only
    split
    next hany =>
      have hcited : ReferencesIn pack.sources
          { note with sourceReferences := note.sourceReferences ++ [source.reference] } := by
        intro reference hreference
        cases List.mem_append.mp hreference with
        | inl hold => exact h reference hold
        | inr hnew =>
          rw [List.mem_singleton] at hnew
          rcases List.any_eq_true.mp hany with ⟨prior, hprior, heq⟩
          exact ⟨prior, hprior, by rw [hnew]; simpa using heq⟩
      have hadds := ih hcited
      exact ⟨hadds.notes, hadds.omitted, hadds.sources, hadds.noteId, hadds.references⟩
    . split
      . have hadds := @ih pack { note with complete := false } h
        exact ⟨hadds.notes, hadds.omitted, hadds.sources, hadds.noteId, hadds.references⟩
      . have hcited : ReferencesIn (pack.sources ++ [EvidencePackSource.fromEvidence source])
            { note with sourceReferences := note.sourceReferences ++ [source.reference] } := by
          intro reference hreference
          cases List.mem_append.mp hreference with
          | inl hold =>
            exact ReferencesIn.mono h (List.subset_append_left ..) reference hold
          | inr hnew =>
            rw [List.mem_singleton] at hnew
            exact ⟨EvidencePackSource.fromEvidence source, by simp, hnew.symm⟩
        have hadds := @ih { pack with
          sourceBytes := pack.sourceBytes + source.excerpt.excerpt.utf8ByteSize
          sources := pack.sources ++ [EvidencePackSource.fromEvidence source] } _ hcited
        exact ⟨hadds.notes, hadds.omitted,
          List.Subset.trans (List.subset_append_left ..) hadds.sources, hadds.noteId,
          hadds.references⟩

theorem addExpanded_referencesClosed (h : pack.ReferencesClosed) (noteId : Uuid)
    (expanded : NoteEvidenceResponse)
    : (addExpanded budget pack noteId expanded).ReferencesClosed := by
  have hstart : ReferencesIn pack.sources (EvidencePackNote.ofExpanded noteId expanded) := by
    intro reference hreference
    cases hreference
  have hadds := @addSources_adds budget _ _ hstart expanded.sources
  intro note hnote
  cases List.mem_append.mp hnote with
  | inl hold =>
    rw [hadds.notes] at hold
    exact (h note hold).mono hadds.sources
  | inr hnew =>
    rw [List.mem_singleton] at hnew
    rw [hnew]
    exact hadds.references

theorem addExpanded_ids (noteId : Uuid) (expanded : NoteEvidenceResponse)
    : (addExpanded budget pack noteId expanded).ids.Perm (pack.ids ++ [noteId]) := by
  have hstart : ReferencesIn pack.sources (EvidencePackNote.ofExpanded noteId expanded) := by
    intro reference hreference
    cases hreference
  have hadds := @addSources_adds budget _ _ hstart expanded.sources
  unfold EvidencePackResponse.ids addExpanded
  simp only [hadds.notes, hadds.omitted, List.map_append, List.map_cons, List.map_nil,
    hadds.noteId, List.append_assoc]
  exact List.Perm.append_left _ (List.perm_append_comm ..)

theorem addNotes_spec {resolve : Uuid → Except Error NoteEvidenceResponse}
    (h : addNotes resolve budget pack noteIds = .ok pack') (hpack : pack.ReferencesClosed)
    : pack'.ReferencesClosed ∧ pack'.ids.Perm (pack.ids ++ noteIds) := by
  induction noteIds generalizing pack with
  | nil =>
    cases h
    exact ⟨hpack, by simp⟩
  | cons noteId noteIds ih =>
    unfold addNotes at h
    split at h
    next expanded _ =>
      rcases ih h (addExpanded_referencesClosed hpack noteId expanded) with ⟨hclosed, hids⟩
      refine ⟨hclosed, hids.trans ?_⟩
      rw [List.append_cons]
      exact (addExpanded_ids noteId expanded).append_right _
    next e _ =>
      split at h
      . rcases @ih { pack with
            complete := false
            omittedNoteIds := pack.omittedNoteIds ++ [noteId] } h hpack with ⟨hclosed, hids⟩
        refine ⟨hclosed, hids.trans ?_⟩
        simp [EvidencePackResponse.ids]
      . cases h

/-! ## Overlaps -/

/-- A reference to a window becomes one to the merged window. -/
theorem rewriteReference_mem {original merged : List EvidencePackSource}
    (hcovers : ∀ source ∈ original, ∃ kept ∈ merged, source.Within kept)
    (h : ∃ source ∈ original, source.reference = reference)
    : ∃ source ∈ merged, source.reference = rewriteReference original merged reference := by
  unfold rewriteReference
  split
  next hnone =>
    rcases h with ⟨source, hsource, heq⟩
    exact absurd (List.find?_eq_none.mp hnone source hsource) (by simp [heq])
  next window hwindow =>
    have hmem := List.mem_of_find?_eq_some hwindow
    split
    next hnone =>
      rcases hcovers window hmem with ⟨kept, hkept, hin⟩
      refine absurd (List.find?_eq_none.mp hnone kept hkept) ?_
      simp [hin.version, hin.start, hin.stop]
    next source hsource => exact ⟨source, List.mem_of_find?_eq_some hsource, rfl⟩

theorem EvidencePackNote.merge_references {original merged : List EvidencePackSource}
    (hcovers : ∀ source ∈ original, ∃ kept ∈ merged, source.Within kept)
    (h : ReferencesIn original note) : ReferencesIn merged (note.merge original merged) := by
  intro reference hreference
  unfold EvidencePackNote.merge at hreference
  simp only [List.mem_eraseDups, List.mem_map] at hreference
  rcases hreference with ⟨old, hold, heq⟩
  rw [← heq]
  exact rewriteReference_mem hcovers (h old hold)

theorem EvidencePackNote.merge_quotes (original merged : List EvidencePackSource)
    (note : EvidencePackNote) : QuotesIn merged (note.merge original merged) := by
  intro quote hquote
  have hquoted := (List.mem_filter.mp hquote).2
  unfold EvidencePackNote.quoted at hquoted
  rw [List.any_eq_true] at hquoted
  rcases hquoted with ⟨source, hsource, hcontains⟩
  rw [Bool.and_eq_true] at hcontains
  exact ⟨source, hsource, List.contains_iff_mem.mp hcontains.1, hcontains.2⟩

theorem mergeOverlaps_spec (h : mergeOverlaps pack = some pack') (hpack : pack.ReferencesClosed)
    : pack'.ReferencesClosed ∧ pack'.QuotesClosed ∧ pack'.ids = pack.ids := by
  rcases Option.map_eq_some_iff.mp h with ⟨merged, hmerged, heq⟩
  subst heq
  refine ⟨?_, ?_, ?_⟩
  . intro note hnote
    rcases List.mem_map.mp hnote with ⟨old, hold, heq⟩
    rw [← heq]
    exact EvidencePackNote.merge_references (mergeSources_covers hmerged) (hpack old hold)
  . intro note hnote
    rcases List.mem_map.mp hnote with ⟨old, hold, heq⟩
    rw [← heq]
    exact EvidencePackNote.merge_quotes _ _ old
  . unfold EvidencePackResponse.ids
    simp only [List.map_map]
    rfl

/-! ## Budget -/

/-- What a cut leaves: some of the notes, with all the sources that they refer to. -/
structure Cut (pack pack' : EvidencePackResponse) : Prop where
  notes : pack'.notes ⊆ pack.notes
  sources : pack'.sources ⊆ pack.sources
  cited : ∀ note ∈ pack'.notes, ∀ source ∈ pack.sources,
    source.reference ∈ note.sourceReferences → source ∈ pack'.sources
  ids : pack'.ids.Perm pack.ids

namespace Cut

theorem refl (pack : EvidencePackResponse) : Cut pack pack :=
  ⟨List.Subset.refl _, List.Subset.refl _, fun _ _ _ h _ => h, List.Perm.refl _⟩

theorem trans (h : Cut pack pack') (h' : Cut pack' pack'') : Cut pack pack'' where
  notes := List.Subset.trans h'.notes h.notes
  sources := List.Subset.trans h'.sources h.sources
  cited note hnote source hsource hcited :=
    h'.cited note hnote source (h.cited note (h'.notes hnote) source hsource hcited) hcited
  ids := h'.ids.trans h.ids

theorem referencesIn (h : Cut pack pack') (hnote : note ∈ pack'.notes)
    (hclosed : ReferencesIn pack.sources note) : ReferencesIn pack'.sources note := by
  intro reference hreference
  rcases hclosed reference hreference with ⟨source, hsource, heq⟩
  exact ⟨source, h.cited note hnote source hsource (by rw [heq]; exact hreference), heq⟩

/-- A note that is left has its quotes where it had them. -/
theorem quotesIn_iff (h : Cut pack pack') (hnote : note ∈ pack'.notes)
    : QuotesIn pack'.sources note ↔ QuotesIn pack.sources note := by
  constructor
  . intro hquotes quote hquote
    rcases hquotes quote hquote with ⟨source, hsource, hcited, hcontains⟩
    exact ⟨source, h.sources hsource, hcited, hcontains⟩
  . intro hquotes quote hquote
    rcases hquotes quote hquote with ⟨source, hsource, hcited, hcontains⟩
    exact ⟨source, h.cited note hnote source hsource hcited, hcited, hcontains⟩

theorem referencesClosed (h : Cut pack pack') (hclosed : pack.ReferencesClosed)
    : pack'.ReferencesClosed := by
  intro note hnote
  exact h.referencesIn hnote (hclosed note (h.notes hnote))

theorem quotesClosed (h : Cut pack pack') (hclosed : pack.QuotesClosed) : pack'.QuotesClosed := by
  intro note hnote
  exact (h.quotesIn_iff hnote).mpr (hclosed note (h.notes hnote))

end Cut

/-- How much there is to remove. -/
def EvidencePackResponse.entries (pack : EvidencePackResponse) : Nat :=
  pack.notes.length + pack.sources.length

/-- A round removes the last note with the sources that only it refers to, or the last source. -/
theorem removeLastEntry_cases (h : pack.removeLastEntry = some pack')
    : (∃ note, pack.notes = pack'.notes ++ [note]
        ∧ pack'.omittedNoteIds = pack.omittedNoteIds ++ [note.noteId]
        ∧ pack'.sources = pack.sources.filter fun source =>
          !note.sourceReferences.contains source.reference
            || pack'.notes.any fun retained =>
              retained.sourceReferences.contains source.reference)
      ∨ (pack.notes = [] ∧ pack'.notes = [] ∧ pack'.omittedNoteIds = pack.omittedNoteIds
        ∧ pack.sources ≠ [] ∧ pack'.sources = pack.sources.dropLast) := by
  unfold EvidencePackResponse.removeLastEntry at h
  split at h
  next note hlast =>
    cases h
    left
    refine ⟨note, ?_, rfl, rfl⟩
    exact (List.dropLast_append_getLast? note (by simp [hlast])).symm
  next hlast =>
    rw [List.getLast?_eq_none_iff] at hlast
    split at h
    . cases h
    next hsources =>
      cases h
      right
      exact ⟨hlast, hlast, rfl, hsources, rfl⟩

theorem removeLastEntry_cut (h : pack.removeLastEntry = some pack') : Cut pack pack' := by
  rcases removeLastEntry_cases h with ⟨note, hnotes, homitted, hsources⟩
    | ⟨hnotes, hnotes', homitted, hne, hsources⟩
  . refine ⟨?_, ?_, ?_, ?_⟩
    . rw [hnotes]
      exact List.subset_append_left ..
    . rw [hsources]
      intro source hsource
      exact (List.mem_filter.mp hsource).1
    . intro retained hretained source hsource hcited
      rw [hsources, List.mem_filter]
      refine ⟨hsource, ?_⟩
      rw [Bool.or_eq_true, List.any_eq_true]
      exact Or.inr ⟨retained, hretained, List.contains_iff_mem.mpr hcited⟩
    . unfold EvidencePackResponse.ids
      rw [hnotes, homitted, List.map_append, List.append_assoc]
      exact List.Perm.append_left _ (List.perm_append_comm ..)
  . refine ⟨?_, ?_, ?_, ?_⟩
    . rw [hnotes']
      exact List.nil_subset _
    . rw [hsources]
      exact List.dropLast_subset _
    . intro note hnote
      rw [hnotes'] at hnote
      cases hnote
    . unfold EvidencePackResponse.ids
      rw [hnotes, hnotes', homitted]

theorem removeLastEntry_entries (h : pack.removeLastEntry = some pack')
    : pack'.entries < pack.entries := by
  unfold EvidencePackResponse.entries
  rcases removeLastEntry_cases h with ⟨note, hnotes, -, hsources⟩ | ⟨hnotes, hnotes', -, hne, hsources⟩
  . have hlen := List.length_filter_le (fun source =>
      !note.sourceReferences.contains source.reference || pack'.notes.any fun retained =>
        retained.sourceReferences.contains source.reference) pack.sources
    rw [hsources, hnotes, List.length_append, List.length_singleton]
    omega
  . have hpos := List.length_pos_of_ne_nil hne
    rw [hsources, hnotes, hnotes', List.length_dropLast]
    omega

theorem limitBytes_returns (svc : ReadService) (maximum : Nat) (pack : EvidencePackResponse)
    : ∃ out, Returns (fun fuel => pack.limitBytes svc fuel maximum) out :=
  shrink_returns EvidencePackResponse.entries (fun _ _ h => removeLastEntry_entries h) pack

theorem limitBytes_spec {svc : ReadService} (h : pack.limitBytes svc fuel maximum = some (.ok pack'))
    : pack'.size svc ≤ maximum ∧ Cut pack pack' := by
  rcases shrink_eq_ok h with ⟨hsize, n, hrounds⟩
  refine ⟨hsize, ?_⟩
  apply hrounds.invariant (Cut pack)
  . intro r s hrs hr
    exact hr.trans (removeLastEntry_cut hrs)
  . exact Cut.refl pack

/-! ## Packs -/

theorem nodup_eraseDups [BEq α] [LawfulBEq α] (ids : List α) : ids.eraseDups.Nodup := by
  induction hlen : ids.length using Nat.strongRecOn generalizing ids with
  | ind n ih =>
    cases ids with
    | nil => exact List.nodup_nil
    | cons id ids =>
      rw [List.eraseDups_cons, List.nodup_cons]
      constructor
      . rw [List.mem_eraseDups]
        simp
      . apply ih _ _ _ rfl
        have hle := List.length_filter_le (fun b => !b == id) ids
        rw [List.length_cons] at hlen
        omega

/-- The ids are the requested ones, each once. -/
def Partitions (ids requested : List Uuid) : Prop :=
  ids.Nodup ∧ ∀ id, id ∈ ids ↔ id ∈ requested

theorem partitions_of_perm {ids requested : List Uuid} (h : ids.Perm requested.eraseDups)
    : Partitions ids requested := by
  refine ⟨h.nodup_iff.mpr (nodup_eraseDups requested), ?_⟩
  intro id
  rw [h.mem_iff, List.mem_eraseDups]

/-- What a pack that answers a request is, whichever limit it is cut to. -/
structure Answers (pack : EvidencePackResponse) (requested : List Uuid) : Prop where
  references : pack.ReferencesClosed
  quotes : pack.QuotesClosed
  ids : Partitions pack.ids requested

theorem Answers.cut (h : Answers pack requested) (hcut : Cut pack pack') : Answers pack' requested := by
  refine ⟨hcut.referencesClosed h.references, hcut.quotesClosed h.quotes, ?_, ?_⟩
  . exact hcut.ids.nodup_iff.mpr h.ids.1
  . intro id
    rw [hcut.ids.mem_iff]
    exact h.ids.2 id

variable {svc : ReadService} {resolve : Uuid → Nat → Except Error NoteEvidenceResponse}

theorem assemblePack_answers {req : EvidencePackRequest} (h : assemblePack svc resolve req = .ok pack)
    : Answers pack req.noteIds := by
  unfold assemblePack at h
  rcases Except.bind_eq_ok.mp h with ⟨_, -, h⟩
  rcases Except.bind_eq_ok.mp h with ⟨_, -, h⟩
  rcases Except.bind_eq_ok.mp h with ⟨added, hadded, hmerge⟩
  rw [Except.ofOption_eq_ok] at hmerge
  have hempty : EvidencePackResponse.empty.ReferencesClosed := by
    intro note hnote
    cases hnote
  rcases addNotes_spec hadded hempty with ⟨hclosed, hids⟩
  rcases mergeOverlaps_spec hmerge hclosed with ⟨hreferences, hquotes, heq⟩
  refine ⟨hreferences, hquotes, partitions_of_perm ?_⟩
  rw [heq]
  exact hids

theorem evidencePack_returns (svc : ReadService)
    (resolve : Uuid → Nat → Except Error NoteEvidenceResponse) (req : EvidencePackRequest)
    : ∃ out, Returns (fun fuel => evidencePack svc fuel resolve req) out := by
  unfold evidencePack
  split
  . exact ⟨_, Returns.const _⟩
  . split
    . exact ⟨_, Returns.const _⟩
    . apply limitBytes_returns

theorem evidencePack_answers {req : EvidencePackRequest}
    (h : evidencePack svc fuel resolve req = some (.ok pack))
    : Answers pack req.noteIds
      ∧ ∃ limit, responseLimit req.maxBytes = .ok limit ∧ pack.size svc ≤ limit := by
  unfold evidencePack at h
  split at h
  . cases h
  next limit hlimit =>
    split at h
    . cases h
    next assembled hassembled =>
      rcases limitBytes_spec h with ⟨hsize, hcut⟩
      exact ⟨(assemblePack_answers hassembled).cut hcut, limit, hlimit, hsize⟩

end Elf

/-! ## Recall -/

namespace Elf

open Text

variable {svc : ReadService} {pack pack' : EvidencePackResponse} {note : EvidencePackNote}
variable {response response' : EvidenceRecallResponse}

/-! ## Source cap -/

theorem mem_capPack_sources {direct : List EvidencePackSource} {directComplete : Bool}
    {source : EvidencePackSource}
    : source ∈ (capPack svc direct directComplete pack).sources
        ↔ source ∈ (capSources [] 0 (direct ++ pack.sources)).1 := by
  unfold capPack
  simp only
  rw [List.mem_insertionSort]

theorem capPack_referencesClosed (direct : List EvidencePackSource) (directComplete : Bool)
    : (capPack svc direct directComplete pack).ReferencesClosed := by
  intro note hnote reference hreference
  unfold capPack at hnote
  simp only [List.mem_map] at hnote
  rcases hnote with ⟨old, -, heq⟩
  rw [← heq] at hreference
  unfold EvidencePackNote.retain at hreference
  simp only [List.mem_filter, List.any_eq_true, decide_eq_true_eq] at hreference
  rcases hreference.2 with ⟨source, hsource, href⟩
  exact ⟨source, mem_capPack_sources.mpr hsource, href⟩

theorem capPack_ids (direct : List EvidencePackSource) (directComplete : Bool)
    : (capPack svc direct directComplete pack).ids = pack.ids := by
  unfold capPack EvidencePackResponse.ids
  simp only [List.map_map]
  rfl

/-! ## Budget -/

theorem EvidenceRecallResponse.removeLastEntry_pack
    (h : response.removeLastEntry = some response')
    : response.pack.removeLastEntry = some response'.pack := by
  unfold EvidenceRecallResponse.removeLastEntry at h
  rcases Option.map_eq_some_iff.mp h with ⟨pack, hpack, heq⟩
  subst heq
  exact hpack

/-- The response that the cut to a limit leaves. -/
structure Leaves (svc : ReadService) (maximum : Nat) (response left : EvidenceRecallResponse)
    : Prop where
  size : left.size svc ≤ maximum
  rounds : ∃ n, Shrinks (EvidenceRecallResponse.size svc) EvidenceRecallResponse.removeLastEntry
    maximum n response left

theorem Leaves.cut (h : Leaves svc maximum response left) : Cut response.pack left.pack := by
  rcases h.rounds with ⟨n, hrounds⟩
  apply hrounds.invariant fun r : EvidenceRecallResponse => Cut response.pack r.pack
  . intro r s hrs hr
    exact hr.trans (removeLastEntry_cut (EvidenceRecallResponse.removeLastEntry_pack hrs))
  . exact Cut.refl response.pack

theorem EvidenceRecallResponse.limitBytes_returns (svc : ReadService) (maximum : Nat)
    (response : EvidenceRecallResponse)
    : ∃ out, Returns (fun fuel => response.limitBytes svc fuel maximum) out := by
  have hshrink := @shrink_returns _ _ (EvidenceRecallResponse.size svc) removeLastEntry
    metadataDoesNotFit maximum (fun r => r.pack.entries)
    (fun _ _ h => removeLastEntry_entries (removeLastEntry_pack h)) response
  rcases hshrink with ⟨out, bound, hout⟩
  refine ⟨out.map finish, bound, ?_⟩
  intro fuel hfuel
  dsimp only at hout ⊢
  unfold limitBytes
  rw [hout fuel hfuel, Option.map_some]

theorem EvidenceRecallResponse.limitBytes_eq_ok
    (h : response.limitBytes svc fuel maximum = some (.ok response'))
    : ∃ left, Leaves svc maximum response left ∧ response' = left.finish := by
  unfold limitBytes at h
  rcases Option.map_eq_some_iff.mp h with ⟨out, hout, heq⟩
  cases out with
  | error e => cases heq
  | ok left =>
    rcases shrink_eq_ok hout with ⟨hsize, hrounds⟩
    refine ⟨left, ⟨hsize, hrounds⟩, ?_⟩
    cases heq
    rfl

theorem Leaves.limitBytes (h : Leaves svc maximum response left)
    : Returns (fun fuel => response.limitBytes svc fuel maximum) (.ok left.finish) := by
  rcases h.rounds with ⟨n, hrounds⟩
  refine ⟨n + 1, ?_⟩
  intro fuel hfuel
  have hshrink := @shrink_of_shrinks _ Error _ _ metadataDoesNotFit _ _ _ _ fuel hrounds h.size
    (by omega)
  dsimp only
  unfold EvidenceRecallResponse.limitBytes
  rw [hshrink, Option.map_some]
  rfl

/-- The mark of a response that is not complete makes it no longer. -/
theorem EvidenceRecallResponse.size_finish (svc : ReadService) (response : EvidenceRecallResponse)
    : response.finish.size svc ≤ response.size svc := by
  have hmark : ∀ b c : Bool, byteSize (Json.compact (.bool (b || c))) ≤ byteSize (Json.compact (.bool b)) := by
    decide
  have hlt := hmark response.truncated !response.pack.complete
  unfold size serializedSize toJson finish
  simp only [utf8ByteSize_ofList, Json.compact, Json.compactEntries, byteSize_append, byteSize_cons]
  omega

end Elf
