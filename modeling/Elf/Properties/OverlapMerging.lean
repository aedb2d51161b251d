import Elf.Evidence.Lemmas.Overlaps
import Elf.Evidence.Lemmas.Pack
import Elf.Evidence.Lemmas.Reference

/-!
This module contains that the overlaps of a pack of evidence are merged without a change of what is
quoted: the merged windows are disjoint, have exactly the bytes of the windows of the pack, quote the
versions they name, and every reference of a note becomes one to the window around what it named.
-/

namespace Elf

open Text

variable {content : Contents} {pack pack' : EvidencePackResponse}

/-- The place of the first of the windows that are within a merged one. -/
def firstAppearance (sources : List EvidencePackSource) (merged : EvidencePackSource) : Nat :=
  sources.findIdx fun source => merged.sameVersion source && decide (merged.start ≤ source.start)
    && decide (source.stop ≤ merged.stop)

/-- The bytes of a version that windows have. -/
def bytesOf (sources : List EvidencePackSource) (docId : Uuid) (contentHash : String) : Set Nat :=
  {offset | ∃ source ∈ sources, source.docId = docId ∧ source.contentHash = contentHash
    ∧ source.start ≤ offset ∧ offset < source.stop}

/-- What the references of a note become: each that names a window names a merged one around it, and
none is repeated. -/
structure Renames (sources merged : List EvidencePackSource) (references references' : List String)
    (rename : String → String) : Prop where
  renamed : references' = (references.map rename).eraseDups
  nodup : references'.Nodup
  names : ∀ source ∈ sources, source.reference ∈ references →
    ∃ m ∈ merged, m.reference = rename source.reference ∧ source.Within m
  others : ∀ reference, (∀ source ∈ sources, source.reference ≠ reference) →
    rename reference = reference

/-- What merging the overlaps of a pack does. -/
structure MergedOverlaps (content : Contents) (pack pack' : EvidencePackResponse) : Prop where
  windows : ∀ m ∈ pack'.sources, WindowOf content m
  disjoint : pack'.sources.Pairwise EvidencePackSource.Apart
  bytes : bytesOf pack'.sources = bytesOf pack.sources
  appears : ∀ m ∈ pack'.sources, firstAppearance pack.sources m < pack.sources.length
  order : (pack'.sources.map (firstAppearance pack.sources)).Pairwise (· < ·)
  notes : ∃ rename, List.Forall₂ (fun note note' => Renames pack.sources pack'.sources
    note.sourceReferences note'.sourceReferences rename) pack.notes pack'.notes
  sourceBytes : pack'.sourceBytes = (pack'.sources.map fun m => m.stop - m.start).sum

/-! ## Windows -/

section Windows

variable {sources merged : List EvidencePackSource} {ordered : List (Nat × EvidencePackSource)}

/-- A window is within one merged window. -/
theorem Coalesces.unique {windows : List (Nat × EvidencePackSource)} (h : Coalesces windows ordered)
    {m m' : Nat × EvidencePackSource} (hm : m ∈ ordered) (hm' : m' ∈ ordered)
    {source : EvidencePackSource} (hspan : source.start ≤ source.stop) (hin : source.Within m.2)
    (hin' : source.Within m'.2) : m = m' := by
  by_contra hne
  have hsymm : Std.Symm fun a b : Nat × EvidencePackSource => a.2.Apart b.2 :=
    ⟨fun _ _ hapart => hapart.symm⟩
  exact hin.not_apart hin' hspan (h.apart.forall hm hm' hne)

theorem firstAppearance_eq (h : Coalesces (orderedSources sources) ordered)
    (hspans : ∀ source ∈ sources, source.start ≤ source.stop) {m : Nat × EvidencePackSource}
    (hm : m ∈ ordered) : m.1 < sources.length ∧ firstAppearance sources m.2 = m.1 := by
  rcases h.first m hm with ⟨w, hw, hin, hindex⟩
  rw [mem_orderedSources, hindex] at hw
  rcases List.getElem?_eq_some_iff.mp hw with ⟨hlt, hget⟩
  refine ⟨hlt, ?_⟩
  unfold firstAppearance
  rw [List.findIdx_eq hlt]
  constructor
  . rw [hget]
    simp [hin.version, hin.start, hin.stop]
  . intro j hj
    rw [Bool.eq_false_iff]
    intro hwithin
    have hjlt : j < sources.length := Nat.lt_trans hj hlt
    simp only [Bool.and_eq_true, decide_eq_true_eq] at hwithin
    have hinj : sources[j].Within m.2 := ⟨hwithin.1.1, hwithin.1.2, hwithin.2⟩
    have hwindow : (j, sources[j]) ∈ orderedSources sources :=
      mem_orderedSources.mpr (List.getElem?_eq_getElem hjlt)
    rcases h.covers _ hwindow with ⟨m', hm', hin', hle⟩
    have heq := h.unique hm hm' (hspans _ (List.getElem_mem hjlt)) hinj hin'
    subst heq
    omega

theorem indices_ne (h : Coalesces (orderedSources sources) ordered)
    (hspans : ∀ source ∈ sources, source.start ≤ source.stop)
    : ordered.Pairwise fun a b => a.1 ≠ b.1 := by
  apply h.apart.imp_of_mem
  intro a b ha hb hapart heq
  rcases h.first a ha with ⟨w, hw, hin, hindex⟩
  rcases h.first b hb with ⟨w', hw', hin', hindex'⟩
  rw [mem_orderedSources] at hw hw'
  rw [hindex', ← heq, ← hindex, hw] at hw'
  rw [← Option.some.inj hw'] at hin'
  exact hin.not_apart hin' (hspans _ (List.mem_of_getElem? hw)) hapart

/-- What the windows of a pack are merged into. -/
structure MergedWindows (content : Contents) (sources merged : List EvidencePackSource) : Prop where
  windows : ∀ m ∈ merged, WindowOf content m
  disjoint : merged.Pairwise EvidencePackSource.Apart
  bytes : bytesOf merged = bytesOf sources
  appears : ∀ m ∈ merged, firstAppearance sources m < sources.length
  order : (merged.map (firstAppearance sources)).Pairwise (· < ·)

theorem bytesOf_eq (hcovers : ∀ source ∈ sources, ∃ m ∈ merged, source.Within m)
    (hbytes : ∀ m ∈ merged, ∀ offset, m.start ≤ offset → offset < m.stop →
      ∃ source ∈ sources, source.Within m ∧ source.start ≤ offset ∧ offset < source.stop)
    : bytesOf merged = bytesOf sources := by
  funext docId contentHash
  apply Set.ext
  intro offset
  constructor
  . intro h
    rcases h with ⟨m, hm, hid, hhash, hfrom, hto⟩
    rcases hbytes m hm offset hfrom hto with ⟨source, hsource, hin, hbyte⟩
    have hsame := EvidencePackSource.sameVersion_iff.mp hin.version
    exact ⟨source, hsource, hsame.1.symm.trans hid, hsame.2.symm.trans hhash, hbyte⟩
  . intro h
    rcases h with ⟨source, hsource, hid, hhash, hfrom, hto⟩
    rcases hcovers source hsource with ⟨m, hm, hin⟩
    have hsame := EvidencePackSource.sameVersion_iff.mp hin.version
    exact ⟨m, hm, hsame.1.trans hid, hsame.2.trans hhash, Nat.le_trans hin.start hfrom,
      Nat.lt_of_lt_of_le hto hin.stop⟩

theorem mergeSources_merged (h : ∀ source ∈ sources, WindowOf content source)
    : ∃ merged, mergeSources sources = some merged ∧ MergedWindows content sources merged := by
  rcases mergeSources_windowOf h with ⟨merged, hmerged, hwindows, -⟩
  rcases mergeSources_eq_some hmerged with ⟨ordered, -, hmerges, heq⟩
  have hspans : ∀ source ∈ sources, source.start ≤ source.stop := fun source hsource =>
    (h source hsource).slice.le
  have hperm := List.perm_insertionSort (fun a b : Nat × EvidencePackSource => a.1 ≤ b.1) ordered
  have hmem : ∀ m ∈ merged, ∃ window ∈ ordered, window.2 = m := by
    intro m hm
    rw [heq, List.mem_map] at hm
    rcases hm with ⟨window, hwindow, hsnd⟩
    exact ⟨window, hperm.mem_iff.mp hwindow, hsnd⟩
  refine ⟨merged, hmerged, hwindows, ?_, ?_, ?_, ?_⟩
  . rw [heq, List.pairwise_map]
    exact (hperm.pairwise_iff fun hapart => hapart.symm).mpr hmerges.apart
  . apply bytesOf_eq (mergeSources_covers hmerged)
    intro m hm offset hfrom hto
    rcases hmem m hm with ⟨window, hwindow, hsnd⟩
    subst hsnd
    rcases hmerges.bytes window hwindow offset hfrom hto with ⟨w, hw, hbyte⟩
    exact ⟨w.2, List.mem_of_getElem? (mem_orderedSources.mp hw), hbyte⟩
  . intro m hm
    rcases hmem m hm with ⟨window, hwindow, hsnd⟩
    subst hsnd
    rcases firstAppearance_eq hmerges hspans hwindow with ⟨hlt, hfirst⟩
    rw [hfirst]
    exact hlt
  . have hsorted := List.pairwise_insertionSort
      (fun a b : Nat × EvidencePackSource => a.1 ≤ b.1) ordered
    have hdistinct := (hperm.pairwise_iff fun hne => Ne.symm hne).mpr (indices_ne hmerges hspans)
    rw [heq, List.pairwise_map, List.pairwise_map]
    apply (hsorted.and hdistinct).imp_of_mem
    intro a b ha hb hlt
    rw [(firstAppearance_eq hmerges hspans (hperm.mem_iff.mp ha)).2,
      (firstAppearance_eq hmerges hspans (hperm.mem_iff.mp hb)).2]
    exact Nat.lt_of_le_of_ne hlt.1 hlt.2

/-! ## Notes -/

theorem rewriteReference_within (h : ∀ source ∈ sources, WindowOf content source)
    (hids : ∀ source ∈ sources, source.docId < 2 ^ 128)
    (hcovers : ∀ source ∈ sources, ∃ m ∈ merged, source.Within m) {source : EvidencePackSource}
    (hsource : source ∈ sources)
    : ∃ m ∈ merged, m.reference = rewriteReference sources merged source.reference
      ∧ source.Within m := by
  unfold rewriteReference
  split
  next hnone => exact absurd (List.find?_eq_none.mp hnone source hsource) (by simp)
  next window hwindow =>
    have hmem := List.mem_of_find?_eq_some hwindow
    have hreference := List.find?_some hwindow
    rw [decide_eq_true_eq, (h window hmem).reference, (h source hsource).reference] at hreference
    -- The window that is found has the range that the reference names.
    rcases sourceReference_inj (hids window hmem) (hids source hsource) hreference
      with ⟨hid, hhash, hstart, hstop⟩
    split
    next hnone =>
      rcases hcovers window hmem with ⟨m, hm, hin⟩
      refine absurd (List.find?_eq_none.mp hnone m hm) ?_
      simp [hin.version, hin.start, hin.stop]
    next m hm =>
      have hfound := List.find?_some hm
      simp only [Bool.and_eq_true, decide_eq_true_eq] at hfound
      have hversion := EvidencePackSource.sameVersion_iff.mp hfound.1.1
      refine ⟨m, List.mem_of_find?_eq_some hm, rfl, ?_, ?_, ?_⟩
      . exact EvidencePackSource.sameVersion_iff.mpr
          ⟨hversion.1.trans hid, hversion.2.trans hhash⟩
      . rw [← hstart]
        exact hfound.1.2
      . rw [← hstop]
        exact hfound.2

theorem merge_renames (h : ∀ source ∈ sources, WindowOf content source)
    (hids : ∀ source ∈ sources, source.docId < 2 ^ 128)
    (hcovers : ∀ source ∈ sources, ∃ m ∈ merged, source.Within m) (note : EvidencePackNote)
    : Renames sources merged note.sourceReferences (note.merge sources merged).sourceReferences
      (rewriteReference sources merged) where
  renamed := rfl
  nodup := nodup_eraseDups _
  names := by
    intro source hsource _
    exact rewriteReference_within h hids hcovers hsource
  others := by
    intro reference hother
    unfold rewriteReference
    rw [List.find?_eq_none.mpr]
    intro source hsource
    simpa using hother source hsource

end Windows

theorem sourceBytesOf_windows {sources : List EvidencePackSource}
    (h : ∀ source ∈ sources, WindowOf content source)
    : sourceBytesOf sources = (sources.map fun source => source.stop - source.start).sum := by
  unfold sourceBytesOf
  congr 1
  apply List.map_congr_left
  intro source hsource
  have := (h source hsource).size
  omega

/-- Windows that quote the versions they name are merged into disjoint ones with the same bytes, in
the order of their first appearance, and every reference of a note that names a window becomes one to
the merged window around it. -/
theorem mergeOverlaps_merges (content : Contents) (pack : EvidencePackResponse)
    (h : ∀ source ∈ pack.sources, WindowOf content source)
    (hids : ∀ source ∈ pack.sources, source.docId < 2 ^ 128)
    : ∃ pack', mergeOverlaps pack = some pack' ∧ MergedOverlaps content pack pack' := by
  rcases mergeSources_merged h with ⟨merged, hmerged, hwindows⟩
  refine ⟨_, by unfold mergeOverlaps; rw [hmerged]; rfl, ?_⟩
  constructor
  case windows => exact hwindows.windows
  case disjoint => exact hwindows.disjoint
  case bytes => exact hwindows.bytes
  case appears => exact hwindows.appears
  case order => exact hwindows.order
  case notes =>
    refine ⟨rewriteReference pack.sources merged, ?_⟩
    dsimp only
    rw [List.forall₂_map_right_iff, List.forall₂_same]
    intro note _
    exact merge_renames h hids (mergeSources_covers hmerged) note
  case sourceBytes => exact sourceBytesOf_windows hwindows.windows

/-- The window of `"original"` from one offset to another. -/
def originalWindow (start stop : Nat) (text : String) : EvidencePackSource := {
  reference := sourceReference 1 "v1" start stop
  docId := 1
  contentHash := "v1"
  start
  stop
  text
  title := none
  origin := none
  sourceTimestamp := none
  capturedAt := 0 }

theorem mergeOverlaps_merges_original
    : let pack : EvidencePackResponse := { EvidencePackResponse.empty with
        sources := [originalWindow 4 8 "inal", originalWindow 0 5 "origi"] }
      ∃ pack', mergeOverlaps pack = some pack' ∧ MergedOverlaps (fun _ _ => "original") pack pack' := by
  apply mergeOverlaps_merges
  . intro source hsource
    rcases List.mem_pair.mp hsource with heq | heq
    . subst heq
      exact ⟨rfl, "orig", "", by decide, by decide, by decide⟩
    . subst heq
      exact ⟨rfl, "", "nal", by decide, by decide, by decide⟩
  . intro source hsource
    rcases List.mem_pair.mp hsource with heq | heq
    . subst heq
      decide
    . subst heq
      decide

end Elf
