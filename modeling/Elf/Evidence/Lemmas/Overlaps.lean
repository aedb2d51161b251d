import Elf.Domain.Lemmas.WritePolicy
import Elf.Evidence.Pack
import Mathlib.Data.Prod.Lex
import Mathlib.Data.String.Basic

/-!
This module contains how the windows of a pack are merged: which windows a merged one has, that no
two merged ones touch, and that a merged one has the text of its range.
-/

namespace Elf

open Text

/-! ## The order of windows -/

/-- The place of a window in their order. -/
def EvidencePackSource.key (source : EvidencePackSource) : ℕ ×ₗ String ×ₗ ℕ ×ₗ ℕ :=
  toLex (source.docId, toLex (source.contentHash, toLex (source.start, source.stop)))

theorem EvidencePackSource.le_iff (a b : EvidencePackSource) : a.le b = true ↔ a.key ≤ b.key := by
  unfold EvidencePackSource.le EvidencePackSource.key
  simp only [Prod.Lex.toLex_le_toLex]
  split
  next h =>
    simp only [decide_eq_true_eq]
    constructor
    . exact fun hlt => Or.inl hlt
    . intro hor
      exact hor.resolve_right fun heq => h heq.1
  next h =>
    have hid : a.docId = b.docId := not_not.mp h
    split
    next h =>
      simp only [hid, decide_eq_true_eq, lt_irrefl, false_or, true_and]
      constructor
      . exact fun hlt => Or.inl hlt
      . intro hor
        exact hor.resolve_right fun heq => h heq.1
    next h =>
      have hhash : a.contentHash = b.contentHash := not_not.mp h
      split
      next h =>
        simp only [hid, hhash, decide_eq_true_eq, lt_irrefl, false_or, true_and]
        omega
      next h =>
        have hstart : a.start = b.start := not_not.mp h
        simp only [hid, hhash, hstart, decide_eq_true_eq, lt_irrefl, false_or, true_and]

theorem EvidencePackSource.sameVersion_iff {a b : EvidencePackSource}
    : a.sameVersion b = true ↔ a.docId = b.docId ∧ a.contentHash = b.contentHash := by
  unfold EvidencePackSource.sameVersion
  simp

/-- The version that a window is of. -/
def EvidencePackSource.version (source : EvidencePackSource) : ℕ ×ₗ String :=
  toLex (source.docId, source.contentHash)

theorem EvidencePackSource.version_eq_iff {a b : EvidencePackSource}
    : a.version = b.version ↔ a.docId = b.docId ∧ a.contentHash = b.contentHash := by
  unfold EvidencePackSource.version
  rw [toLex_inj, Prod.mk.injEq]

theorem EvidencePackSource.sameVersion_eq {a b : EvidencePackSource}
    : a.sameVersion b = true ↔ a.version = b.version := by
  rw [EvidencePackSource.sameVersion_iff, EvidencePackSource.version_eq_iff]

/-- The window `a` is of an earlier version than `b`, or begins no later. -/
structure EvidencePackSource.Before (a b : EvidencePackSource) : Prop where
  version : a.version ≤ b.version
  start : a.version = b.version → a.start ≤ b.start

theorem EvidencePackSource.before_of_le {a b : EvidencePackSource} (h : a.le b = true)
    : a.Before b := by
  rw [EvidencePackSource.le_iff] at h
  unfold EvidencePackSource.key at h
  simp only [Prod.Lex.toLex_le_toLex] at h
  constructor
  . unfold EvidencePackSource.version
    rw [Prod.Lex.toLex_le_toLex]
    rcases h with hid | ⟨hid, hhash | ⟨hhash, -⟩⟩
    . exact Or.inl hid
    . exact Or.inr ⟨hid, le_of_lt hhash⟩
    . exact Or.inr ⟨hid, le_of_eq hhash⟩
  . intro hversion
    rw [EvidencePackSource.version_eq_iff] at hversion
    rcases h with hid | ⟨-, hhash | ⟨-, hstart | ⟨hstart, -⟩⟩⟩
    . exact absurd hversion.1 (ne_of_lt hid)
    . exact absurd hversion.2 (ne_of_lt hhash)
    . exact le_of_lt hstart
    . exact le_of_eq hstart

/-- The windows of a pack in their order, each with its place in the pack. -/
def orderedSources (sources : List EvidencePackSource) : List (Nat × EvidencePackSource) :=
  (sources.zipIdx.map fun (source, index) => (index, source)).insertionSort fun a b => a.2.le b.2

theorem mem_orderedSources {sources : List EvidencePackSource} {window : Nat × EvidencePackSource}
    : window ∈ orderedSources sources ↔ sources[window.1]? = some window.2 := by
  unfold orderedSources
  rw [List.mem_insertionSort, List.mem_map]
  constructor
  . intro h
    rcases h with ⟨⟨source, index⟩, hmem, heq⟩
    rw [List.mem_zipIdx_iff_getElem?] at hmem
    rw [← heq]
    exact hmem
  . intro h
    refine ⟨(window.2, window.1), ?_, rfl⟩
    rw [List.mem_zipIdx_iff_getElem?]
    exact h

theorem pairwise_orderedSources (sources : List EvidencePackSource)
    : (orderedSources sources).Pairwise fun a b => a.2.le b.2 = true := by
  have htotal : Std.Total fun a b : Nat × EvidencePackSource => a.2.le b.2 = true := by
    constructor
    intro a b
    simp only [EvidencePackSource.le_iff]
    exact le_total _ _
  have htrans : IsTrans (Nat × EvidencePackSource) fun a b => a.2.le b.2 = true := by
    constructor
    intro a b c hab hbc
    rw [EvidencePackSource.le_iff] at hab hbc ⊢
    exact le_trans hab hbc
  exact List.pairwise_insertionSort _ _

theorem before_orderedSources (sources : List EvidencePackSource)
    : (orderedSources sources).Pairwise fun a b => a.2.Before b.2 :=
  (pairwise_orderedSources sources).imp EvidencePackSource.before_of_le

/-! ## Windows within windows -/

/-- The window `merged` has all of `source`. -/
structure EvidencePackSource.Within (source merged : EvidencePackSource) : Prop where
  version : merged.sameVersion source = true
  start : merged.start ≤ source.start
  stop : source.stop ≤ merged.stop

theorem EvidencePackSource.Within.refl (source : EvidencePackSource) : source.Within source :=
  ⟨EvidencePackSource.sameVersion_iff.mpr ⟨rfl, rfl⟩, Nat.le_refl _, Nat.le_refl _⟩

theorem EvidencePackSource.Within.trans {a b c : EvidencePackSource} (h : a.Within b)
    (h' : b.Within c) : a.Within c := by
  have hab := EvidencePackSource.sameVersion_iff.mp h.version
  have hbc := EvidencePackSource.sameVersion_iff.mp h'.version
  refine ⟨EvidencePackSource.sameVersion_iff.mpr ?_, Nat.le_trans h'.start h.start,
    Nat.le_trans h.stop h'.stop⟩
  exact ⟨hbc.1.trans hab.1, hbc.2.trans hab.2⟩

/-- The windows are of different versions, or there is a byte between them. -/
def EvidencePackSource.Apart (a b : EvidencePackSource) : Prop :=
  a.version = b.version → a.stop < b.start ∨ b.stop < a.start

theorem EvidencePackSource.Apart.symm {a b : EvidencePackSource} (h : a.Apart b) : b.Apart a := by
  intro hversion
  exact (h hversion.symm).symm

/-- A window is not within two windows that are apart. -/
theorem EvidencePackSource.Within.not_apart {a b c : EvidencePackSource} (h : a.Within b)
    (h' : a.Within c) (hspan : a.start ≤ a.stop) : ¬b.Apart c := by
  intro hapart
  have hb := EvidencePackSource.sameVersion_eq.mp h.version
  have hc := EvidencePackSource.sameVersion_eq.mp h'.version
  have := h.start
  have := h.stop
  have := h'.start
  have := h'.stop
  rcases hapart (hb.trans hc.symm) with hlt | hlt
  . omega
  . omega

/-! ## Merged windows -/

/-- What a window that is merged from two others is. -/
structure EvidencePackSource.Joins (prior source joined : EvidencePackSource) : Prop where
  left : prior.Within joined
  right : source.Within joined
  start : joined.start = prior.start
  bytes : ∀ offset, joined.start ≤ offset → offset < joined.stop →
    prior.start ≤ offset ∧ offset < prior.stop ∨ source.start ≤ offset ∧ offset < source.stop

theorem extend_joins {prior source joined : EvidencePackSource}
    (h : prior.extend source = some joined) (hversion : prior.sameVersion source = true)
    (hstart : prior.start ≤ source.start) (hjoin : source.start ≤ prior.stop)
    : prior.Joins source joined := by
  have hsame : prior.sameVersion prior = true := EvidencePackSource.sameVersion_iff.mpr ⟨rfl, rfl⟩
  unfold EvidencePackSource.extend at h
  split at h
  next hlt =>
    rcases Option.map_eq_some_iff.mp h with ⟨tail, -, hjoined⟩
    subst hjoined
    refine ⟨⟨hsame, Nat.le_refl _, Nat.le_of_lt hlt⟩, ⟨hversion, hstart, Nat.le_refl _⟩, rfl, ?_⟩
    intro offset hle hoffset
    dsimp only at hle hoffset
    omega
  next hge =>
    cases h
    refine ⟨⟨hsame, Nat.le_refl _, Nat.le_refl _⟩, ⟨hversion, hstart, ?_⟩, rfl, ?_⟩
    . dsimp only
      omega
    . intro offset hle hoffset
      exact Or.inl ⟨hle, hoffset⟩

/-- What `merged` is, into which the windows are merged: each merged window covers some of them, and
has the place of the first of these. -/
structure Coalesces (windows merged : List (Nat × EvidencePackSource)) : Prop where
  begins : ∀ m ∈ merged, ∃ w ∈ windows, w.2.version = m.2.version ∧ w.2.start = m.2.start
  apart : merged.Pairwise fun a b => a.2.Apart b.2
  covers : ∀ w ∈ windows, ∃ m ∈ merged, w.2.Within m.2 ∧ m.1 ≤ w.1
  bytes : ∀ m ∈ merged, ∀ offset, m.2.start ≤ offset → offset < m.2.stop →
    ∃ w ∈ windows, w.2.Within m.2 ∧ w.2.start ≤ offset ∧ offset < w.2.stop
  first : ∀ m ∈ merged, ∃ w ∈ windows, w.2.Within m.2 ∧ w.1 = m.1

namespace Coalesces

variable {windows rest merged : List (Nat × EvidencePackSource)}
variable {prior next : Nat × EvidencePackSource} {source joined : EvidencePackSource}

theorem nil : Coalesces [] [] where
  begins := by simp
  apart := List.Pairwise.nil
  covers := by simp
  bytes := by simp
  first := by simp

theorem single (prior : Nat × EvidencePackSource) : Coalesces [prior] [prior] where
  begins := by simp
  apart := List.pairwise_singleton ..
  covers := by simp [EvidencePackSource.Within.refl]
  bytes := by
    intro m hm offset hle hlt
    exact ⟨m, hm, EvidencePackSource.Within.refl _, hle, hlt⟩
  first := by simp [EvidencePackSource.Within.refl]

/-- A window that is apart from all the others stays as it is. -/
theorem cons (h : Coalesces windows merged)
    (hapart : ∀ w ∈ windows, prior.2.version = w.2.version → prior.2.stop < w.2.start)
    : Coalesces (prior :: windows) (prior :: merged) where
  begins := by
    intro m hm
    rcases List.mem_cons.mp hm with heq | hm
    . rw [heq]
      exact ⟨prior, List.mem_cons_self .., rfl, rfl⟩
    . rcases h.begins m hm with ⟨w, hw, hbegins⟩
      exact ⟨w, List.mem_cons_of_mem _ hw, hbegins⟩
  apart := by
    rw [List.pairwise_cons]
    refine ⟨?_, h.apart⟩
    intro m hm hversion
    rcases h.begins m hm with ⟨w, hw, hwversion, hwstart⟩
    left
    rw [← hwstart]
    exact hapart w hw (hversion.trans hwversion.symm)
  covers := by
    intro w hw
    rcases List.mem_cons.mp hw with heq | hw
    . rw [heq]
      exact ⟨prior, List.mem_cons_self .., EvidencePackSource.Within.refl _, Nat.le_refl _⟩
    . rcases h.covers w hw with ⟨m, hm, hcovers⟩
      exact ⟨m, List.mem_cons_of_mem _ hm, hcovers⟩
  bytes := by
    intro m hm offset hle hlt
    rcases List.mem_cons.mp hm with heq | hm
    . subst heq
      exact ⟨m, List.mem_cons_self .., EvidencePackSource.Within.refl _, hle, hlt⟩
    . rcases h.bytes m hm offset hle hlt with ⟨w, hw, hbytes⟩
      exact ⟨w, List.mem_cons_of_mem _ hw, hbytes⟩
  first := by
    intro m hm
    rcases List.mem_cons.mp hm with heq | hm
    . subst heq
      exact ⟨m, List.mem_cons_self .., EvidencePackSource.Within.refl _, rfl⟩
    . rcases h.first m hm with ⟨w, hw, hfirst⟩
      exact ⟨w, List.mem_cons_of_mem _ hw, hfirst⟩

/-- What the two windows that are joined merge into is what the window that joins them does. -/
theorem join (h : Coalesces ((min prior.1 next.1, joined) :: rest) merged)
    (hjoins : prior.2.Joins next.2 joined) : Coalesces (prior :: next :: rest) merged := by
  have hsame := EvidencePackSource.sameVersion_eq.mp hjoins.left.version
  have hprior : prior ∈ prior :: next :: rest := List.mem_cons_self ..
  have hnext : next ∈ prior :: next :: rest := List.mem_cons_of_mem _ (List.mem_cons_self ..)
  have hrest : ∀ w ∈ rest, w ∈ prior :: next :: rest := fun w hw =>
    List.mem_cons_of_mem _ (List.mem_cons_of_mem _ hw)
  rcases h.covers _ (List.mem_cons_self ..) with ⟨kept, hkept, hin, hle⟩
  dsimp only at hin hle
  constructor
  case apart => exact h.apart
  case begins =>
    intro m hm
    rcases h.begins m hm with ⟨w, hw, hversion, hstart⟩
    rcases List.mem_cons.mp hw with heq | hw
    . subst heq
      exact ⟨prior, hprior, hsame.symm.trans hversion, hjoins.start.symm.trans hstart⟩
    . exact ⟨w, hrest w hw, hversion, hstart⟩
  case covers =>
    intro w hw
    rcases List.mem_cons.mp hw with heq | hw
    . subst heq
      exact ⟨kept, hkept, hjoins.left.trans hin, by omega⟩
    . rcases List.mem_cons.mp hw with heq | hw
      . subst heq
        exact ⟨kept, hkept, hjoins.right.trans hin, by omega⟩
      . exact h.covers w (List.mem_cons_of_mem _ hw)
  case bytes =>
    intro m hm offset hfrom hto
    rcases h.bytes m hm offset hfrom hto with ⟨w, hw, hwithin, hwfrom, hwto⟩
    rcases List.mem_cons.mp hw with heq | hw
    . subst heq
      rcases hjoins.bytes offset hwfrom hwto with hbyte | hbyte
      . exact ⟨prior, hprior, hjoins.left.trans hwithin, hbyte⟩
      . exact ⟨next, hnext, hjoins.right.trans hwithin, hbyte⟩
    . exact ⟨w, hrest w hw, hwithin, hwfrom, hwto⟩
  case first =>
    intro m hm
    rcases h.first m hm with ⟨w, hw, hwithin, hindex⟩
    rcases List.mem_cons.mp hw with heq | hw
    . subst heq
      rcases Nat.le_total prior.1 next.1 with hmin | hmin
      . exact ⟨prior, hprior, hjoins.left.trans hwithin, by rw [← hindex, Nat.min_eq_left hmin]⟩
      . exact ⟨next, hnext, hjoins.right.trans hwithin, by rw [← hindex, Nat.min_eq_right hmin]⟩
    . exact ⟨w, hrest w hw, hwithin, hindex⟩

end Coalesces

theorem mergeFrom_merges {prior : Nat × EvidencePackSource}
    {rest merged : List (Nat × EvidencePackSource)} (h : mergeFrom prior rest = some merged)
    (hordered : (prior :: rest).Pairwise fun a b => a.2.Before b.2)
    : Coalesces (prior :: rest) merged := by
  induction rest generalizing prior merged with
  | nil =>
    cases h
    exact Coalesces.single prior
  | cons next rest ih =>
    rcases next with ⟨index, source⟩
    rw [List.pairwise_cons, List.pairwise_cons] at hordered
    rcases hordered with ⟨hprior, hsource, hrest⟩
    have hnext := hprior (index, source) (List.mem_cons_self ..)
    unfold mergeFrom at h
    split at h
    next hjoin =>
      simp only [Bool.and_eq_true, decide_eq_true_eq] at hjoin
      have hversion := EvidencePackSource.sameVersion_eq.mp hjoin.1
      rcases Option.bind_eq_some_iff.mp h with ⟨joined, hextend, hmerge⟩
      have hjoins := extend_joins hextend hjoin.1 (hnext.start hversion) hjoin.2
      have hsame := EvidencePackSource.sameVersion_eq.mp hjoins.left.version
      apply @Coalesces.join rest merged prior (index, source) joined
      . apply ih hmerge
        rw [List.pairwise_cons]
        refine ⟨?_, hrest⟩
        intro later hlater
        have hbefore := hprior later (List.mem_cons_of_mem _ hlater)
        constructor
        . dsimp only
          rw [hsame]
          exact hbefore.version
        . dsimp only
          rw [hsame, hjoins.start]
          exact hbefore.start
      . exact hjoins
    next hjoin =>
      rcases Option.map_eq_some_iff.mp h with ⟨later, hmerge, hmerged⟩
      subst hmerged
      apply (ih hmerge (List.pairwise_cons.mpr ⟨hsource, hrest⟩)).cons
      intro w hw hversion
      -- The versions between two windows of one version are that version.
      have hbetween : source.version ≤ w.2.version ∧ (source.version = w.2.version →
          source.start ≤ w.2.start) := by
        rcases List.mem_cons.mp hw with heq | hw
        . rw [heq]
          exact ⟨le_refl _, fun _ => Nat.le_refl _⟩
        . exact ⟨(hsource w hw).version, (hsource w hw).start⟩
      have hsame : prior.2.version = source.version := by
        apply le_antisymm hnext.version
        rw [hversion]
        exact hbetween.1
      have hstart := hbetween.2 (hsame.symm.trans hversion)
      rw [← EvidencePackSource.sameVersion_eq] at hsame
      simp only [hsame, Bool.true_and, decide_eq_true_eq, Nat.not_le] at hjoin
      omega

theorem mergeOrdered_merges {ordered merged : List (Nat × EvidencePackSource)}
    (h : mergeOrdered ordered = some merged)
    (hordered : ordered.Pairwise fun a b => a.2.Before b.2) : Coalesces ordered merged := by
  cases ordered with
  | nil =>
    cases h
    exact Coalesces.nil
  | cons prior rest => exact mergeFrom_merges h hordered

/-- The merged windows of a pack are those of an ordered merge, by their places. -/
theorem mergeSources_eq_some {sources merged : List EvidencePackSource}
    (h : mergeSources sources = some merged)
    : ∃ ordered, mergeOrdered (orderedSources sources) = some ordered
        ∧ Coalesces (orderedSources sources) ordered
        ∧ merged = (ordered.insertionSort fun a b => a.1 ≤ b.1).map Prod.snd := by
  rcases Option.map_eq_some_iff.mp h with ⟨ordered, hordered, hmerged⟩
  exact ⟨ordered, hordered, mergeOrdered_merges hordered (before_orderedSources sources),
    hmerged.symm⟩

theorem mergeSources_covers {sources merged : List EvidencePackSource}
    (h : mergeSources sources = some merged)
    : ∀ source ∈ sources, ∃ kept ∈ merged, source.Within kept := by
  rcases mergeSources_eq_some h with ⟨ordered, -, hmerges, hmerged⟩
  intro source hsource
  rcases List.mem_iff_getElem?.mp hsource with ⟨index, hindex⟩
  have hwindow : (index, source) ∈ orderedSources sources := mem_orderedSources.mpr hindex
  rcases hmerges.covers _ hwindow with ⟨kept, hkept, hin, -⟩
  refine ⟨kept.2, ?_, hin⟩
  rw [hmerged, List.mem_map]
  exact ⟨kept, (List.mem_insertionSort _).mpr hkept, rfl⟩

/-- A merged window has a window that it was merged from. -/
theorem mergeSources_within {sources merged : List EvidencePackSource}
    (h : mergeSources sources = some merged)
    : ∀ m ∈ merged, ∃ source ∈ sources, source.Within m := by
  rcases mergeSources_eq_some h with ⟨ordered, -, hmerges, hmerged⟩
  intro m hm
  rw [hmerged, List.mem_map] at hm
  rcases hm with ⟨window, hwindow, heq⟩
  rw [List.mem_insertionSort] at hwindow
  rcases hmerges.first window hwindow with ⟨w, hw, hin, -⟩
  rw [← heq]
  exact ⟨w.2, List.mem_of_getElem? (mem_orderedSources.mp hw), hin⟩

/-! ## Texts -/

theorem dropBytes_eq_some {text tail : String} {offset : Nat}
    : dropBytes text offset = some tail ↔ Slice text offset text.utf8ByteSize tail := by
  unfold dropBytes
  constructor
  . intro h
    rcases Option.map_eq_some_iff.mp h with ⟨⟨left, right⟩, hsplit, htail⟩
    rw [splitAtByte_eq_some] at hsplit
    subst htail
    have htext : text = String.ofList left ++ String.ofList right := by
      rw [← String.ofList_append, ← hsplit.1, String.ofList_toList]
    refine ⟨String.ofList left, "", by rw [String.append_empty]; exact htext, hsplit.2, ?_⟩
    rw [htext, String.utf8ByteSize_append, hsplit.2]
  . intro h
    rcases h with ⟨left, right, htext, hleft, hsize⟩
    have hright : right = "" := by
      apply String.utf8ByteSize_eq_zero_iff.mp
      have hbytes := congrArg String.utf8ByteSize htext
      rw [String.utf8ByteSize_append, String.utf8ByteSize_append] at hbytes
      omega
    have hsplit : splitAtByte text.toList offset = some (left.toList, tail.toList) := by
      rw [splitAtByte_eq_some, htext, hright, String.ofList_toList]
      simp [hleft]
    rw [hsplit]
    simp

theorem sourceBytesOf_perm {sources sources' : List EvidencePackSource} (h : sources.Perm sources')
    : sourceBytesOf sources = sourceBytesOf sources' := by
  unfold sourceBytesOf
  exact (h.map _).sum_nat

theorem map_snd_orderedSources (sources : List EvidencePackSource)
    : ((orderedSources sources).map Prod.snd).Perm sources := by
  unfold orderedSources
  refine ((List.perm_insertionSort _ _).map Prod.snd).trans ?_
  rw [List.map_map]
  have hfst : (Prod.snd ∘ fun x : EvidencePackSource × Nat => (x.2, x.1)) = Prod.fst := rfl
  have heq : sources.zipIdx.map (Prod.snd ∘ fun x : EvidencePackSource × Nat => (x.2, x.1)) = sources := by
    rw [hfst, List.zipIdx_map_fst]
  rw [heq]

/-- The content of each version of a document, by its identity and its digest. -/
abbrev Contents := Uuid → String → String

/-- The source is text of the version that it names, over the range that its reference names. -/
structure WindowOf (content : Contents) (source : EvidencePackSource) : Prop where
  reference : source.reference
    = sourceReference source.docId source.contentHash source.start source.stop
  slice : Slice (content source.docId source.contentHash) source.start source.stop source.text

variable {content : Contents}

theorem WindowOf.size {source : EvidencePackSource} (h : WindowOf content source)
    : source.start + source.text.utf8ByteSize = source.stop :=
  h.slice.size

/-- Windows of one version that continue each other are merged into a window. -/
theorem extend_windowOf {prior source : EvidencePackSource} (hprior : WindowOf content prior)
    (hsource : WindowOf content source) (hversion : prior.sameVersion source = true)
    (hjoin : source.start ≤ prior.stop)
    : ∃ merged, prior.extend source = some merged ∧ WindowOf content merged
      ∧ merged.text.utf8ByteSize ≤ prior.text.utf8ByteSize + source.text.utf8ByteSize := by
  rw [EvidencePackSource.sameVersion_iff] at hversion
  have hpriorslice := hprior.slice
  have hsourceslice := hsource.slice
  rw [← hversion.1, ← hversion.2] at hsourceslice
  unfold EvidencePackSource.extend
  split
  next hlt =>
    rcases Slice.exists_of_isBoundary hpriorslice.isBoundary_right hsourceslice.isBoundary_right
      (Nat.le_of_lt hlt) with ⟨tail, htail⟩
    have hinside := hsourceslice.inside htail hjoin (Nat.le_refl _)
    have hsourcesize := hsource.size
    have hdrop : dropBytes source.text (prior.stop - source.start) = some tail := by
      rw [dropBytes_eq_some]
      have hend : source.stop - source.start = source.text.utf8ByteSize := by omega
      rw [← hend]
      exact hinside
    rw [hdrop]
    refine ⟨_, rfl, ⟨rfl, hpriorslice.append htail⟩, ?_⟩
    have htailsize := htail.size
    rw [String.utf8ByteSize_append]
    omega
  next hge =>
    refine ⟨_, rfl, ⟨rfl, hpriorslice⟩, ?_⟩
    dsimp only
    omega

theorem mergeFrom_windowOf {prior : Nat × EvidencePackSource} {rest : List (Nat × EvidencePackSource)}
    (h : ∀ window ∈ prior :: rest, WindowOf content window.2)
    : ∃ merged, mergeFrom prior rest = some merged ∧ (∀ window ∈ merged, WindowOf content window.2)
      ∧ sourceBytesOf (merged.map Prod.snd) ≤ sourceBytesOf ((prior :: rest).map Prod.snd) := by
  induction rest generalizing prior with
  | nil => exact ⟨[prior], rfl, h, Nat.le_refl _⟩
  | cons next rest ih =>
    rcases next with ⟨index, source⟩
    have hsource := h (index, source) (List.mem_cons_of_mem _ (List.mem_cons_self ..))
    have hlater : ∀ window ∈ rest, WindowOf content window.2 := fun window hwindow =>
      h window (List.mem_cons_of_mem _ (List.mem_cons_of_mem _ hwindow))
    unfold mergeFrom
    split
    next hjoin =>
      simp only [Bool.and_eq_true, decide_eq_true_eq] at hjoin
      rcases extend_windowOf (h prior (List.mem_cons_self ..)) hsource hjoin.1 hjoin.2
        with ⟨joined, hextend, hjoined, hbytes⟩
      rw [hextend, Option.bind_some]
      rcases @ih (min prior.1 index, joined) (List.forall_mem_cons.mpr ⟨hjoined, hlater⟩)
        with ⟨merged, hmerged, hwindows, hmergedbytes⟩
      refine ⟨merged, hmerged, hwindows, Nat.le_trans hmergedbytes ?_⟩
      unfold sourceBytesOf
      simp only [List.map_cons, List.sum_cons]
      dsimp only at hbytes ⊢
      omega
    next hjoin =>
      rcases @ih (index, source) (List.forall_mem_cons.mpr ⟨hsource, hlater⟩)
        with ⟨merged, hmerged, hwindows, hmergedbytes⟩
      rw [hmerged]
      refine ⟨prior :: merged, rfl,
        List.forall_mem_cons.mpr ⟨h prior (List.mem_cons_self ..), hwindows⟩, ?_⟩
      unfold sourceBytesOf at hmergedbytes ⊢
      simp only [List.map_cons, List.sum_cons] at hmergedbytes ⊢
      omega

/-- Windows are merged into windows, which are no longer together. -/
theorem mergeSources_windowOf {sources : List EvidencePackSource}
    (h : ∀ source ∈ sources, WindowOf content source)
    : ∃ merged, mergeSources sources = some merged ∧ (∀ source ∈ merged, WindowOf content source)
      ∧ sourceBytesOf merged ≤ sourceBytesOf sources := by
  have hperm := map_snd_orderedSources sources
  have hwindows : ∀ window ∈ orderedSources sources, WindowOf content window.2 := by
    intro window hwindow
    exact h window.2 (hperm.mem_iff.mp (List.mem_map_of_mem hwindow))
  have hmerge : ∃ merged, mergeOrdered (orderedSources sources) = some merged
      ∧ (∀ window ∈ merged, WindowOf content window.2)
      ∧ sourceBytesOf (merged.map Prod.snd)
        ≤ sourceBytesOf ((orderedSources sources).map Prod.snd) := by
    cases hordered : orderedSources sources with
    | nil =>
      refine ⟨[], rfl, ?_, Nat.le_refl _⟩
      intro window hwindow
      cases hwindow
    | cons prior rest =>
      rw [hordered] at hwindows
      exact mergeFrom_windowOf hwindows
  rcases hmerge with ⟨merged, hmerged, hmergedwindows, hbytes⟩
  have hsorted := List.perm_insertionSort (fun a b : Nat × EvidencePackSource => a.1 ≤ b.1) merged
  refine ⟨(merged.insertionSort fun a b => a.1 ≤ b.1).map Prod.snd, ?_, ?_, ?_⟩
  . unfold mergeSources
    unfold orderedSources at hmerged
    dsimp only at hmerged ⊢
    rw [hmerged, Option.map_some]
  . intro source hsource
    rcases List.mem_map.mp hsource with ⟨window, hwindow, heq⟩
    rw [← heq]
    exact hmergedwindows window (hsorted.mem_iff.mp hwindow)
  . rw [sourceBytesOf_perm (hsorted.map Prod.snd)]
    rw [sourceBytesOf_perm hperm] at hbytes
    exact hbytes

end Elf
