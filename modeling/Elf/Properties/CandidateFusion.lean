import Elf.Search.Lemmas.Merge
import Elf.Search.Lemmas.Terms
import Mathlib.Algebra.Order.BigOperators.Group.List
import Mathlib.Data.List.Dedup

/-!
This module contains that the merge of the retrieval sources is a ranking of their chunks: what is in
it, that the order of the sources and of their candidates is not, and that a chunk that is nowhere
worse than another one is not placed behind it.
-/

namespace Elf

open Sorting

variable {K : Type} [Field K] [LinearOrder K]

/-! ## The ranking of the chunks -/

/-- The chunks of all sources, each once. -/
def distinctChunks (sources : List RetrievalSourceCandidates) : List Uuid :=
  ((retrieved sources).map fun pair => pair.2.chunkId).dedup

/-- The chunks of the sources in their order. -/
def rankedChunks (policy : ResolvedRetrievalSourcesPolicy K)
    (sources : List RetrievalSourceCandidates) : List Uuid :=
  sortBy (compareChunks policy sources) (distinctChunks sources)

/-- What the merge computes of a candidate: the chunk, the rank and the score. -/
def ChunkCandidate.ranking (candidate : ChunkCandidate) : Uuid × Nat × Option F32 :=
  (candidate.chunkId, candidate.retrievalRank, candidate.retrievalScore)

variable {A : Arithmetic K} {sources sources' : List RetrievalSourceCandidates}
  {policy : ResolvedRetrievalSourcesPolicy K} {candidateK : Nat}

/-- The entries of the merge with their scores, in their order. -/
def sortedEntries (policy : ResolvedRetrievalSourcesPolicy K)
    (sources : List RetrievalSourceCandidates) : List (MergedRetrievalCandidate K) :=
  sortBy (compareMerged (sourceOrder policy sources))
    ((sources.foldl mergeSource []).map fun entry =>
      { entry with combinedScore := combinedScore policy sources entry })

theorem mergeRetrievalCandidates_eq
    : mergeRetrievalCandidates A sources policy candidateK
      = ((sortedEntries policy sources).take candidateK).zipIdx.map (rankMerged A) := by
  unfold mergeRetrievalCandidates
  split
  next hzero =>
    rw [hzero]
    rfl
  next => rfl

theorem mem_sortedEntries {entry : MergedRetrievalCandidate K}
    (h : entry ∈ sortedEntries policy sources)
    : IsEntry (retrieved sources) entry
      ∧ entry.combinedScore = chunkScore policy sources entry.candidate.chunkId := by
  unfold sortedEntries at h
  rw [mem_sortBy] at h
  have ⟨old, hold, heq⟩ := List.mem_map.mp h
  have hentry := (merges sources).entry old hold
  subst heq
  exact ⟨hentry.score _, combinedScore_eq hentry⟩

omit [LinearOrder K] in
theorem distinctChunks_perm
    : ((sources.foldl mergeSource ([] : List (MergedRetrievalCandidate K))).map fun entry =>
        entry.candidate.chunkId).Perm (distinctChunks sources) := by
  have hmerges : Merges (retrieved sources) (sources.foldl mergeSource []) := merges (K := K) sources
  have hnodup : (distinctChunks sources).Nodup := List.nodup_dedup _
  rw [List.perm_ext_iff_of_nodup hmerges.nodup hnodup]
  intro chunkId
  unfold distinctChunks
  rw [List.mem_dedup]
  exact hmerges.mem chunkId

theorem sortedEntries_chunks
    : (sortedEntries policy sources).map (fun entry => entry.candidate.chunkId)
      = rankedChunks policy sources := by
  have hmap : (sortedEntries policy sources).map (fun entry => entry.candidate.chunkId)
      = sortBy (compareChunks policy sources) (((sources.foldl mergeSource []).map fun entry =>
        { entry with combinedScore := combinedScore policy sources entry }).map fun entry =>
          entry.candidate.chunkId) := by
    apply map_sortBy
    intro left hleft right hright
    have ⟨hleft, hleftScore⟩ := mem_sortedEntries (mem_sortBy.mpr hleft)
    have ⟨hright, hrightScore⟩ := mem_sortedEntries (mem_sortBy.mpr hright)
    exact (compareMerged_eq hleft hleftScore hright hrightScore).symm
  rw [hmap, List.map_map]
  apply sortBy_eq_of_perm
  . intro left _ right _ heq
    exact eq_of_compareChunks_eq heq
  . exact distinctChunks_perm

theorem map_ranking
    : (mergeRetrievalCandidates A sources policy candidateK).map ChunkCandidate.ranking
      = ((rankedChunks policy sources).take candidateK).zipIdx.map fun entry =>
        (entry.1, entry.2 + 1, some (A.float (chunkScore policy sources entry.1))) := by
  rw [mergeRetrievalCandidates_eq, ← sortedEntries_chunks, ← List.map_take, List.zipIdx_map,
    List.map_map, List.map_map]
  apply List.map_congr_left
  intro ⟨entry, idx⟩ hmem
  have hentry := List.mem_of_mem_take (List.fst_mem_of_mem_zipIdx hmem)
  have ⟨_, hscore⟩ := mem_sortedEntries hentry
  show (_, _, some (A.float entry.combinedScore)) = _
  rw [hscore]
  rfl

theorem map_chunkId
    : (mergeRetrievalCandidates A sources policy candidateK).map (·.chunkId)
      = (rankedChunks policy sources).take candidateK := by
  have h := congrArg (List.map Prod.fst) (@map_ranking K _ _ A sources policy candidateK)
  rw [List.map_map, List.map_map] at h
  have hzip : (((rankedChunks policy sources).take candidateK).zipIdx.map Prod.fst)
      = (rankedChunks policy sources).take candidateK := List.zipIdx_map_fst ..
  rw [← hzip]
  exact h

/-! ## Other orders of the sources -/

/-- The same sources with the same candidates, both in any order. -/
def Reordered (sources' sources : List RetrievalSourceCandidates) : Prop :=
  ∃ permuted, sources'.Perm permuted ∧ List.Forall₂
    (fun left right => left.source = right.source ∧ left.candidates.Perm right.candidates)
    permuted sources

theorem retrieved_of_reordered (h : Reordered sources' sources)
    : (retrieved sources').Perm (retrieved sources) := by
  have ⟨permuted, hperm, hsame⟩ := h
  apply (hperm.flatMap_right _).trans
  clear h hperm
  induction hsame with
  | nil => apply List.Perm.refl
  | cons hhead _ ih =>
    rw [List.flatMap_cons]
    apply List.Perm.append _ ih
    rw [hhead.1]
    apply hhead.2.map

theorem sourceTotal_of_reordered (h : Reordered sources' sources) (kind : RetrievalSourceKind)
    : sourceTotal sources' kind = sourceTotal sources kind := by
  have ⟨permuted, hperm, hsame⟩ := h
  have htotal : sourceTotal sources' kind = sourceTotal permuted kind :=
    ((hperm.filter _).map _).sum_nat
  rw [htotal]
  clear h hperm htotal
  induction hsame with
  | nil => rfl
  | @cons left right _ _ hhead _ ih =>
    have hlength : (left.candidates.map (·.chunkId)).dedup.length
        = (right.candidates.map (·.chunkId)).dedup.length := (hhead.2.map _).dedup.length_eq
    unfold sourceTotal at ih ⊢
    rw [List.filter_cons, List.filter_cons, hhead.1]
    split
    . rw [List.map_cons, List.map_cons, List.sum_cons, List.sum_cons, hlength, ih]
    . exact ih

theorem chunkRanks_of_perm {pairs pairs' : List (RetrievalSourceKind × ChunkCandidate)}
    (h : pairs'.Perm pairs) (chunkId : Uuid) : chunkRanks pairs' chunkId = chunkRanks pairs chunkId := by
  unfold chunkRanks
  simp only [bestRank_of_perm h]

theorem chunkScore_of_reordered (h : Reordered sources' sources) (chunkId : Uuid)
    : chunkScore policy sources' chunkId = chunkScore policy sources chunkId := by
  unfold chunkScore rankScore
  rw [chunkRanks_of_perm (retrieved_of_reordered h)]
  simp only [sourceTotal_of_reordered h]

theorem compareChunks_of_reordered (h : Reordered sources' sources)
    : compareChunks policy sources' = compareChunks policy sources := by
  have hperm := retrieved_of_reordered h
  have horder : sourceOrder policy sources' = sourceOrder policy sources := by
    unfold sourceOrder
    simp only [sourceTotal_of_reordered h]
  funext left right
  unfold compareChunks
  rw [chunkScore_of_reordered h, chunkScore_of_reordered h, chunkRanks_of_perm hperm,
    chunkRanks_of_perm hperm, compareRanks_of_perm hperm, horder]

theorem rankedChunks_of_reordered (h : Reordered sources' sources)
    : rankedChunks policy sources' = rankedChunks policy sources := by
  unfold rankedChunks
  rw [compareChunks_of_reordered h]
  apply sortBy_eq_of_perm
  . intro left _ right _ heq
    exact eq_of_compareChunks_eq heq
  . exact ((retrieved_of_reordered h).map _).dedup

theorem ranking_of_reordered (h : Reordered sources' sources)
    : (mergeRetrievalCandidates A sources' policy candidateK).map ChunkCandidate.ranking
      = (mergeRetrievalCandidates A sources policy candidateK).map ChunkCandidate.ranking := by
  rw [map_ranking, map_ranking, rankedChunks_of_reordered h]
  simp only [chunkScore_of_reordered h]

/-! ## Chunks that are nowhere worse -/

/-- A chunk is in every source that another one is in, with a rank that is not larger. -/
def NoWorse (sources : List RetrievalSourceCandidates) (a b : Uuid) : Prop :=
  ∀ source ∈ sources, ∀ candidate ∈ source.candidates, candidate.chunkId = b →
    ∃ other ∈ source.candidates, other.chunkId = a
      ∧ other.retrievalRank ≤ candidate.retrievalRank

/-- No source has the chunk with the rank of zero. -/
def Ranked (sources : List RetrievalSourceCandidates) (a : Uuid) : Prop :=
  ∀ source ∈ sources, ∀ candidate ∈ source.candidates, candidate.chunkId = a →
    0 < candidate.retrievalRank

theorem mem_retrieved {kind : RetrievalSourceKind} {candidate : ChunkCandidate}
    : (kind, candidate) ∈ retrieved sources
      ↔ ∃ source ∈ sources, source.source = kind ∧ candidate ∈ source.candidates := by
  unfold retrieved
  rw [List.mem_flatMap]
  constructor
  . intro ⟨source, hsource, hmem⟩
    have ⟨other, hother, heq⟩ := List.mem_map.mp hmem
    injection heq with hkind hcandidate
    subst hkind hcandidate
    exact ⟨source, hsource, rfl, hother⟩
  . intro ⟨source, hsource, hkind, hmem⟩
    subst hkind
    exact ⟨source, hsource, List.mem_map_of_mem hmem⟩

variable {a b : Uuid} {kind : RetrievalSourceKind} {rank : Nat}

theorem bestRank_of_noWorse (h : NoWorse sources a b)
    (hrank : bestRank (retrieved sources) kind b = some rank)
    : ∃ rank', rank' ≤ rank ∧ bestRank (retrieved sources) kind a = some rank' := by
  have ⟨⟨candidate, hmem, hchunk, hcandidate⟩, _⟩ := bestRank_eq_some.mp hrank
  have ⟨source, hsource, hkind, hin⟩ := mem_retrieved.mp hmem
  have ⟨other, hother, hchunk', hle⟩ := h source hsource candidate hin hchunk
  have hpair : (kind, other) ∈ retrieved sources :=
    mem_retrieved.mpr ⟨source, hsource, hkind, hother⟩
  cases hbest : bestRank (retrieved sources) kind a with
  | none => exact absurd hchunk' (bestRank_eq_none.mp hbest other hpair)
  | some rank' =>
    refine ⟨rank', ?_, rfl⟩
    have hmin := (bestRank_eq_some.mp hbest).2 other hpair hchunk'
    omega

theorem bestRank_pos (h : Ranked sources a)
    (hrank : bestRank (retrieved sources) kind a = some rank) : 0 < rank := by
  have ⟨⟨candidate, hmem, hchunk, hcandidate⟩, _⟩ := bestRank_eq_some.mp hrank
  have ⟨source, hsource, _, hin⟩ := mem_retrieved.mp hmem
  rw [← hcandidate]
  exact h source hsource candidate hin hchunk

omit [Field K] [LinearOrder K] in
theorem mem_sourceOrder (hrank : bestRank (retrieved sources) kind a = some rank)
    : kind ∈ sourceOrder policy sources := by
  have ⟨⟨candidate, hmem, _, _⟩, _⟩ := bestRank_eq_some.mp hrank
  have ⟨source, hsource, hkind, hin⟩ := mem_retrieved.mp hmem
  unfold sourceOrder
  rw [mem_sortBy, List.mem_filter]
  refine ⟨mem_sourceKinds kind, ?_⟩
  rw [decide_eq_true_iff]
  apply Nat.pos_of_ne_zero
  intro hzero
  unfold sourceTotal at hzero
  rw [List.sum_eq_zero_iff_forall_eq_nat] at hzero
  have hlength := hzero _ (List.mem_map_of_mem
    (List.mem_filter.mpr ⟨hsource, by simpa using hkind⟩))
  rw [List.length_eq_zero_iff] at hlength
  have hdedup := List.mem_dedup.mpr (List.mem_map_of_mem (f := (·.chunkId)) hin)
  rw [hlength] at hdedup
  contradiction

/-- The chunks have the same best rank in every kind of source. -/
def SameRanks (sources : List RetrievalSourceCandidates) (a b : Uuid) : Prop :=
  ∀ kind, bestRank (retrieved sources) kind a = bestRank (retrieved sources) kind b

section Dominance

variable [IsStrictOrderedRing K]

/-- What a kind of source adds to the score of a chunk. -/
def kindScore (policy : ResolvedRetrievalSourcesPolicy K) (sources : List RetrievalSourceCandidates)
    (chunkId : Uuid) (kind : RetrievalSourceKind) : K :=
  match bestRank (retrieved sources) kind chunkId with
  | none => 0
  | some rank => rankScore policy sources (kind, rank)

omit [IsStrictOrderedRing K] in
theorem chunkScore_eq (chunkId : Uuid)
    : chunkScore policy sources chunkId
      = (sourceKinds.map (kindScore policy sources chunkId)).sum := by
  unfold chunkScore chunkRanks
  generalize sourceKinds = kinds
  induction kinds with
  | nil => rfl
  | cons kind kinds ih =>
    rw [List.map_cons, List.sum_cons, ← ih]
    unfold kindScore
    rw [List.filterMap_cons]
    cases bestRank (retrieved sources) kind chunkId with
    | none => simp
    | some rank => simp

theorem rankScore_nonneg (hweight : ∀ kind, 0 ≤ retrievalSourceWeight policy kind)
    (entry : RetrievalSourceKind × Nat) : 0 ≤ rankScore policy sources entry :=
  mul_nonneg (hweight entry.1) (rankNormalize_nonneg _ _)

theorem kindScore_le (hweight : ∀ kind, 0 ≤ retrievalSourceWeight policy kind)
    (h : NoWorse sources a b) (hranked : Ranked sources a) (kind : RetrievalSourceKind)
    : kindScore policy sources b kind ≤ kindScore policy sources a kind := by
  unfold kindScore
  cases hb : bestRank (retrieved sources) kind b with
  | none =>
    cases bestRank (retrieved sources) kind a with
    | none => apply le_refl
    | some rank => exact rankScore_nonneg hweight _
  | some rank =>
    have ⟨rank', hle, ha⟩ := bestRank_of_noWorse h hb
    rw [ha]
    unfold rankScore
    apply mul_le_mul_of_nonneg_left _ (hweight kind)
    exact rankNormalize_antitone (bestRank_pos hranked ha) hle _

theorem chunkScore_le (hweight : ∀ kind, 0 ≤ retrievalSourceWeight policy kind)
    (h : NoWorse sources a b) (hranked : Ranked sources a)
    : chunkScore policy sources b ≤ chunkScore policy sources a := by
  rw [chunkScore_eq, chunkScore_eq]
  apply List.sum_le_sum
  intro kind _
  exact kindScore_le hweight h hranked kind

end Dominance

theorem length_chunkRanks (pairs : List (RetrievalSourceKind × ChunkCandidate)) (chunkId : Uuid)
    : (chunkRanks pairs chunkId).length
      = sourceKinds.countP fun kind => (bestRank pairs kind chunkId).isSome := by
  unfold chunkRanks
  rw [List.length_filterMap_eq_countP]
  simp only [Option.isSome_map]

theorem isSome_of_noWorse (h : NoWorse sources a b) (kind : RetrievalSourceKind)
    (hsome : (bestRank (retrieved sources) kind b).isSome)
    : (bestRank (retrieved sources) kind a).isSome := by
  have ⟨rank, hrank⟩ := Option.isSome_iff_exists.mp hsome
  have ⟨rank', _, hrank'⟩ := bestRank_of_noWorse h hrank
  rw [hrank']
  rfl

theorem length_chunkRanks_le (h : NoWorse sources a b)
    : (chunkRanks (retrieved sources) b).length ≤ (chunkRanks (retrieved sources) a).length := by
  rw [length_chunkRanks, length_chunkRanks]
  apply List.countP_mono_left
  intro kind _
  exact isSome_of_noWorse h kind

/-- Chunks that as many kinds have are in the same kinds. -/
theorem isSome_of_length_eq (h : NoWorse sources a b)
    (hlength : (chunkRanks (retrieved sources) b).length
      = (chunkRanks (retrieved sources) a).length)
    (hsome : (bestRank (retrieved sources) kind a).isSome)
    : (bestRank (retrieved sources) kind b).isSome := by
  cases hb : (bestRank (retrieved sources) kind b).isSome with
  | true => rfl
  | false =>
    rw [length_chunkRanks, length_chunkRanks] at hlength
    have hlt := countP_lt_countP (fun kind _ => isSome_of_noWorse h kind) (mem_sourceKinds kind) hb
      hsome
    omega

theorem compareRanks_eq_lt {pairs : List (RetrievalSourceKind × ChunkCandidate)}
    {order : List RetrievalSourceKind}
    (hle : ∀ kind, (bestRank pairs kind a).getD 4294967295 ≤ (bestRank pairs kind b).getD 4294967295)
    (hmem : kind ∈ order)
    (hlt : (bestRank pairs kind a).getD 4294967295 < (bestRank pairs kind b).getD 4294967295)
    : compareRanks pairs a b order = .lt := by
  induction order with
  | nil => contradiction
  | cons head rest ih =>
    unfold compareRanks
    rw [Ordering.then_eq_lt]
    cases Nat.lt_or_eq_of_le (hle head) with
    | inl hhead => exact Or.inl (Nat.compare_eq_lt.mpr hhead)
    | inr hhead =>
      right
      constructor
      . exact Nat.compare_eq_eq.mpr hhead
      . apply ih
        cases hmem with
        | head => omega
        | tail _ hmem => exact hmem

omit [Field K] [LinearOrder K] in
theorem compareRanks_of_noWorse (h : NoWorse sources a b)
    (hlength : (chunkRanks (retrieved sources) b).length
      = (chunkRanks (retrieved sources) a).length)
    (hnot : ¬ SameRanks sources a b)
    : compareRanks (retrieved sources) a b (sourceOrder policy sources) = .lt := by
  have hle (kind : RetrievalSourceKind)
      : (bestRank (retrieved sources) kind a).getD 4294967295
        ≤ (bestRank (retrieved sources) kind b).getD 4294967295 := by
    cases hb : bestRank (retrieved sources) kind b with
    | some rank =>
      have ⟨rank', hrank, ha⟩ := bestRank_of_noWorse h hb
      rw [ha]
      exact hrank
    | none =>
      cases ha : bestRank (retrieved sources) kind a with
      | none => apply Nat.le_refl
      | some rank =>
        have hsome := @isSome_of_length_eq sources a b kind h hlength (by rw [ha]; rfl)
        rw [hb] at hsome
        contradiction
  unfold SameRanks at hnot
  have ⟨kind, hne⟩ := Classical.not_forall.mp hnot
  cases ha : bestRank (retrieved sources) kind a with
  | none =>
    cases hb : bestRank (retrieved sources) kind b with
    | none => exact absurd (ha.trans hb.symm) hne
    | some rank =>
      have ⟨_, _, hsome⟩ := bestRank_of_noWorse h hb
      rw [ha] at hsome
      contradiction
  | some rank =>
    have hsome := @isSome_of_length_eq sources a b kind h hlength (by rw [ha]; rfl)
    have ⟨rank', hb⟩ := Option.isSome_iff_exists.mp hsome
    apply compareRanks_eq_lt hle (mem_sourceOrder ha)
    have hrank := hle kind
    rw [ha, hb] at hrank hne ⊢
    simp only [Option.getD_some] at hrank ⊢
    apply Nat.lt_of_le_of_ne hrank
    intro heq
    exact hne (congrArg some heq)

theorem compareChunks_of_noWorse [IsStrictOrderedRing K]
    (hweight : ∀ kind, 0 ≤ retrievalSourceWeight policy kind) (h : NoWorse sources a b)
    (hranked : Ranked sources a) (hnot : ¬ SameRanks sources a b)
    : compareChunks policy sources a b = .lt := by
  unfold compareChunks
  rw [Ordering.then_eq_lt, Ordering.then_eq_lt, Ordering.then_eq_lt]
  cases lt_or_eq_of_le (chunkScore_le hweight h hranked) with
  | inl hscore => exact Or.inl (compare_lt_iff_lt.mpr hscore)
  | inr hscore =>
    right
    refine ⟨compare_eq_iff_eq.mpr hscore, ?_⟩
    cases Nat.lt_or_eq_of_le (length_chunkRanks_le h) with
    | inl hlength => exact Or.inl (Nat.compare_eq_lt.mpr hlength)
    | inr hlength =>
      right
      refine ⟨Nat.compare_eq_eq.mpr hlength, ?_⟩
      exact Or.inl (compareRanks_of_noWorse h hlength hnot)

/-- A chunk that is nowhere worse than a placed one has a place before it, unless they tie. -/
theorem place_of_noWorse [IsStrictOrderedRing K]
    (hweight : ∀ kind, 0 ≤ retrievalSourceWeight policy kind) (h : NoWorse sources a b)
    (hranked : Ranked sources a) (hnot : ¬ SameRanks sources a b) {j : Nat}
    (hj : ((rankedChunks policy sources).take candidateK)[j]? = some b)
    : ∃ i, i < j ∧ ((rankedChunks policy sources).take candidateK)[i]? = some a := by
  rw [List.getElem?_take] at hj
  split at hj
  next hlt =>
    have hmem : a ∈ distinctChunks sources := by
      have hin : b ∈ distinctChunks sources := by
        have hin := List.mem_of_getElem? hj
        unfold rankedChunks at hin
        exact mem_sortBy.mp hin
      unfold distinctChunks at hin ⊢
      rw [List.mem_dedup] at hin ⊢
      have ⟨⟨kind, candidate⟩, hpair, hchunk⟩ := List.mem_map.mp hin
      have ⟨source, hsource, hkind, hcandidate⟩ := mem_retrieved.mp hpair
      have ⟨other, hother, hchunk', _⟩ := h source hsource candidate hcandidate hchunk
      rw [← hchunk']
      exact List.mem_map_of_mem (f := fun pair => pair.2.chunkId)
        (mem_retrieved.mpr ⟨source, hsource, hkind, hother⟩)
    have ⟨i, hij, hi⟩ :=
      getElem?_sortBy_of_lt hmem (compareChunks_of_noWorse hweight h hranked hnot) hj
    refine ⟨i, hij, ?_⟩
    rw [List.getElem?_take, if_pos (by omega)]
    exact hi
  next => contradiction

/-! ## The merge -/

theorem rankedChunks_nodup : (rankedChunks policy sources).Nodup := by
  have hperm : (rankedChunks policy sources).Perm (distinctChunks sources) := sortBy_perm _
  exact hperm.nodup_iff.mpr (List.nodup_dedup _)

theorem length_mergeRetrievalCandidates
    : (mergeRetrievalCandidates A sources policy candidateK).length
      = min candidateK (distinctChunks sources).length := by
  have hlength := congrArg List.length (@map_chunkId K _ _ A sources policy candidateK)
  rw [List.length_map, List.length_take] at hlength
  rw [hlength]
  unfold rankedChunks
  rw [length_sortBy]

theorem map_retrievalRank
    : (mergeRetrievalCandidates A sources policy candidateK).map (·.retrievalRank)
      = List.range' 1 (mergeRetrievalCandidates A sources policy candidateK).length := by
  rw [mergeRetrievalCandidates_eq, List.map_map, List.length_map, List.length_zipIdx]
  have hranks := congrArg (List.map (1 + ·))
    (List.zipIdx_map_snd 0 ((sortedEntries policy sources).take candidateK))
  rw [List.map_map, List.map_add_range'] at hranks
  rw [← hranks]
  apply List.map_congr_left
  intro entry _
  apply Nat.add_comm

/-- A candidate of the merge is the first candidate of its chunk, with its new rank and score. -/
theorem first_of_mem {candidate : ChunkCandidate}
    (h : candidate ∈ mergeRetrievalCandidates A sources policy candidateK)
    : ∃ pair, (retrieved sources).find? (fun pair => pair.2.chunkId == candidate.chunkId)
        = some pair
      ∧ candidate = {
        pair.2 with
        retrievalRank := candidate.retrievalRank
        retrievalScore := candidate.retrievalScore } := by
  rw [mergeRetrievalCandidates_eq] at h
  have ⟨⟨entry, idx⟩, hmem, heq⟩ := List.mem_map.mp h
  have ⟨hentry, _⟩ := mem_sortedEntries (List.mem_of_mem_take (List.fst_mem_of_mem_zipIdx hmem))
  have ⟨pair, hfind, hpair⟩ := Option.map_eq_some_iff.mp hentry.first
  subst heq
  refine ⟨pair, hfind, ?_⟩
  rw [hpair]
  rfl

theorem candidate_fusion [IsStrictOrderedRing K] (A : Arithmetic K)
    (sources : List RetrievalSourceCandidates) (policy : ResolvedRetrievalSourcesPolicy K)
    (candidateK : Nat) (hweight : ∀ kind, 0 ≤ retrievalSourceWeight policy kind)
    : let merged := mergeRetrievalCandidates A sources policy candidateK
      let chunks := merged.map (·.chunkId)
      chunks.Nodup
      ∧ (∀ candidate ∈ merged, ∃ pair,
          (retrieved sources).find? (fun pair => pair.2.chunkId == candidate.chunkId) = some pair
          ∧ candidate = {
            pair.2 with
            retrievalRank := candidate.retrievalRank
            retrievalScore := candidate.retrievalScore })
      ∧ merged.length = min candidateK (distinctChunks sources).length
      ∧ merged.map (·.retrievalRank) = List.range' 1 merged.length
      ∧ (∀ sources', Reordered sources' sources →
          (mergeRetrievalCandidates A sources' policy candidateK).map ChunkCandidate.ranking
            = merged.map ChunkCandidate.ranking)
      ∧ ∀ (a b : Uuid) (j : Nat), NoWorse sources a b → Ranked sources a → chunks[j]? = some b →
          SameRanks sources a b ∨ ∃ i, i < j ∧ chunks[i]? = some a := by
  intro merged chunks
  have hchunks : chunks = (rankedChunks policy sources).take candidateK := map_chunkId
  refine ⟨?_, ?_, ?_, ?_, ?_, ?_⟩
  . rw [hchunks]
    apply rankedChunks_nodup.sublist (List.take_sublist _ _)
  . intro candidate hmem
    exact first_of_mem hmem
  . exact length_mergeRetrievalCandidates
  . exact map_retrievalRank
  . intro sources' h
    exact ranking_of_reordered h
  . intro a b j h hranked hj
    by_cases hsame : SameRanks sources a b
    . exact Or.inl hsame
    . right
      rw [hchunks] at hj ⊢
      exact place_of_noWorse hweight h hranked hsame hj

/-! ## Two sources -/

def sampleCandidate (chunkId : Uuid) (retrievalRank : Nat) (scope : Option String)
    : ChunkCandidate :=
  ⟨chunkId, 10, 0, retrievalRank, none, scope, none, none⟩

def samplePolicy : ResolvedRetrievalSourcesPolicy ℚ := ⟨1, 1, 1, 0, 1, 2⟩

def sampleSources (rank : Nat) (scope : Option String) : List RetrievalSourceCandidates :=
  [⟨.fusion, [sampleCandidate 1 rank none, sampleCandidate 2 (rank + 1) none]⟩,
    ⟨.structuredField, [sampleCandidate 1 rank scope]⟩]

theorem candidate_fusion_twoSources
    : let merged := mergeRetrievalCandidates rationalArithmetic (sampleSources 1 none)
        samplePolicy 10
      (merged.map (·.chunkId)).Nodup ∧ merged.length = 2
        ∧ ∃ i, i < 1 ∧ (merged.map (·.chunkId))[i]? = some 1 := by
  have hweight : ∀ kind, 0 ≤ retrievalSourceWeight samplePolicy kind := by
    intro kind
    cases kind <;> simp [retrievalSourceWeight, samplePolicy]
  have ⟨hnodup, _, hlength, _, _, hplace⟩ := candidate_fusion rationalArithmetic
    (sampleSources 1 none) samplePolicy 10 hweight
  refine ⟨hnodup, hlength, ?_⟩
  have hplaced := hplace 1 2 1 (by simp [NoWorse, sampleSources, sampleCandidate])
    (by simp [Ranked, sampleSources, sampleCandidate]) (by decide +kernel)
  cases hplaced with
  | inl hsame =>
    have hfusion := hsame .fusion
    revert hfusion
    decide
  | inr hplaced => exact hplaced

/-- Two orders of sources that disagree on a chunk give different candidates, and the rank of zero is
behind the rank of one. -/
theorem not_candidate_fusion_zeroRank
    : Reordered (sampleSources 1 (some "org_shared")).reverse (sampleSources 1 (some "org_shared"))
      ∧ (mergeRetrievalCandidates rationalArithmetic
          (sampleSources 1 (some "org_shared")).reverse samplePolicy 10).map (·.scope)
        ≠ (mergeRetrievalCandidates rationalArithmetic (sampleSources 1 (some "org_shared"))
          samplePolicy 10).map (·.scope)
      ∧ NoWorse ((sampleSources 0 none).take 1) 1 2
      ∧ ¬ SameRanks ((sampleSources 0 none).take 1) 1 2
      ∧ (mergeRetrievalCandidates rationalArithmetic ((sampleSources 0 none).take 1) samplePolicy
          10).map (·.chunkId) = [2, 1] := by
  refine ⟨⟨_, List.reverse_perm _, ?_⟩, ?_, ?_, ?_, ?_⟩
  . simp [sampleSources]
  . decide +kernel
  . simp [NoWorse, sampleSources, sampleCandidate]
  . intro h
    have hfusion := h .fusion
    revert hfusion
    decide
  . decide +kernel

end Elf
