import Elf.Lib.Lookup
import Elf.Search.Merge
import Mathlib.Algebra.BigOperators.Group.List.Basic

/-!
This module contains what the merge of the retrieval sources computes: the best rank of a chunk in each
kind of source, the score that these give, and one entry for each chunk.
-/

namespace Elf

open Lookup Sorting

variable {K : Type}

/-! ## Best ranks -/

/-- The candidates of all sources, with the kinds of their sources. -/
def retrieved (sources : List RetrievalSourceCandidates)
    : List (RetrievalSourceKind × ChunkCandidate) :=
  sources.flatMap fun source => source.candidates.map fun candidate => (source.source, candidate)

/-- The smallest rank that a chunk has in the sources of a kind. -/
def bestRank (pairs : List (RetrievalSourceKind × ChunkCandidate)) (kind : RetrievalSourceKind)
    (chunkId : Uuid) : Option Nat :=
  ((pairs.filter fun pair => pair.1 == kind && pair.2.chunkId == chunkId).map fun pair =>
    pair.2.retrievalRank).min?

variable {pairs pairs' : List (RetrievalSourceKind × ChunkCandidate)} {kind : RetrievalSourceKind}
  {chunkId : Uuid} {rank : Nat} {candidate : ChunkCandidate}

theorem bestRank_eq_some
    : bestRank pairs kind chunkId = some rank
      ↔ (∃ candidate, (kind, candidate) ∈ pairs ∧ candidate.chunkId = chunkId
          ∧ candidate.retrievalRank = rank)
        ∧ ∀ candidate, (kind, candidate) ∈ pairs → candidate.chunkId = chunkId →
          rank ≤ candidate.retrievalRank := by
  unfold bestRank
  rw [List.min?_eq_some_iff]
  simp only [List.mem_map, List.mem_filter, Bool.and_eq_true, beq_iff_eq]
  constructor
  . intro ⟨⟨⟨source, candidate⟩, ⟨hmem, hkind, hchunk⟩, hrank⟩, hle⟩
    subst hkind
    refine ⟨⟨candidate, hmem, hchunk, hrank⟩, ?_⟩
    intro other hother hchunk'
    exact hle _ ⟨(source, other), ⟨hother, rfl, hchunk'⟩, rfl⟩
  . intro ⟨⟨candidate, hmem, hchunk, hrank⟩, hle⟩
    refine ⟨⟨(kind, candidate), ⟨hmem, rfl, hchunk⟩, hrank⟩, ?_⟩
    intro b ⟨⟨source, other⟩, ⟨hother, hkind, hchunk'⟩, hb⟩
    subst hkind
    rw [← hb]
    exact hle other hother hchunk'

theorem bestRank_eq_none
    : bestRank pairs kind chunkId = none
      ↔ ∀ candidate, (kind, candidate) ∈ pairs → candidate.chunkId ≠ chunkId := by
  unfold bestRank
  rw [List.min?_eq_none_iff, List.map_eq_nil_iff, List.filter_eq_nil_iff]
  constructor
  . intro h candidate hmem hchunk
    exact h (kind, candidate) hmem (by simp [hchunk])
  . intro h ⟨source, candidate⟩ hmem hboth
    simp only [Bool.and_eq_true, beq_iff_eq] at hboth
    rw [hboth.1] at hmem
    exact h candidate hmem hboth.2

theorem bestRank_of_perm (h : pairs'.Perm pairs) (kind : RetrievalSourceKind) (chunkId : Uuid)
    : bestRank pairs' kind chunkId = bestRank pairs kind chunkId := by
  cases hrank : bestRank pairs kind chunkId with
  | none =>
    rw [bestRank_eq_none] at hrank ⊢
    intro candidate hmem
    exact hrank candidate (h.mem_iff.mp hmem)
  | some rank =>
    rw [bestRank_eq_some] at hrank ⊢
    simp only [h.mem_iff]
    exact hrank

theorem min?_concat (l : List Nat) (n : Nat)
    : (l ++ [n]).min? = some (match l.min? with | none => n | some m => min m n) := by
  cases l with
  | nil => rfl
  | cons a l =>
    rw [List.cons_append, List.min?_cons', List.min?_cons', List.foldl_append]
    rfl

theorem bestRank_concat_self (pairs : List (RetrievalSourceKind × ChunkCandidate))
    (kind : RetrievalSourceKind) (candidate : ChunkCandidate)
    : bestRank (pairs ++ [(kind, candidate)]) kind candidate.chunkId
      = some (match bestRank pairs kind candidate.chunkId with
        | none => candidate.retrievalRank
        | some rank => min rank candidate.retrievalRank) := by
  unfold bestRank
  rw [List.filter_append, List.map_append, List.filter_cons_of_pos (by simp), List.filter_nil,
    List.map_cons, List.map_nil, min?_concat]

theorem bestRank_concat_of_ne {source : RetrievalSourceKind}
    (h : ¬ (source = kind ∧ candidate.chunkId = chunkId))
    : bestRank (pairs ++ [(source, candidate)]) kind chunkId = bestRank pairs kind chunkId := by
  unfold bestRank
  rw [List.filter_append, List.filter_cons_of_neg (by simpa using h), List.filter_nil,
    List.append_nil]

/-! ## Entries -/

/-- An entry has the first candidate of its chunk, and the best ranks of the chunk. -/
structure IsEntry (pairs : List (RetrievalSourceKind × ChunkCandidate))
    (entry : MergedRetrievalCandidate K) : Prop where
  first : (pairs.find? fun pair => pair.2.chunkId == entry.candidate.chunkId).map Prod.snd
    = some entry.candidate
  keys : (entry.sourceRanks.map Prod.fst).Nodup
  ranks : ∀ kind, entry.sourceRanks.lookup kind = bestRank pairs kind entry.candidate.chunkId

/-- There is one entry for each chunk. -/
structure Merges (pairs : List (RetrievalSourceKind × ChunkCandidate))
    (merged : List (MergedRetrievalCandidate K)) : Prop where
  nodup : (merged.map fun entry => entry.candidate.chunkId).Nodup
  mem : ∀ chunkId, chunkId ∈ merged.map (fun entry => entry.candidate.chunkId)
    ↔ chunkId ∈ pairs.map fun pair => pair.2.chunkId
  entry : ∀ entry ∈ merged, IsEntry pairs entry

theorem lookup_lowerRank (source kind : RetrievalSourceKind) (rank : Nat)
    (l : List (RetrievalSourceKind × Nat))
    : (lowerRank source rank l).lookup kind
      = if source = kind then
          some (match l.lookup kind with | none => rank | some other => min other rank)
        else l.lookup kind := by
  induction l with
  | nil =>
    unfold lowerRank
    by_cases h : source = kind
    . simp [h]
    . have hne : (kind == source) = false := by simpa using Ne.symm h
      simp [List.lookup_cons, h, hne]
  | cons entry l ih =>
    have ⟨head, other⟩ := entry
    unfold lowerRank
    by_cases hhead : head = source
    . subst hhead
      rw [if_pos rfl]
      by_cases h : head = kind
      . subst h
        simp
      . have hne : (kind == head) = false := by simpa using Ne.symm h
        simp [List.lookup_cons, h, hne]
    . rw [if_neg hhead, List.lookup_cons, List.lookup_cons, ih]
      by_cases hkind : kind = head
      . subst hkind
        have hne : source ≠ kind := Ne.symm hhead
        simp [hne]
      . have hne : (kind == head) = false := by simpa using hkind
        rw [hne]

theorem lowerRank_keys {source : RetrievalSourceKind} {l : List (RetrievalSourceKind × Nat)}
    (h : (l.map Prod.fst).Nodup)
    : ((lowerRank source rank l).map Prod.fst).Nodup
      ∧ ∀ kind, kind ∈ (lowerRank source rank l).map Prod.fst
        → kind = source ∨ kind ∈ l.map Prod.fst := by
  induction l with
  | nil => simp [lowerRank]
  | cons entry l ih =>
    rw [List.map_cons, List.nodup_cons] at h
    have ⟨hnodup, hmem⟩ := ih h.2
    unfold lowerRank
    split
    next hhead =>
      subst hhead
      simp [h.1, h.2]
    next hhead =>
      constructor
      . rw [List.map_cons, List.nodup_cons]
        refine ⟨?_, hnodup⟩
        intro hin
        cases hmem _ hin with
        | inl heq => exact hhead heq
        | inr hin => exact h.1 hin
      . intro kind hkind
        rw [List.map_cons, List.mem_cons] at hkind ⊢
        cases hkind with
        | inl hkind => exact Or.inr (Or.inl hkind)
        | inr hkind =>
          cases hmem kind hkind with
          | inl heq => exact Or.inl heq
          | inr hin => exact Or.inr (Or.inr hin)

variable {source : RetrievalSourceKind} {merged : List (MergedRetrievalCandidate K)}
  {entry : MergedRetrievalCandidate K}

/-- The entry of a chunk with one more rank. -/
def MergedRetrievalCandidate.lower (source : RetrievalSourceKind) (rank : Nat)
    (entry : MergedRetrievalCandidate K) : MergedRetrievalCandidate K :=
  { entry with sourceRanks := lowerRank source rank entry.sourceRanks }

theorem find?_concat (pairs : List (RetrievalSourceKind × ChunkCandidate))
    (pair : RetrievalSourceKind × ChunkCandidate) (chunkId : Uuid)
    (h : chunkId ∈ pairs.map fun pair => pair.2.chunkId)
    : (pairs ++ [pair]).find? (fun pair => pair.2.chunkId == chunkId)
      = pairs.find? fun pair => pair.2.chunkId == chunkId := by
  rw [List.find?_append]
  have ⟨found, hfound, hchunk⟩ := List.mem_map.mp h
  cases hfind : pairs.find? fun pair => pair.2.chunkId == chunkId with
  | some other => rfl
  | none =>
    rw [List.find?_eq_none] at hfind
    have hnot := hfind found hfound
    rw [hchunk] at hnot
    simp at hnot

theorem IsEntry.mem (h : IsEntry pairs entry)
    : entry.candidate.chunkId ∈ pairs.map fun pair => pair.2.chunkId := by
  have ⟨pair, hfind, hcandidate⟩ := Option.map_eq_some_iff.mp h.first
  rw [← hcandidate]
  exact List.mem_map_of_mem (List.mem_of_find?_eq_some hfind)

theorem IsEntry.concat_of_ne (h : IsEntry pairs entry)
    (hne : entry.candidate.chunkId ≠ candidate.chunkId)
    : IsEntry (pairs ++ [(source, candidate)]) entry := by
  constructor
  . rw [find?_concat _ _ _ h.mem]
    exact h.first
  . exact h.keys
  . intro kind
    rw [bestRank_concat_of_ne fun hboth => hne hboth.2.symm]
    exact h.ranks kind

theorem IsEntry.concat_lower (h : IsEntry pairs entry)
    (heq : entry.candidate.chunkId = candidate.chunkId)
    : IsEntry (pairs ++ [(source, candidate)]) (entry.lower source candidate.retrievalRank) := by
  have hfind := find?_concat pairs (source, candidate) _ h.mem
  constructor
  . exact (congrArg (Option.map Prod.snd) hfind).trans h.first
  . exact (lowerRank_keys h.keys).1
  . intro kind
    have hlookup := lookup_lowerRank source kind candidate.retrievalRank entry.sourceRanks
    by_cases hkind : source = kind
    . subst hkind
      rw [if_pos rfl, h.ranks, heq] at hlookup
      have hbest := bestRank_concat_self pairs source candidate
      rw [← heq] at hbest
      rw [← heq] at hlookup
      exact hlookup.trans hbest.symm
    . rw [if_neg hkind, h.ranks] at hlookup
      have hbest := @bestRank_concat_of_ne pairs kind entry.candidate.chunkId candidate source
        fun hboth => hkind hboth.1
      exact hlookup.trans hbest.symm

theorem IsEntry.score (h : IsEntry pairs entry) (score : K)
    : IsEntry pairs { entry with combinedScore := score } :=
  ⟨h.first, h.keys, h.ranks⟩

/-! ## One candidate -/

section Merging

variable [Field K]

theorem mergeCandidate_of_new
    (h : candidate.chunkId ∉ merged.map fun entry => entry.candidate.chunkId)
    : mergeCandidate source candidate merged
      = merged ++ [⟨candidate, [(source, candidate.retrievalRank)], 0⟩] := by
  induction merged with
  | nil => rfl
  | cons entry merged ih =>
    rw [List.map_cons, List.mem_cons, not_or] at h
    unfold mergeCandidate
    rw [if_neg (Ne.symm h.1), ih h.2]
    rfl

theorem mergeCandidate_of_mem (hnodup : (merged.map fun entry => entry.candidate.chunkId).Nodup)
    (h : candidate.chunkId ∈ merged.map fun entry => entry.candidate.chunkId)
    : mergeCandidate source candidate merged = merged.map fun entry =>
      if entry.candidate.chunkId = candidate.chunkId then
        entry.lower source candidate.retrievalRank
      else entry := by
  induction merged with
  | nil => contradiction
  | cons entry merged ih =>
    rw [List.map_cons, List.nodup_cons] at hnodup
    unfold mergeCandidate
    rw [List.map_cons]
    by_cases hhead : entry.candidate.chunkId = candidate.chunkId
    . rw [if_pos hhead, if_pos hhead]
      have hrest : merged.map (fun entry => if entry.candidate.chunkId = candidate.chunkId then
          entry.lower source candidate.retrievalRank else entry) = merged := by
        conv => rhs; rw [← List.map_id merged]
        apply List.map_congr_left
        intro other hother
        apply if_neg
        intro heq
        apply hnodup.1
        rw [hhead, ← heq]
        exact List.mem_map_of_mem hother
      rw [hrest]
      rfl
    . rw [if_neg hhead, if_neg hhead]
      rw [List.map_cons, List.mem_cons] at h
      cases h with
      | inl heq => exact absurd heq.symm hhead
      | inr h => rw [ih hnodup.2 h]

theorem isEntry_new (h : candidate.chunkId ∉ pairs.map fun pair => pair.2.chunkId)
    : IsEntry (pairs ++ [(source, candidate)])
      (⟨candidate, [(source, candidate.retrievalRank)], 0⟩ : MergedRetrievalCandidate K) := by
  have hnone (kind : RetrievalSourceKind) : bestRank pairs kind candidate.chunkId = none := by
    rw [bestRank_eq_none]
    intro other hother heq
    apply h
    rw [← heq]
    exact List.mem_map_of_mem (f := fun pair => pair.2.chunkId) hother
  constructor
  . rw [List.find?_append]
    have hfind : pairs.find? (fun pair => pair.2.chunkId == candidate.chunkId) = none := by
      rw [List.find?_eq_none]
      intro pair hpair heq
      apply h
      rw [← eq_of_beq heq]
      exact List.mem_map_of_mem hpair
    rw [hfind]
    simp
  . simp
  . intro kind
    by_cases hkind : source = kind
    . subst hkind
      rw [bestRank_concat_self, hnone]
      simp
    . rw [bestRank_concat_of_ne fun hboth => hkind hboth.1, hnone]
      have hne : (kind == source) = false := by simpa using Ne.symm hkind
      simp [List.lookup_cons, hne]

theorem Merges.concat (h : Merges pairs merged) (source : RetrievalSourceKind)
    (candidate : ChunkCandidate)
    : Merges (pairs ++ [(source, candidate)]) (mergeCandidate source candidate merged) := by
  by_cases hin : candidate.chunkId ∈ merged.map fun entry => entry.candidate.chunkId
  . rw [mergeCandidate_of_mem h.nodup hin]
    have hchunks : (merged.map fun entry => if entry.candidate.chunkId = candidate.chunkId then
          entry.lower source candidate.retrievalRank else entry).map
          (fun entry => entry.candidate.chunkId)
        = merged.map fun entry => entry.candidate.chunkId := by
      rw [List.map_map]
      apply List.map_congr_left
      intro entry _
      simp only [Function.comp_apply]
      split
      . rfl
      . rfl
    constructor
    . rw [hchunks]
      exact h.nodup
    . intro chunkId
      rw [hchunks, h.mem, List.map_append, List.mem_append]
      constructor
      . exact Or.inl
      . intro hor
        cases hor with
        | inl hmem => exact hmem
        | inr hmem =>
          rw [List.map_cons, List.map_nil, List.mem_singleton] at hmem
          rw [hmem]
          exact (h.mem _).mp hin
    . intro entry hentry
      have ⟨old, hold, heq⟩ := List.mem_map.mp hentry
      subst heq
      split
      next hchunk => exact (h.entry old hold).concat_lower hchunk
      next hchunk => exact (h.entry old hold).concat_of_ne hchunk
  . rw [mergeCandidate_of_new hin]
    constructor
    . rw [List.map_append, List.nodup_append]
      refine ⟨h.nodup, by simp, ?_⟩
      intro a ha b hb heq
      rw [List.map_cons, List.map_nil, List.mem_singleton] at hb
      subst heq hb
      exact hin ha
    . intro chunkId
      simp only [List.map_append, List.mem_append, h.mem]
      simp
    . intro entry hentry
      rw [List.mem_append, List.mem_singleton] at hentry
      cases hentry with
      | inl hentry =>
        apply (h.entry entry hentry).concat_of_ne
        intro heq
        apply hin
        rw [← heq]
        exact List.mem_map_of_mem (f := fun entry => entry.candidate.chunkId) hentry
      | inr hentry =>
        subst hentry
        apply isEntry_new
        rw [← h.mem]
        exact hin

/-! ## All candidates -/

theorem Merges.foldl (h : Merges pairs merged)
    : Merges (pairs ++ pairs')
      (pairs'.foldl (fun merged pair => mergeCandidate pair.1 pair.2 merged) merged) := by
  induction pairs' generalizing pairs merged with
  | nil =>
    rw [List.append_nil]
    exact h
  | cons pair pairs' ih =>
    have hstep := ih (h.concat pair.1 pair.2)
    rw [List.append_assoc] at hstep
    exact hstep

theorem foldl_mergeSource (sources : List RetrievalSourceCandidates)
    (merged : List (MergedRetrievalCandidate K))
    : sources.foldl mergeSource merged
      = (retrieved sources).foldl (fun merged pair => mergeCandidate pair.1 pair.2 merged)
        merged := by
  unfold retrieved
  rw [List.foldl_flatMap]
  congr 1
  funext merged source
  rw [List.foldl_map]
  rfl

theorem merges (sources : List RetrievalSourceCandidates)
    : Merges (retrieved sources) (sources.foldl mergeSource ([] : List (MergedRetrievalCandidate K))) := by
  rw [foldl_mergeSource]
  have hempty : Merges [] ([] : List (MergedRetrievalCandidate K)) := by
    constructor
    . simp
    . simp
    . simp
  exact hempty.foldl

end Merging

/-! ## Scores -/

def sourceKinds : List RetrievalSourceKind := [.structuredField, .fusion, .recursive]

theorem mem_sourceKinds (kind : RetrievalSourceKind) : kind ∈ sourceKinds := by
  cases kind <;> simp [sourceKinds]

/-- The best ranks of a chunk, for the kinds that have it. -/
def chunkRanks (pairs : List (RetrievalSourceKind × ChunkCandidate)) (chunkId : Uuid)
    : List (RetrievalSourceKind × Nat) :=
  sourceKinds.filterMap fun kind => (bestRank pairs kind chunkId).map (kind, ·)

theorem mem_chunkRanks {entry : RetrievalSourceKind × Nat}
    : entry ∈ chunkRanks pairs chunkId ↔ bestRank pairs entry.1 chunkId = some entry.2 := by
  unfold chunkRanks
  rw [List.mem_filterMap]
  constructor
  . intro ⟨kind, _, hmap⟩
    have ⟨rank, hrank, heq⟩ := Option.map_eq_some_iff.mp hmap
    rw [← heq]
    exact hrank
  . intro h
    refine ⟨entry.1, mem_sourceKinds entry.1, ?_⟩
    rw [h]
    rfl

theorem chunkRanks_nodup : (chunkRanks pairs chunkId).Nodup := by
  unfold chunkRanks
  apply List.Nodup.filterMap
  . intro kind kind' entry h h'
    have ⟨_, _, heq⟩ := Option.map_eq_some_iff.mp h
    have ⟨_, _, heq'⟩ := Option.map_eq_some_iff.mp h'
    rw [← heq] at heq'
    exact (congrArg Prod.fst heq').symm
  . decide

theorem IsEntry.perm (h : IsEntry pairs entry)
    : entry.sourceRanks.Perm (chunkRanks pairs entry.candidate.chunkId) := by
  rw [List.perm_ext_iff_of_nodup (List.Nodup.of_map _ h.keys) chunkRanks_nodup]
  intro pair
  rw [mem_chunkRanks, ← h.ranks]
  constructor
  . exact lookup_of_mem h.keys
  . exact mem_of_lookup

/-- The places in which two chunks are compared, by kind. -/
def compareRanks (pairs : List (RetrievalSourceKind × ChunkCandidate)) (left right : Uuid)
    : List RetrievalSourceKind → Ordering
  | [] => .eq
  | kind :: rest =>
    (compare ((bestRank pairs kind left).getD 4294967295)
      ((bestRank pairs kind right).getD 4294967295)).then (compareRanks pairs left right rest)

theorem compareSourceRanks_eq {left right : MergedRetrievalCandidate K}
    (hleft : IsEntry pairs left) (hright : IsEntry pairs right) (order : List RetrievalSourceKind)
    : compareSourceRanks left right order
      = compareRanks pairs left.candidate.chunkId right.candidate.chunkId order := by
  induction order with
  | nil => rfl
  | cons kind rest ih =>
    unfold compareSourceRanks compareRanks
    rw [hleft.ranks, hright.ranks, ih]

instance (order : List RetrievalSourceKind)
    : Std.TransCmp fun left right => compareRanks pairs left right order := by
  induction order with
  | nil =>
    exact {
      eq_swap := rfl
      isLE_trans := fun _ _ => rfl }
  | cons kind rest ih =>
    exact inferInstanceAs (Std.TransCmp (compareLex
      (compareOn fun chunkId => (bestRank pairs kind chunkId).getD 4294967295)
      fun left right => compareRanks pairs left right rest))

theorem compareRanks_of_perm (h : pairs'.Perm pairs) (left right : Uuid)
    (order : List RetrievalSourceKind)
    : compareRanks pairs' left right order = compareRanks pairs left right order := by
  induction order with
  | nil => rfl
  | cons kind rest ih =>
    unfold compareRanks
    rw [bestRank_of_perm h, bestRank_of_perm h, ih]

section Order

variable [Field K] [LinearOrder K] {policy : ResolvedRetrievalSourcesPolicy K}
  {sources : List RetrievalSourceCandidates}

/-- What a best rank adds to the score. -/
def rankScore (policy : ResolvedRetrievalSourcesPolicy K) (sources : List RetrievalSourceCandidates)
    (entry : RetrievalSourceKind × Nat) : K :=
  retrievalSourceWeight policy entry.1 * rankNormalize entry.2 (max (sourceTotal sources entry.1) 1)

def chunkScore (policy : ResolvedRetrievalSourcesPolicy K) (sources : List RetrievalSourceCandidates)
    (chunkId : Uuid) : K :=
  ((chunkRanks (retrieved sources) chunkId).map (rankScore policy sources)).sum

theorem combinedScore_eq (h : IsEntry (retrieved sources) entry)
    : combinedScore policy sources entry = chunkScore policy sources entry.candidate.chunkId := by
  have hperm := h.perm.map (rankScore policy sources)
  exact hperm.sum_eq

/-- The order of the chunks, which their best ranks determine. -/
def compareChunks (policy : ResolvedRetrievalSourcesPolicy K)
    (sources : List RetrievalSourceCandidates) (left right : Uuid) : Ordering :=
  (compare (chunkScore policy sources right) (chunkScore policy sources left)).then
    ((compare (chunkRanks (retrieved sources) right).length
        (chunkRanks (retrieved sources) left).length).then
      ((compareRanks (retrieved sources) left right (sourceOrder policy sources)).then
        (compare left right)))

instance : Std.TransCmp (compareChunks policy sources) :=
  have : Std.TransCmp fun left right =>
      compare (chunkScore policy sources right) (chunkScore policy sources left) :=
    @Std.TransCmp.opposite _ (compareOn (chunkScore policy sources)) inferInstance
  have : Std.TransCmp fun left right => compare (chunkRanks (retrieved sources) right).length
      (chunkRanks (retrieved sources) left).length :=
    @Std.TransCmp.opposite _ (compareOn fun id => (chunkRanks (retrieved sources) id).length)
      inferInstance
  inferInstanceAs (Std.TransCmp (compareLex
    (fun left right => compare (chunkScore policy sources right) (chunkScore policy sources left))
    (compareLex
      (fun left right => compare (chunkRanks (retrieved sources) right).length
        (chunkRanks (retrieved sources) left).length)
      (compareLex
        (fun left right => compareRanks (retrieved sources) left right (sourceOrder policy sources))
        (compareOn id)))))

theorem eq_of_compareChunks_eq {left right : Uuid} (h : compareChunks policy sources left right = .eq)
    : left = right := by
  unfold compareChunks at h
  simp only [Ordering.then_eq_eq] at h
  exact Nat.compare_eq_eq.mp h.2.2.2

theorem compareMerged_eq {left right : MergedRetrievalCandidate K}
    (hleft : IsEntry (retrieved sources) left)
    (hleftScore : left.combinedScore = chunkScore policy sources left.candidate.chunkId)
    (hright : IsEntry (retrieved sources) right)
    (hrightScore : right.combinedScore = chunkScore policy sources right.candidate.chunkId)
    : compareMerged (sourceOrder policy sources) left right
      = compareChunks policy sources left.candidate.chunkId right.candidate.chunkId := by
  unfold compareMerged compareChunks
  rw [hleftScore, hrightScore, hleft.perm.length_eq, hright.perm.length_eq,
    compareSourceRanks_eq hleft hright]

end Order

end Elf
