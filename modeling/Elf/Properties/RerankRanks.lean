import Elf.Search.FinishSearch
import Elf.Search.Lemmas.Replay
import Elf.Search.Replay

/-!
This module contains what the ranks of a rerank depend on: they are the places in a total order of the
candidates, unless the order of the chunks of a note disagrees with the order of the retrieval in a way
that a candidate of another note can tell.
-/

namespace Elf

open Sorting

/-! ## Scores -/

def f32Kind : F32 → Nat
  | .nan => 0
  | .inf true => 1
  | .fin _ => 2
  | .inf false => 3

def f32Value : F32 → ℚ
  | .fin q => q
  | _ => 0

theorem cmpF32Desc_eq (a b : F32)
    : cmpF32Desc a b = (compare (f32Kind b) (f32Kind a)).then (compare (f32Value b) (f32Value a)) := by
  cases a with
  | nan =>
    cases b with
    | nan => simp [cmpF32Desc]
    | inf t => cases t <;> rfl
    | fin q => rfl
  | inf s =>
    cases b with
    | nan => cases s <;> rfl
    | inf t => cases s <;> cases t <;> simp [cmpF32Desc, f32Kind, f32Value, F32.lt] <;> rfl
    | fin q => cases s <;> rfl
  | fin p =>
    cases b with
    | nan => rfl
    | inf t => cases t <;> rfl
    | fin q =>
      simp only [cmpF32Desc, f32Kind, f32Value, F32.lt, decide_eq_true_eq]
      cases hcmp : compare q p with
      | lt =>
        have hlt := compare_lt_iff_lt.mp hcmp
        rw [if_pos hlt]
        rfl
      | eq =>
        have heq := compare_eq_iff_eq.mp hcmp
        subst heq
        simp
      | gt =>
        have hgt := compare_gt_iff_gt.mp hcmp
        rw [if_neg (not_lt_of_gt hgt), if_pos hgt]
        rfl

instance : Std.TransCmp cmpF32Desc :=
  have hsame : cmpF32Desc = fun a b => compareLex (compareOn f32Kind) (compareOn f32Value) b a := by
    funext a b
    exact cmpF32Desc_eq a b
  hsame ▸ @Std.TransCmp.opposite _ (compareLex (compareOn f32Kind) (compareOn f32Value)) inferInstance

/-! ## The order of the entries -/

/-- The order of the retrieval, on which the entries of different notes are compared. -/
def cmpPlace (a b : RerankEntry) : Ordering :=
  (compare a.retrievalRank b.retrievalRank).then (compare a.chunkId b.chunkId)

instance : Std.TransCmp cmpPlace :=
  inferInstanceAs (Std.TransCmp (compareLex (compareOn RerankEntry.retrievalRank)
    (compareOn RerankEntry.chunkId)))

/-- The order of the chunks of one note. -/
def cmpWithinNote (a b : RerankEntry) : Ordering :=
  (compare a.chunkIndex b.chunkIndex).then (cmpPlace a b)

instance : Std.TransCmp cmpWithinNote :=
  inferInstanceAs (Std.TransCmp (compareLex (compareOn RerankEntry.chunkIndex) cmpPlace))

variable {a b c : RerankEntry} {entries entries' : List RerankEntry}

theorem cmpReranked_eq (a b : RerankEntry)
    : cmpReranked a b = (cmpF32Desc a.score b.score).then
      (if a.noteId = b.noteId then cmpWithinNote a b else cmpPlace a b) := by
  unfold cmpReranked cmpWithinNote cmpPlace
  split
  . rfl
  . rfl

/-- Equal scores of different notes: the one that the retrieval has first comes first. -/
theorem cmpReranked_of_ne (hscore : cmpF32Desc a.score b.score = .eq) (hnote : a.noteId ≠ b.noteId)
    : cmpReranked a b = cmpPlace a b := by
  rw [cmpReranked_eq, hscore, if_neg hnote]
  rfl

theorem cmpReranked_of_same (hscore : cmpF32Desc a.score b.score = .eq) (hnote : a.noteId = b.noteId)
    : cmpReranked a b = cmpWithinNote a b := by
  rw [cmpReranked_eq, hscore, if_pos hnote]
  rfl

theorem cmpReranked_swap (a b : RerankEntry) : cmpReranked b a = (cmpReranked a b).swap := by
  have hwithin : cmpWithinNote b a = (cmpWithinNote a b).swap := Std.OrientedCmp.eq_swap
  have hplace : cmpPlace b a = (cmpPlace a b).swap := Std.OrientedCmp.eq_swap
  rw [cmpReranked_eq, cmpReranked_eq, cmpF32Desc_swap a.score b.score, Ordering.swap_then]
  congr 1
  by_cases hnote : a.noteId = b.noteId
  . rw [if_pos hnote, if_pos hnote.symm, hwithin]
  . rw [if_neg hnote, if_neg (Ne.symm hnote), hplace]

/--
A candidate of another note is at a place of its own, and does not stand between `a` and a later chunk of
the same note which the retrieval has first.
-/
def Untangled (entries : List RerankEntry) (a b : RerankEntry) : Prop :=
  cmpPlace a b ≠ .eq
  ∧ ∀ c ∈ entries, cmpF32Desc a.score c.score = .eq → a.noteId = c.noteId →
    a.chunkIndex < c.chunkIndex → ¬ (cmpPlace c b = .lt ∧ cmpPlace b a = .lt)

/-- Candidates with one score do not stand between the chunks of other notes. -/
def Unentangled (entries : List RerankEntry) : Prop :=
  ∀ a ∈ entries, ∀ b ∈ entries, cmpF32Desc a.score b.score = .eq → a.noteId ≠ b.noteId →
    Untangled entries a b

instance (entries : List RerankEntry) (a b : RerankEntry) : Decidable (Untangled entries a b) :=
  inferInstanceAs (Decidable (_ ∧ ∀ c ∈ entries, _ → _))

instance (entries : List RerankEntry) : Decidable (Unentangled entries) :=
  inferInstanceAs (Decidable (∀ a ∈ entries, ∀ b ∈ entries, _ → _ → Untangled entries a b))

/-- The candidates are told apart by their note and their chunk. -/
def Distinct (entries : List RerankEntry) : Prop :=
  (entries.map fun entry => (entry.noteId, entry.chunkId)).Nodup

theorem Distinct.nodup (h : Distinct entries) : entries.Nodup := h.of_map _

theorem Distinct.eq (h : Distinct entries) (ha : a ∈ entries) (hb : b ∈ entries)
    (hnote : a.noteId = b.noteId) (hchunk : a.chunkId = b.chunkId) : a = b := by
  apply List.inj_on_of_nodup_map h ha hb
  rw [hnote, hchunk]

theorem cmpPlace_eq (h : cmpPlace a b = .eq) : a.chunkId = b.chunkId := by
  unfold cmpPlace at h
  rw [Ordering.then_eq_eq] at h
  exact compare_eq_iff_eq.mp h.2

theorem Distinct.cmpReranked_eq_eq (h : Distinct entries) (hunentangled : Unentangled entries)
    (ha : a ∈ entries) (hb : b ∈ entries) (hcmp : cmpReranked a b = .eq) : a = b := by
  have hscore : cmpF32Desc a.score b.score = .eq := by
    rw [cmpReranked_eq, Ordering.then_eq_eq] at hcmp
    exact hcmp.1
  by_cases hnote : a.noteId = b.noteId
  . rw [cmpReranked_of_same hscore hnote] at hcmp
    unfold cmpWithinNote at hcmp
    rw [Ordering.then_eq_eq] at hcmp
    exact h.eq ha hb hnote (cmpPlace_eq hcmp.2)
  . rw [cmpReranked_of_ne hscore hnote] at hcmp
    exact absurd hcmp (hunentangled a ha b hb hscore hnote).1

section

variable (h : Unentangled entries) (ha : a ∈ entries) (hb : b ∈ entries) (hc : c ∈ entries)
  (hab : cmpF32Desc a.score b.score = .eq) (hac : cmpF32Desc a.score c.score = .eq)
  (hnote : a.noteId = c.noteId) (hother : a.noteId ≠ b.noteId)

include h ha hb hc hab hac hnote hother

/-- What is behind a chunk is behind the chunks before it. -/
theorem Unentangled.place_lt_of_before (hwithin : cmpWithinNote a c = .lt) (hplace : cmpPlace c b = .lt)
    : cmpPlace a b = .lt := by
  have ⟨hne, hbetween⟩ := h a ha b hb hab hother
  unfold cmpWithinNote at hwithin
  rw [Ordering.then_eq_lt] at hwithin
  cases hwithin with
  | inl hidx =>
    have hnot := hbetween c hc hac hnote (compare_lt_iff_lt.mp hidx)
    cases hcmp : cmpPlace a b with
    | lt => rfl
    | eq => exact absurd hcmp hne
    | gt => exact absurd ⟨hplace, Std.OrientedCmp.lt_of_gt hcmp⟩ hnot
  | inr hsame => exact Std.TransCmp.lt_trans hsame.2 hplace

/-- What is before a chunk is before the chunks behind it. -/
theorem Unentangled.place_lt_of_behind (hwithin : cmpWithinNote a c = .lt) (hplace : cmpPlace b a = .lt)
    : cmpPlace b c = .lt := by
  have ⟨_, hbetween⟩ := h a ha b hb hab hother
  have hcb : cmpF32Desc c.score b.score = .eq :=
    Std.TransCmp.eq_trans (Std.OrientedCmp.eq_symm hac) hab
  have hne := (h c hc b hb hcb (by rw [← hnote]; exact hother)).1
  unfold cmpWithinNote at hwithin
  rw [Ordering.then_eq_lt] at hwithin
  cases hwithin with
  | inl hidx =>
    have hnot := hbetween c hc hac hnote (compare_lt_iff_lt.mp hidx)
    cases hcmp : cmpPlace b c with
    | lt => rfl
    | eq => exact absurd (Std.OrientedCmp.eq_symm hcmp) hne
    | gt => exact absurd ⟨Std.OrientedCmp.lt_of_gt hcmp, hplace⟩ hnot
  | inr hsame => exact Std.TransCmp.lt_trans hplace hsame.2

/-- Two chunks with another note's chunk in between are in the order of the retrieval. -/
theorem Unentangled.within_lt_of_between (hplace : cmpPlace a b = .lt) (hplace' : cmpPlace b c = .lt)
    : cmpWithinNote a c = .lt := by
  have hlt : cmpPlace a c = .lt := Std.TransCmp.lt_trans hplace hplace'
  cases hcmp : cmpWithinNote a c with
  | lt => rfl
  | eq =>
    unfold cmpWithinNote at hcmp
    rw [Ordering.then_eq_eq, hlt] at hcmp
    cases hcmp.2
  | gt =>
    have hcb : cmpF32Desc c.score b.score = .eq :=
      Std.TransCmp.eq_trans (Std.OrientedCmp.eq_symm hac) hab
    have hother' : c.noteId ≠ b.noteId := by
      rw [← hnote]
      exact hother
    have hback : cmpPlace c b = .lt :=
      h.place_lt_of_before hc hb ha hcb (Std.OrientedCmp.eq_symm hac) hnote.symm hother'
        (Std.OrientedCmp.lt_of_gt hcmp) hplace
    rw [Std.OrientedCmp.gt_of_lt hplace'] at hback
    contradiction

end

theorem Unentangled.trans (h : Unentangled entries) (ha : a ∈ entries) (hb : b ∈ entries)
    (hc : c ∈ entries) (hab : cmpReranked a b = .lt) (hbc : cmpReranked b c = .lt)
    : cmpReranked a c = .lt := by
  rw [cmpReranked_eq, Ordering.then_eq_lt] at hab hbc
  cases hab with
  | inl hab =>
    rw [cmpReranked_eq, Ordering.then_eq_lt]
    cases hbc with
    | inl hbc => exact Or.inl (Std.TransCmp.lt_trans hab hbc)
    | inr hbc => exact Or.inl (Std.TransCmp.lt_of_lt_of_eq hab hbc.1)
  | inr hab =>
    cases hbc with
    | inl hbc =>
      rw [cmpReranked_eq, Ordering.then_eq_lt]
      exact Or.inl (Std.TransCmp.lt_of_eq_of_lt hab.1 hbc)
    | inr hbc =>
      have ⟨hsab, hab⟩ := hab
      have ⟨hsbc, hbc⟩ := hbc
      have hsac : cmpF32Desc a.score c.score = .eq := Std.TransCmp.eq_trans hsab hsbc
      have hsba : cmpF32Desc b.score a.score = .eq := Std.OrientedCmp.eq_symm hsab
      -- The cases are which of the three are of one note.
      by_cases hnab : a.noteId = b.noteId
      . rw [if_pos hnab] at hab
        by_cases hnbc : b.noteId = c.noteId
        . rw [if_pos hnbc] at hbc
          rw [cmpReranked_of_same hsac (hnab.trans hnbc)]
          exact Std.TransCmp.lt_trans hab hbc
        . rw [if_neg hnbc] at hbc
          have hnac : a.noteId ≠ c.noteId := by
            rw [hnab]
            exact hnbc
          rw [cmpReranked_of_ne hsac hnac]
          exact h.place_lt_of_before ha hc hb hsac hsab hnab hnac hab hbc
      . rw [if_neg hnab] at hab
        by_cases hnbc : b.noteId = c.noteId
        . rw [if_pos hnbc] at hbc
          have hnac : a.noteId ≠ c.noteId := by
            rw [← hnbc]
            exact hnab
          rw [cmpReranked_of_ne hsac hnac]
          exact h.place_lt_of_behind hb ha hc hsba hsbc hnbc (Ne.symm hnab) hbc hab
        . rw [if_neg hnbc] at hbc
          by_cases hnac : a.noteId = c.noteId
          . rw [cmpReranked_of_same hsac hnac]
            exact h.within_lt_of_between ha hb hc hsab hsac hnac hnab hab hbc
          . rw [cmpReranked_of_ne hsac hnac]
            exact Std.TransCmp.lt_trans hab hbc

/-- The comparison is a strict total order exactly on unentangled candidates. -/
theorem strictOn_iff (hdistinct : Distinct entries)
    : StrictOn cmpReranked entries ↔ Unentangled entries := by
  constructor
  . intro h a ha b hb hscore hnote
    constructor
    . intro hplace
      rw [← cmpReranked_of_ne hscore hnote] at hplace
      rw [h.eq a ha b hb hplace] at hnote
      exact hnote rfl
    . intro c hc hscore' hnote' hidx ⟨hcb, hba⟩
      have hac : cmpReranked a c = .lt := by
        rw [cmpReranked_of_same hscore' hnote']
        unfold cmpWithinNote
        rw [compare_lt_iff_lt.mpr hidx]
        rfl
      have hcb' : cmpReranked c b = .lt := by
        rw [cmpReranked_of_ne]
        . exact hcb
        . exact Std.TransCmp.eq_trans (Std.OrientedCmp.eq_symm hscore') hscore
        . rw [← hnote']
          exact hnote
      have hba' : cmpReranked b a = .lt := by
        rw [cmpReranked_of_ne (Std.OrientedCmp.eq_symm hscore) (Ne.symm hnote)]
        exact hba
      -- The three are a cycle.
      have hab := h.trans a ha c hc b hb hac hcb'
      rw [cmpReranked_swap b a, hba'] at hab
      contradiction
  . intro h
    constructor
    . intro a _ b _
      exact cmpReranked_swap a b
    . intro a ha b hb hcmp
      exact hdistinct.cmpReranked_eq_eq h ha hb hcmp
    . intro a ha b hb c hc hab hbc
      exact h.trans ha hb hc hab hbc

/-! ## Ranks -/

/-- Ranks are the numbers from one on, whatever the indices are sorted by. -/
theorem ranksOf_perm {order : List Nat} (h : order.Perm (List.range order.length))
    : (ranksOf order).Perm (List.range' 1 order.length) := by
  have hnodup : order.Nodup := h.nodup_iff.mpr List.nodup_range
  have hplaces : order.map (fun idx => order.idxOf idx + 1) = List.range' 1 order.length := by
    apply List.ext_getElem
    . simp
    . intro i hi hi'
      rw [List.getElem_map, List.getElem_range', hnodup.idxOf_getElem]
      omega
  rw [← hplaces]
  exact h.symm.map _

theorem map_getD_range (entries : List RerankEntry)
    : (List.range entries.length).map (fun idx => entries.getD idx default) = entries := by
  apply List.ext_getElem
  . simp
  . intro i hi hi'
    rw [List.getElem_map, List.getElem_range, List.getD_eq_getElem]

/-- In a strict total order, a rank is one more than the number of candidates that come first. -/
theorem ranksOf_sortedIndices (h : StrictOn cmpReranked entries) (hnodup : entries.Nodup)
    : ranksOf (sortedIndices cmpReranked entries)
      = entries.map fun entry => below cmpReranked entries entry + 1 := by
  have hmem {idx : Nat} (hidx : idx ∈ List.range entries.length) : entries.getD idx default ∈ entries := by
    rw [List.mem_range] at hidx
    rw [List.getD_eq_getElem entries default hidx]
    exact List.getElem_mem hidx
  have hstrict : StrictOn (fun a b => cmpReranked (entries.getD a default) (entries.getD b default))
      (List.range entries.length) := by
    constructor
    . intro i hi j hj
      exact h.swap _ (hmem hi) _ (hmem hj)
    . intro i hi j hj hcmp
      have heq := h.eq _ (hmem hi) _ (hmem hj) hcmp
      rw [List.mem_range] at hi hj
      rw [List.getD_eq_getElem entries default hi, List.getD_eq_getElem entries default hj] at heq
      exact (hnodup.getElem_inj_iff).mp heq
    . intro i hi j hj k hk
      exact h.trans _ (hmem hi) _ (hmem hj) _ (hmem hk)
  unfold ranksOf
  rw [length_sortedIndices]
  have hranks : ∀ idx ∈ List.range entries.length,
      (sortedIndices cmpReranked entries).idxOf idx + 1
        = below cmpReranked entries (entries.getD idx default) + 1 := by
    intro idx hidx
    unfold sortedIndices
    rw [hstrict.idxOf_sortBy List.nodup_range hidx]
    unfold below
    have hcount := List.countP_map (p := fun b => cmpReranked b (entries.getD idx default) == .lt)
      (f := fun idx => entries.getD idx default) (l := List.range entries.length)
    rw [map_getD_range] at hcount
    rw [hcount]
    rfl
  rw [List.map_congr_left hranks]
  conv => rhs; rw [← map_getD_range entries]
  rw [List.map_map, map_getD_range]
  rfl

theorem cmpF32Desc_of_lt {p q : F32} (h : q.lt p = true) : cmpF32Desc p q = .lt := by
  cases p with
  | nan => cases q <;> contradiction
  | inf s => cases q <;> simp_all [cmpF32Desc, F32.lt]
  | fin r => cases q <;> simp_all [cmpF32Desc, F32.lt]

theorem distinct_rerankEntries {items : List ChunkSnippet} (scores : List F32)
    (h : (items.map fun item => (item.note.noteId, item.chunk.chunkId)).Nodup)
    : Distinct (rerankEntries items scores) := by
  have hmap : (rerankEntries items scores).map (fun entry => (entry.noteId, entry.chunkId))
      = (items.zipIdx.map Prod.fst).map fun item => (item.note.noteId, item.chunk.chunkId) := by
    unfold rerankEntries
    rw [List.map_map, List.map_map]
    rfl
  unfold Distinct
  rw [hmap, List.zipIdx_map_fst]
  exact h

/-- The ranks that the entries get. -/
def rankedEntries (items : List ChunkSnippet) (scores : List F32) : List (RerankEntry × Nat) :=
  (rerankEntries items scores).zip (buildRerankRanks items scores)

/-- The ranks are those of a strict total order, whatever the order of the candidates. -/
structure OrderIndependent (items : List ChunkSnippet) (scores : List F32) : Prop where
  strict : StrictOn cmpReranked (rerankEntries items scores)
  ranks : (buildRerankRanks items scores).Perm (List.range' 1 items.length)
  best : ∀ p ∈ rankedEntries items scores, ∀ q ∈ rankedEntries items scores,
    q.1.score.lt p.1.score = true → p.2 < q.2
  permuted : ∀ items' scores', (rerankEntries items' scores').Perm (rerankEntries items scores) →
    (rankedEntries items' scores').Perm (rankedEntries items scores)

theorem rankedEntries_eq {items : List ChunkSnippet} {scores : List F32}
    (h : StrictOn cmpReranked (rerankEntries items scores))
    (hnodup : (rerankEntries items scores).Nodup)
    : rankedEntries items scores = (rerankEntries items scores).map fun entry =>
      (entry, below cmpReranked (rerankEntries items scores) entry + 1) := by
  unfold rankedEntries buildRerankRanks
  rw [ranksOf_sortedIndices h hnodup, List.map_prod_left_eq_zip]

/--
The ranks of candidates with distinct notes and chunks do not depend on their order, and come from a
strict total order, exactly when the candidates are not entangled.
-/
theorem rerank_ranks (items : List ChunkSnippet) (scores : List F32)
    (hdistinct : (items.map fun item => (item.note.noteId, item.chunk.chunkId)).Nodup)
    : OrderIndependent items scores ↔ Unentangled (rerankEntries items scores) := by
  have hdistinct := distinct_rerankEntries scores hdistinct
  constructor
  . intro h
    exact (strictOn_iff hdistinct).mp h.strict
  . intro hunentangled
    have h := (strictOn_iff hdistinct).mpr hunentangled
    have heq := rankedEntries_eq h hdistinct.nodup
    constructor
    . exact h
    . have hperm : (sortedIndices cmpReranked (rerankEntries items scores)).Perm
          (List.range (rerankEntries items scores).length) := sortBy_perm _
      have hlength : (rerankEntries items scores).length = items.length := by
        simp [rerankEntries]
      have hranks := @ranksOf_perm (sortedIndices cmpReranked (rerankEntries items scores)) (by
        rw [length_sortedIndices]
        exact hperm)
      rw [length_sortedIndices, hlength] at hranks
      exact hranks
    . intro p hp q hq hlt
      rw [heq] at hp hq
      rcases List.mem_map.mp hp with ⟨a, ha, hpa⟩
      rcases List.mem_map.mp hq with ⟨b, hb, hqb⟩
      subst hpa hqb
      have hcmp : cmpReranked a b = .lt := by
        rw [cmpReranked_eq, cmpF32Desc_of_lt hlt]
        rfl
      have hbelow := h.below_lt ha hb hcmp
      exact Nat.succ_lt_succ hbelow
    . intro items' scores' hperm
      have h' : StrictOn cmpReranked (rerankEntries items' scores') := by
        constructor
        . intro a _ b _
          exact cmpReranked_swap a b
        . intro a ha b hb
          exact h.eq a (hperm.mem_iff.mp ha) b (hperm.mem_iff.mp hb)
        . intro a ha b hb c hc
          exact h.trans a (hperm.mem_iff.mp ha) b (hperm.mem_iff.mp hb) c (hperm.mem_iff.mp hc)
      rw [heq, rankedEntries_eq h' (hperm.nodup_iff.mpr hdistinct.nodup)]
      simp only [below_of_perm hperm]
      exact hperm.map _

def equalScores : List F32 := [.fin 1, .fin 1, .fin 1]

theorem rerank_ranks_inChunkOrder
    : OrderIndependent [sampleChunkSnippet 1 10 0 1, sampleChunkSnippet 2 20 0 2,
      sampleChunkSnippet 1 11 1 3] equalScores :=
  (rerank_ranks _ _ (by decide)).mpr (by decide)

-- The retrieval has the second chunk of the note first, and a chunk of another note in between.
def entangledSnippets : List ChunkSnippet :=
  [sampleChunkSnippet 1 10 0 3, sampleChunkSnippet 1 11 1 1, sampleChunkSnippet 2 20 0 2]

theorem not_orderIndependent_entangled
    : (entangledSnippets.map fun item => (item.note.noteId, item.chunk.chunkId)).Nodup
      ∧ (∀ score ∈ equalScores, score ≠ .nan)
      ∧ ¬ OrderIndependent entangledSnippets equalScores := by
  refine ⟨by decide, by decide, ?_⟩
  intro h
  have hentries : rerankEntries entangledSnippets equalScores
      = [⟨1, 10, 0, 3, .fin 1⟩, ⟨1, 11, 1, 1, .fin 1⟩, ⟨2, 20, 0, 2, .fin 1⟩] := by
    rfl
  have hstrict := h.strict
  rw [hentries] at hstrict
  have hlt := hstrict.trans ⟨1, 10, 0, 3, .fin 1⟩ (by simp) ⟨1, 11, 1, 1, .fin 1⟩ (by simp)
    ⟨2, 20, 0, 2, .fin 1⟩ (by simp) (by decide) (by decide)
  revert hlt
  decide

end Elf
