import Elf.Search.Lemmas.Selection
import Mathlib.Data.List.GetD

/-!
This module contains the steps of a replay next to those of the live search that it replays.
-/

namespace Elf

open Sorting

/-! ## Rerank ranks -/

/-- Entries that tie and are of one note come in the order of their chunks. -/
def TiesInChunkOrder (entries : List RerankEntry) : Prop :=
  entries.Pairwise fun a b =>
    a.noteId = b.noteId → cmpF32Desc a.score b.score = .eq → a.chunkIndex ≤ b.chunkIndex

instance : DecidablePred TiesInChunkOrder := fun entries =>
  inferInstanceAs (Decidable (entries.Pairwise fun a b =>
    a.noteId = b.noteId → cmpF32Desc a.score b.score = .eq → a.chunkIndex ≤ b.chunkIndex))

theorem cmpF32Desc_self (a : F32) : cmpF32Desc a a = .eq := by
  cases a with
  | nan => rfl
  | inf s => cases s <;> rfl
  | fin q => simp [cmpF32Desc, F32.lt]

theorem cmpF32Desc_swap (a b : F32) : cmpF32Desc b a = (cmpF32Desc a b).swap := by
  have hlt : a.lt b = true → b.lt a = false := by
    intro h
    cases a <;> cases b <;> simp_all [F32.lt, le_of_lt]
  cases a with
  | nan => cases b <;> rfl
  | inf s =>
    cases b with
    | nan => rfl
    | inf t => cases s <;> cases t <;> rfl
    | fin q => cases s <;> rfl
  | fin p =>
    cases b with
    | nan => rfl
    | inf t => cases t <;> rfl
    | fin q =>
      simp only [cmpF32Desc]
      cases h : (F32.fin p).lt (.fin q) with
      | true => simp [hlt h]
      | false => cases (F32.fin q).lt (.fin p) <;> rfl

/-- The comparison of a search and that of its replay agree on an entry and a later one. -/
theorem cmpReranked_of_lt {a b : RerankEntry} (hrank : a.retrievalRank < b.retrievalRank)
    (hties : a.noteId = b.noteId → cmpF32Desc a.score b.score = .eq → a.chunkIndex ≤ b.chunkIndex)
    : cmpReranked a b = cmpRerankedForReplay a b
        ∧ cmpReranked b a = cmpRerankedForReplay b a := by
  have hlt : compare a.retrievalRank b.retrievalRank = .lt := Nat.compare_eq_lt.mpr hrank
  have hgt : compare b.retrievalRank a.retrievalRank = .gt := Nat.compare_eq_gt.mpr hrank
  simp only [cmpReranked, cmpRerankedForReplay, hlt, hgt, cmpF32Desc_swap a.score b.score]
  cases hscore : cmpF32Desc a.score b.score with
  | lt => exact ⟨rfl, rfl⟩
  | gt => exact ⟨rfl, rfl⟩
  | eq =>
    by_cases hnote : a.noteId = b.noteId
    . have hle := hties hnote hscore
      rw [if_pos hnote, if_pos hnote.symm]
      cases Int.lt_or_eq_of_le hle with
      | inl hidx =>
        have hidxlt : compare a.chunkIndex b.chunkIndex = .lt := compare_lt_iff_lt.mpr hidx
        have hidxgt : compare b.chunkIndex a.chunkIndex = .gt := compare_gt_iff_gt.mpr hidx
        rw [hidxlt, hidxgt]
        exact ⟨rfl, rfl⟩
      | inr hidx =>
        have hidxeq : compare a.chunkIndex b.chunkIndex = .eq := compare_eq_iff_eq.mpr hidx
        have hidxeq' : compare b.chunkIndex a.chunkIndex = .eq := compare_eq_iff_eq.mpr hidx.symm
        rw [hidxeq, hidxeq']
        exact ⟨rfl, rfl⟩
    . have hnote' : ¬b.noteId = a.noteId := fun h => hnote h.symm
      rw [if_neg hnote, if_neg hnote']
      exact ⟨rfl, rfl⟩

theorem cmpReranked_self (a : RerankEntry) : cmpReranked a a = cmpRerankedForReplay a a := by
  simp [cmpReranked, cmpRerankedForReplay, cmpF32Desc_self]

/-- The ranks of a search and of its replay, where a tie does not tell them apart. -/
theorem sortedIndices_replay {entries : List RerankEntry}
    (hranks : entries.Pairwise (·.retrievalRank < ·.retrievalRank))
    (hties : TiesInChunkOrder entries)
    : sortedIndices cmpReranked entries = sortedIndices cmpRerankedForReplay entries := by
  unfold sortedIndices
  apply sortBy_congr
  intro i hi j hj
  rw [List.mem_range] at hi hj
  rw [List.getD_eq_getElem entries default hi, List.getD_eq_getElem entries default hj]
  rw [List.pairwise_iff_getElem] at hranks
  unfold TiesInChunkOrder at hties
  rw [List.pairwise_iff_getElem] at hties
  by_cases hij : i = j
  . subst hij
    exact (cmpReranked_self _).symm
  . by_cases hlt : i < j
    . exact (cmpReranked_of_lt (hranks i j hi hj hlt) (hties i j hi hj hlt)).1.symm
    . have hgt : j < i := by omega
      exact (cmpReranked_of_lt (hranks j i hj hi hgt) (hties j i hj hi hgt)).2.symm

@[simp]
theorem length_ranksOf (order : List Nat) : (ranksOf order).length = order.length := by
  simp [ranksOf]

@[simp]
theorem length_sortedIndices (cmp : RerankEntry → RerankEntry → Ordering)
    (entries : List RerankEntry) : (sortedIndices cmp entries).length = entries.length := by
  simp [sortedIndices]

/-! ## Decisions -/

variable {K : Type}

theorem TraceReplayCandidate.decision_attach {decisions : NoteMap (DiversityDecision K)}
    {candidate : TraceReplayCandidate K} {decision : DiversityDecision K}
    (h : decisions.lookup candidate.noteId = some decision)
    : (attachDecision decisions candidate).hasDiversity = true
        ∧ (attachDecision decisions candidate).decision = decision
        ∧ (attachDecision decisions candidate).noteId = candidate.noteId := by
  unfold attachDecision
  rw [h]
  simp [hasDiversity, TraceReplayCandidate.decision]

theorem DiversityDecision.replaces_self (decision : DiversityDecision K)
    : decision.replaces decision = false := by
  simp [DiversityDecision.replaces]

/-- A candidate whose note has no decision is left without one. -/
theorem extractDecision_attach {decisions out : NoteMap (DiversityDecision K)}
    {candidate : TraceReplayCandidate K} (hfresh : candidate.hasDiversity = false)
    (hout : ∀ noteId decision, out.lookup noteId = some decision →
      decisions.lookup noteId = some decision) (noteId : Uuid)
    : (extractDecision out (attachDecision decisions candidate)).lookup noteId
        = if noteId = candidate.noteId then decisions.lookup noteId else out.lookup noteId := by
  cases hdecision : decisions.lookup candidate.noteId with
  | none =>
    have hattach : attachDecision decisions candidate = candidate := by
      unfold attachDecision
      rw [hdecision]
    unfold extractDecision
    rw [hattach, hfresh]
    simp only [Bool.not_false, if_true]
    split
    . next heq =>
      rw [heq, hdecision]
      cases hlookup : out.lookup candidate.noteId with
      | none => rfl
      | some decision =>
        have := hout _ _ hlookup
        rw [hdecision] at this
        cases this
    . rfl
  | some decision =>
    have ⟨hhas, hattached, hnote⟩ := TraceReplayCandidate.decision_attach hdecision
    unfold extractDecision
    rw [hhas, hattached, hnote]
    cases hlookup : out.lookup candidate.noteId with
    | none =>
      simp only [Bool.not_true, Bool.false_eq_true, if_false, Option.all_none, if_true]
      rw [List.lookup_cons]
      split
      . next heq =>
        rw [beq_iff_eq] at heq
        rw [if_pos heq, heq, hdecision]
      . next hne =>
        rw [if_neg]
        simpa using hne
    | some existing =>
      have hexisting := hout _ _ hlookup
      rw [hdecision] at hexisting
      cases hexisting
      simp only [Bool.not_true, Bool.false_eq_true, if_false, Option.all_some,
        DiversityDecision.replaces_self]
      split
      . next heq => rw [heq, hlookup, hdecision]
      . rfl

/-- A replay reads the decisions about the notes of its candidates. -/
theorem extractReplayDiversityDecisions_attach {decisions : NoteMap (DiversityDecision K)}
    {candidates : List (TraceReplayCandidate K)}
    (hfresh : ∀ candidate ∈ candidates, candidate.hasDiversity = false) (noteId : Uuid)
    : (extractReplayDiversityDecisions
          (attachDiversityDecisionsToTraceCandidates candidates decisions)).lookup noteId
        = if noteId ∈ candidates.map (·.noteId) then decisions.lookup noteId else none := by
  unfold extractReplayDiversityDecisions attachDiversityDecisionsToTraceCandidates
  have hgen : ∀ out : NoteMap (DiversityDecision K),
      (∀ noteId decision, out.lookup noteId = some decision →
        decisions.lookup noteId = some decision) →
      ((candidates.map (attachDecision decisions)).foldl extractDecision out).lookup noteId
        = if noteId ∈ candidates.map (·.noteId) then decisions.lookup noteId
          else out.lookup noteId := by
    induction candidates with
    | nil =>
      intro out _
      simp
    | cons candidate rest ih =>
      intro out hout
      have hstep := extractDecision_attach (hfresh candidate List.mem_cons_self) hout
      rw [List.map_cons, List.foldl_cons]
      rw [ih (fun c hc => hfresh c (List.mem_cons_of_mem _ hc))]
      . rw [hstep]
        simp only [List.map_cons, List.mem_cons]
        by_cases hnote : noteId = candidate.noteId
        . simp [hnote]
        . simp [hnote]
      . intro note decision hlookup
        rw [hstep] at hlookup
        split at hlookup
        . exact hlookup
        . exact hout note decision hlookup
  apply hgen []
  intro noteId decision hlookup
  cases hlookup

/-! ## Scores -/

variable [Field K] [LinearOrder K]

/-- What a replay makes of a scored chunk. -/
def ScoredChunk.replay (scored : ScoredChunk K) : ScoredReplay K where
  toScoreParts := scored.toScoreParts
  noteId := scored.item.note.noteId
  chunkId := scored.item.chunk.chunkId
  retrievalRank := scored.item.retrievalRank
  noteScope := scored.item.note.scope

/-- The candidate that the trace of a search keeps of a scored chunk. -/
def ScoredChunk.capture (decisions : NoteMap (DiversityDecision K)) (scored : ScoredChunk K)
    : TraceReplayCandidate K :=
  attachDecision decisions (buildTraceCandidateRecord scored)

theorem scoreReplayCandidate_capture (A : Arithmetic K) (ctx : ScoreCandidateCtx K)
    (decisions : NoteMap (DiversityDecision K)) (item : ChunkSnippet) (rerankScore : F32)
    (rerankRank : Nat)
    : scoreReplayCandidate A ctx
          ((scoreChunkCandidate A ctx item rerankScore rerankRank).capture decisions) rerankRank
        = (scoreChunkCandidate A ctx item rerankScore rerankRank).replay := by
  unfold ScoredChunk.capture attachDecision
  split
  . rfl
  . rfl

theorem capture_rerankEntry (A : Arithmetic K) (ctx : ScoreCandidateCtx K)
    (decisions : NoteMap (DiversityDecision K)) (item : ChunkSnippet) (rerankScore : F32)
    (rerankRank : Nat)
    : ((scoreChunkCandidate A ctx item rerankScore rerankRank).capture decisions).rerankEntry
        = item.rerankEntry rerankScore := by
  unfold ScoredChunk.capture attachDecision
  split
  . rfl
  . rfl

theorem rerankEntries_eq_zipWith {items : List ChunkSnippet} {scores : List F32}
    (hlength : scores.length = items.length)
    : rerankEntries items scores = List.zipWith ChunkSnippet.rerankEntry items scores := by
  unfold rerankEntries
  apply List.ext_getElem
  . simp [hlength]
  . intro i hi hi'
    simp only [List.getElem_map, List.getElem_zipIdx, List.getElem_zipWith]
    rw [List.length_map, List.length_zipIdx] at hi
    rw [List.getD_eq_getElem]
    . simp
    . omega

theorem rerankEntries_ranks (items : List ChunkSnippet) (scores : List F32)
    : (rerankEntries items scores).map (·.retrievalRank) = items.map (·.retrievalRank) := by
  have hitems := congrArg (List.map (·.retrievalRank)) (List.zipIdx_map_fst 0 items)
  rw [← hitems]
  simp only [rerankEntries, List.map_map]
  rfl

/-- The scored chunks of a search, of which the ranks are those of its replay. -/
theorem scoreReplayCandidates_capture (A : Arithmetic K) (ctx : ScoreCandidateCtx K)
    (decisions : NoteMap (DiversityDecision K)) {items : List ChunkSnippet} {scores : List F32}
    (hlength : scores.length = items.length)
    (hranks : items.Pairwise (·.retrievalRank < ·.retrievalRank))
    (hties : TiesInChunkOrder (rerankEntries items scores))
    : scoreReplayCandidates A ctx
          ((((items.zip scores).zip (buildRerankRanks items scores)).map fun entry =>
            scoreChunkCandidate A ctx entry.1.1 entry.1.2 entry.2).map (·.capture decisions))
        = (((items.zip scores).zip (buildRerankRanks items scores)).map fun entry =>
            scoreChunkCandidate A ctx entry.1.1 entry.1.2 entry.2).map (·.replay) := by
  generalize hzip : (items.zip scores).zip (buildRerankRanks items scores) = entries
  have hentriesLength : (items.zip scores).length = (buildRerankRanks items scores).length := by
    simp [buildRerankRanks, rerankEntries, hlength]
  have hsnd : entries.map (·.2) = buildRerankRanks items scores := by
    rw [← hzip]
    apply List.map_snd_zip
    omega
  have hfst : entries.map (·.1) = items.zip scores := by
    rw [← hzip]
    apply List.map_fst_zip
    omega
  have hentries : rerankEntries items scores
      = entries.map fun entry => entry.1.1.rerankEntry entry.1.2 := by
    rw [rerankEntries_eq_zipWith hlength]
    rw [← List.map_uncurry_zip_eq_zipWith]
    rw [← hfst, List.map_map]
    rfl
  have hreplayRanks : buildRerankRanksForReplay ((entries.map fun entry =>
        scoreChunkCandidate A ctx entry.1.1 entry.1.2 entry.2).map (·.capture decisions))
      = entries.map (·.2) := by
    rw [hsnd]
    unfold buildRerankRanksForReplay buildRerankRanks
    rw [sortedIndices_replay _ hties]
    . rw [hentries]
      simp only [List.map_map]
      congr 3
      funext entry
      exact capture_rerankEntry A ctx decisions entry.1.1 entry.1.2 entry.2
    . rw [← List.pairwise_map (R := (· < ·))]
      rw [rerankEntries_ranks]
      rw [List.pairwise_map]
      exact hranks
  unfold scoreReplayCandidates
  rw [hreplayRanks]
  rw [List.map_map, List.map_map]
  rw [List.zip_map', List.map_map]
  congr 1
  funext entry
  apply scoreReplayCandidate_capture

/-! ## The best chunk of each note -/

instance : Std.TransCmp fun a b : ScoredReplay K => compare b.finalScore a.finalScore :=
  @Std.TransCmp.opposite (ScoredReplay K) (compareOn fun scored => scored.finalScore) inferInstance

instance : Std.TransCmp (cmpScoredReplay (K := K)) :=
  inferInstanceAs (Std.TransCmp (compareLex (fun a b : ScoredReplay K =>
      compare b.finalScore a.finalScore)
    (compareLex (compareOn ScoredReplay.retrievalRank)
      (compareLex (compareOn ScoredReplay.noteId) (compareOn ScoredReplay.chunkId)))))

instance (decisions : NoteMap (DiversityDecision K))
    : Std.TransCmp (cmpSelectedReplay decisions) :=
  inferInstanceAs (Std.TransCmp (compareLex (compareOn (selectedReplayRank decisions))
    (compareOn ScoredReplay.noteId)))

omit [Field K] in
theorem cmpScoredReplay_noteId {a b : ScoredReplay K} (h : cmpScoredReplay a b = .eq)
    : a.noteId = b.noteId := by
  simp only [cmpScoredReplay, Ordering.then_eq_eq] at h
  exact compare_eq_iff_eq.mp h.2.2.1

omit [Field K] [LinearOrder K] in
theorem cmpSelectedReplay_noteId {decisions : NoteMap (DiversityDecision K)}
    {a b : ScoredReplay K} (h : cmpSelectedReplay decisions a b = .eq) : a.noteId = b.noteId := by
  simp only [cmpSelectedReplay, Ordering.then_eq_eq] at h
  exact compare_eq_iff_eq.mp h.2

omit [Field K] in
theorem shouldReplaceReplayBest_of_lt {existing item : ScoredReplay K}
    (h : existing.retrievalRank < item.retrievalRank)
    : shouldReplaceReplayBest existing item = decide (existing.finalScore < item.finalScore) := by
  unfold shouldReplaceReplayBest
  have hrank : ¬item.retrievalRank < existing.retrievalRank := Nat.lt_asymm h
  cases hcmp : compare existing.finalScore item.finalScore with
  | lt => simp [compare_lt_iff_lt.mp hcmp]
  | eq =>
    rw [compare_eq_iff_eq] at hcmp
    simp [hcmp, hrank]
  | gt =>
    rw [compare_gt_iff_gt] at hcmp
    simp [not_lt_of_gt hcmp]

omit [Field K] in
/-- The results of a search, best first, are those of its replay. -/
theorem selectBestScoredChunks_replay {scored : List (ScoredChunk K)}
    (hranks : scored.Pairwise fun a b => a.item.retrievalRank < b.item.retrievalRank)
    : (selectBestScoredChunks scored).map (·.replay)
        = bestScoredReplays (scored.map (·.replay)) := by
  have hbest : (bestByNote ScoredChunk.noteId
        (fun item existing => existing.finalScore < item.finalScore) scored).map (·.replay)
      = bestByNote ScoredReplay.noteId (fun item existing => shouldReplaceReplayBest existing item)
          (scored.map (·.replay)) := by
    apply bestByNote_map
    . intro
      rfl
    . apply hranks.imp
      intro existing item hlt
      exact shouldReplaceReplayBest_of_lt hlt
  have hnodup : ((bestByNote ScoredReplay.noteId
      (fun item existing => shouldReplaceReplayBest existing item)
      (scored.map (·.replay))).map (·.noteId)).Nodup := bestByNote_notes_nodup _
  unfold selectBestScoredChunks bestScoredReplays
  apply Eq.trans (map_sortBy fun a _ b _ => rfl : _ = sortBy cmpScoredReplay _)
  rw [hbest]
  symm
  apply sortBy_eq_of_perm
  . intro a ha b hb heq
    exact List.inj_on_of_nodup_map hnodup ha hb (cmpScoredReplay_noteId heq)
  . apply sortBy_perm

/-! ## The diverse results -/

theorem selectDiverseResults_disabled {A : Arithmetic K} {policy : ResolvedDiversityPolicy K}
    {noteVectors : NoteMap (List K)} (results : List (ScoredChunk K)) {topK : Nat}
    (htop : 0 < topK) (hpolicy : policy.enabled = false)
    : (selectDiverseResults A results topK policy noteVectors).1 = results.take topK := by
  unfold selectDiverseResults
  cases results with
  | nil => simp
  | cons first rest =>
    have hne : ¬topK = 0 := by omega
    simp [hpolicy, hne, selectDiverseResultsDisabled]

omit [Field K] [LinearOrder K] in
/-- A replay selects by the decisions about the candidates, if there are any. -/
theorem applyReplayDiversitySelection_of_decides {decisions : NoteMap (DiversityDecision K)}
    {results selected rest : List (ScoredChunk K)} {topK : Nat}
    (hnodup : (results.map (·.noteId)).Nodup) (hperm : (selected ++ rest).Perm results)
    (hne : selected ≠ []) (hlength : selected.length ≤ topK)
    (hdecides : Decides decisions selected rest)
    : applyReplayDiversitySelection (results.map (·.replay)) topK true decisions
        = selected.map (·.replay) := by
  have hrank : ∀ i (h : i < selected.length),
      selectedReplayRank decisions (selected[i]).replay = i + 1 := by
    intro i h
    have ⟨decision, hlookup, _, hselectedRank⟩ := hdecides.ranked i h
    unfold selectedReplayRank
    have hlookup : decisions.lookup (selected[i]).replay.noteId = some decision := hlookup
    rw [hlookup]
    simp [hselectedRank]
  have hselected : ∀ scored ∈ selected,
      (decisions.lookup scored.replay.noteId).any (·.selected) = true := by
    intro scored hscored
    have ⟨i, hi, heq⟩ := List.getElem_of_mem hscored
    have ⟨decision, hlookup, hdecision, _⟩ := hdecides.ranked i hi
    rw [heq] at hlookup
    have hlookup : decisions.lookup scored.replay.noteId = some decision := hlookup
    rw [hlookup]
    simp [hdecision]
  have hskipped : ∀ scored ∈ rest,
      (decisions.lookup scored.replay.noteId).any (·.selected) = false := by
    intro scored hscored
    have ⟨decision, hlookup, hdecision⟩ := hdecides.skipped scored hscored
    have hlookup : decisions.lookup scored.replay.noteId = some decision := hlookup
    rw [hlookup]
    simp [hdecision]
  have hfilter : (selected.map (·.replay)).Perm ((results.map (·.replay)).filter fun scored =>
      (decisions.lookup scored.noteId).any (·.selected)) := by
    rw [List.filter_map]
    apply List.Perm.map
    apply List.Perm.trans _ (hperm.filter _)
    have hkept := List.filter_eq_self.mpr hselected
    have hleft : rest.filter (fun scored => (decisions.lookup scored.replay.noteId).any (·.selected))
        = [] := by
      rw [List.filter_eq_nil_iff]
      intro scored hscored
      simp [hskipped scored hscored]
    simp only [List.filter_append, Function.comp_def]
    rw [hkept, hleft, List.append_nil]
  have hsorted : sortBy (cmpSelectedReplay decisions) ((results.map (·.replay)).filter fun scored =>
      (decisions.lookup scored.noteId).any (·.selected)) = selected.map (·.replay) := by
    symm
    apply eq_sortBy_of_perm _ hfilter
    . rw [List.pairwise_iff_getElem]
      intro i j hi hj hij
      rw [List.length_map] at hi hj
      simp only [List.getElem_map, cmpSelectedReplay]
      rw [hrank i hi, hrank j hj]
      rw [Nat.compare_eq_lt.mpr (by omega)]
      rfl
    . intro a ha b hb heq
      have hnotes : ((results.map (·.replay)).map (·.noteId)).Nodup := by
        rw [List.map_map]
        exact hnodup
      exact List.inj_on_of_nodup_map hnotes (List.mem_filter.mp ha).1 (List.mem_filter.mp hb).1
        (cmpSelectedReplay_noteId heq)
  have hdecisions : decisions.isEmpty = false := by
    cases decisions with
    | cons => rfl
    | nil =>
      have ⟨scored, hscored⟩ := List.exists_mem_of_ne_nil _ hne
      have := hselected scored hscored
      simp at this
  unfold applyReplayDiversitySelection
  simp only [hdecisions, Bool.not_false, and_self, if_true]
  rw [hsorted]
  have hmap : (selected.map (·.replay)).isEmpty = false := by
    cases selected with
    | nil => exact absurd rfl hne
    | cons => rfl
  rw [hmap]
  simp only [Bool.false_eq_true, if_false]
  apply List.take_of_length_le
  rw [List.length_map]
  omega

/-- A search and its replay select the same results, in the same order. -/
theorem selectDiverseResults_replay {A : Arithmetic K} {policy : ResolvedDiversityPolicy K}
    {noteVectors : NoteMap (List K)} {results : List (ScoredChunk K)} {topK : Nat}
    {decisions : NoteMap (DiversityDecision K)} (htop : 0 < topK)
    (hnodup : (results.map (·.noteId)).Nodup)
    (hdecisions : ∀ scored ∈ results, decisions.lookup scored.noteId
      = (selectDiverseResults A results topK policy noteVectors).2.lookup scored.noteId)
    : applyReplayDiversitySelection (results.map (·.replay)) topK policy.enabled decisions
        = (selectDiverseResults A results topK policy noteVectors).1.map (·.replay) := by
  cases hpolicy : policy.enabled with
  | false =>
    rw [selectDiverseResults_disabled results htop hpolicy]
    unfold applyReplayDiversitySelection
    simp only [Bool.false_eq_true, false_and, if_false]
    rw [Nat.max_eq_left htop, List.map_take]
  | true =>
    cases results with
    | nil => simp [selectDiverseResults, applyReplayDiversitySelection, sortBy]
    | cons first others =>
      have hselect : selectDiverseResults A (first :: others) topK policy noteVectors
          = selectDiverseResultsEnabled A (first :: others) topK policy noteVectors := by
        have hne : ¬topK = 0 := by omega
        simp [selectDiverseResults, hpolicy, hne]
      rw [hselect] at hdecisions ⊢
      have ⟨rest, hperm, hne, hlength, hdecides⟩ :=
        @selectDiverseResultsEnabled_decides K _ _ A policy noteVectors _ _ hnodup
          (List.cons_ne_nil first others) htop
      apply applyReplayDiversitySelection_of_decides hnodup hperm hne hlength
      constructor
      . intro i hi
        have ⟨decision, hlookup, hdecision⟩ := hdecides.ranked i hi
        refine ⟨decision, ?_, hdecision⟩
        rw [hdecisions]
        . exact hlookup
        . apply hperm.mem_iff.mp
          apply List.mem_append_left
          exact List.getElem_mem hi
      . intro scored hscored
        have ⟨decision, hlookup, hdecision⟩ := hdecides.skipped scored hscored
        refine ⟨decision, ?_, hdecision⟩
        rw [hdecisions]
        . exact hlookup
        . apply hperm.mem_iff.mp
          exact List.mem_append_right _ hscored

end Elf
