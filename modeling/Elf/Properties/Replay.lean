import Elf.Search.Lemmas.Replay

/-!
This module contains that the replay of a search returns its results, as long as the order of the
chunks of a note does not decide a tie of the rerank against the order of the retrieval.
-/

namespace Elf

variable {K : Type} [Field K] [LinearOrder K]

/-- A search from the candidates of its sources on. -/
structure LiveSearch (K : Type) where
  args : FinishSearchArgs K
  sources : List RetrievalSourceCandidates
  sourcesPolicy : ResolvedRetrievalSourcesPolicy K
  candidateK : Nat
  chunks : List ChunkRow
  noteMeta : Uuid → Option NoteMeta
  filter : Option (NoteMeta → Bool)

def LiveSearch.candidates (A : Arithmetic K) (search : LiveSearch K) : List ChunkCandidate :=
  mergeRetrievalCandidates A search.sources search.sourcesPolicy search.candidateK

def LiveSearch.items (A : Arithmetic K) (search : LiveSearch K) : List ChunkSnippet :=
  buildSnippetItems search.chunks search.noteMeta
    (applyFilterToCandidates (search.candidates A) search.noteMeta search.filter)

def LiveSearch.finish (A : Arithmetic K) (policyId : PolicyId K) (search : LiveSearch K)
    : Except String (FinishSearchResult K) :=
  finishSearch A policyId search.args (search.items A) (search.candidates A).length

/-- The replay of the candidates of a trace with the configuration of their search. -/
def LiveSearch.replay (A : Arithmetic K) (policyId : PolicyId K) (search : LiveSearch K)
    (candidates : List (TraceReplayCandidate K)) : Except String (List (TraceReplayItem K)) :=
  replayRankingFromCandidates A policyId search.args.cfg
    ⟨search.args.query, (search.candidates A).length, search.args.now⟩ search.args.rankingOverride
    candidates search.args.topK

/-- The replay returns the chunks that the search selected. -/
def LiveSearch.Agrees (A : Arithmetic K) (policyId : PolicyId K) (search : LiveSearch K)
    (result : FinishSearchResult K) : Prop :=
  ∃ replayed, search.replay A policyId result.traceCandidates = .ok replayed
    ∧ replayed.map (fun item => (item.noteId, item.chunkId))
      = result.selectedResults.map fun scored =>
          (scored.item.note.noteId, scored.item.chunk.chunkId)

/-- A search for at least one result, if it has any, in which the chunks of a note that the rerank
scores alike are found in their order. -/
structure LiveSearch.Replayable (A : Arithmetic K) (search : LiveSearch K) : Prop where
  top : search.items A = [] ∨ 0 < search.args.topK
  ties : ∀ scores, rerankScores search.args (search.items A) = .ok scores →
    TiesInChunkOrder (rerankEntries (search.items A) scores)

theorem buildSnippetItem_rank {rows : List ChunkRow} {noteMeta : Uuid → Option NoteMeta}
    {candidate : ChunkCandidate} {item : ChunkSnippet}
    (h : buildSnippetItem rows noteMeta candidate = some item)
    : item.retrievalRank = candidate.retrievalRank := by
  unfold buildSnippetItem at h
  simp only [Option.bind_eq_bind, Option.bind_eq_some_iff] at h
  have ⟨row, _, h⟩ := h
  split at h
  . cases h
  . simp only [Option.bind_eq_some_iff, Option.pure_def, Option.some.injEq] at h
    have ⟨note, _, heq⟩ := h
    rw [← heq]

theorem LiveSearch.items_ranks (A : Arithmetic K) (search : LiveSearch K)
    : (search.items A).Pairwise (·.retrievalRank < ·.retrievalRank) := by
  have hmerged := mergeRetrievalCandidates_rank A search.sources search.sourcesPolicy
    search.candidateK
  have hfiltered : (applyFilterToCandidates (search.candidates A) search.noteMeta
      search.filter).Pairwise (·.retrievalRank < ·.retrievalRank) := by
    unfold applyFilterToCandidates
    split
    . exact (hmerged.filter _).filter _
    . exact hmerged.filter _
  unfold LiveSearch.items buildSnippetItems
  apply List.Pairwise.filterMap _ _ hfiltered
  intro a b hlt x hx y hy
  rw [buildSnippetItem_rank hx, buildSnippetItem_rank hy]
  exact hlt

omit [Field K] [LinearOrder K] in
theorem rerankScores_length {args : FinishSearchArgs K} {items : List ChunkSnippet}
    {scores : List F32} (h : rerankScores args items = .ok scores)
    : scores.length = items.length := by
  unfold rerankScores at h
  split at h
  . cases h
    simp [buildQuickFindRerankScores]
  . unfold rerankSnippetItems at h
    split at h
    . next hempty =>
      cases h
      rw [List.isEmpty_iff] at hempty
      subst hempty
      rfl
    . dsimp only at h
      split at h
      . cases h
      . next hlength =>
        cases h
        omega

omit [Field K] [LinearOrder K] in
theorem zip_ranks {items : List ChunkSnippet} {scores : List F32} {ranks : List Nat}
    {f : (ChunkSnippet × F32) × Nat → ScoredChunk K} (hf : ∀ entry, (f entry).item = entry.1.1)
    (hranks : items.Pairwise (·.retrievalRank < ·.retrievalRank))
    : (((items.zip scores).zip ranks).map f).Pairwise fun a b =>
        a.item.retrievalRank < b.item.retrievalRank := by
  rw [List.pairwise_iff_getElem] at hranks ⊢
  intro i j hi hj hij
  simp only [List.length_map, List.length_zip] at hi hj
  simp only [List.getElem_map, List.getElem_zip, hf]
  apply hranks i j _ _ hij

/-- The trace of a search scores its candidates as the search did. -/
theorem scoreSnippetItems_replay {A : Arithmetic K} {args : FinishSearchArgs K}
    {policies : FinishSearchPolicies K} {items : List ChunkSnippet} {candidateCount : Nat}
    {scored : List (ScoredChunk K)}
    (hranks : items.Pairwise (·.retrievalRank < ·.retrievalRank))
    (hties : ∀ scores, rerankScores args items = .ok scores →
      TiesInChunkOrder (rerankEntries items scores))
    (hscored : scoreSnippetItems A args policies.blendPolicy items candidateCount = .ok scored)
    (decisions : NoteMap (DiversityDecision K))
    : scoreReplayCandidates A (scoreCandidateCtx args.cfg policies.blendPolicy args.query args.now
          scored.length candidateCount) (scored.map (·.capture decisions))
        = scored.map (·.replay)
      ∧ scored.Pairwise fun a b => a.item.retrievalRank < b.item.retrievalRank := by
  unfold scoreSnippetItems at hscored
  split at hscored
  . cases hscored
    exact ⟨rfl, List.Pairwise.nil⟩
  . simp only [Except.bind_eq_ok, Except.pure_eq_ok] at hscored
    have ⟨scores, hscores, heq⟩ := hscored
    have hlength := rerankScores_length hscores
    have hcount : scored.length = scores.length := by
      rw [heq]
      simp [buildRerankRanks, rerankEntries, hlength]
    rw [hcount, heq]
    constructor
    . apply scoreReplayCandidates_capture A _ decisions hlength hranks (hties scores hscores)
    . apply zip_ranks _ hranks
      intro
      rfl

omit [Field K] [LinearOrder K] in
theorem buildTraceCandidateRecord_fresh (scored : ScoredChunk K)
    : (buildTraceCandidateRecord scored).hasDiversity = false := by
  rfl

omit [Field K] in
theorem selectBestScoredChunks_notes (scored : List (ScoredChunk K))
    : ((selectBestScoredChunks scored).map (·.noteId)).Nodup := by
  have hnodup : ((bestByNote ScoredChunk.noteId
      (fun item existing => existing.finalScore < item.finalScore) scored).map (·.noteId)).Nodup :=
    bestByNote_notes_nodup scored
  exact ((Sorting.sortBy_perm _).map _).nodup_iff.mpr hnodup

/-- What the replay makes of the trace candidates is what the search has selected. -/
theorem replayScored_finishScored {A : Arithmetic K} {policyId : PolicyId K}
    {args : FinishSearchArgs K} {policies : FinishSearchPolicies K} {candidateCount : Nat}
    {scored : List (ScoredChunk K)}
    (hscores : ∀ decisions, scoreReplayCandidates A (scoreCandidateCtx args.cfg
        policies.blendPolicy args.query args.now scored.length candidateCount)
        (scored.map (·.capture decisions)) = scored.map (·.replay))
    (hranks : scored.Pairwise fun a b => a.item.retrievalRank < b.item.retrievalRank)
    (htop : 0 < args.topK)
    : (replayScored A policyId args.cfg ⟨args.query, candidateCount, args.now⟩
          args.rankingOverride policies (finishScored A policyId args policies scored).traceCandidates
          args.topK).map (fun item => (item.noteId, item.chunkId))
        = (finishScored A policyId args policies scored).selectedResults.map fun scored =>
            (scored.item.note.noteId, scored.item.chunk.chunkId) := by
  unfold replayScored finishScored
  dsimp only
  generalize hselection : selectDiverseResults A (selectBestScoredChunks scored) args.topK
    policies.diversityPolicy args.noteVectors = selection
  have hcandidates : attachDiversityDecisionsToTraceCandidates
      (scored.map buildTraceCandidateRecord) selection.2 = scored.map (·.capture selection.2) := by
    simp [attachDiversityDecisionsToTraceCandidates, ScoredChunk.capture, Function.comp_def]
  have hdecisions : ∀ result ∈ selectBestScoredChunks scored,
      (extractReplayDiversityDecisions (attachDiversityDecisionsToTraceCandidates
        (scored.map buildTraceCandidateRecord) selection.2)).lookup result.noteId
        = (selectDiverseResults A (selectBestScoredChunks scored) args.topK
            policies.diversityPolicy args.noteVectors).2.lookup result.noteId := by
    intro result hresult
    rw [extractReplayDiversityDecisions_attach, hselection]
    . rw [if_pos]
      rw [List.map_map]
      exact List.mem_map_of_mem (selectBestScoredChunks_subset hresult)
    . intro candidate hcandidate
      have ⟨source, _, heq⟩ := List.mem_map.mp hcandidate
      rw [← heq]
      apply buildTraceCandidateRecord_fresh
  have hselected := selectDiverseResults_replay htop (selectBestScoredChunks_notes scored)
    hdecisions
  rw [hselection] at hselected
  rw [hcandidates] at hselected ⊢
  rw [List.length_map, hscores, ← selectBestScoredChunks_replay hranks, hselected]
  simp only [List.map_map]
  rfl

/-- A search that is replayable is replayed with the results that it had. -/
theorem replay_agrees (A : Arithmetic K) (policyId : PolicyId K) (search : LiveSearch K)
    (result : FinishSearchResult K) (hresult : search.finish A policyId = .ok result)
    (hreplayable : search.Replayable A) : search.Agrees A policyId result := by
  have ⟨policies, hpolicies, scored, hscored, heq⟩ := finishSearch_eq_ok.mp hresult
  refine ⟨_, replayRankingFromCandidates_eq_ok.mpr ⟨policies, hpolicies, rfl⟩, ?_⟩
  rw [heq]
  have hreplay := scoreSnippetItems_replay (search.items_ranks A) hreplayable.ties hscored
  cases hreplayable.top with
  | inl hempty =>
    rw [hempty] at hscored
    cases hscored
    simp [finishScored, selectBestScoredChunks, bestByNote, selectDiverseResults, replayScored,
      scoreReplayCandidates, bestScoredReplays, applyReplayDiversitySelection, Sorting.sortBy,
      attachDiversityDecisionsToTraceCandidates, extractReplayDiversityDecisions]
  | inr htop =>
    exact replayScored_finishScored (fun decisions => (hreplay decisions).1) (hreplay []).2 htop

/-! ## A search of one note -/

/-- A search that finds chunks of the note with identifier 1, in the given order. -/
def sampleLiveSearch (chunks : List (Uuid × Int)) : LiveSearch ℚ where
  args := sampleFinishSearchArgs
  sources := [⟨.fusion, chunks.zipIdx.map fun entry =>
    ⟨entry.1.1, 1, entry.1.2, entry.2 + 1, none, none, none, none⟩⟩]
  sourcesPolicy := ⟨1, 1, 1, 0, 1, 2⟩
  candidateK := 10
  chunks := chunks.map fun chunk => ⟨chunk.1, 1, chunk.2, 0, 1, "x"⟩
  noteMeta noteId := some (sampleChunkSnippet noteId 1 0 1).note
  filter := none

def samplePolicyId : PolicyId ℚ := fun _ _ _ => ""

/-- The chunks that the search selects, and those that its replay returns. -/
def sampleSelected (chunks : List (Uuid × Int)) : Option (List Uuid × List Uuid) :=
  ((sampleLiveSearch chunks).finish rationalArithmetic samplePolicyId).toOption.bind fun result =>
    ((sampleLiveSearch chunks).replay rationalArithmetic samplePolicyId
      result.traceCandidates).toOption.map fun replayed =>
        (result.selectedResults.map (·.item.chunk.chunkId), replayed.map (·.chunkId))

theorem replay_agrees_sample
    : ∃ result, (sampleLiveSearch [(1, 0), (2, 1)]).finish rationalArithmetic samplePolicyId
          = .ok result
        ∧ result.selectedResults.length = 1
        ∧ (sampleLiveSearch [(1, 0), (2, 1)]).Agrees rationalArithmetic samplePolicyId result := by
  have hlength : ((sampleLiveSearch [(1, 0), (2, 1)]).finish rationalArithmetic
      samplePolicyId).toOption.map (·.selectedResults.length) = some 1 := by
    decide +kernel
  cases h : (sampleLiveSearch [(1, 0), (2, 1)]).finish rationalArithmetic samplePolicyId with
  | error message =>
    rw [h] at hlength
    cases hlength
  | ok result =>
    rw [h] at hlength
    refine ⟨result, rfl, Option.some.inj hlength, ?_⟩
    apply replay_agrees rationalArithmetic samplePolicyId _ result h
    constructor
    . right
      decide
    . intro scores hscores
      have hties : (rerankScores (sampleLiveSearch [(1, 0), (2, 1)]).args
          ((sampleLiveSearch [(1, 0), (2, 1)]).items rationalArithmetic)).toOption.all (fun scores =>
            TiesInChunkOrder (rerankEntries
              ((sampleLiveSearch [(1, 0), (2, 1)]).items rationalArithmetic) scores)) = true := by
        decide +kernel
      rw [hscores] at hties
      exact of_decide_eq_true hties

/-- The rerank ties two chunks, of which the one that is found first comes second in the note. -/
theorem not_agrees_tied
    : ¬∀ (search : LiveSearch ℚ) (result : FinishSearchResult ℚ),
        search.finish rationalArithmetic samplePolicyId = .ok result →
          search.Agrees rationalArithmetic samplePolicyId result := by
  intro hall
  have hselected : sampleSelected [(1, 1), (2, 0)] = some ([2], [1]) := by
    decide +kernel
  unfold sampleSelected at hselected
  simp only [Option.bind_eq_some_iff, Option.map_eq_some_iff, Prod.mk.injEq] at hselected
  have ⟨result, hresult, replayed, hreplayed, hlive, hreplay⟩ := hselected
  have hfinish : (sampleLiveSearch [(1, 1), (2, 0)]).finish rationalArithmetic samplePolicyId
      = .ok result := by
    cases h : (sampleLiveSearch [(1, 1), (2, 0)]).finish rationalArithmetic samplePolicyId with
    | error message =>
      rw [h] at hresult
      cases hresult
    | ok value =>
      rw [h] at hresult
      cases hresult
      rfl
  have ⟨replayed', hreplayed', hids⟩ := hall _ _ hfinish
  rw [hreplayed'] at hreplayed
  cases hreplayed
  have hchunks := congrArg (List.map (·.2)) hids
  simp only [List.map_map, Function.comp_def] at hchunks
  rw [hreplay, hlive] at hchunks
  exact absurd hchunks (by decide)

end Elf
