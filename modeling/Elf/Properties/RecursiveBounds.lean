import Elf.Search.Recursive
import Elf.Service.History
import Mathlib.Algebra.Order.Field.Rat
import Mathlib.Data.List.Dedup

/-!
This module contains that a recursive retrieval stays within its limits, whatever the index answers.
-/

namespace Elf

variable {K : Type} {backend : RecursiveBackend} {cfg : SearchRecursive}
  {args : RecursiveRetrievalArgs K} {s : Expansion}

/-- The candidates of a scope. -/
def ofScope (candidates : List ChunkCandidate) (scope : String) : List ChunkCandidate :=
  candidates.filter fun candidate => candidate.scope = some scope

/-- The candidates of an expansion, which are new, told apart, and few. -/
structure BoundedCandidates (cfg : SearchRecursive) (seeds : List ChunkCandidate) (s : Expansion)
    : Prop where
  total : s.candidates.length ≤ cfg.maxTotalNodes
  hasScope : ∀ candidate ∈ s.candidates, candidate.scope.isSome
  counts : ∀ scope, (ofScope s.candidates scope).length = s.scopeCounts scope
  perScope : ∀ scope, s.scopeCounts scope ≤ cfg.maxNodesPerScope
  nodup : (s.candidates.map (·.chunkId)).Nodup
  seen : ∀ candidate ∈ s.candidates, candidate.chunkId ∈ s.seenChunks
  seedSeen : ∀ seed ∈ seeds, seed.chunkId ∈ s.seenChunks
  fresh : ∀ candidate ∈ s.candidates, candidate.chunkId ∉ seeds.map (·.chunkId)

/-- The scopes of an expansion, asked or queued, which are told apart and not too deep. -/
structure BoundedQueries (cfg : SearchRecursive) (seeds : List ChunkCandidate) (s : Expansion)
    : Prop where
  nodup : ((s.queries ++ s.queuedScopes).map Prod.fst).Nodup
  discovered : ∀ query ∈ s.queries ++ s.queuedScopes, query.1 ∈ s.discoveredScopes
  depth : ∀ query ∈ s.queries, query.2 ≤ cfg.maxDepth
  rounds : (s.queries ++ s.queuedScopes).length
    ≤ (seedScopes seeds).length + s.candidates.length

variable {seeds : List ChunkCandidate} {candidate : ChunkCandidate} {scopeKey : String}

theorem BoundedCandidates.push (h : BoundedCandidates cfg seeds s)
    (htotal : s.candidates.length < cfg.maxTotalNodes)
    (hcount : s.scopeCounts scopeKey < cfg.maxNodesPerScope)
    (hnew : candidate.chunkId ∉ s.seenChunks)
    : BoundedCandidates cfg seeds (s.push candidate scopeKey) := by
  constructor
  . simp only [Expansion.push, List.length_append, List.length_singleton]
    omega
  . intro other hother
    simp only [Expansion.push, List.mem_append, List.mem_singleton] at hother
    cases hother with
    | inl hother => exact h.hasScope other hother
    | inr heq =>
      rw [heq]
      rfl
  . intro scope
    have hscope := h.counts scope
    unfold ofScope at hscope ⊢
    simp only [Expansion.push, List.filter_append, List.length_append, hscope]
    split
    next heq => simp [heq]
    next hne => simp [Ne.symm hne]
  . intro scope
    have hscope := h.perScope scope
    simp only [Expansion.push]
    split
    next heq =>
      rw [heq]
      exact hcount
    next => exact hscope
  . simp only [Expansion.push, List.map_append, List.map_cons, List.map_nil]
    rw [List.nodup_append]
    refine ⟨h.nodup, by simp, ?_⟩
    intro a ha b hb heq
    have ⟨other, hother, hchunk⟩ := List.mem_map.mp ha
    rw [List.mem_singleton] at hb
    apply hnew
    rw [← hb, ← heq, ← hchunk]
    exact h.seen other hother
  . intro other hother
    simp only [Expansion.push, List.mem_append, List.mem_singleton] at hother ⊢
    cases hother with
    | inl hother => exact List.mem_cons_of_mem _ (h.seen other hother)
    | inr heq =>
      rw [heq]
      exact List.mem_cons_self
  . intro seed hseed
    exact List.mem_cons_of_mem _ (h.seedSeen seed hseed)
  . intro other hother
    simp only [Expansion.push, List.mem_append, List.mem_singleton] at hother
    cases hother with
    | inl hother => exact h.fresh other hother
    | inr heq =>
      rw [heq]
      intro hin
      have ⟨seed, hseed, hchunk⟩ := List.mem_map.mp hin
      apply hnew
      rw [← hchunk]
      exact h.seedSeen seed hseed

theorem BoundedCandidates.discover (h : BoundedCandidates cfg seeds s) (depth : Nat)
    : BoundedCandidates cfg seeds (s.discover scopeKey depth) :=
  ⟨h.total, h.hasScope, h.counts, h.perScope, h.nodup, h.seen, h.seedSeen, h.fresh⟩

theorem BoundedQueries.push (h : BoundedQueries cfg seeds s)
    : BoundedQueries cfg seeds (s.push candidate scopeKey) := by
  constructor
  . exact h.nodup
  . exact h.discovered
  . exact h.depth
  . apply Nat.le_trans h.rounds
    simp only [Expansion.push, List.length_append, List.length_singleton]
    omega

/-- A scope is discovered along with a candidate, which pays for its round. -/
theorem BoundedQueries.discover (h : BoundedQueries cfg seeds s)
    (hnew : scopeKey ∉ s.discoveredScopes) (depth : Nat)
    : BoundedQueries cfg seeds ((s.push candidate scopeKey).discover scopeKey depth) := by
  constructor
  . simp only [Expansion.discover, Expansion.push]
    rw [← List.append_assoc, List.map_append, List.nodup_append]
    refine ⟨h.nodup, by simp, ?_⟩
    intro a ha b hb heq
    rcases List.mem_map.mp ha with ⟨query, hquery, hscope⟩
    rw [List.map_cons, List.map_nil, List.mem_singleton] at hb
    have hkey : query.1 = scopeKey := hscope.trans (heq.trans hb)
    apply hnew
    rw [← hkey]
    exact h.discovered query hquery
  . intro query hquery
    simp only [Expansion.discover, Expansion.push, ← List.append_assoc] at hquery ⊢
    rw [List.mem_append, List.mem_singleton] at hquery
    cases hquery with
    | inl hquery => exact List.mem_cons_of_mem _ (h.discovered query hquery)
    | inr heq =>
      rw [heq]
      exact List.mem_cons_self
  . exact h.depth
  . have hrounds := h.rounds
    simp only [Expansion.discover, Expansion.push, List.length_append, List.length_singleton]
      at hrounds ⊢
    omega

theorem scanScope_bounded {scope : String} {depth : Nat} {candidates : List ChunkCandidate}
    {children : Nat} (h : BoundedCandidates cfg seeds s) (hqueries : BoundedQueries cfg seeds s)
    : BoundedCandidates cfg seeds (scanScope cfg scope depth candidates children s)
      ∧ BoundedQueries cfg seeds (scanScope cfg scope depth candidates children s) := by
  induction candidates generalizing children s with
  | nil => exact ⟨h, hqueries⟩
  | cons candidate rest ih =>
    unfold scanScope
    split
    next =>
      exact ⟨⟨h.total, h.hasScope, h.counts, h.perScope, h.nodup, h.seen, h.seedSeen, h.fresh⟩,
        ⟨hqueries.nodup, hqueries.discovered, hqueries.depth, hqueries.rounds⟩⟩
    next htotal =>
      dsimp only
      split
      next => exact ih h hqueries
      next hcount =>
        split
        next => exact ih h hqueries
        next hseen =>
          have hnew : candidate.chunkId ∉ s.seenChunks := by simpa using hseen
          have hpush := h.push (Nat.lt_of_not_le htotal) (Nat.lt_of_not_le hcount) hnew
          split
          next hchild => exact ih (hpush.discover _) (hqueries.discover hchild.2.2.2 _)
          next => exact ih hpush hqueries.push

theorem BoundedQueries.ask {scope : String} {depth : Nat} {queued : List (String × Nat)}
    (h : BoundedQueries cfg seeds s) (hqueue : s.queuedScopes = (scope, depth) :: queued)
    (hdepth : depth ≤ cfg.maxDepth)
    : BoundedQueries cfg seeds {
        s with
        queuedScopes := queued
        queries := s.queries ++ [(scope, depth)] } := by
  have hsame : (s.queries ++ [(scope, depth)]) ++ queued = s.queries ++ s.queuedScopes := by
    rw [hqueue, List.append_assoc]
    rfl
  constructor
  . rw [hsame]
    exact h.nodup
  . rw [hsame]
    exact h.discovered
  . intro query hquery
    rw [List.mem_append, List.mem_singleton] at hquery
    cases hquery with
    | inl hquery => exact h.depth query hquery
    | inr heq =>
      rw [heq]
      exact hdepth
  . rw [hsame]
    exact h.rounds

theorem BoundedQueries.stop {query : String × Nat} {queued : List (String × Nat)}
    (h : BoundedQueries cfg seeds s) (hqueue : s.queuedScopes = query :: queued)
    (reason : Option String)
    : BoundedQueries cfg seeds { s with queuedScopes := queued, stopReason := reason } := by
  have hsublist : (s.queries ++ queued).Sublist (s.queries ++ s.queuedScopes) := by
    rw [hqueue]
    exact (List.sublist_cons_self query queued).append_left s.queries
  constructor
  . exact h.nodup.sublist (hsublist.map Prod.fst)
  . intro other hother
    exact h.discovered other (hsublist.mem hother)
  . exact h.depth
  . exact Nat.le_trans hsublist.length_le h.rounds

/-- The limits on the candidates do not depend on the scopes. -/
theorem BoundedCandidates.of_candidates {s' : Expansion} (h : BoundedCandidates cfg seeds s)
    (hcandidates : s'.candidates = s.candidates) (hseen : s'.seenChunks = s.seenChunks)
    (hcounts : s'.scopeCounts = s.scopeCounts) : BoundedCandidates cfg seeds s' := by
  constructor
  . rw [hcandidates]
    exact h.total
  . rw [hcandidates]
    exact h.hasScope
  . rw [hcandidates, hcounts]
    exact h.counts
  . rw [hcounts]
    exact h.perScope
  . rw [hcandidates]
    exact h.nodup
  . rw [hcandidates, hseen]
    exact h.seen
  . rw [hseen]
    exact h.seedSeen
  . rw [hcandidates]
    exact h.fresh

theorem collectRecursiveCandidates_bounded (h : BoundedCandidates backend.cfg seeds s)
    (hqueries : BoundedQueries backend.cfg seeds s)
    : BoundedCandidates backend.cfg seeds (collectRecursiveCandidates backend args s).1
      ∧ BoundedQueries backend.cfg seeds (collectRecursiveCandidates backend args s).1 := by
  fun_induction collectRecursiveCandidates backend args s with
  | case1 s hqueue => exact ⟨h, hqueries⟩
  | case2 s scope depth queued hqueue hdepth =>
    exact ⟨h.of_candidates rfl rfl rfl, hqueries.stop hqueue _⟩
  | case3 s scope depth queued hqueue hdepth asked err herr =>
    exact ⟨h.of_candidates rfl rfl rfl, hqueries.ask hqueue (Nat.le_of_not_lt hdepth)⟩
  | case4 s scope depth queued hqueue hdepth asked candidates hok scanned hstop =>
    have hasked : BoundedCandidates backend.cfg seeds asked := h.of_candidates rfl rfl rfl
    exact scanScope_bounded hasked (hqueries.ask hqueue (Nat.le_of_not_lt hdepth))
  | case5 s scope depth queued hqueue hdepth asked candidates hok scanned hstop ih =>
    have hasked : BoundedCandidates backend.cfg seeds asked := h.of_candidates rfl rfl rfl
    have hscanned := @scanScope_bounded _ _ _ scope depth candidates 0 hasked
      (hqueries.ask hqueue (Nat.le_of_not_lt hdepth))
    exact ih hscanned.1 hscanned.2

/-! ## The retrieval -/

theorem start_bounded (horder : ∀ scopes, (backend.setOrder scopes).Perm scopes)
    : BoundedCandidates backend.cfg args.seedCandidates (.start backend args)
      ∧ BoundedQueries backend.cfg args.seedCandidates (.start backend args) := by
  have hperm := horder (seedScopes args.seedCandidates)
  have hscopes : ((Expansion.start backend args).queries
      ++ (Expansion.start backend args).queuedScopes).map Prod.fst
      = backend.setOrder (seedScopes args.seedCandidates) := by
    simp [Expansion.start, Function.comp_def]
  constructor
  . constructor
    . apply Nat.zero_le
    . simp [Expansion.start]
    . simp [Expansion.start, ofScope]
    . simp [Expansion.start]
    . simp [Expansion.start]
    . simp [Expansion.start]
    . intro seed hseed
      exact List.mem_map_of_mem hseed
    . simp [Expansion.start]
  . constructor
    . rw [hscopes, hperm.nodup_iff]
      apply List.nodup_dedup
    . intro query hquery
      have hscope := List.mem_map_of_mem (f := Prod.fst) hquery
      rw [hscopes, hperm.mem_iff] at hscope
      exact hscope
    . simp [Expansion.start]
    . simp [Expansion.start, hperm.length_eq]

variable [Field K] [LinearOrder K]

/-- The limits of a retrieval, for its outcome and the queries that were made for it. -/
structure StaysBounded (cfg : SearchRecursive) (seeds : List ChunkCandidate)
    (outcome : Except Error RecursiveRetrievalResult) (queries : List (String × Nat)) : Prop where
  once : (queries.map Prod.fst).Nodup
  depth : ∀ query ∈ queries, query.2 ≤ cfg.maxDepth
  rounds : queries.length ≤ (seedScopes seeds).length + cfg.maxTotalNodes
  total : ∀ result, outcome = .ok result → result.candidates.length ≤ cfg.maxTotalNodes
  hasScope : ∀ result, outcome = .ok result →
    ∀ candidate ∈ result.candidates, candidate.scope.isSome
  perScope : ∀ result, outcome = .ok result →
    ∀ scope, (ofScope result.candidates scope).length ≤ cfg.maxNodesPerScope
  nodup : ∀ result, outcome = .ok result → (result.candidates.map (·.chunkId)).Nodup
  fresh : ∀ result, outcome = .ok result →
    ∀ candidate ∈ result.candidates, candidate.chunkId ∉ seeds.map (·.chunkId)

theorem staysBounded_of_nil {outcome : Except Error RecursiveRetrievalResult}
    (h : ∀ result, outcome = .ok result → result.candidates = [])
    : StaysBounded cfg seeds outcome [] := by
  constructor
  . simp
  . simp
  . simp
  . intro result hresult
    simp [h result hresult]
  . intro result hresult
    simp [h result hresult]
  . intro result hresult
    simp [h result hresult, ofScope]
  . intro result hresult
    simp [h result hresult]
  . intro result hresult
    simp [h result hresult]

theorem staysBounded_of_expansion {outcome : Except Error RecursiveRetrievalResult}
    (hcandidates : BoundedCandidates cfg seeds s) (hqueries : BoundedQueries cfg seeds s)
    (h : ∀ result, outcome = .ok result → result.candidates = s.candidates)
    : StaysBounded cfg seeds outcome s.queries := by
  have hsublist : s.queries.Sublist (s.queries ++ s.queuedScopes) := List.sublist_append_left _ _
  constructor
  . exact hqueries.nodup.sublist (hsublist.map Prod.fst)
  . exact hqueries.depth
  . have hlength := hsublist.length_le
    have hrounds := hqueries.rounds
    have htotal := hcandidates.total
    omega
  . intro result hresult
    rw [h result hresult]
    exact hcandidates.total
  . intro result hresult
    rw [h result hresult]
    exact hcandidates.hasScope
  . intro result hresult scope
    rw [h result hresult, hcandidates.counts]
    exact hcandidates.perScope scope
  . intro result hresult
    rw [h result hresult]
    exact hcandidates.nodup
  . intro result hresult
    rw [h result hresult]
    exact hcandidates.fresh

theorem recursive_retrieval (backend : RecursiveBackend)
    (horder : ∀ scopes, (backend.setOrder scopes).Perm scopes) (args : RecursiveRetrievalArgs K)
    : StaysBounded backend.cfg args.seedCandidates (runRecursiveRetrieval backend args).1
        (runRecursiveRetrieval backend args).2 := by
  have ⟨hstart, hstartQueries⟩ := @start_bounded K backend args horder
  have ⟨hcandidates, hqueries⟩ :=
    @collectRecursiveCandidates_bounded K backend args _ _ hstart hstartQueries
  unfold runRecursiveRetrieval
  split
  next =>
    apply staysBounded_of_nil
    intro result hresult
    cases hresult
    rfl
  next =>
    split
    next =>
      apply staysBounded_of_nil
      intro result hresult
      cases hresult
      rfl
    next =>
      split
      next =>
        apply staysBounded_of_nil
        intro result hresult
        cases hresult
        rfl
      next =>
        cases herr : (collectRecursiveCandidates backend args (.start backend args)).2 with
        | some err =>
          simp only [herr]
          apply staysBounded_of_expansion hcandidates hqueries
          intro result hresult
          cases hresult
        | none =>
          simp only [herr]
          apply staysBounded_of_expansion hcandidates hqueries
          intro result hresult
          cases hresult
          rfl

/-! ## A scope that leads to another one -/

def sampleSeed : ChunkCandidate := ⟨1, 10, 0, 1, none, some "a", none, none⟩

/-- The index has a chunk of the scope `b` for the scope `a`, which comes with the seed. -/
def samplePoints (scope : String) : List ScoredPoint :=
  if scope = "a" then
    [sampleRecursivePoint 1 "a", sampleRecursivePoint 2 "b"]
  else
    [sampleRecursivePoint 2 "b", sampleRecursivePoint 3 "b"]
where
  sampleRecursivePoint (chunkId : Uuid) (scope : String) : ScoredPoint := {
    id := some (.uuid chunkId.toString)
    payload := .obj [("chunk_index", .num 0), ("note_id", uuidJson 10), ("scope", .str scope)]
    score := .fin 1 }

def sampleBackend : RecursiveBackend where
  cfg := ⟨true, 2, 4, 10, 10⟩
  prefilterMaxCandidates := 0
  rfc := ⟨fun _ => none, fun _ => none⟩
  runFusionQuery round _ _ _ := .ok (samplePoints (if round = 0 then "a" else "b"))
  setOrder scopes := scopes

def sampleRecursiveArgs : RecursiveRetrievalArgs ℚ where
  query := "q"
  queryVec := [.fin 1]
  filter := .all []
  candidateK := 5
  retrievalSourcesPolicy := ⟨1, 1, 1, 0, 1, 2⟩
  seedCandidates := [sampleSeed]

theorem recursive_retrieval_twoScopes
    : (runRecursiveRetrieval sampleBackend sampleRecursiveArgs).2 = [("a", 1), ("b", 2)]
      ∧ StaysBounded sampleBackend.cfg [sampleSeed]
          (runRecursiveRetrieval sampleBackend sampleRecursiveArgs).1
          (runRecursiveRetrieval sampleBackend sampleRecursiveArgs).2 := by
  refine ⟨?_, recursive_retrieval sampleBackend (fun _ => List.Perm.refl _) sampleRecursiveArgs⟩
  decide +kernel

end Elf
