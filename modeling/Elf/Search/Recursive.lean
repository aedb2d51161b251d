import Elf.Search.Candidates
import Elf.Search.Policy

/-!
This module contains the recursive retrieval: a search asks the index again in the scopes of its first
candidates, and then in the scopes of what this finds.
-/

namespace Elf

open PointFilter Text

/-! ## Requests -/

structure SearchRecursive where
  enabled : Bool
  maxDepth : Nat
  maxChildrenPerNode : Nat
  maxNodesPerScope : Nat
  maxTotalNodes : Nat

structure QueryEmbedding where
  text : String
  vector : List F32

structure RecursiveRetrievalArgs (K : Type) where
  query : String
  queryVec : List F32
  filter : Filter
  candidateK : Nat
  retrievalSourcesPolicy : ResolvedRetrievalSourcesPolicy K
  seedCandidates : List ChunkCandidate

/-- What the retrieval computes with, apart from its request. -/
structure RecursiveBackend where
  cfg : SearchRecursive
  prefilterMaxCandidates : Nat
  rfc : Rfc3339
  /-- The answer of the index, which may be another one for every query. -/
  runFusionQuery : Nat → List QueryEmbedding → Filter → Nat → Except Error (List ScoredPoint)
  /-- The order in which a set of scopes is walked. -/
  setOrder : List String → List String

/-! ## The expansion -/

/-- The state of an expansion. A query is a scope with its depth. -/
structure Expansion where
  queuedScopes : List (String × Nat)
  discoveredScopes : List String
  candidates : List ChunkCandidate
  seenChunks : List Uuid
  scopeCounts : String → Nat
  queries : List (String × Nat)
  stopReason : Option String

/-- A candidate with its scope. -/
def Expansion.push (s : Expansion) (candidate : ChunkCandidate) (scopeKey : String) : Expansion :=
  { s with
    candidates := s.candidates ++ [{ candidate with scope := some scopeKey }]
    seenChunks := candidate.chunkId :: s.seenChunks
    scopeCounts := fun scope =>
      if scope = scopeKey then s.scopeCounts scope + 1 else s.scopeCounts scope }

/-- A scope that is found for the first time. -/
def Expansion.discover (s : Expansion) (scopeKey : String) (depth : Nat) : Expansion :=
  { s with
    discoveredScopes := scopeKey :: s.discoveredScopes
    queuedScopes := s.queuedScopes ++ [(scopeKey, depth)] }

/-- The candidates of a scope, with the number of its children so far. -/
def scanScope (cfg : SearchRecursive) (scope : String) (depth : Nat)
    : List ChunkCandidate → Nat → Expansion → Expansion
  | [], _, s => s
  | candidate :: rest, children, s =>
    if cfg.maxTotalNodes ≤ s.candidates.length then
      { s with stopReason := some "max_total_nodes" }
    else
      let scopeKey := candidate.scope.getD scope
      if cfg.maxNodesPerScope ≤ s.scopeCounts scopeKey then
        scanScope cfg scope depth rest children s
      else if s.seenChunks.contains candidate.chunkId then
        scanScope cfg scope depth rest children s
      else
        let s := s.push candidate scopeKey
        if depth < cfg.maxDepth ∧ children < cfg.maxChildrenPerNode ∧ scopeKey ≠ ""
            ∧ scopeKey ∉ s.discoveredScopes then
          scanScope cfg scope depth rest (children + 1) (s.discover scopeKey (depth + 1))
        else
          scanScope cfg scope depth rest children s

/-- What is queued, and what may still be found: this bounds the rounds that are left. -/
def Expansion.work (cfg : SearchRecursive) (s : Expansion) : Nat :=
  s.queuedScopes.length + (cfg.maxTotalNodes - s.candidates.length)

theorem scanScope_work (cfg : SearchRecursive) (scope : String) (depth : Nat)
    (candidates : List ChunkCandidate) (children : Nat) (s : Expansion)
    : (scanScope cfg scope depth candidates children s).work cfg ≤ s.work cfg := by
  induction candidates generalizing children s with
  | nil => apply Nat.le_refl
  | cons candidate rest ih =>
    unfold scanScope
    split
    . apply Nat.le_refl
    . next htotal =>
      dsimp only
      split
      . apply ih
      . split
        . apply ih
        . split
          . apply Nat.le_trans (ih _ _)
            simp only [Expansion.work, Expansion.discover, Expansion.push, List.length_append,
              List.length_singleton]
            omega
          . apply Nat.le_trans (ih _ _)
            simp only [Expansion.work, Expansion.push, List.length_append, List.length_singleton]
            omega

variable {K : Type}

def perQueryCandidateK (cfg : SearchRecursive) (args : RecursiveRetrievalArgs K) : Nat :=
  max (min args.candidateK cfg.maxNodesPerScope) 1

/-- `scoped_filter.must.push(Condition::matches("scope", scope))`. -/
def scopedFilter (filter : Filter) (scope : String) : Filter :=
  match filter with
  | ⟨must, should, mustNot, minCount, minShould⟩ =>
    ⟨must ++ [.keyword "scope" scope], should, mustNot, minCount, minShould⟩

/-- The candidates that a scope has for one query. -/
def queryScope (backend : RecursiveBackend) (args : RecursiveRetrievalArgs K) (round : Nat)
    (scope : String) : Except Error (List ChunkCandidate) := do
  let perQueryCandidateK := perQueryCandidateK backend.cfg args
  let points ← backend.runFusionQuery round [⟨args.query, args.queryVec⟩]
    (scopedFilter args.filter scope) perQueryCandidateK
  let scopeQueryLimit := min perQueryCandidateK backend.cfg.maxNodesPerScope
  return collectChunkCandidates backend.rfc points
    (min backend.prefilterMaxCandidates scopeQueryLimit) scopeQueryLimit

/-- The rounds of an expansion, until the queue is empty, a limit is met or a query fails. -/
def collectRecursiveCandidates (backend : RecursiveBackend) (args : RecursiveRetrievalArgs K)
    (s : Expansion) : Expansion × Option Error :=
  match _hqueue : s.queuedScopes with
  | [] => (s, none)
  | (scope, depth) :: queued =>
    if backend.cfg.maxDepth < depth then
      ({ s with queuedScopes := queued, stopReason := some "max_depth" }, none)
    else
      let asked := { s with
        queuedScopes := queued
        queries := s.queries ++ [(scope, depth)] }
      match queryScope backend args s.queries.length scope with
      | .error err => (asked, some err)
      | .ok candidates =>
        let scanned := scanScope backend.cfg scope depth candidates 0 asked
        if scanned.stopReason.isSome then
          (scanned, none)
        else
          collectRecursiveCandidates backend args scanned
termination_by s.work backend.cfg
decreasing_by
  apply Nat.lt_of_le_of_lt (scanScope_work backend.cfg scope depth candidates 0 asked)
  unfold asked Expansion.work
  rw [_hqueue, List.length_cons]
  dsimp only
  omega

/-! ## The retrieval -/

structure RecursiveRetrievalResult where
  enabled : Bool
  roundsExecuted : Nat
  scopesSeeded : Nat
  scopesQueried : Nat
  candidatesBefore : Nat
  candidatesAfter : Nat
  candidatesAdded : Nat
  totalQueries : Nat
  stopReason : Option String
  candidates : List ChunkCandidate

def RecursiveRetrievalResult.stopped (enabled : Bool) (scopesSeeded candidatesBefore : Nat)
    (stopReason : String) : RecursiveRetrievalResult where
  enabled
  roundsExecuted := 0
  scopesSeeded
  scopesQueried := 0
  candidatesBefore
  candidatesAfter := 0
  candidatesAdded := 0
  totalQueries := 0
  stopReason := some stopReason
  candidates := []

/-- The scopes of the seeds that are not blank. -/
def seedScopes (seedCandidates : List ChunkCandidate) : List String :=
  ((seedCandidates.filterMap (·.scope)).filter (!isBlank ·)).dedup

def Expansion.start (backend : RecursiveBackend) (args : RecursiveRetrievalArgs K) : Expansion where
  queuedScopes := (backend.setOrder (seedScopes args.seedCandidates)).map fun scope => (scope, 1)
  discoveredScopes := seedScopes args.seedCandidates
  candidates := []
  seenChunks := args.seedCandidates.map (·.chunkId)
  scopeCounts _ := 0
  queries := []
  stopReason := none

def RecursiveRetrievalResult.finish (args : RecursiveRetrievalArgs K) (s : Expansion)
    : RecursiveRetrievalResult where
  enabled := true
  roundsExecuted := s.queries.length
  scopesSeeded := (seedScopes args.seedCandidates).length
  scopesQueried := s.queries.length
  candidatesBefore := args.seedCandidates.length
  candidatesAfter := args.seedCandidates.length + s.candidates.length
  candidatesAdded := s.candidates.length
  totalQueries := s.queries.length
  stopReason := s.stopReason.or (some "converged")
  candidates := s.candidates

variable [Field K] [LinearOrder K]

/-- The result, and the queries that were made for it. -/
def runRecursiveRetrieval (backend : RecursiveBackend) (args : RecursiveRetrievalArgs K)
    : Except Error RecursiveRetrievalResult × List (String × Nat) :=
  if ¬ (backend.cfg.enabled ∧ 0 < args.retrievalSourcesPolicy.recursiveWeight) then
    (.ok (.stopped false 0 0 "disabled"), [])
  else if args.queryVec.isEmpty then
    (.ok (.stopped true 0 0 "missing_query_vector"), [])
  else if (seedScopes args.seedCandidates).isEmpty then
    (.ok (.stopped true 0 args.seedCandidates.length "no_scope_seed"), [])
  else
    let (expansion, err) := collectRecursiveCandidates backend args (.start backend args)
    match err with
    | some err => (.error err, expansion.queries)
    | none => (.ok (.finish args expansion), expansion.queries)

end Elf
