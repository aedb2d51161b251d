import Elf.Properties.RecursiveBounds

/-!
This module contains when the candidates of a recursive retrieval depend on the order of a hash set:
the scopes of the seeds are walked in the order of such a set, and the candidates are listed scope by
scope.
-/

namespace Elf

open PointFilter

variable {K : Type} {backend : RecursiveBackend} {cfg : SearchRecursive}
  {args : RecursiveRetrievalArgs K} {search : String → List ScoredPoint} {s s' : Expansion}
  {scope : String} {depth children : Nat} {candidates : List ChunkCandidate}

/-! ## The scopes -/

/-- The index has one answer for each scope, whenever it is asked, and answers with points that the
filter of the query accepts. -/
structure SearchesScopes (backend : RecursiveBackend) (args : RecursiveRetrievalArgs K)
    (search : String → List ScoredPoint) : Prop where
  answers : ∀ round scope, backend.runFusionQuery round [⟨args.query, args.queryVec⟩]
    (scopedFilter args.filter scope) (perQueryCandidateK backend.cfg args) = .ok (search scope)
  accepted : ∀ scope, ∀ point ∈ search scope,
    (scopedFilter args.filter scope).accepts point.payload = true

def scopeCandidates (backend : RecursiveBackend) (args : RecursiveRetrievalArgs K)
    (search : String → List ScoredPoint) (scope : String) : List ChunkCandidate :=
  let scopeQueryLimit := min (perQueryCandidateK backend.cfg args) backend.cfg.maxNodesPerScope
  collectChunkCandidates backend.rfc (search scope)
    (min backend.prefilterMaxCandidates scopeQueryLimit) scopeQueryLimit

theorem SearchesScopes.queryScope_eq (h : SearchesScopes backend args search) (round : Nat)
    (scope : String)
    : queryScope backend args round scope = .ok (scopeCandidates backend args search scope) := by
  unfold queryScope
  dsimp only
  rw [h.answers]
  rfl

theorem exists_point_of_mem_collectPoints {rfc : Rfc3339} {points : List (ScoredPoint × Nat)}
    {seen : List Uuid} {candidate : ChunkCandidate} (h : candidate ∈ collectPoints rfc points seen)
    : ∃ entry ∈ points, candidate.scope = (entry.1.payload.get "scope").bind Json.asStr := by
  fun_induction collectPoints rfc points seen with
  | case1 => contradiction
  | case2 point idx rest seen hid ih =>
    rcases ih h with ⟨entry, hentry, hscope⟩
    exact ⟨entry, List.mem_cons_of_mem _ hentry, hscope⟩
  | case3 point idx rest seen chunkId hid hseen ih =>
    rcases ih h with ⟨entry, hentry, hscope⟩
    exact ⟨entry, List.mem_cons_of_mem _ hentry, hscope⟩
  | case4 point idx rest seen chunkId hid hseen ih =>
    rw [List.mem_append, Option.mem_toList] at h
    cases h with
    | inl h =>
      refine ⟨(point, idx), List.mem_cons_self, ?_⟩
      simp only [ScoredPoint.candidate, Option.bind_eq_bind, Option.bind_eq_some_iff, Option.pure_def,
        Option.some.injEq] at h
      rcases h with ⟨noteId, -, chunkIndex, -, heq⟩
      rw [← heq]
    | inr h =>
      rcases ih h with ⟨entry, hentry, hscope⟩
      exact ⟨entry, List.mem_cons_of_mem _ hentry, hscope⟩

theorem hasKeyword_of_scopedFilter {filter : Filter} {payload : Json}
    (h : (scopedFilter filter scope).accepts payload = true)
    : hasKeyword payload "scope" scope = true := by
  cases filter with
  | mk must should mustNot minCount minShould =>
    unfold scopedFilter at h
    simp only [Filter.accepts, countAccepts_eq_countP, Bool.and_eq_true, decide_eq_true_eq,
      List.countP_eq_length] at h
    have hkeyword := h.1.1.1 (.keyword "scope" scope) (by simp)
    rw [Condition.accepts] at hkeyword
    exact hkeyword

/-- A scope is asked for its own points, so that no other scope is discovered. -/
theorem SearchesScopes.scope_eq (h : SearchesScopes backend args search) {candidate : ChunkCandidate}
    (hmem : candidate ∈ scopeCandidates backend args search scope)
    : candidate.scope.getD scope = scope := by
  rcases exists_point_of_mem_collectPoints hmem with ⟨entry, hentry, hscope⟩
  have hpoint : entry.1 ∈ search scope :=
    List.mem_of_mem_take (List.fst_mem_of_mem_zipIdx hentry)
  have hkeyword := hasKeyword_of_scopedFilter (h.accepted scope entry.1 hpoint)
  unfold hasKeyword at hkeyword
  rw [hscope]
  split at hkeyword
  next value hget =>
    rw [hget]
    simpa using hkeyword
  next items hget =>
    rw [hget]
    rfl
  . contradiction

/-! ## One scope -/

/-- What a scan of a scope adds to an expansion: candidates of the scope, and no scopes. -/
structure ScansOne (scope : String) (s s' : Expansion) : Prop where
  queuedScopes : s'.queuedScopes = s.queuedScopes
  discoveredScopes : s'.discoveredScopes = s.discoveredScopes
  seenChunks : s.seenChunks ⊆ s'.seenChunks
  candidates : ∃ added, s'.candidates = s.candidates ++ added
    ∧ ∀ candidate ∈ added, candidate.scope = some scope

def Expansion.withReason (s : Expansion) (reason : Option String) : Expansion :=
  { s with stopReason := reason }

theorem ScansOne.refl (scope : String) (s : Expansion) (reason : Option String)
    : ScansOne scope s (s.withReason reason) where
  queuedScopes := rfl
  discoveredScopes := rfl
  seenChunks := List.Subset.refl _
  candidates := ⟨[], (List.append_nil _).symm, by simp⟩

theorem ScansOne.push {candidate : ChunkCandidate} (h : ScansOne scope (s.push candidate scope) s')
    : ScansOne scope s s' where
  queuedScopes := h.queuedScopes
  discoveredScopes := h.discoveredScopes
  seenChunks := List.Subset.trans (List.subset_cons_self ..) h.seenChunks
  candidates := by
    rcases h.candidates with ⟨added, heq, hscope⟩
    refine ⟨{ candidate with scope := some scope } :: added, ?_, ?_⟩
    . rw [heq]
      simp [Expansion.push]
    . intro other hother
      rw [List.mem_cons] at hother
      cases hother with
      | inl heq => rw [heq]
      | inr hother => exact hscope other hother

/-- All of the candidates are of the scope. -/
def OfScope (scope : String) (candidates : List ChunkCandidate) : Prop :=
  ∀ candidate ∈ candidates, candidate.scope.getD scope = scope

theorem scanScope_scansOne (hscope : OfScope scope candidates) (hfound : scope ∈ s.discoveredScopes)
    : ScansOne scope s (scanScope cfg scope depth candidates children s) := by
  induction candidates generalizing s with
  | nil => exact .refl scope s s.stopReason
  | cons candidate rest ih =>
    have hrest : OfScope scope rest := fun other hother => hscope other (List.mem_cons_of_mem _ hother)
    unfold scanScope
    split
    next => exact .refl scope s _
    next =>
      rw [hscope candidate List.mem_cons_self]
      dsimp only
      split
      next => exact ih hrest hfound
      next =>
        split
        next => exact ih hrest hfound
        next =>
          have hnot : ¬ (depth < cfg.maxDepth ∧ children < cfg.maxChildrenPerNode ∧ scope ≠ ""
              ∧ scope ∉ (s.push candidate scope).discoveredScopes) :=
            fun hdiscover => hdiscover.2.2.2 hfound
          rw [if_neg hnot]
          exact (ih (s := s.push candidate scope) hrest hfound).push

/-- No candidate of the list is new. -/
def Quiet (cfg : SearchRecursive) (seen : List Uuid) (candidates : List ChunkCandidate) : Prop :=
  0 < cfg.maxNodesPerScope → ∀ candidate ∈ candidates, candidate.chunkId ∈ seen

theorem Quiet.mono {seen seen' : List Uuid} (h : Quiet cfg seen candidates) (hsub : seen ⊆ seen')
    : Quiet cfg seen' candidates :=
  fun hpos candidate hmem => hsub (h hpos candidate hmem)

/-- A quiet list leaves the expansion as it is, except that it may tell that the budget is spent. -/
theorem scanScope_quiet (h : Quiet cfg s.seenChunks candidates)
    : ∃ reason, scanScope cfg scope depth candidates children s = s.withReason reason
      ∧ (s.candidates.length < cfg.maxTotalNodes → reason = s.stopReason) := by
  induction candidates with
  | nil => exact ⟨s.stopReason, rfl, fun _ => rfl⟩
  | cons candidate rest ih =>
    have hrest : Quiet cfg s.seenChunks rest :=
      fun hpos other hother => h hpos other (List.mem_cons_of_mem _ hother)
    unfold scanScope
    split
    next hfull => exact ⟨_, rfl, fun hlt => absurd hlt (Nat.not_lt.mpr hfull)⟩
    next =>
      dsimp only
      split
      next => exact ih hrest
      next hcount =>
        have hseen := h (by omega) candidate List.mem_cons_self
        rw [if_pos (List.contains_iff_mem.mpr hseen)]
        exact ih hrest

/-- The expansions agree in what decides about the candidates of a scope. -/
structure SameNodes (s s' : Expansion) : Prop where
  candidates : s.candidates = s'.candidates
  seenChunks : s.seenChunks = s'.seenChunks
  scopeCounts : s.scopeCounts = s'.scopeCounts
  discoveredScopes : s.discoveredScopes = s'.discoveredScopes

theorem scanScope_sameNodes (h : SameNodes s s')
    : SameNodes (scanScope cfg scope depth candidates children s)
        (scanScope cfg scope depth candidates children s') := by
  induction candidates generalizing children s s' with
  | nil => exact h
  | cons candidate rest ih =>
    unfold scanScope
    rw [h.candidates]
    split
    next => exact ⟨rfl, h.seenChunks, h.scopeCounts, h.discoveredScopes⟩
    next =>
      dsimp only
      rw [h.scopeCounts]
      split
      next => exact ih h
      next =>
        rw [h.seenChunks]
        split
        next => exact ih h
        next =>
          have hpush : ∀ scopeKey, SameNodes (s.push candidate scopeKey) (s'.push candidate scopeKey) := by
            intro scopeKey
            constructor
            . simp only [Expansion.push, h.candidates]
            . simp only [Expansion.push, h.seenChunks]
            . simp only [Expansion.push, h.scopeCounts]
            . exact h.discoveredScopes
          have hdiscovered : ∀ scopeKey, (s.push candidate scopeKey).discoveredScopes
              = (s'.push candidate scopeKey).discoveredScopes :=
            fun scopeKey => h.discoveredScopes
          rw [hdiscovered]
          split
          next =>
            apply ih
            have hsame := hpush (candidate.scope.getD scope)
            constructor
            . exact hsame.candidates
            . exact hsame.seenChunks
            . exact hsame.scopeCounts
            . simp only [Expansion.discover, hdiscovered]
          next => exact ih (hpush _)

/-- A new chunk of a scope becomes a candidate when there is a budget for it. -/
theorem scanScope_ne_nil (hscope : OfScope scope candidates) (hfound : scope ∈ s.discoveredScopes)
    (htotal : s.candidates.length < cfg.maxTotalNodes)
    (hcount : s.scopeCounts scope < cfg.maxNodesPerScope)
    (hnew : ∃ candidate ∈ candidates, candidate.chunkId ∉ s.seenChunks)
    : (scanScope cfg scope depth candidates children s).candidates ≠ [] := by
  induction candidates with
  | nil =>
    rcases hnew with ⟨candidate, hmem, -⟩
    contradiction
  | cons candidate rest ih =>
    have hrest : OfScope scope rest := fun other hother => hscope other (List.mem_cons_of_mem _ hother)
    unfold scanScope
    rw [if_neg (Nat.not_le.mpr htotal), hscope candidate List.mem_cons_self]
    dsimp only
    rw [if_neg (Nat.not_le.mpr hcount)]
    split
    next hseen =>
      apply ih hrest
      rcases hnew with ⟨other, hother, hunseen⟩
      rw [List.mem_cons] at hother
      cases hother with
      | inl heq =>
        rw [heq] at hunseen
        exact absurd (List.contains_iff_mem.mp hseen) hunseen
      | inr hother => exact ⟨other, hother, hunseen⟩
    next =>
      have hnot : ¬ (depth < cfg.maxDepth ∧ children < cfg.maxChildrenPerNode ∧ scope ≠ ""
          ∧ scope ∉ (s.push candidate scope).discoveredScopes) :=
        fun hdiscover => hdiscover.2.2.2 hfound
      rw [if_neg hnot]
      rcases (scanScope_scansOne (s := s.push candidate scope) hrest hfound).candidates
        with ⟨added, heq, -⟩
      rw [heq]
      simp [Expansion.push]

/-! ## Runs -/

/-- The queue holds scopes of the seeds, and none but those have been discovered. -/
structure OnSeeds (args : RecursiveRetrievalArgs K) (scopes : List String) (s : Expansion) : Prop where
  queued : s.queuedScopes = scopes.map fun scope => (scope, 1)
  discovered : s.discoveredScopes = seedScopes args.seedCandidates
  seeds : scopes ⊆ seedScopes args.seedCandidates

/-- The expansion that asks for a scope, with the scopes that are left in the queue. -/
def Expansion.ask (s : Expansion) (scope : String) (scopes : List String) : Expansion :=
  { s with
    queuedScopes := scopes.map fun scope => (scope, 1)
    queries := s.queries ++ [(scope, 1)] }

def afterScope (backend : RecursiveBackend) (args : RecursiveRetrievalArgs K)
    (search : String → List ScoredPoint) (s : Expansion) (scope : String) (scopes : List String)
    : Expansion :=
  scanScope backend.cfg scope 1 (scopeCandidates backend args search scope) 0 (s.ask scope scopes)

variable {scopes : List String}

theorem afterScope_scansOne (h : SearchesScopes backend args search)
    (hs : OnSeeds args (scope :: scopes) s)
    : ScansOne scope (s.ask scope scopes) (afterScope backend args search s scope scopes) := by
  apply scanScope_scansOne
  . intro candidate hmem
    exact h.scope_eq hmem
  . have hseed := hs.seeds List.mem_cons_self
    rw [← hs.discovered] at hseed
    exact hseed

theorem afterScope_quiet
    (h : Quiet backend.cfg s.seenChunks (scopeCandidates backend args search scope))
    : ∃ reason, afterScope backend args search s scope scopes
        = (s.ask scope scopes).withReason reason
      ∧ (s.candidates.length < backend.cfg.maxTotalNodes → reason = s.stopReason) :=
  scanScope_quiet (s := s.ask scope scopes) h

theorem OnSeeds.afterScope (h : SearchesScopes backend args search)
    (hs : OnSeeds args (scope :: scopes) s)
    : OnSeeds args scopes (afterScope backend args search s scope scopes) := by
  have hscans := afterScope_scansOne h hs
  constructor
  . exact hscans.queuedScopes
  . rw [hscans.discoveredScopes]
    exact hs.discovered
  . intro other hother
    exact hs.seeds (List.mem_cons_of_mem _ hother)

theorem collectRecursiveCandidates_nil (hs : OnSeeds args [] s)
    : (collectRecursiveCandidates backend args s).1 = s := by
  have hqueue := hs.queued
  unfold collectRecursiveCandidates
  split
  . rfl
  next heq =>
    rw [hqueue] at heq
    contradiction

theorem collectRecursiveCandidates_cons (h : SearchesScopes backend args search)
    (hs : OnSeeds args (scope :: scopes) s) (hdepth : 0 < backend.cfg.maxDepth)
    : (collectRecursiveCandidates backend args s).1
        = if (afterScope backend args search s scope scopes).stopReason.isSome then
            afterScope backend args search s scope scopes
          else
            (collectRecursiveCandidates backend args
              (afterScope backend args search s scope scopes)).1 := by
  have hqueue := hs.queued
  rw [collectRecursiveCandidates]
  split
  next heq =>
    rw [hqueue] at heq
    contradiction
  next other depth queued heq =>
    rw [hqueue, List.map_cons, List.cons.injEq, Prod.mk.injEq] at heq
    rcases heq with ⟨⟨hother, hone⟩, hrest⟩
    subst hother hone hrest
    rw [if_neg (by omega)]
    dsimp only
    rw [h.queryScope_eq]
    dsimp only
    split
    next hstop => exact (if_pos hstop).symm
    next hstop => exact (if_neg hstop).symm

theorem collectRecursiveCandidates_ok (h : SearchesScopes backend args search)
    : (collectRecursiveCandidates backend args s).2 = none := by
  fun_induction collectRecursiveCandidates backend args s with
  | case1 s hqueue => rfl
  | case2 s scope depth queued hqueue hdepth => rfl
  | case3 s scope depth queued hqueue hdepth asked err herr =>
    rw [h.queryScope_eq] at herr
    contradiction
  | case4 s scope depth queued hqueue hdepth asked candidates hok scanned hstop => rfl
  | case5 s scope depth queued hqueue hdepth asked candidates hok scanned hstop ih => exact ih

/-- A run only adds candidates. -/
theorem candidates_prefix_collect (h : SearchesScopes backend args search)
    (hdepth : 0 < backend.cfg.maxDepth) (hs : OnSeeds args scopes s)
    : s.candidates <+: (collectRecursiveCandidates backend args s).1.candidates := by
  induction scopes generalizing s with
  | nil =>
    have hend : (collectRecursiveCandidates backend args s).1.candidates = s.candidates :=
      congrArg Expansion.candidates (collectRecursiveCandidates_nil hs)
    exact ⟨[], by rw [List.append_nil, hend]⟩
  | cons scope scopes ih =>
    have hadds : s.candidates <+: (afterScope backend args search s scope scopes).candidates := by
      rcases (afterScope_scansOne h hs).candidates with ⟨added, heq, -⟩
      rw [heq]
      exact List.prefix_append ..
    rw [collectRecursiveCandidates_cons h hs hdepth]
    split
    . exact hadds
    . exact hadds.trans (ih (hs.afterScope h))

/-- Scopes without new chunks add no candidate. -/
theorem collectRecursiveCandidates_quiet (h : SearchesScopes backend args search)
    (hdepth : 0 < backend.cfg.maxDepth) (hs : OnSeeds args scopes s)
    (hquiet : ∀ scope ∈ scopes,
      Quiet backend.cfg s.seenChunks (scopeCandidates backend args search scope))
    : (collectRecursiveCandidates backend args s).1.candidates = s.candidates := by
  induction scopes generalizing s with
  | nil => rw [collectRecursiveCandidates_nil hs]
  | cons scope scopes ih =>
    have hscope := hquiet scope List.mem_cons_self
    rcases afterScope_quiet hscope with ⟨reason, hafter, -⟩
    rw [collectRecursiveCandidates_cons h hs hdepth]
    split
    . rw [hafter]
      rfl
    . rw [ih (hs.afterScope h)]
      . rw [hafter]
        rfl
      . intro other hother
        rw [hafter]
        exact hquiet other (List.mem_cons_of_mem _ hother)

/-- When one scope has new chunks, the candidates are those that it adds to the start, wherever it
stands in the queue. -/
theorem collectRecursiveCandidates_single {start : Expansion} (h : SearchesScopes backend args search)
    (hdepth : 0 < backend.cfg.maxDepth) (hs : OnSeeds args scopes s) (hnodup : scopes.Nodup)
    (hstart : SameNodes s start) (hbudget : start.candidates.length < backend.cfg.maxTotalNodes)
    (hnone : s.stopReason = none) (hmem : scope ∈ scopes)
    (hquiet : ∀ other ∈ scopes, other ≠ scope →
      Quiet backend.cfg start.seenChunks (scopeCandidates backend args search other))
    : (collectRecursiveCandidates backend args s).1.candidates
        = (scanScope backend.cfg scope 1 (scopeCandidates backend args search scope) 0
            start).candidates := by
  induction scopes generalizing s with
  | nil => contradiction
  | cons first scopes ih =>
    rw [List.nodup_cons] at hnodup
    rw [collectRecursiveCandidates_cons h hs hdepth]
    by_cases heq : first = scope
    . subst heq
      have hsame : SameNodes (afterScope backend args search s first scopes)
          (scanScope backend.cfg first 1 (scopeCandidates backend args search first) 0 start) := by
        apply scanScope_sameNodes
        exact ⟨hstart.candidates, hstart.seenChunks, hstart.scopeCounts, hstart.discoveredScopes⟩
      split
      . exact hsame.candidates
      . rw [collectRecursiveCandidates_quiet h hdepth (hs.afterScope h), hsame.candidates]
        intro other hother
        have hne : other ≠ first := fun heq => hnodup.1 (heq ▸ hother)
        apply (hquiet other (List.mem_cons_of_mem _ hother) hne).mono
        rw [← hstart.seenChunks]
        exact (afterScope_scansOne h hs).seenChunks
    . have hrest : scope ∈ scopes := by
        rw [List.mem_cons] at hmem
        cases hmem with
        | inl hmem => exact absurd hmem.symm heq
        | inr hmem => exact hmem
      have hscope : Quiet backend.cfg s.seenChunks (scopeCandidates backend args search first) := by
        rw [hstart.seenChunks]
        exact hquiet first List.mem_cons_self heq
      rcases afterScope_quiet hscope with ⟨reason, hafter, hreason⟩
      have hkeep : reason = none := by
        rw [hreason]
        . exact hnone
        . rw [hstart.candidates]
          exact hbudget
      rw [hafter, if_neg (by rw [hkeep]; exact Bool.false_ne_true), ← hafter]
      apply ih (hs.afterScope h) hnodup.2
      . rw [hafter]
        exact ⟨hstart.candidates, hstart.seenChunks, hstart.scopeCounts, hstart.discoveredScopes⟩
      . rw [hafter, hkeep]
        rfl
      . exact hrest
      . intro other hother
        exact hquiet other (List.mem_cons_of_mem _ hother)

/-! ## The retrieval -/

/-- The same backend with another order of its hash sets. -/
def RecursiveBackend.withOrder (backend : RecursiveBackend) (order : List String → List String)
    : RecursiveBackend :=
  { backend with setOrder := order }

theorem SearchesScopes.withOrder (h : SearchesScopes backend args search)
    (order : List String → List String) : SearchesScopes (backend.withOrder order) args search :=
  ⟨h.answers, h.accepted⟩

/-- The scope has a chunk that is not one of the seeds', and may have candidates. -/
def Contributes (backend : RecursiveBackend) (args : RecursiveRetrievalArgs K)
    (search : String → List ScoredPoint) (scope : String) : Prop :=
  0 < backend.cfg.maxNodesPerScope
    ∧ ∃ candidate ∈ scopeCandidates backend args search scope,
      candidate.chunkId ∉ args.seedCandidates.map (·.chunkId)

theorem quiet_of_not_contributes (h : ¬ Contributes backend args search scope)
    : Quiet backend.cfg (args.seedCandidates.map (·.chunkId))
        (scopeCandidates backend args search scope) := by
  intro hpos candidate hmem
  by_contra hnew
  exact h ⟨hpos, candidate, hmem, hnew⟩

def IsOrder (order : List String → List String) : Prop := ∀ scopes, (order scopes).Perm scopes

/-- The order in which the scope comes first. -/
def firstOrder (scope : String) (scopes : List String) : List String :=
  if scope ∈ scopes then scope :: scopes.erase scope else scopes

theorem isOrder_firstOrder (scope : String) : IsOrder (firstOrder scope) := by
  intro scopes
  unfold firstOrder
  split
  next hmem => exact (List.perm_cons_erase hmem).symm
  next => exact List.Perm.refl scopes

variable {order : List String → List String}

/-- The candidates that the expansion ends with. -/
def expansionCandidates (backend : RecursiveBackend) (args : RecursiveRetrievalArgs K)
    : List ChunkCandidate :=
  (collectRecursiveCandidates backend args (.start backend args)).1.candidates

theorem onSeeds_start (horder : IsOrder backend.setOrder)
    : OnSeeds args (backend.setOrder (seedScopes args.seedCandidates)) (.start backend args) :=
  ⟨rfl, rfl, (horder _).subset⟩

theorem expansionCandidates_quiet (h : SearchesScopes backend args search)
    (horder : IsOrder backend.setOrder) (hdepth : 0 < backend.cfg.maxDepth)
    (hnone : ∀ scope ∈ seedScopes args.seedCandidates, ¬ Contributes backend args search scope)
    : expansionCandidates backend args = [] := by
  apply collectRecursiveCandidates_quiet h hdepth (onSeeds_start horder)
  intro scope hscope
  exact quiet_of_not_contributes (hnone scope ((horder _).subset hscope))

theorem expansionCandidates_single (h : SearchesScopes backend args search)
    (horder : IsOrder backend.setOrder) (hdepth : 0 < backend.cfg.maxDepth)
    (htotal : 0 < backend.cfg.maxTotalNodes) (hscope : scope ∈ seedScopes args.seedCandidates)
    (honly : ∀ other ∈ seedScopes args.seedCandidates, Contributes backend args search other →
      other = scope)
    : expansionCandidates backend args
        = (scanScope backend.cfg scope 1 (scopeCandidates backend args search scope) 0
            (.start (backend.withOrder id) args)).candidates := by
  apply collectRecursiveCandidates_single h hdepth (onSeeds_start horder)
  . rw [(horder _).nodup_iff]
    apply List.nodup_dedup
  . exact ⟨rfl, rfl, rfl, rfl⟩
  . exact htotal
  . rfl
  . exact (horder _).mem_iff.mpr hscope
  . intro other hother hne
    apply quiet_of_not_contributes
    intro hcontributes
    exact hne (honly other ((horder _).subset hother) hcontributes)

/-- A scope with new chunks that is walked first has the first candidate. -/
theorem head_expansionCandidates (h : SearchesScopes backend args search)
    (hscope : scope ∈ seedScopes args.seedCandidates)
    (hcontributes : Contributes backend args search scope) (hdepth : 0 < backend.cfg.maxDepth)
    (htotal : 0 < backend.cfg.maxTotalNodes)
    : ∃ first, (expansionCandidates (backend.withOrder (firstOrder scope)) args).head? = some first
      ∧ first.scope = some scope := by
  have hsearches := h.withOrder (firstOrder scope)
  have hstart : OnSeeds args (scope :: (seedScopes args.seedCandidates).erase scope)
      (.start (backend.withOrder (firstOrder scope)) args) := by
    have hseeds := @onSeeds_start K (backend.withOrder (firstOrder scope)) args
      (isOrder_firstOrder scope)
    have hfirst : firstOrder scope (seedScopes args.seedCandidates)
        = scope :: (seedScopes args.seedCandidates).erase scope := if_pos hscope
    rw [← hfirst]
    exact hseeds
  have hscans := afterScope_scansOne hsearches hstart
  rcases hscans.candidates with ⟨added, heq, hadded⟩
  have hne : (afterScope (backend.withOrder (firstOrder scope)) args search
      (.start (backend.withOrder (firstOrder scope)) args) scope
      ((seedScopes args.seedCandidates).erase scope)).candidates ≠ [] := by
    apply scanScope_ne_nil
    . intro candidate hmem
      exact hsearches.scope_eq hmem
    . exact hscope
    . exact htotal
    . exact hcontributes.1
    . exact hcontributes.2
  have hprefix : (afterScope (backend.withOrder (firstOrder scope)) args search
      (.start (backend.withOrder (firstOrder scope)) args) scope
      ((seedScopes args.seedCandidates).erase scope)).candidates
        <+: expansionCandidates (backend.withOrder (firstOrder scope)) args := by
    unfold expansionCandidates
    rw [collectRecursiveCandidates_cons hsearches hstart hdepth]
    split
    . exact List.prefix_rfl
    . exact candidates_prefix_collect hsearches hdepth (hstart.afterScope hsearches)
  have hall : added = (afterScope (backend.withOrder (firstOrder scope)) args search
      (.start (backend.withOrder (firstOrder scope)) args) scope
      ((seedScopes args.seedCandidates).erase scope)).candidates := heq.symm
  rw [← hall] at hne hprefix
  cases added with
  | nil => contradiction
  | cons first rest =>
    rcases hprefix with ⟨others, hothers⟩
    refine ⟨first, ?_, hadded first List.mem_cons_self⟩
    rw [← hothers]
    rfl

theorem expansionCandidates_shallow (horder : IsOrder backend.setOrder)
    (hdepth : backend.cfg.maxDepth = 0) : expansionCandidates backend args = [] := by
  have hqueue := (@onSeeds_start K backend args horder).queued
  unfold expansionCandidates collectRecursiveCandidates
  split
  . rfl
  next scope depth queued heq =>
    have hmem : (scope, depth) ∈ (Expansion.start backend args).queuedScopes := by
      rw [heq]
      exact List.mem_cons_self
    rw [hqueue, List.mem_map] at hmem
    rcases hmem with ⟨_, -, hpair⟩
    rw [Prod.mk.injEq] at hpair
    rw [if_pos (by omega)]
    rfl

theorem expansionCandidates_noBudget (horder : IsOrder backend.setOrder)
    (htotal : backend.cfg.maxTotalNodes = 0) : expansionCandidates backend args = [] := by
  have hbounded := @start_bounded K backend args horder
  have hcandidates := (@collectRecursiveCandidates_bounded K backend args _ _ hbounded.1 hbounded.2).1.total
  rw [htotal, Nat.le_zero, List.length_eq_zero_iff] at hcandidates
  exact hcandidates

/-- At most one scope of the seeds has new chunks. -/
def OneContributes (backend : RecursiveBackend) (args : RecursiveRetrievalArgs K)
    (search : String → List ScoredPoint) : Prop :=
  ∀ scope ∈ seedScopes args.seedCandidates, ∀ other ∈ seedScopes args.seedCandidates,
    Contributes backend args search scope → Contributes backend args search other → scope = other

theorem expansionCandidates_of_oneContributes {order' : List String → List String}
    (h : SearchesScopes backend args search) (hone : OneContributes backend args search)
    (hdepth : 0 < backend.cfg.maxDepth) (htotal : 0 < backend.cfg.maxTotalNodes)
    (horder : IsOrder order) (horder' : IsOrder order')
    : expansionCandidates (backend.withOrder order) args
        = expansionCandidates (backend.withOrder order') args := by
  by_cases hsome : ∃ scope ∈ seedScopes args.seedCandidates, Contributes backend args search scope
  . rcases hsome with ⟨scope, hscope, hcontributes⟩
    have honly : ∀ other ∈ seedScopes args.seedCandidates, Contributes backend args search other →
        other = scope :=
      fun other hother hcontributes' => hone other hother scope hscope hcontributes' hcontributes
    rw [expansionCandidates_single (h.withOrder order) horder hdepth htotal hscope honly,
      expansionCandidates_single (h.withOrder order') horder' hdepth htotal hscope honly]
    rfl
  . have hnone : ∀ scope ∈ seedScopes args.seedCandidates, ¬ Contributes backend args search scope :=
      fun scope hscope hcontributes => hsome ⟨scope, hscope, hcontributes⟩
    rw [expansionCandidates_quiet (h.withOrder order) horder hdepth hnone,
      expansionCandidates_quiet (h.withOrder order') horder' hdepth hnone]

variable [Field K] [LinearOrder K]

/-- The retrieval is enabled and has a vector to ask with. -/
structure Retrieves (backend : RecursiveBackend) (args : RecursiveRetrievalArgs K) : Prop where
  enabled : backend.cfg.enabled = true
  weight : 0 < args.retrievalSourcesPolicy.recursiveWeight
  queryVec : args.queryVec.isEmpty = false

/-- The candidates that are returned, or the error. -/
def returnedCandidates (backend : RecursiveBackend) (args : RecursiveRetrievalArgs K)
    : Except Error (List ChunkCandidate) :=
  (runRecursiveRetrieval backend args).1.map RecursiveRetrievalResult.candidates

theorem returnedCandidates_of_not_retrieves (h : ¬ Retrieves backend args)
    : returnedCandidates backend args = .ok [] := by
  unfold returnedCandidates runRecursiveRetrieval
  split
  next => rfl
  next henabled =>
    rw [not_not] at henabled
    split
    next => rfl
    next hvec =>
      rw [Bool.not_eq_true] at hvec
      exact absurd ⟨henabled.1, henabled.2, hvec⟩ h

theorem returnedCandidates_of_retrieves (h : SearchesScopes backend args search)
    (horder : IsOrder backend.setOrder) (hretrieves : Retrieves backend args)
    : returnedCandidates backend args = .ok (expansionCandidates backend args) := by
  unfold returnedCandidates runRecursiveRetrieval
  rw [if_neg (by simp [hretrieves.enabled, hretrieves.weight]), if_neg (by simp [hretrieves.queryVec])]
  split
  next hempty =>
    rw [List.isEmpty_iff] at hempty
    have hstart := @onSeeds_start K backend args horder
    rw [hempty, (horder []).eq_nil] at hstart
    rw [expansionCandidates, collectRecursiveCandidates_nil hstart]
    rfl
  next =>
    dsimp only
    rw [collectRecursiveCandidates_ok h]
    rfl

/-- The candidates and their order are the same for all orders of the hash sets. -/
def OrderIrrelevant (backend : RecursiveBackend) (args : RecursiveRetrievalArgs K) : Prop :=
  ∀ order order', IsOrder order → IsOrder order' →
    returnedCandidates (backend.withOrder order) args
      = returnedCandidates (backend.withOrder order') args

theorem returnedCandidates_withOrder (h : SearchesScopes backend args search)
    (hretrieves : Retrieves backend args) (horder : IsOrder order)
    : returnedCandidates (backend.withOrder order) args
        = .ok (expansionCandidates (backend.withOrder order) args) :=
  returnedCandidates_of_retrieves (h.withOrder order) horder
    ⟨hretrieves.enabled, hretrieves.weight, hretrieves.queryVec⟩

theorem oneContributes_of_orderIrrelevant (h : SearchesScopes backend args search)
    (hretrieves : Retrieves backend args) (hdepth : 0 < backend.cfg.maxDepth)
    (htotal : 0 < backend.cfg.maxTotalNodes) (hirrelevant : OrderIrrelevant backend args)
    : OneContributes backend args search := by
  intro scope hscope other hother hcontributes hcontributes'
  rcases head_expansionCandidates h hscope hcontributes hdepth htotal with ⟨first, hhead, hof⟩
  rcases head_expansionCandidates h hother hcontributes' hdepth htotal with ⟨first', hhead', hof'⟩
  have hsame := hirrelevant _ _ (isOrder_firstOrder scope) (isOrder_firstOrder other)
  rw [returnedCandidates_withOrder h hretrieves (isOrder_firstOrder scope),
    returnedCandidates_withOrder h hretrieves (isOrder_firstOrder other), Except.ok.injEq] at hsame
  rw [hsame, hhead', Option.some.injEq] at hhead
  rw [← hhead, hof', Option.some.injEq] at hof
  exact hof.symm

/-- The order of the hash set of the seeds' scopes has no influence if and only if nothing is searched,
or at most one of the scopes has a chunk that the seeds do not have. -/
theorem recursiveRetrieval_orderIrrelevant_iff (h : SearchesScopes backend args search)
    : OrderIrrelevant backend args
      ↔ ¬ Retrieves backend args ∨ backend.cfg.maxDepth = 0 ∨ backend.cfg.maxTotalNodes = 0
        ∨ OneContributes backend args search := by
  constructor
  . intro hirrelevant
    by_cases hretrieves : Retrieves backend args
    . rcases Nat.eq_zero_or_pos backend.cfg.maxDepth with hdepth | hdepth
      . exact Or.inr (Or.inl hdepth)
      . rcases Nat.eq_zero_or_pos backend.cfg.maxTotalNodes with htotal | htotal
        . exact Or.inr (Or.inr (Or.inl htotal))
        . exact Or.inr (Or.inr (Or.inr
            (oneContributes_of_orderIrrelevant h hretrieves hdepth htotal hirrelevant)))
    . exact Or.inl hretrieves
  . intro hcondition order order' horder horder'
    by_cases hretrieves : Retrieves backend args
    . rw [returnedCandidates_withOrder h hretrieves horder,
        returnedCandidates_withOrder h hretrieves horder', Except.ok.injEq]
      rcases Nat.eq_zero_or_pos backend.cfg.maxDepth with hdepth | hdepth
      . rw [@expansionCandidates_shallow K (backend.withOrder order) args horder hdepth,
          @expansionCandidates_shallow K (backend.withOrder order') args horder' hdepth]
      . rcases Nat.eq_zero_or_pos backend.cfg.maxTotalNodes with htotal | htotal
        . rw [@expansionCandidates_noBudget K (backend.withOrder order) args horder htotal,
            @expansionCandidates_noBudget K (backend.withOrder order') args horder' htotal]
        . rcases hcondition with hnot | hzero | hzero | hone
          . exact absurd hretrieves hnot
          . omega
          . omega
          . exact expansionCandidates_of_oneContributes h hone hdepth htotal horder horder'
    . have hnot : ∀ order, ¬ Retrieves (backend.withOrder order) args :=
        fun order hr => hretrieves ⟨hr.enabled, hr.weight, hr.queryVec⟩
      rw [returnedCandidates_of_not_retrieves (hnot order),
        returnedCandidates_of_not_retrieves (hnot order')]

/-! ## Two scopes -/

def indexedPoints : List ScoredPoint := [
  samplePoints.sampleRecursivePoint 1 "a",
  samplePoints.sampleRecursivePoint 2 "a",
  samplePoints.sampleRecursivePoint 3 "b"]

/-- The points that a filter accepts, no more of them than are asked for. -/
def indexAnswer (filter : Filter) (limit : Nat) : List ScoredPoint :=
  (indexedPoints.filter fun point => filter.accepts point.payload).take limit

def indexBackend : RecursiveBackend where
  cfg := ⟨true, 2, 4, 10, 1⟩
  prefilterMaxCandidates := 0
  rfc := ⟨fun _ => none, fun _ => none⟩
  runFusionQuery _ _ filter limit := .ok (indexAnswer filter limit)
  setOrder scopes := scopes

/-- A request with a seed of the scope `a` and another one of the scope `b`. -/
def twoScopeArgs (chunkId : Uuid) : RecursiveRetrievalArgs ℚ :=
  { sampleRecursiveArgs with
    seedCandidates := [sampleSeed, { sampleSeed with chunkId := chunkId, scope := some "b" }] }

theorem searchesScopes_indexBackend (args : RecursiveRetrievalArgs ℚ)
    : SearchesScopes indexBackend args fun scope =>
        indexAnswer (scopedFilter args.filter scope) (perQueryCandidateK indexBackend.cfg args) where
  answers _ _ := rfl
  accepted _ _ hpoint := (List.mem_filter.mp (List.mem_of_mem_take hpoint)).2

theorem orderIrrelevant_twoScopes : OrderIrrelevant indexBackend (twoScopeArgs 3) := by
  apply (recursiveRetrieval_orderIrrelevant_iff (searchesScopes_indexBackend (twoScopeArgs 3))).mpr
  refine Or.inr (Or.inr (Or.inr ?_))
  intro scope hscope other hother hcontributes hcontributes'
  have hseeds : seedScopes (twoScopeArgs 3).seedCandidates = ["a", "b"] := by
    decide +kernel
  have hnot : ¬ Contributes indexBackend (twoScopeArgs 3) (fun scope =>
      indexAnswer (scopedFilter (twoScopeArgs 3).filter scope)
        (perQueryCandidateK indexBackend.cfg (twoScopeArgs 3))) "b" := by
    unfold Contributes
    decide +kernel
  rw [hseeds, List.mem_cons, List.mem_singleton] at hscope hother
  rcases hscope with rfl | rfl
  . rcases hother with rfl | rfl
    . rfl
    . exact absurd hcontributes' hnot
  . exact absurd hcontributes hnot

/-- With room for one candidate, the scope that is walked first has it. -/
theorem recursiveRetrieval_twoOrders
    : SearchesScopes indexBackend (twoScopeArgs 4) (fun scope =>
        indexAnswer (scopedFilter (.all []) scope) 5)
      ∧ IsOrder id ∧ IsOrder List.reverse
      ∧ (returnedCandidates (indexBackend.withOrder id) (twoScopeArgs 4)).map
          (fun candidates => candidates.map (·.chunkId)) = .ok [2]
      ∧ (returnedCandidates (indexBackend.withOrder List.reverse) (twoScopeArgs 4)).map
          (fun candidates => candidates.map (·.chunkId)) = .ok [3]
      ∧ ¬ OrderIrrelevant indexBackend (twoScopeArgs 4) := by
  have hforward : (returnedCandidates (indexBackend.withOrder id) (twoScopeArgs 4)).map
      (fun candidates => candidates.map (·.chunkId)) = .ok [2] := by
    decide +kernel
  have hbackward : (returnedCandidates (indexBackend.withOrder List.reverse) (twoScopeArgs 4)).map
      (fun candidates => candidates.map (·.chunkId)) = .ok [3] := by
    decide +kernel
  have hid : IsOrder id := fun scopes => List.Perm.refl scopes
  have hreverse : IsOrder List.reverse := fun scopes => List.reverse_perm scopes
  refine ⟨searchesScopes_indexBackend (twoScopeArgs 4), hid, hreverse, hforward, hbackward, ?_⟩
  intro hirrelevant
  rw [hirrelevant id List.reverse hid hreverse, hbackward] at hforward
  exact absurd hforward (by decide)

end Elf
