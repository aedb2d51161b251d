import Elf.Lib.LastWrite
import Elf.Search.Cache

/-!
This module contains what each action on the cache of model answers writes, keeps and drops under a key,
and from it what is stored under the key after any run.
-/

namespace Elf

open Text

variable {env : CacheEnv} {s t : LlmCache} {a : CacheAction} {as : List CacheAction}
  {cfg cfg' : CacheConfig} {query query' : String} {queries : List String}
  {ref : CacheKind × String} {key : String} {kind : CacheKind} {now : Nat}

/-! ## Queries -/

/-- The queries are distinct in lower case. -/
structure QuerySet.WellFormed (env : CacheEnv) (acc : QuerySet) : Prop where
  seen_eq : acc.seen = (acc.out.map env.toLowercase).reverse
  nodup : acc.seen.Nodup

theorem pushQuery_wellFormed {acc : QuerySet} (h : acc.WellFormed env) (value : String)
    : (pushQuery env acc value).WellFormed env := by
  unfold pushQuery
  dsimp only
  split
  . exact h
  . split
    . exact h
    next hseen =>
      rw [List.contains_iff_mem] at hseen
      constructor
      . simp [h.seen_eq]
      . exact List.nodup_cons.mpr ⟨hseen, h.nodup⟩

theorem pushQueries_wellFormed {acc : QuerySet} {maxQueries : Nat} (h : acc.WellFormed env)
    : (pushQueries env maxQueries acc queries).WellFormed env := by
  induction queries generalizing acc with
  | nil => exact h
  | cons query queries ih =>
    unfold pushQueries
    split
    . exact h
    . exact ih (pushQuery_wellFormed h query)

theorem normalizeQueries_wellFormed (queries : List String) {original : String}
    {includeOriginal : Bool} {maxQueries : Nat}
    : (normalizeQueries env queries original includeOriginal maxQueries).length ≤ maxQueries
      ∧ ((normalizeQueries env queries original includeOriginal maxQueries).map
        env.toLowercase).Nodup := by
  have hempty : QuerySet.WellFormed env ⟨[], []⟩ := ⟨rfl, List.nodup_nil⟩
  have hstart : QuerySet.WellFormed env
      (if includeOriginal then pushQuery env ⟨[], []⟩ original else ⟨[], []⟩) := by
    split
    . exact pushQuery_wellFormed hempty original
    . exact hempty
  have hall : QuerySet.WellFormed env (pushQueries env maxQueries _ queries) :=
    pushQueries_wellFormed hstart
  unfold normalizeQueries
  dsimp only
  constructor
  . exact List.length_take_le _ _
  . have hnodup := hall.nodup
    rw [hall.seen_eq, List.nodup_reverse] at hnodup
    exact ((List.take_sublist _ _).map _).nodup hnodup

/-- The queries are some, not more than the settings allow, and distinct in lower case. -/
structure Expanded (env : CacheEnv) (cfg : CacheConfig) (queries : List String) : Prop where
  nonempty : queries ≠ []
  length_le : queries.length ≤ max 1 cfg.expansion.maxQueries
  nodup : (queries.map env.toLowercase).Nodup

theorem expanded_singleton : Expanded env cfg [query] where
  nonempty := List.cons_ne_nil _ _
  length_le := le_max_left _ _
  nodup := List.nodup_singleton _

theorem expandedQueries_expanded : Expanded env cfg (expandedQueries env cfg query queries) := by
  unfold expandedQueries
  dsimp only
  split
  . exact expanded_singleton
  next hempty =>
    rcases normalizeQueries_wellFormed queries with ⟨hlength, hnodup⟩
    rw [List.isEmpty_iff] at hempty
    exact ⟨hempty, hlength.trans (le_max_right _ _), hnodup⟩

theorem answerExpansion_expanded {reply : Option Json} {storedAt : Nat}
    : Expanded env cfg (answerExpansion env cfg query reply storedAt s).1 := by
  unfold answerExpansion
  split
  . exact expanded_singleton
  . exact expandedQueries_expanded

theorem queriesOfJson_queriesJson (queries : List String)
    : queriesOfJson (queriesJson queries) = some queries := by
  have hread : readStrings (.arr (queries.map Json.str)) = some queries := by
    unfold readStrings
    simp only [Json.asArr, Option.bind_eq_bind, Option.bind_some]
    induction queries with
    | nil => rfl
    | cons query queries ih =>
      rw [List.map_cons, List.mapM_cons, ih]
      rfl
  exact hread

theorem queriesJson_injective {queries queries' : List String}
    (h : queriesJson queries = queriesJson queries') : queries = queries' := by
  have hread := queriesOfJson_queriesJson queries
  rw [h, queriesOfJson_queriesJson] at hread
  exact (Option.some.inj hread).symm

/-! ## Entries -/

/-- What is stored under a key, and until when. -/
def LlmCache.entry (s : LlmCache) (ref : CacheKind × String) : Option (Json × Nat) :=
  (s.find? ref).map fun row => (row.payload, row.expiresAt)

theorem fetchCachePayload_payload
    : (fetchCachePayload kind key now s).1
      = ((s.entry (kind, key)).filter fun entry => timestamptz now < entry.2).map Prod.fst := by
  unfold fetchCachePayload LlmCache.entry
  cases hfind : s.find? (kind, key) with
  | none => rfl
  | some row =>
    by_cases hfresh : timestamptz now < row.expiresAt
    . simp [Option.filter, hfresh]
    . simp [Option.filter, hfresh]

theorem fetchCachePayload_entry
    : LlmCache.entry (fetchCachePayload kind key now s).2 ref = s.entry ref := by
  unfold fetchCachePayload
  split
  . dsimp only
    unfold LlmCache.entry
    rw [Table.find?_modify]
    split
    . rw [Option.map_map]
      rfl
    . rfl
  . rfl

theorem upsert_entry (row : LlmCacheEntry)
    : LlmCache.entry (s.upsert row row.refresh row.ref_refresh) ref
      = if row.ref = ref then some (row.payload, row.expiresAt) else s.entry ref := by
  unfold LlmCache.entry
  rw [Table.find?_upsert]
  split
  . cases s.find? ref with
    | none => rfl
    | some existing => rfl
  . rfl

theorem storeCachePayload_entry {payload : Json} {expiresAt : Nat} {maxPayloadBytes : Option Nat}
    : LlmCache.entry (storeCachePayload env kind key payload now expiresAt maxPayloadBytes s) ref
      = if env.accepts maxPayloadBytes payload = true ∧ (kind, key) = ref then
          some (payload, timestamptz expiresAt)
        else
          s.entry ref := by
  unfold storeCachePayload
  split
  next haccepts =>
    dsimp only
    rw [upsert_entry]
    simp only [haccepts, true_and]
    rfl
  next haccepts => rw [if_neg (fun h => haccepts h.1)]

theorem purgeExpiredCache_entry
    : LlmCache.entry (purgeExpiredCache now s) ref
      = (s.entry ref).filter fun entry => timestamptz now < entry.2 := by
  unfold purgeExpiredCache LlmCache.entry
  rw [Table.find?_deleteWhere]
  cases s.find? ref with
  | none => rfl
  | some row =>
    by_cases hfresh : timestamptz now < row.expiresAt
    . simp [Option.filter, hfresh]
    . simp [Option.filter, hfresh, Nat.le_of_not_lt hfresh]

/-! ## What the actions store -/

/-- A payload that is stored, under which key and until when. -/
structure CachePut where
  ref : CacheKind × String
  payload : Json
  expiresAt : Nat

/-- What the search stores that the extractor answered. -/
def expansionPut (env : CacheEnv) (cfg : CacheConfig) (query : String) (queries : List String)
    (storedAt : Nat) : CachePut where
  ref := (.expansion, buildExpansionCacheKey env cfg query)
  payload := queriesJson (expandedQueries env cfg query queries)
  expiresAt := timestamptz (storedAt + cfg.cache.expansionTtlDays * dayNanoseconds)

/-- What the search stores that the provider of scores answered. -/
def scoresPut (env : CacheEnv) (cfg : CacheConfig) (query : String)
    (candidates : List RerankCacheCandidate) (scores : List F32) (storedAt : Nat)
    : Option CachePut := do
  let key ← buildRerankCacheKey env cfg query candidates
  let payload ← rerankCachePayload env.serde candidates scores
  return {
    ref := (.rerank, key)
    payload
    expiresAt := timestamptz (storedAt + cfg.cache.rerankTtlDays * dayNanoseconds) }

/-- What an action stores, unless it is not stored. -/
def CacheAction.put (env : CacheEnv) : CacheAction → Option CachePut
  | answerExpansion cfg query reply storedAt =>
    ((reply.bind queriesOfJson).map fun queries => expansionPut env cfg query queries storedAt).filter
      fun put => cfg.cache.enabled && env.accepts cfg.cache.maxPayloadBytes put.payload
  | answerScores cfg query candidates scores storedAt =>
    (scoresPut env cfg query candidates scores storedAt).filter fun put =>
      scores.length = candidates.length && !candidates.isEmpty && cfg.cache.enabled
        && env.accepts cfg.cache.maxPayloadBytes put.payload
  | _ => none

/-- What an action writes under a key. -/
def CacheAction.writes (env : CacheEnv) (ref : CacheKind × String) (a : CacheAction)
    : Option (Json × Nat) :=
  ((a.put env).filter (·.ref = ref)).map fun put => (put.payload, put.expiresAt)

/-- The action does not purge what expires at `expiresAt`. -/
def CacheAction.keeps (expiresAt : Nat) : CacheAction → Bool
  | purgeExpiredCache now => timestamptz now < expiresAt
  | _ => true

theorem scoresPut_eq_some {candidates : List RerankCacheCandidate} {scores : List F32}
    {storedAt : Nat} {put : CachePut}
    : scoresPut env cfg query candidates scores storedAt = some put
      ↔ ∃ key payload, buildRerankCacheKey env cfg query candidates = some key
        ∧ rerankCachePayload env.serde candidates scores = some payload
        ∧ put = ⟨(.rerank, key), payload,
          timestamptz (storedAt + cfg.cache.rerankTtlDays * dayNanoseconds)⟩ := by
  unfold scoresPut
  simp only [Option.bind_eq_bind, Option.bind_eq_some_iff, Option.pure_def, Option.some.injEq]
  constructor
  . rintro ⟨key, hkey, payload, hpayload, rfl⟩
    exact ⟨key, payload, hkey, hpayload, rfl⟩
  . rintro ⟨key, payload, hkey, hpayload, rfl⟩
    exact ⟨key, hkey, payload, hpayload, rfl⟩

/-! ## Steps -/

theorem filter_keeps_true (o : Option (Json × Nat)) : (o.filter fun _ => true) = o := by
  cases o with
  | none => rfl
  | some entry => rfl

theorem answerExpansion_entry {reply : Option Json} {storedAt : Nat}
    : LlmCache.entry (answerExpansion env cfg query reply storedAt s).2 ref
      = ((CacheAction.answerExpansion cfg query reply storedAt).writes env ref).or (s.entry ref) := by
  simp only [answerExpansion, CacheAction.writes, CacheAction.put]
  cases reply.bind queriesOfJson with
  | none => rfl
  | some queries =>
    cases henabled : cfg.cache.enabled with
    | false => simp [Option.filter]
    | true =>
      simp only [if_true, storeExpansionCacheQueries, storeCachePayload_entry, Option.map_some,
        Option.filter, Bool.true_and, expansionPut]
      cases haccepts : env.accepts cfg.cache.maxPayloadBytes
          (queriesJson (expandedQueries env cfg query queries)) with
      | false => simp
      | true =>
        by_cases href : (CacheKind.expansion, buildExpansionCacheKey env cfg query) = ref
        . simp [href]
        . simp [href]

theorem answerScores_entry {candidates : List RerankCacheCandidate} {scores : List F32}
    {storedAt : Nat}
    : LlmCache.entry (answerScores env cfg query candidates scores storedAt s).2 ref
      = ((CacheAction.answerScores cfg query candidates scores storedAt).writes env ref).or
        (s.entry ref) := by
  simp only [answerScores, CacheAction.writes, CacheAction.put]
  by_cases hlength : scores.length = candidates.length
  . rw [if_neg (not_not.mpr hlength)]
    cases henabled : cfg.cache.enabled with
    | false => cases hput : scoresPut env cfg query candidates scores storedAt <;> simp [Option.filter]
    | true =>
      simp only [if_true, scoresPut]
      cases buildRerankCacheKey env cfg query candidates with
      | none => rfl
      | some key =>
        cases hempty : candidates.isEmpty with
        | true => cases rerankCachePayload env.serde candidates scores <;> simp [Option.filter]
        | false =>
          simp only [storeRerankCacheScores]
          cases rerankCachePayload env.serde candidates scores with
          | none => rfl
          | some payload =>
            simp only [Bool.false_eq_true, if_false, storeCachePayload_entry, Option.bind_eq_bind,
              Option.bind_some, Option.pure_def, Option.filter, hlength, decide_true, Bool.not_false,
              Bool.true_and]
            cases haccepts : env.accepts cfg.cache.maxPayloadBytes payload with
            | false => simp
            | true =>
              by_cases href : (CacheKind.rerank, key) = ref
              . simp [href]
              . simp [href]
  . rw [if_pos hlength]
    cases hput : scoresPut env cfg query candidates scores storedAt <;> simp [Option.filter, hlength]

theorem CacheAction.exec_entry (a : CacheAction)
    : LlmCache.entry (a.exec env s) ref
      = (a.writes env ref).or ((s.entry ref).filter fun entry => a.keeps entry.2) := by
  cases a with
  | lookUpExpansion cfg query now =>
    have hsame : LlmCache.entry (Elf.lookUpExpansion env cfg query now s).2 ref = s.entry ref := by
      unfold Elf.lookUpExpansion readExpansionCacheQueries
      split
      . exact fetchCachePayload_entry
      . rfl
    simp only [exec, hsame, keeps, filter_keeps_true]
    rfl
  | answerExpansion cfg query reply storedAt =>
    simp only [exec, answerExpansion_entry, keeps, filter_keeps_true]
  | lookUpScores cfg query candidates now =>
    have hsame : LlmCache.entry (Elf.lookUpScores env cfg query candidates now s).2 ref
        = s.entry ref := by
      unfold Elf.lookUpScores
      split
      . rfl
      . split
        . rfl
        . split
          . rfl
          . exact fetchCachePayload_entry
    simp only [exec, hsame, keeps, filter_keeps_true]
    rfl
  | answerScores cfg query candidates scores storedAt =>
    simp only [exec, answerScores_entry, keeps, filter_keeps_true]
  | purgeExpiredCache now =>
    simp only [exec, purgeExpiredCache_entry, keeps]
    rfl

theorem entry_run (h : Run (CacheSteps env) Table.empty as s) (entry : Json × Nat)
    : LlmCache.entry s ref = some entry ↔ ∃ before a after, as = before ++ a :: after
        ∧ a.writes env ref = some entry
        ∧ ∀ b ∈ after, b.writes env ref = none ∧ b.keeps entry.2 = true := by
  have hstep : ∀ s a t, CacheSteps env s a t
      → LlmCache.entry t ref
        = (a.writes env ref).or ((LlmCache.entry s ref).filter fun entry => a.keeps entry.2) := by
    intro s a t ht
    rw [← ht]
    exact a.exec_entry
  exact h.read_iff hstep rfl entry

/-- What is stored at the end of a run, from when its actions write what. -/
theorem stored_run {Stores : CacheAction → Json → Nat → Prop} {payload : Json} {expiresAt : Nat}
    (h : Run (CacheSteps env) Table.empty as s)
    (hwrites : ∀ a ∈ as, ∀ payload expiresAt,
      a.writes env ref = some (payload, expiresAt) ↔ Stores a payload expiresAt)
    : LlmCache.entry s ref = some (payload, expiresAt) ↔ ∃ before a after, as = before ++ a :: after
        ∧ Stores a payload expiresAt
        ∧ ∀ b ∈ after, b.keeps expiresAt = true ∧ ∀ later untilTime, ¬ Stores b later untilTime := by
  have hnone : ∀ a ∈ as, a.writes env ref = none ↔ ∀ later untilTime, ¬ Stores a later untilTime := by
    intro a ha
    rw [Option.eq_none_iff_forall_ne_some]
    constructor
    . intro hall later untilTime hstores
      exact hall (later, untilTime) ((hwrites a ha later untilTime).mpr hstores)
    . rintro hall ⟨later, untilTime⟩ heq
      exact hall later untilTime ((hwrites a ha later untilTime).mp heq)
  rw [entry_run h]
  constructor
  . rintro ⟨before, a, after, rfl, hwrite, hafter⟩
    refine ⟨before, a, after, rfl, (hwrites a (by simp) payload expiresAt).mp hwrite, ?_⟩
    intro b hb
    exact ⟨(hafter b hb).2, (hnone b (by simp [hb])).mp (hafter b hb).1⟩
  . rintro ⟨before, a, after, rfl, hstores, hafter⟩
    refine ⟨before, a, after, rfl, (hwrites a (by simp) payload expiresAt).mpr hstores, ?_⟩
    intro b hb
    exact ⟨(hnone b (by simp [hb])).mpr (hafter b hb).2, (hafter b hb).1⟩

end Elf
