import Elf.Properties.RerankRoundTrip
import Elf.Search.Lemmas.Cache

/-!
This module contains what a search is served from the cache of model answers, whatever searches and purges
are interleaved: the last answer that was stored for what the search asks, until it expires.
-/

namespace Elf

open Text

variable {env : CacheEnv} {s t : LlmCache} {a : CacheAction} {as : List CacheAction}
  {cfg cfg' : CacheConfig} {query query' : String} {queries : List String}
  {ref : CacheKind × String} {key : String} {kind : CacheKind} {now : Nat}

/-! ## Hashes -/

/-- What an action takes the hash of. -/
def CacheAction.hashed (env : CacheEnv) : CacheAction → Option Json
  | lookUpExpansion cfg query _ => some (expansionCachePayload cfg query)
  | answerExpansion cfg query _ _ => some (expansionCachePayload cfg query)
  | lookUpScores cfg query candidates _ => rerankKeyPayload env cfg query candidates
  | answerScores cfg query candidates _ _ => rerankKeyPayload env cfg query candidates
  | purgeExpiredCache _ => none

/-- No action takes the hash of another value that has the hash of `payload`. -/
def CacheEnv.Distinguishes (env : CacheEnv) (as : List CacheAction) (payload : Json) : Prop :=
  ∀ a ∈ as, ∀ other, a.hashed env = some other → env.hash other = env.hash payload → other = payload

/-! ## Expansions -/

/-- The action stores these queries for what the search of `query` asks, until `expiresAt`. -/
def CacheAction.StoresExpansion (env : CacheEnv) (cfg : CacheConfig) (query : String)
    (queries : List String) (expiresAt : Nat) : CacheAction → Prop
  | answerExpansion cfg' query' reply storedAt =>
    expansionCachePayload cfg' query' = expansionCachePayload cfg query
      ∧ cfg'.cache.enabled = true
      ∧ (∃ found, reply.bind queriesOfJson = some found
        ∧ expandedQueries env cfg' query' found = queries)
      ∧ env.accepts cfg'.cache.maxPayloadBytes (queriesJson queries) = true
      ∧ timestamptz (storedAt + cfg'.cache.expansionTtlDays * dayNanoseconds) = expiresAt
  | _ => False

theorem writes_expansion_iff {payload : Json} {expiresAt : Nat}
    (hhash : ∀ other, a.hashed env = some other
      → env.hash other = env.hash (expansionCachePayload cfg query)
      → other = expansionCachePayload cfg query)
    : a.writes env (.expansion, buildExpansionCacheKey env cfg query) = some (payload, expiresAt)
      ↔ ∃ queries, queriesJson queries = payload
        ∧ a.StoresExpansion env cfg query queries expiresAt := by
  cases a with
  | answerExpansion cfg' query' reply storedAt =>
    simp only [CacheAction.writes, CacheAction.put, CacheAction.StoresExpansion, expansionPut,
      Option.map_eq_some_iff, Option.filter_eq_some_iff, Bool.and_eq_true, decide_eq_true_eq,
      Prod.mk.injEq]
    constructor
    . rintro ⟨put, ⟨⟨⟨found, hfound, rfl⟩, henabled, haccepts⟩, href⟩, hpayload, hexpires⟩
      exact ⟨_, hpayload, hhash _ rfl (Prod.mk.inj href).2, henabled, ⟨found, hfound, rfl⟩, haccepts,
        hexpires⟩
    . rintro ⟨queries, rfl, hsame, henabled, ⟨found, hfound, rfl⟩, haccepts, hexpires⟩
      refine ⟨_, ⟨⟨⟨found, hfound, rfl⟩, henabled, haccepts⟩, ?_⟩, rfl, hexpires⟩
      unfold buildExpansionCacheKey
      rw [hsame]
  | answerScores cfg' query' candidates scores storedAt =>
    constructor
    . intro hwrites
      simp only [CacheAction.writes, CacheAction.put, Option.map_eq_some_iff,
        Option.filter_eq_some_iff, decide_eq_true_eq] at hwrites
      rcases hwrites with ⟨put, ⟨⟨hput, -⟩, href⟩, -⟩
      rcases scoresPut_eq_some.mp hput with ⟨key, payload, -, -, rfl⟩
      cases congrArg Prod.fst href
    . rintro ⟨queries, -, hstores⟩
      exact hstores.elim
  | lookUpExpansion cfg' query' now =>
    simp [CacheAction.writes, CacheAction.put, CacheAction.StoresExpansion]
  | lookUpScores cfg' query' candidates now =>
    simp [CacheAction.writes, CacheAction.put, CacheAction.StoresExpansion]
  | purgeExpiredCache now =>
    simp [CacheAction.writes, CacheAction.put, CacheAction.StoresExpansion]

theorem lookUpExpansion_iff (henabled : cfg.cache.enabled = true)
    (hstored : ∀ payload expiresAt,
      LlmCache.entry s (.expansion, buildExpansionCacheKey env cfg query) = some (payload, expiresAt)
        → ∃ stored, stored ≠ [] ∧ queriesJson stored = payload)
    : (lookUpExpansion env cfg query now s).1 = some queries
      ↔ ∃ expiresAt, LlmCache.entry s (.expansion, buildExpansionCacheKey env cfg query)
        = some (queriesJson queries, expiresAt) ∧ timestamptz now < expiresAt := by
  unfold lookUpExpansion readExpansionCacheQueries
  rw [if_pos henabled]
  dsimp only
  rw [fetchCachePayload_payload]
  cases hentry : LlmCache.entry s (.expansion, buildExpansionCacheKey env cfg query) with
  | none => simp
  | some entry =>
    rcases entry with ⟨payload, expiresAt⟩
    rcases hstored payload expiresAt hentry with ⟨stored, hne, rfl⟩
    by_cases hfresh : timestamptz now < expiresAt
    . simp only [Option.filter, hfresh, decide_true, if_true, Option.map_some,
        queriesOfJson_queriesJson, Option.getD_some, hne, ne_eq, not_false_eq_true]
      constructor
      . intro h
        cases h
        exact ⟨expiresAt, rfl, hfresh⟩
      . rintro ⟨_, heq, -⟩
        rw [queriesJson_injective (Prod.mk.inj (Option.some.inj heq)).1]
    . simp only [Option.filter, hfresh, decide_false, Bool.false_eq_true, if_false, Option.map_none]
      constructor
      . intro h
        contradiction
      . rintro ⟨_, heq, hlater⟩
        rw [← (Prod.mk.inj (Option.some.inj heq)).2] at hlater
        exact absurd hlater hfresh

theorem storesExpansion_expanded {expiresAt : Nat}
    (h : a.StoresExpansion env cfg query queries expiresAt) : Expanded env cfg queries := by
  cases a with
  | answerExpansion cfg' query' reply storedAt =>
    rcases h with ⟨hsame, -, ⟨found, -, rfl⟩, -⟩
    have hqueries : cfg'.expansion.maxQueries = cfg.expansion.maxQueries := by
      unfold expansionCachePayload at hsame
      simp only [Json.obj.injEq, List.cons.injEq, Prod.mk.injEq, Json.num.injEq, true_and,
        Nat.cast_inj] at hsame
      exact hsame.2.1
    have hexpanded : Expanded env cfg' (expandedQueries env cfg' query' found) :=
      expandedQueries_expanded
    have hlength := hexpanded.length_le
    rw [hqueries] at hlength
    exact ⟨hexpanded.nonempty, hlength, hexpanded.nodup⟩
  | lookUpExpansion cfg' query' now => exact h.elim
  | lookUpScores cfg' query' candidates now => exact h.elim
  | answerScores cfg' query' candidates scores storedAt => exact h.elim
  | purgeExpiredCache now => exact h.elim

theorem entry_expansion_iff {payload : Json} {expiresAt : Nat}
    (h : Run (CacheSteps env) Table.empty as s)
    (hhash : env.Distinguishes as (expansionCachePayload cfg query))
    : LlmCache.entry s (.expansion, buildExpansionCacheKey env cfg query) = some (payload, expiresAt)
      ↔ ∃ before a after, as = before ++ a :: after
        ∧ (∃ queries, queriesJson queries = payload
          ∧ a.StoresExpansion env cfg query queries expiresAt)
        ∧ ∀ b ∈ after, b.keeps expiresAt = true ∧ ∀ later untilTime, ¬ ∃ queries,
          queriesJson queries = later ∧ b.StoresExpansion env cfg query queries untilTime :=
  stored_run h fun a ha _ _ => writes_expansion_iff (hhash a ha)

/--
A search with the cache is served queries if and only if they are what was made of the last answer that
was stored for its settings and its trimmed query, they have not expired and no purge found them expired.
-/
theorem expansion_served (h : Run (CacheSteps env) Table.empty as s)
    (henabled : cfg.cache.enabled = true)
    (hhash : env.Distinguishes as (expansionCachePayload cfg query))
    : (lookUpExpansion env cfg query now s).1 = some queries
      ↔ ∃ before a after expiresAt, as = before ++ a :: after
        ∧ a.StoresExpansion env cfg query queries expiresAt ∧ timestamptz now < expiresAt
        ∧ ∀ b ∈ after, b.keeps expiresAt = true
          ∧ ∀ later untilTime, ¬ b.StoresExpansion env cfg query later untilTime := by
  rw [lookUpExpansion_iff henabled]
  . constructor
    . rintro ⟨expiresAt, hentry, hfresh⟩
      rcases (entry_expansion_iff h hhash).mp hentry
        with ⟨before, a, after, has, ⟨stored, heq, hstores⟩, hafter⟩
      rw [queriesJson_injective heq] at hstores
      refine ⟨before, a, after, expiresAt, has, hstores, hfresh, ?_⟩
      intro b hb
      exact ⟨(hafter b hb).1, fun later untilTime hlater =>
        (hafter b hb).2 (queriesJson later) untilTime ⟨later, rfl, hlater⟩⟩
    . rintro ⟨before, a, after, expiresAt, has, hstores, hfresh, hafter⟩
      refine ⟨expiresAt, (entry_expansion_iff h hhash).mpr
        ⟨before, a, after, has, ⟨queries, rfl, hstores⟩, ?_⟩, hfresh⟩
      intro b hb
      refine ⟨(hafter b hb).1, ?_⟩
      rintro _ untilTime ⟨later, -, hlater⟩
      exact (hafter b hb).2 later untilTime hlater
  . intro payload expiresAt hentry
    rcases (entry_expansion_iff h hhash).mp hentry with ⟨_, _, _, -, ⟨stored, heq, hstores⟩, -⟩
    exact ⟨stored, (storesExpansion_expanded hstores).nonempty, heq⟩

def sampleCache : CacheEnv where
  hash value := String.intercalate ":" (["kind", "query"].filterMap fun field =>
    (value.get field).bind Json.asStr)
  jsonBytes _ := 100
  toLowercase := id
  serde := epochSerde

def sampleCacheConfig : CacheConfig where
  expansion := ⟨4, true⟩
  cache := ⟨true, 1, 1, some 1000⟩
  llmExtractor := ⟨"local", "small", .fin 0⟩
  rerank := ⟨"local", "small"⟩

/-- A search with a cold cache, and a purge. -/
def sampleSearches : List CacheAction := [
  .lookUpExpansion sampleCacheConfig "deploy" 0,
  .answerExpansion sampleCacheConfig "deploy" (some (queriesJson ["release", "deploy "])) 1,
  .lookUpScores sampleCacheConfig "deploy" [⟨1, 0⟩, ⟨2, 0⟩] 2,
  .answerScores sampleCacheConfig "deploy" [⟨1, 0⟩, ⟨2, 0⟩] [.fin (1 / 2), .fin (1 / 4)] 3,
  .purgeExpiredCache 4]

theorem run_sampleSearches
    : Run (CacheSteps sampleCache) Table.empty sampleSearches
      (sampleSearches.foldl (fun s a => a.exec sampleCache s) Table.empty) :=
  .cons rfl (.cons rfl (.cons rfl (.cons rfl (.cons rfl (.nil _)))))

theorem distinguishes_sampleSearches (payload : Json)
    (h : some payload ∈ sampleSearches.map (CacheAction.hashed sampleCache))
    : sampleCache.Distinguishes sampleSearches payload := by
  have hall : ∀ a ∈ sampleSearches.filterMap (CacheAction.hashed sampleCache),
      ∀ b ∈ sampleSearches.filterMap (CacheAction.hashed sampleCache),
        sampleCache.hash a = sampleCache.hash b → a = b := by
    decide +kernel
  intro a ha other hother
  exact hall other (List.mem_filterMap.mpr ⟨a, ha, hother⟩) payload
    (List.mem_filterMap.mpr (List.mem_map.mp h))

theorem expansion_served_sampleSearches
    : (lookUpExpansion sampleCache sampleCacheConfig " deploy" 5
        (sampleSearches.foldl (fun s a => a.exec sampleCache s) Table.empty)).1
      = some ["deploy", "release"] := by
  refine (expansion_served run_sampleSearches rfl ?_).mpr
    ⟨[_], _, [_, _, _], _, rfl, ⟨?_, rfl, ⟨_, rfl, ?_⟩, ?_, rfl⟩, ?_, ?_⟩
  . apply distinguishes_sampleSearches
    decide +kernel
  . decide +kernel
  . decide +kernel
  . decide +kernel
  . decide +kernel
  . simp only [List.mem_cons, List.not_mem_nil, or_false, forall_eq_or_imp, forall_eq,
      CacheAction.StoresExpansion, not_false_eq_true, implies_true, and_true]
    decide +kernel

/--
After any run a search has queries that its settings allow, whether the cache has them or the extractor
answers.
-/
theorem expansions_expanded {reply : Option Json} {storedAt : Nat}
    (h : Run (CacheSteps env) Table.empty as s)
    (hhash : env.Distinguishes as (expansionCachePayload cfg query))
    : (∀ queries, (lookUpExpansion env cfg query now s).1 = some queries → Expanded env cfg queries)
      ∧ Expanded env cfg (answerExpansion env cfg query reply storedAt s).1 := by
  refine ⟨?_, answerExpansion_expanded⟩
  intro queries hserved
  cases henabled : cfg.cache.enabled with
  | false =>
    unfold lookUpExpansion at hserved
    rw [henabled, if_neg Bool.false_ne_true] at hserved
    contradiction
  | true =>
    rw [lookUpExpansion_iff henabled] at hserved
    . rcases hserved with ⟨expiresAt, hentry, -⟩
      rcases (entry_expansion_iff h hhash).mp hentry with ⟨_, _, _, -, ⟨stored, heq, hstores⟩, -⟩
      rw [← queriesJson_injective heq]
      exact storesExpansion_expanded hstores
    . intro payload expiresAt hentry
      rcases (entry_expansion_iff h hhash).mp hentry with ⟨_, _, _, -, ⟨stored, heq, hstores⟩, -⟩
      exact ⟨stored, (storesExpansion_expanded hstores).nonempty, heq⟩

theorem expansions_expanded_sampleSearches
    : (∀ queries, (lookUpExpansion sampleCache sampleCacheConfig " deploy" 5
        (sampleSearches.foldl (fun s a => a.exec sampleCache s) Table.empty)).1 = some queries
        → Expanded sampleCache sampleCacheConfig queries)
      ∧ Expanded sampleCache sampleCacheConfig (answerExpansion sampleCache sampleCacheConfig " deploy"
        none 5 (sampleSearches.foldl (fun s a => a.exec sampleCache s) Table.empty)).1 := by
  refine expansions_expanded run_sampleSearches ?_
  apply distinguishes_sampleSearches
  decide +kernel

/-! ## Rerank scores -/

/-- The candidates of a search: distinct, with identifiers and times that can be written. -/
structure Rerankable (serde : TimeSerde) (candidates : List RerankCacheCandidate) : Prop where
  nonempty : candidates ≠ []
  nodup : candidates.Nodup
  chunkId : ∀ candidate ∈ candidates, candidate.chunkId < 2 ^ 128
  time : ∀ candidate ∈ candidates, ∃ json, serde.toJson candidate.updatedAt = some json

/-- Times are read as they were written. -/
def TimeSerde.Reads (serde : TimeSerde) : Prop :=
  ∀ time json, serde.toJson time = some json → serde.ofJson json = some time

/-- Identifiers and scores are of their types. -/
def CacheAction.Typed : CacheAction → Prop
  | lookUpScores _ _ candidates _ => ∀ candidate ∈ candidates, candidate.chunkId < 2 ^ 128
  | answerScores _ _ candidates scores _ =>
    (∀ candidate ∈ candidates, candidate.chunkId < 2 ^ 128) ∧ ∀ score ∈ scores, f32Fits score
  | _ => True

variable {candidates candidates' : List RerankCacheCandidate} {scores : List F32} {keyed : Json}

theorem rerankSignature_injective {signature : List Json} (hserde : env.serde.Reads)
    (hids : ∀ candidate ∈ candidates, candidate.chunkId < 2 ^ 128)
    (hids' : ∀ candidate ∈ candidates', candidate.chunkId < 2 ^ 128)
    (h : rerankSignature env candidates = some signature)
    (h' : rerankSignature env candidates' = some signature) : candidates' = candidates := by
  unfold rerankSignature at h h'
  have hall := mapM_eq_some_forall₂ h
  have hall' := mapM_eq_some_forall₂ h'
  clear h h'
  induction hall generalizing candidates' with
  | nil =>
    cases hall'
    rfl
  | @cons candidate json candidates signature hhead htail ih =>
    cases hall' with
    | @cons candidate' _ candidates' _ hhead' htail' =>
      have htails := ih (fun other hother => hids other (List.mem_cons_of_mem _ hother))
        (fun other hother => hids' other (List.mem_cons_of_mem _ hother)) htail'
      have hheads : candidate' = candidate := by
        simp only [Option.bind_eq_bind, Option.bind_eq_some_iff, Option.pure_def,
          Option.some.injEq] at hhead hhead'
        rcases hhead with ⟨time, htime, rfl⟩
        rcases hhead' with ⟨time', htime', heq⟩
        rw [Json.obj.injEq] at heq
        simp only [List.cons.injEq, Prod.mk.injEq, true_and, and_true] at heq
        rcases heq with ⟨hid, rfl⟩
        have hread := readUuid_uuidJson (hids' candidate' (List.mem_cons_self ..))
        rw [hid, readUuid_uuidJson (hids candidate (List.mem_cons_self ..))] at hread
        have hread' := hserde _ _ htime'
        rw [hserde _ _ htime] at hread'
        cases candidate
        cases candidate'
        cases hread
        cases hread'
        rfl
      rw [hheads, htails]

theorem rerankSignature_isSome (h : ∀ candidate ∈ candidates, ∃ json,
      env.serde.toJson candidate.updatedAt = some json)
    : ∃ signature, rerankSignature env candidates = some signature := by
  unfold rerankSignature
  induction candidates with
  | nil => exact ⟨[], rfl⟩
  | cons candidate candidates ih =>
    rcases h candidate (List.mem_cons_self ..) with ⟨time, htime⟩
    rcases ih fun other hother => h other (List.mem_cons_of_mem _ hother) with ⟨signature, hsignature⟩
    rw [List.mapM_cons, hsignature, htime]
    exact ⟨_, rfl⟩

/-- The key of rerank scores is taken of nothing but the provider, the trimmed query and the candidates. -/
theorem rerankKeyPayload_injective (hserde : env.serde.Reads)
    (hids : ∀ candidate ∈ candidates, candidate.chunkId < 2 ^ 128)
    (hids' : ∀ candidate ∈ candidates', candidate.chunkId < 2 ^ 128)
    (h : rerankKeyPayload env cfg query candidates = some keyed)
    (h' : rerankKeyPayload env cfg' query' candidates' = some keyed)
    : cfg'.rerank = cfg.rerank ∧ trim query' = trim query ∧ candidates' = candidates := by
  simp only [rerankKeyPayload, Option.bind_eq_bind, Option.bind_eq_some_iff, Option.pure_def,
    Option.some.injEq] at h h'
  rcases h with ⟨signature, hsignature, rfl⟩
  rcases h' with ⟨signature', hsignature', heq⟩
  simp only [Json.obj.injEq, List.cons.injEq, Prod.mk.injEq, Json.arr.injEq, Json.str.injEq, true_and,
    and_true] at heq
  rcases heq with ⟨rfl, hmodel, hprovider, hquery⟩
  have hrerank : cfg'.rerank = cfg.rerank := by
    cases hcfg : cfg.rerank
    cases hcfg' : cfg'.rerank
    rw [hcfg, hcfg'] at hmodel hprovider
    cases hmodel
    cases hprovider
    rfl
  exact ⟨hrerank, hquery, rerankSignature_injective hserde hids hids' hsignature hsignature'⟩

/-- Scores that were stored are read back in the order of the candidates, if all of them are finite. -/
theorem readRerankCacheScores_stored (hserde : env.serde.Reads)
    (hcandidates : Rerankable env.serde candidates) (hlength : scores.length = candidates.length)
    (hfits : ∀ score ∈ scores, f32Fits score)
    : ∃ payload, rerankCachePayload env.serde candidates scores = some payload
      ∧ readRerankCacheScores env.serde (some payload) candidates
        = if scores.all F32.isFinite then some scores else none := by
  generalize hpairs : candidates.zip scores = pairs
  have hfst : pairs.map Prod.fst = candidates := by
    rw [← hpairs, List.map_fst_zip (le_of_eq hlength.symm)]
  have hsnd : pairs.map Prod.snd = scores := by
    rw [← hpairs, List.map_snd_zip (le_of_eq hlength)]
  have hstorable : ∀ pair ∈ pairs, StorableScore env.serde pair := by
    intro pair hpair
    have hmem : pair.1 ∈ candidates := by
      rw [← hfst]
      exact List.mem_map_of_mem hpair
    have hscore : pair.2 ∈ scores := by
      rw [← hsnd]
      exact List.mem_map_of_mem hpair
    rcases hcandidates.time _ hmem with ⟨json, hjson⟩
    exact ⟨hcandidates.chunkId _ hmem, hfits _ hscore, json, hjson, hserde _ _ hjson⟩
  have hconsistent : ConsistentScores pairs := by
    have hnodup : (pairs.map Prod.fst).Nodup := by
      rw [hfst]
      exact hcandidates.nodup
    intro a ha b hb hab
    rw [List.inj_on_of_nodup_map hnodup ha hb hab]
  rcases rerankCachePayload_reads hstorable with ⟨payload, hpayload, hreads⟩
  rw [hfst, hsnd] at hpayload
  refine ⟨payload, hpayload, ?_⟩
  have hall : pairs.all (fun pair => pair.2.isFinite) = scores.all F32.isFinite := by
    rw [← hsnd, List.all_map]
    rfl
  unfold readRerankCacheScores
  rw [Option.bind_eq_bind, Option.bind_some, hreads, hall]
  split
  . have hfound := buildCachedScores_perm hconsistent (List.Perm.refl pairs)
    rw [hfst, hsnd] at hfound
    exact hfound
  . have hne : candidates.length ≠ 0 := by
      simp [hcandidates.nonempty]
    simp [buildCachedScores, hne.symm]

/-- The action stores these scores for what the search of `query` asks, until `expiresAt`. -/
def CacheAction.StoresScores (env : CacheEnv) (cfg : CacheConfig) (query : String)
    (candidates : List RerankCacheCandidate) (scores : List F32) (expiresAt : Nat)
    : CacheAction → Prop
  | answerScores cfg' query' candidates' scores' storedAt =>
    (cfg'.rerank = cfg.rerank ∧ trim query' = trim query ∧ candidates' = candidates)
      ∧ cfg'.cache.enabled = true
      ∧ (scores' = scores ∧ scores.length = candidates.length)
      ∧ (∃ payload, rerankCachePayload env.serde candidates scores = some payload
        ∧ env.accepts cfg'.cache.maxPayloadBytes payload = true)
      ∧ timestamptz (storedAt + cfg'.cache.rerankTtlDays * dayNanoseconds) = expiresAt
  | _ => False

theorem writes_scores_iff {payload : Json} {expiresAt : Nat} (hserde : env.serde.Reads)
    (hcandidates : Rerankable env.serde candidates) (ha : a.Typed)
    (hkey : rerankKeyPayload env cfg query candidates = some keyed)
    (hhash : ∀ other, a.hashed env = some other → env.hash other = env.hash keyed → other = keyed)
    : a.writes env (.rerank, env.hash keyed) = some (payload, expiresAt)
      ↔ ∃ scores, rerankCachePayload env.serde candidates scores = some payload
        ∧ a.StoresScores env cfg query candidates scores expiresAt := by
  cases a with
  | answerScores cfg' query' candidates' scores storedAt =>
    simp only [CacheAction.writes, CacheAction.put, CacheAction.StoresScores,
      Option.map_eq_some_iff, Option.filter_eq_some_iff, Bool.and_eq_true, decide_eq_true_eq,
      Prod.mk.injEq, scoresPut_eq_some]
    constructor
    . rintro ⟨put, ⟨⟨⟨key, stored, hother, hstored, rfl⟩, ⟨⟨hlength, -⟩, henabled⟩, haccepts⟩, href⟩,
        rfl, hexpires⟩
      unfold buildRerankCacheKey at hother
      rw [Option.map_eq_some_iff] at hother
      rcases hother with ⟨other, hother, rfl⟩
      have hsame := hhash other hother (Prod.mk.inj href).2
      rw [hsame] at hother
      rcases rerankKeyPayload_injective hserde hcandidates.chunkId ha.1 hkey hother
        with ⟨hrerank, hquery, rfl⟩
      exact ⟨scores, hstored, ⟨hrerank, hquery, rfl⟩, henabled, ⟨rfl, hlength⟩,
        ⟨stored, hstored, haccepts⟩, hexpires⟩
    . rintro ⟨_, hpayload, ⟨hrerank, hquery, rfl⟩, henabled, ⟨rfl, hlength⟩, ⟨stored, hstored, haccepts⟩,
        hexpires⟩
      rw [hpayload] at hstored
      cases hstored
      have hother : buildRerankCacheKey env cfg' query' candidates' = some (env.hash keyed) := by
        have hsame : rerankKeyPayload env cfg' query' candidates'
            = rerankKeyPayload env cfg query candidates' := by
          unfold rerankKeyPayload
          rw [hrerank, hquery]
        unfold buildRerankCacheKey
        rw [hsame, hkey]
        rfl
      have hne : candidates'.isEmpty = false := by
        simp [hcandidates.nonempty]
      exact ⟨_, ⟨⟨⟨env.hash keyed, payload, hother, hpayload, rfl⟩, ⟨⟨hlength, by simp [hne]⟩, henabled⟩,
        haccepts⟩, rfl⟩, rfl, hexpires⟩
  | answerExpansion cfg' query' reply storedAt =>
    constructor
    . intro hwrites
      simp only [CacheAction.writes, CacheAction.put, Option.map_eq_some_iff,
        Option.filter_eq_some_iff, decide_eq_true_eq] at hwrites
      rcases hwrites with ⟨put, ⟨⟨⟨found, -, rfl⟩, -⟩, href⟩, -⟩
      cases congrArg Prod.fst href
    . rintro ⟨scores, -, hstores⟩
      exact hstores.elim
  | lookUpExpansion cfg' query' now =>
    simp [CacheAction.writes, CacheAction.put, CacheAction.StoresScores]
  | lookUpScores cfg' query' candidates' now =>
    simp [CacheAction.writes, CacheAction.put, CacheAction.StoresScores]
  | purgeExpiredCache now =>
    simp [CacheAction.writes, CacheAction.put, CacheAction.StoresScores]

theorem storesScores_typed {expiresAt : Nat} (ha : a.Typed)
    (h : a.StoresScores env cfg query candidates scores expiresAt)
    : scores.length = candidates.length ∧ ∀ score ∈ scores, f32Fits score := by
  cases a with
  | answerScores cfg' query' candidates' scores' storedAt =>
    rcases h with ⟨-, -, ⟨rfl, hlength⟩, -⟩
    exact ⟨hlength, ha.2⟩
  | lookUpExpansion cfg' query' now => exact h.elim
  | answerExpansion cfg' query' reply storedAt => exact h.elim
  | lookUpScores cfg' query' candidates' now => exact h.elim
  | purgeExpiredCache now => exact h.elim

theorem lookUpScores_eq (henabled : cfg.cache.enabled = true) (hne : candidates ≠ [])
    (hkey : rerankKeyPayload env cfg query candidates = some keyed)
    : (lookUpScores env cfg query candidates now s).1
      = readRerankCacheScores env.serde
        (((LlmCache.entry s (.rerank, env.hash keyed)).filter fun entry =>
          timestamptz now < entry.2).map Prod.fst) candidates := by
  have hbuilt : buildRerankCacheKey env cfg query candidates = some (env.hash keyed) := by
    unfold buildRerankCacheKey
    rw [hkey]
    rfl
  unfold lookUpScores
  rw [if_neg (by simp [hne]), henabled, hbuilt]
  dsimp only
  rw [Bool.not_true, if_neg Bool.false_ne_true, fetchCachePayload_payload]

/--
A search with the cache is served scores if and only if they are finite and the last that were stored for
its provider, its trimmed query and its candidates at these times, they have not expired and no purge found
them expired.
-/
theorem scores_served (h : Run (CacheSteps env) Table.empty as s)
    (henabled : cfg.cache.enabled = true) (hserde : env.serde.Reads)
    (hcandidates : Rerankable env.serde candidates) (htyped : ∀ a ∈ as, a.Typed)
    (hhash : ∀ keyed, rerankKeyPayload env cfg query candidates = some keyed
      → env.Distinguishes as keyed)
    : (lookUpScores env cfg query candidates now s).1 = some scores
      ↔ ∃ before a after expiresAt, as = before ++ a :: after
        ∧ a.StoresScores env cfg query candidates scores expiresAt
        ∧ scores.all F32.isFinite = true ∧ timestamptz now < expiresAt
        ∧ ∀ b ∈ after, b.keeps expiresAt = true
          ∧ ∀ later untilTime, ¬ b.StoresScores env cfg query candidates later untilTime := by
  rcases rerankSignature_isSome hcandidates.time with ⟨signature, hsignature⟩
  rcases hkey : rerankKeyPayload env cfg query candidates with _ | keyed
  . simp [rerankKeyPayload, hsignature] at hkey
  have hstored : ∀ payload expiresAt,
      LlmCache.entry s (.rerank, env.hash keyed) = some (payload, expiresAt) ↔ _ :=
    fun payload expiresAt => stored_run h fun a ha payload expiresAt =>
      writes_scores_iff hserde hcandidates (htyped a ha) hkey (hhash keyed hkey a ha)
  rw [lookUpScores_eq henabled hcandidates.nonempty hkey]
  constructor
  . intro hserved
    cases hentry : LlmCache.entry s (.rerank, env.hash keyed) with
    | none =>
      rw [hentry] at hserved
      contradiction
    | some entry =>
      rcases entry with ⟨payload, expiresAt⟩
      rcases (hstored payload expiresAt).mp hentry
        with ⟨before, a, after, rfl, ⟨stored, hpayload, hstores⟩, hafter⟩
      rcases storesScores_typed (htyped a (by simp)) hstores with ⟨hlength, hfits⟩
      rcases readRerankCacheScores_stored hserde hcandidates hlength hfits
        with ⟨payload', hpayload', hread⟩
      rw [hpayload] at hpayload'
      cases hpayload'
      by_cases hfresh : timestamptz now < expiresAt
      . simp only [hentry, Option.filter, hfresh, decide_true, if_true, Option.map_some] at hserved
        rw [hread] at hserved
        split at hserved
        next hfinite =>
          cases hserved
          refine ⟨before, a, after, expiresAt, rfl, hstores, hfinite, hfresh, ?_⟩
          intro b hb
          refine ⟨(hafter b hb).1, ?_⟩
          intro later untilTime hlater
          rcases storesScores_typed (htyped b (by simp [hb])) hlater with ⟨hlength', hfits'⟩
          rcases readRerankCacheScores_stored hserde hcandidates hlength' hfits'
            with ⟨payload', hpayload', -⟩
          exact (hafter b hb).2 payload' untilTime ⟨later, hpayload', hlater⟩
        next => contradiction
      . simp only [hentry, Option.filter, hfresh, decide_false] at hserved
        contradiction
  . rintro ⟨before, a, after, expiresAt, rfl, hstores, hfinite, hfresh, hafter⟩
    rcases storesScores_typed (htyped a (by simp)) hstores with ⟨hlength, hfits⟩
    rcases readRerankCacheScores_stored hserde hcandidates hlength hfits with ⟨payload, hpayload, hread⟩
    have hentry : LlmCache.entry s (.rerank, env.hash keyed) = some (payload, expiresAt) := by
      refine (hstored payload expiresAt).mpr
        ⟨before, a, after, rfl, ⟨scores, hpayload, hstores⟩, ?_⟩
      intro b hb
      refine ⟨(hafter b hb).1, ?_⟩
      rintro _ untilTime ⟨later, -, hlater⟩
      exact (hafter b hb).2 later untilTime hlater
    simp only [hentry, Option.filter, hfresh, decide_true, if_true, Option.map_some]
    rw [hread, if_pos hfinite]

theorem epochSerde_reads : epochSerde.Reads := by
  intro time json h
  simp only [epochSerde, Option.ite_none_right_eq_some, Option.some.injEq] at h
  rcases h with ⟨rfl, rfl⟩
  exact epochSerde_ofJson

theorem rerankable_sampleSearches : Rerankable epochSerde [⟨1, 0⟩, ⟨2, 0⟩] where
  nonempty := List.cons_ne_nil _ _
  nodup := by decide
  chunkId := by decide
  time := by simp [epochSerde]

theorem typed_sampleSearches : ∀ a ∈ sampleSearches, a.Typed := by
  have hfits : ∀ score ∈ epochScores.map Prod.snd, f32Fits score := by
    intro score hscore
    rcases List.mem_map.mp hscore with ⟨pair, hpair, rfl⟩
    exact f32Fits_epochScores pair hpair
  simp only [sampleSearches, List.mem_cons, List.not_mem_nil, or_false, forall_eq_or_imp, forall_eq,
    CacheAction.Typed, true_and, and_true]
  exact ⟨by decide, by decide, hfits _ (by simp [epochScores]), hfits _ (by simp [epochScores])⟩

theorem scores_served_sampleSearches
    : (lookUpScores sampleCache sampleCacheConfig "deploy " [⟨1, 0⟩, ⟨2, 0⟩] 5
        (sampleSearches.foldl (fun s a => a.exec sampleCache s) Table.empty)).1
      = some [.fin (1 / 2), .fin (1 / 4)] := by
  refine (scores_served run_sampleSearches rfl epochSerde_reads rerankable_sampleSearches
    typed_sampleSearches ?_).mpr
    ⟨[_, _, _], _, [_], _, rfl, ⟨⟨rfl, ?_, rfl⟩, rfl, ⟨rfl, rfl⟩, ⟨_, rfl, ?_⟩, rfl⟩, ?_, ?_, ?_⟩
  . intro keyed hkeyed
    apply distinguishes_sampleSearches
    rw [← hkeyed]
    decide +kernel
  . decide +kernel
  . decide +kernel
  . decide +kernel
  . decide +kernel
  . simp only [List.mem_cons, List.not_mem_nil, or_false, forall_eq,
      CacheAction.StoresScores, not_false_eq_true, implies_true, and_true]
    decide +kernel

end Elf
