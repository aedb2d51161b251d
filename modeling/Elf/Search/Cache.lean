import Elf.Lib.Run
import Elf.Search.TraceSnapshot
import Elf.Service.AddNote

/-!
This module contains the cache of what language models answered to searches: the expansions of a query
and the rerank scores of a list of chunks. A search looks for an answer under the hash of what the
answer depends on, and stores the answer that it gets itself. The statements of all searches, and of the
worker that purges what has expired, are executed in any order.
-/

namespace Elf

open Text

/-! ## The table -/

inductive CacheKind where
  | expansion
  | rerank
deriving DecidableEq

/-- A row of `llm_cache`. -/
structure LlmCacheEntry where
  cacheKind : CacheKind
  cacheKey : String
  payload : Json
  createdAt : Nat
  lastAccessedAt : Nat
  expiresAt : Nat
  hitCount : Nat
deriving DecidableEq

/-- The unique index of the cache. -/
def LlmCacheEntry.ref (row : LlmCacheEntry) : CacheKind × String := (row.cacheKind, row.cacheKey)

abbrev LlmCache := Table LlmCacheEntry LlmCacheEntry.ref

/-- What the cache takes from outside. -/
structure CacheEnv where
  /-- The hexadecimal BLAKE3 hash of the bytes that a value is written as. -/
  hash : Json → String
  /-- The number of bytes that a value is written as. -/
  jsonBytes : Json → Nat
  toLowercase : String → String
  serde : TimeSerde

/-- A text with a null character has no place in a `jsonb` column. -/
def jsonbAccepts (payload : Json) : Bool :=
  payload.texts.all fun text => !text.toList.contains '\x00'

variable (env : CacheEnv)

/-- A row that was read. -/
def LlmCacheEntry.touch (now : Nat) (row : LlmCacheEntry) : LlmCacheEntry :=
  { row with lastAccessedAt := timestamptz now, hitCount := row.hitCount + 1 }

@[simp]
theorem LlmCacheEntry.ref_touch (now : Nat) (row : LlmCacheEntry) : (row.touch now).ref = row.ref := rfl

/-- A row that was stored once more. -/
def LlmCacheEntry.refresh (excluded row : LlmCacheEntry) : LlmCacheEntry :=
  { row with
    payload := excluded.payload
    lastAccessedAt := excluded.lastAccessedAt
    expiresAt := excluded.expiresAt
    hitCount := 0 }

@[simp]
theorem LlmCacheEntry.ref_refresh (excluded row : LlmCacheEntry)
    : (excluded.refresh row).ref = row.ref := rfl

def fetchCachePayload (kind : CacheKind) (key : String) (now : Nat) (s : LlmCache)
    : Option Json × LlmCache :=
  match (s.find? (kind, key)).filter fun row => timestamptz now < row.expiresAt with
  | some row =>
    (some row.payload, s.modify (kind, key) (LlmCacheEntry.touch now) (LlmCacheEntry.ref_touch now))
  | none => (none, s)

/-- The payload is small enough, and the statement that stores it does not fail. -/
def CacheEnv.accepts (maxPayloadBytes : Option Nat) (payload : Json) : Bool :=
  maxPayloadBytes.all (env.jsonBytes payload ≤ ·) && jsonbAccepts payload

def storeCachePayload (kind : CacheKind) (key : String) (payload : Json) (now expiresAt : Nat)
    (maxPayloadBytes : Option Nat) (s : LlmCache) : LlmCache :=
  if env.accepts maxPayloadBytes payload then
    let row : LlmCacheEntry := {
      cacheKind := kind
      cacheKey := key
      payload
      createdAt := timestamptz now
      lastAccessedAt := timestamptz now
      expiresAt := timestamptz expiresAt
      hitCount := 0 }
    s.upsert row row.refresh row.ref_refresh
  else
    s

def purgeExpiredCache (now : Nat) (s : LlmCache) : LlmCache :=
  s.deleteWhere (·.expiresAt ≤ timestamptz now)

/-! ## Configuration -/

structure SearchExpansion where
  maxQueries : Nat
  includeOriginal : Bool
deriving DecidableEq

/-- The times to live are positive. -/
structure SearchCache where
  enabled : Bool
  expansionTtlDays : Nat
  rerankTtlDays : Nat
  maxPayloadBytes : Option Nat
deriving DecidableEq

structure LlmProvider where
  providerId : String
  model : String
  temperature : F32
deriving DecidableEq

structure RerankProvider where
  providerId : String
  model : String
deriving DecidableEq

structure CacheConfig where
  expansion : SearchExpansion
  cache : SearchCache
  llmExtractor : LlmProvider
  rerank : RerankProvider
deriving DecidableEq

/-! ## Queries -/

/-- The queries so far, and what they look like in lower case. -/
structure QuerySet where
  out : List String
  seen : List String

def pushQuery (queries : QuerySet) (value : String) : QuerySet :=
  let trimmed := trim value
  if trimmed == "" || !isValidText trimmed then
    queries
  else
    let key := env.toLowercase trimmed
    if queries.seen.contains key then queries else ⟨queries.out ++ [trimmed], key :: queries.seen⟩

def pushQueries (maxQueries : Nat) (acc : QuerySet) : List String → QuerySet
  | [] => acc
  | query :: queries =>
    if maxQueries ≤ acc.out.length then acc else pushQueries maxQueries (pushQuery env acc query) queries

def normalizeQueries (queries : List String) (original : String) (includeOriginal : Bool)
    (maxQueries : Nat) : List String :=
  let start : QuerySet := if includeOriginal then pushQuery env ⟨[], []⟩ original else ⟨[], []⟩
  (pushQueries env maxQueries start queries).out.take maxQueries

/-! ## Expansion -/

def expansionCacheSchemaVersion : Nat := 1

/-- What the key of an expansion is the hash of. -/
def expansionCachePayload (cfg : CacheConfig) (query : String) : Json := .obj [
  ("include_original", .bool cfg.expansion.includeOriginal),
  ("kind", .str "expansion"),
  ("max_queries", .num cfg.expansion.maxQueries),
  ("model", .str cfg.llmExtractor.model),
  ("provider_id", .str cfg.llmExtractor.providerId),
  ("query", .str (trim query)),
  ("schema_version", .num expansionCacheSchemaVersion),
  ("temperature", scoreJson cfg.llmExtractor.temperature)]

def buildExpansionCacheKey (cfg : CacheConfig) (query : String) : String :=
  env.hash (expansionCachePayload cfg query)

def readStrings (value : Json) : Option (List String) := do
  let items ← value.asArr
  items.mapM Json.asStr

/-- `serde_json::from_value` of a structure whose one field is `queries`. -/
def queriesOfJson : Json → Option (List String)
  | .arr [value] => readStrings value
  | value => readField readStrings value "queries"

def queriesJson (queries : List String) : Json := .obj [("queries", .arr (queries.map Json.str))]

def readExpansionCacheQueries (key : String) (now : Nat) (s : LlmCache)
    : Option (List String) × LlmCache :=
  let (payload, s) := fetchCachePayload .expansion key now s
  let queries := payload.map fun value => (queriesOfJson value).getD []
  (queries.filter (· ≠ []), s)

def storeExpansionCacheQueries (cfg : CacheConfig) (key : String) (queries : List String)
    (storedAt : Nat) (s : LlmCache) : LlmCache :=
  storeCachePayload env .expansion key (queriesJson queries) storedAt
    (storedAt + cfg.cache.expansionTtlDays * dayNanoseconds) cfg.cache.maxPayloadBytes s

/-- What a search makes of the queries that the extractor answered with. -/
def expandedQueries (cfg : CacheConfig) (query : String) (queries : List String) : List String :=
  let normalized := normalizeQueries env queries query cfg.expansion.includeOriginal
    cfg.expansion.maxQueries
  if normalized.isEmpty then [query] else normalized

/-- `expand_queries` up to the answer of the cache. -/
def lookUpExpansion (cfg : CacheConfig) (query : String) (now : Nat) (s : LlmCache)
    : Option (List String) × LlmCache :=
  if cfg.cache.enabled then
    readExpansionCacheQueries (buildExpansionCacheKey env cfg query) now s
  else
    (none, s)

/-- `expand_queries` from the answer of the extractor on, if there is one. -/
def answerExpansion (cfg : CacheConfig) (query : String) (reply : Option Json) (storedAt : Nat)
    (s : LlmCache) : List String × LlmCache :=
  match reply.bind queriesOfJson with
  | none => ([query], s)
  | some queries =>
    let result := expandedQueries env cfg query queries
    (result,
      if cfg.cache.enabled then
        storeExpansionCacheQueries env cfg (buildExpansionCacheKey env cfg query) result storedAt s
      else
        s)

/-! ## Rerank scores -/

def rerankCacheSchemaVersion : Nat := 1

/-- There is none with a time that cannot be written, at which the search ends. -/
def rerankSignature (candidates : List RerankCacheCandidate) : Option (List Json) :=
  candidates.mapM fun candidate => do
    let updatedAt ← env.serde.toJson candidate.updatedAt
    return .obj [("chunk_id", uuidJson candidate.chunkId), ("updated_at", updatedAt)]

/-- What the key of rerank scores is the hash of. -/
def rerankKeyPayload (cfg : CacheConfig) (query : String) (candidates : List RerankCacheCandidate)
    : Option Json := do
  let signature ← rerankSignature env candidates
  return .obj [
    ("candidates", .arr signature),
    ("kind", .str "rerank"),
    ("model", .str cfg.rerank.model),
    ("provider_id", .str cfg.rerank.providerId),
    ("query", .str (trim query)),
    ("schema_version", .num rerankCacheSchemaVersion)]

def buildRerankCacheKey (cfg : CacheConfig) (query : String) (candidates : List RerankCacheCandidate)
    : Option String :=
  (rerankKeyPayload env cfg query candidates).map env.hash

/-- `rerank_snippet_items` up to the answer of the cache. -/
def lookUpScores (cfg : CacheConfig) (query : String) (candidates : List RerankCacheCandidate)
    (now : Nat) (s : LlmCache) : Option (List F32) × LlmCache :=
  if candidates.isEmpty then
    (some [], s)
  else if !cfg.cache.enabled then
    (none, s)
  else
    match buildRerankCacheKey env cfg query candidates with
    | none => (none, s)
    | some key =>
      let (payload, s) := fetchCachePayload .rerank key now s
      (readRerankCacheScores env.serde payload candidates, s)

def storeRerankCacheScores (cfg : CacheConfig) (key : String) (candidates : List RerankCacheCandidate)
    (scores : List F32) (storedAt : Nat) (s : LlmCache) : LlmCache :=
  match rerankCachePayload env.serde candidates scores with
  | none => s
  | some payload =>
    storeCachePayload env .rerank key payload storedAt
      (storedAt + cfg.cache.rerankTtlDays * dayNanoseconds) cfg.cache.maxPayloadBytes s

/-- `rerank_snippet_items` from the scores of the provider on. -/
def answerScores (cfg : CacheConfig) (query : String) (candidates : List RerankCacheCandidate)
    (scores : List F32) (storedAt : Nat) (s : LlmCache) : Except String (List F32) × LlmCache :=
  if scores.length ≠ candidates.length then
    (.error "Rerank provider returned mismatched score count.", s)
  else
    let key := if cfg.cache.enabled then buildRerankCacheKey env cfg query candidates else none
    match key with
    | none => (.ok scores, s)
    | some key =>
      (.ok scores,
        if candidates.isEmpty then s else storeRerankCacheScores env cfg key candidates scores storedAt s)

/-! ## Steps -/

/-- A statement of a search, under the configuration of its service, or one of the worker. -/
inductive CacheAction where
  | lookUpExpansion (cfg : CacheConfig) (query : String) (now : Nat)
  | answerExpansion (cfg : CacheConfig) (query : String) (reply : Option Json) (storedAt : Nat)
  | lookUpScores (cfg : CacheConfig) (query : String) (candidates : List RerankCacheCandidate)
    (now : Nat)
  | answerScores (cfg : CacheConfig) (query : String) (candidates : List RerankCacheCandidate)
    (scores : List F32) (storedAt : Nat)
  | purgeExpiredCache (now : Nat)

def CacheAction.exec : CacheAction → LlmCache → LlmCache
  | lookUpExpansion cfg query now, s => (Elf.lookUpExpansion env cfg query now s).2
  | answerExpansion cfg query reply storedAt, s => (Elf.answerExpansion env cfg query reply storedAt s).2
  | lookUpScores cfg query candidates now, s => (Elf.lookUpScores env cfg query candidates now s).2
  | answerScores cfg query candidates scores storedAt, s =>
    (Elf.answerScores env cfg query candidates scores storedAt s).2
  | purgeExpiredCache now, s => Elf.purgeExpiredCache now s

/-- The step relation of the cache. -/
def CacheSteps (s : LlmCache) (a : CacheAction) (t : LlmCache) : Prop := a.exec env s = t

end Elf
