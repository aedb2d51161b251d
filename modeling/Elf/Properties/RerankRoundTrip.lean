import Elf.Lib.Lookup
import Elf.Search.TraceSnapshot

/-!
This module contains what the cache of rerank scores returns: scores that were stored for the same
chunks at the same times, or nothing.
-/

namespace Elf

variable {serde : TimeSerde} {pairs pairs' : List (RerankCacheCandidate × F32)}
  {candidates : List RerankCacheCandidate} {scores : List F32} {items : List RerankCacheItem}

/-! ## Payloads -/

/-- The candidate and its score are of their types, and its time can be written to JSON and read. -/
structure StorableScore (serde : TimeSerde) (pair : RerankCacheCandidate × F32) : Prop where
  chunkId : pair.1.chunkId < 2 ^ 128
  score : f32Fits pair.2
  time : ∃ json, serde.toJson pair.1.updatedAt = some json
    ∧ serde.ofJson json = some pair.1.updatedAt

def rerankItem (pair : RerankCacheCandidate × F32) : RerankCacheItem :=
  ⟨pair.1.chunkId, pair.1.updatedAt, pair.2⟩

theorem RerankCacheItem.ofJson_toJson {pair : RerankCacheCandidate × F32}
    (h : StorableScore serde pair)
    : ∃ json, (rerankItem pair).toJson serde = some json
      ∧ RerankCacheItem.ofJson serde json
        = if pair.2.isFinite then some (rerankItem pair) else none := by
  rcases h.time with ⟨time, htime, hread⟩
  generalize hchunkId : uuidJson pair.1.chunkId = chunkId
  generalize hscore : scoreJson pair.2 = score
  have hjson : (rerankItem pair).toJson serde
      = some (.obj [("chunk_id", chunkId), ("score", score), ("updated_at", time)]) := by
    unfold RerankCacheItem.toJson
    rw [rerankItem, htime, hchunkId, hscore]
    rfl
  refine ⟨_, hjson, ?_⟩
  have hchunk : readUuid chunkId = some pair.1.chunkId := by
    rw [← hchunkId]
    exact readUuid_uuidJson h.chunkId
  have hfinite : readF32 score = if pair.2.isFinite then some pair.2 else none := by
    rw [← hscore]
    exact readF32_scoreJson h.score
  unfold RerankCacheItem.ofJson
  rw [readField_of_get (rfl : Json.get _ "chunk_id" = some chunkId),
    readField_of_get (rfl : Json.get _ "updated_at" = some time),
    readField_of_get (rfl : Json.get _ "score" = some score), hchunk, hread, hfinite]
  cases pair.2.isFinite with
  | true => rfl
  | false => rfl

theorem mapM_items (h : ∀ pair ∈ pairs, StorableScore serde pair)
    : ∃ jsons, (pairs.map rerankItem).mapM (RerankCacheItem.toJson serde) = some jsons
      ∧ jsons.mapM (RerankCacheItem.ofJson serde)
        = if pairs.all (fun pair => pair.2.isFinite) then some (pairs.map rerankItem) else none := by
  induction pairs with
  | nil => exact ⟨[], rfl, rfl⟩
  | cons pair pairs ih =>
    rcases RerankCacheItem.ofJson_toJson (h pair (List.mem_cons_self ..)) with ⟨json, hjson, hread⟩
    rcases ih fun other hother => h other (List.mem_cons_of_mem _ hother)
      with ⟨jsons, hjsons, hreads⟩
    refine ⟨json :: jsons, ?_, ?_⟩
    . rw [List.map_cons, List.mapM_cons, hjson, hjsons]
      rfl
    . rw [List.mapM_cons, hread, hreads, List.all_cons, List.map_cons]
      cases pair.2.isFinite with
      | false => rfl
      | true =>
        cases pairs.all fun pair => pair.2.isFinite with
        | false => rfl
        | true => rfl

/-- A payload is read back as it was, unless one of its scores is not finite. -/
theorem rerankCachePayload_reads (h : ∀ pair ∈ pairs, StorableScore serde pair)
    : ∃ json, rerankCachePayload serde (pairs.map Prod.fst) (pairs.map Prod.snd) = some json
      ∧ RerankCachePayload.ofJson serde json
        = if pairs.all (fun pair => pair.2.isFinite) then some ⟨pairs.map rerankItem⟩ else none := by
  rcases mapM_items h with ⟨jsons, hjsons, hreads⟩
  refine ⟨.obj [("items", .arr jsons)], ?_, ?_⟩
  . have hzip : (pairs.map Prod.fst).zip (pairs.map Prod.snd) = pairs := by
      rw [List.zip_map', List.map_id']
    unfold rerankCachePayload RerankCachePayload.toJson
    rw [hzip]
    have hitems : (pairs.map fun entry => (⟨entry.1.chunkId, entry.1.updatedAt, entry.2⟩
        : RerankCacheItem)) = pairs.map rerankItem := rfl
    rw [hitems, hjsons]
    rfl
  . have hfield : readField Json.asArr (.obj [("items", .arr jsons)]) "items" = some jsons := rfl
    unfold RerankCachePayload.ofJson
    rw [hfield, Option.bind_eq_bind, Option.bind_some, hreads]
    split
    . rfl
    . rfl

/-! ## Scores -/

theorem rerankCacheKey_injective {a b : RerankCacheCandidate}
    (h : rerankCacheKey a.chunkId a.updatedAt = rerankCacheKey b.chunkId b.updatedAt) : a = b := by
  unfold rerankCacheKey at h
  rw [RerankCacheKey.mk.injEq] at h
  have htime : a.updatedAt = b.updatedAt := by omega
  cases a
  cases b
  simp only at h htime
  rw [h.1, htime]

theorem rerankScoreMap_eq (items : List RerankCacheItem)
    : rerankScoreMap items
        = (items.map fun item => (rerankCacheKey item.chunkId item.updatedAt, item.score)).reverse := by
  unfold rerankScoreMap
  rw [List.foldl_flip_cons_eq_append, List.append_nil]

/-- What the map has for a candidate is a score that was stored for it. -/
theorem mem_pairs_of_lookup {candidate : RerankCacheCandidate} {score : F32}
    (h : (rerankScoreMap (pairs.map rerankItem)).lookup
      (rerankCacheKey candidate.chunkId candidate.updatedAt) = some score)
    : (candidate, score) ∈ pairs := by
  have hmem := Lookup.mem_of_lookup h
  rw [rerankScoreMap_eq, List.mem_reverse, List.map_map, List.mem_map] at hmem
  rcases hmem with ⟨pair, hpair, heq⟩
  rw [Function.comp_apply, Prod.mk.injEq] at heq
  have hcandidate : pair.1 = candidate := rerankCacheKey_injective heq.1
  have hscore : pair.2 = score := heq.2
  rw [← hcandidate, ← hscore]
  exact hpair

theorem lookup_isSome {candidate : RerankCacheCandidate} (h : candidate ∈ pairs.map Prod.fst)
    : ∃ score, (rerankScoreMap (pairs.map rerankItem)).lookup
      (rerankCacheKey candidate.chunkId candidate.updatedAt) = some score := by
  rcases List.mem_map.mp h with ⟨pair, hpair, heq⟩
  have hkey : rerankCacheKey candidate.chunkId candidate.updatedAt
      ∈ (rerankScoreMap (pairs.map rerankItem)).map Prod.fst := by
    rw [rerankScoreMap_eq, List.map_reverse, List.mem_reverse, List.map_map, List.map_map,
      List.mem_map]
    exact ⟨pair, hpair, by rw [← heq]; rfl⟩
  rcases Lookup.lookup_isSome_of_mem hkey with ⟨entry, -, hentry⟩
  exact ⟨entry.2, hentry⟩

theorem mapM_eq_some_forall₂ {α β : Type} {f : α → Option β} {as : List α} {bs : List β}
    (h : as.mapM f = some bs) : List.Forall₂ (fun a b => f a = some b) as bs := by
  induction as generalizing bs with
  | nil =>
    cases h
    exact List.Forall₂.nil
  | cons a as ih =>
    rw [List.mapM_cons, Option.bind_eq_bind, Option.bind_eq_some_iff] at h
    rcases h with ⟨b, hb, hrest⟩
    rw [Option.bind_eq_bind, Option.bind_eq_some_iff] at hrest
    rcases hrest with ⟨rest, hmap, heq⟩
    cases heq
    exact List.Forall₂.cons hb (ih hmap)

/-- The scores that are found are stored for the same candidates. -/
theorem buildCachedScores_stored
    (h : buildCachedScores ⟨pairs.map rerankItem⟩ candidates = some scores)
    : candidates.length = pairs.length
      ∧ List.Forall₂ (fun candidate score => (candidate, score) ∈ pairs) candidates scores := by
  unfold buildCachedScores at h
  split at h
  . contradiction
  next hlength =>
    rw [List.length_map, not_not] at hlength
    exact ⟨hlength.symm, (mapM_eq_some_forall₂ h).imp fun _ _ hlookup => mem_pairs_of_lookup hlookup⟩

/-- Equal candidates have equal scores. -/
def ConsistentScores (pairs : List (RerankCacheCandidate × F32)) : Prop :=
  ∀ a ∈ pairs, ∀ b ∈ pairs, a.1 = b.1 → a.2 = b.2

instance : Decidable (ConsistentScores pairs) :=
  inferInstanceAs (Decidable (∀ a ∈ pairs, ∀ b ∈ pairs, a.1 = b.1 → a.2 = b.2))

theorem buildCachedScores_perm (hconsistent : ConsistentScores pairs) (hperm : pairs'.Perm pairs)
    : buildCachedScores ⟨pairs.map rerankItem⟩ (pairs'.map Prod.fst) = some (pairs'.map Prod.snd) := by
  have hlength := hperm.length_eq
  have hmem : ∀ pair ∈ pairs', pair ∈ pairs := fun pair => hperm.mem_iff.mp
  unfold buildCachedScores
  rw [if_neg (by simp [hlength])]
  clear hperm hlength
  induction pairs' with
  | nil => rfl
  | cons pair rest ih =>
    have hpair := hmem pair (List.mem_cons_self ..)
    rcases lookup_isSome (List.mem_map_of_mem (f := Prod.fst) hpair) with ⟨score, hscore⟩
    have heq : score = pair.2 :=
      hconsistent (pair.1, score) (mem_pairs_of_lookup hscore) pair hpair rfl
    rw [List.map_cons, List.map_cons, List.mapM_cons, hscore, heq,
      ih fun other hother => hmem other (List.mem_cons_of_mem _ hother)]
    rfl

/-! ## Round trips -/

/-- The candidates differ from those that were stored in what the cache looks at. -/
inductive Differs (pairs : List (RerankCacheCandidate × F32)) (candidates : List RerankCacheCandidate)
    : Prop where
  | length : candidates.length ≠ pairs.length → Differs pairs candidates
  | unknown : (∃ candidate ∈ candidates, candidate ∉ pairs.map Prod.fst) → Differs pairs candidates
  | distinct : (pairs.map Prod.fst).Nodup → candidates.Nodup →
    ¬ candidates.Perm (pairs.map Prod.fst) → Differs pairs candidates

theorem not_differs_of_stored (hlength : candidates.length = pairs.length)
    (hstored : List.Forall₂ (fun candidate score => (candidate, score) ∈ pairs) candidates scores)
    : ¬ Differs pairs candidates := by
  have hsubset : candidates ⊆ pairs.map Prod.fst := by
    intro candidate hcandidate
    rcases List.getElem_of_mem hcandidate with ⟨i, hi, heq⟩
    have hpair := List.forall₂_iff_get.mp hstored |>.2 i hi (by rw [← hstored.length_eq]; exact hi)
    simp only [List.get_eq_getElem, heq] at hpair
    exact List.mem_map_of_mem (f := Prod.fst) hpair
  intro hdiffers
  cases hdiffers with
  | length hne => exact hne hlength
  | unknown hunknown =>
    rcases hunknown with ⟨candidate, hcandidate, hnot⟩
    exact hnot (hsubset hcandidate)
  | distinct hnodup hdistinct hperm =>
    apply hperm
    apply (List.subperm_of_subset hdistinct hsubset).perm_of_length_le
    rw [List.length_map, hlength]

/-- The payload of scores is read back for the candidates in any order, and for other candidates only
scores of the same chunks at the same times are. -/
theorem rerankCache_roundTrip (h : ∀ pair ∈ pairs, StorableScore serde pair)
    : ∃ json, rerankCachePayload serde (pairs.map Prod.fst) (pairs.map Prod.snd) = some json
      ∧ ((∀ pair ∈ pairs, pair.2.isFinite = true) →
        (ConsistentScores pairs → ∀ pairs' : List (RerankCacheCandidate × F32), pairs'.Perm pairs →
          readRerankCacheScores serde (some json) (pairs'.map Prod.fst)
            = some (pairs'.map Prod.snd))
        ∧ (∀ (candidates : List RerankCacheCandidate) (scores : List F32),
          readRerankCacheScores serde (some json) candidates = some scores →
          List.Forall₂ (fun candidate score => (candidate, score) ∈ pairs) candidates scores)
        ∧ ∀ candidates, Differs pairs candidates →
          readRerankCacheScores serde (some json) candidates = none)
      ∧ ((∃ pair ∈ pairs, pair.2.isFinite = false) → ∀ candidates, candidates ≠ [] →
        readRerankCacheScores serde (some json) candidates = none) := by
  rcases rerankCachePayload_reads h with ⟨json, hjson, hread⟩
  have hscores : ∀ candidates, readRerankCacheScores serde (some json) candidates
      = buildCachedScores ((RerankCachePayload.ofJson serde json).getD ⟨[]⟩) candidates :=
    fun _ => rfl
  refine ⟨json, hjson, ?_, ?_⟩
  . intro hfinite
    rw [if_pos (by simpa using hfinite)] at hread
    simp only [hscores, hread, Option.getD_some]
    refine ⟨?_, ?_, ?_⟩
    . intro hconsistent pairs' hperm
      exact buildCachedScores_perm hconsistent hperm
    . intro candidates scores hfound
      exact (buildCachedScores_stored hfound).2
    . intro candidates hdiffers
      cases hfound : buildCachedScores ⟨pairs.map rerankItem⟩ candidates with
      | none => rfl
      | some scores =>
        have hstored := buildCachedScores_stored hfound
        exact absurd hdiffers (not_differs_of_stored hstored.1 hstored.2)
  . intro hinfinite candidates hcandidates
    rw [if_neg (by simpa using hinfinite)] at hread
    rw [hscores, hread, Option.getD_none]
    unfold buildCachedScores
    rw [if_pos]
    intro hlength
    exact hcandidates (List.length_eq_zero_iff.mp hlength.symm)

def epochJson : Json := .arr ([1970, 1, 0, 0, 0, 0, 0, 0, 0].map Json.num)

def epochSerde : TimeSerde where
  toJson time := if time = 0 then some epochJson else none
  ofJson json := if json = epochJson then some 0 else none

theorem epochSerde_ofJson : epochSerde.ofJson epochJson = some 0 := by
  simp [epochSerde]

theorem storableScore_epoch {chunkId : Uuid} {score : F32} (hchunk : chunkId < 2 ^ 128)
    (hscore : f32Fits score) : StorableScore epochSerde (⟨chunkId, 0⟩, score) where
  chunkId := hchunk
  score := hscore
  time := ⟨epochJson, rfl, epochSerde_ofJson⟩

def epochScores : List (RerankCacheCandidate × F32) := [
  (⟨1, 0⟩, .fin (1 / 2)),
  (⟨2, 0⟩, .fin (1 / 4))]

theorem f32Fits_epochScores : ∀ pair ∈ epochScores, f32Fits pair.2 := by
  intro pair hpair
  simp only [epochScores, List.mem_cons, List.not_mem_nil, or_false] at hpair
  rcases hpair with rfl | rfl
  . exact ⟨by norm_num [F32.max], by norm_num [F32.max]⟩
  . exact ⟨by norm_num [F32.max], by norm_num [F32.max]⟩

theorem rerankCache_roundTrip_epoch
    : ∃ json, rerankCachePayload epochSerde [⟨1, 0⟩, ⟨2, 0⟩] [.fin (1 / 2), .fin (1 / 4)] = some json
      ∧ readRerankCacheScores epochSerde (some json) [⟨2, 0⟩, ⟨1, 0⟩]
        = some [.fin (1 / 4), .fin (1 / 2)]
      ∧ readRerankCacheScores epochSerde (some json) [⟨2, 0⟩, ⟨3, 0⟩] = none := by
  have hstorable : ∀ pair ∈ epochScores, StorableScore epochSerde pair := by
    intro pair hpair
    have hfits := f32Fits_epochScores pair hpair
    simp only [epochScores, List.mem_cons, List.not_mem_nil, or_false] at hpair
    rcases hpair with rfl | rfl
    . exact storableScore_epoch (by norm_num) hfits
    . exact storableScore_epoch (by norm_num) hfits
  rcases rerankCache_roundTrip hstorable with ⟨json, hjson, hfinite, -⟩
  have hreads := hfinite (by decide)
  refine ⟨json, hjson, ?_, ?_⟩
  . exact hreads.1 (by decide +kernel) [(⟨2, 0⟩, .fin (1 / 4)), (⟨1, 0⟩, .fin (1 / 2))]
      (List.Perm.swap ..)
  . exact hreads.2.2 _ (.unknown ⟨⟨3, 0⟩, by decide, by decide⟩)

/-- The scores of a repeated chunk are not both kept, and only the length and the chunks are compared,
so that a list with other repetitions is a hit. -/
theorem rerankCache_repeated
    : ((rerankCachePayload epochSerde [⟨1, 0⟩, ⟨1, 0⟩] [.fin (1 / 2), .fin (1 / 4)]).bind fun json =>
          readRerankCacheScores epochSerde (some json) [⟨1, 0⟩, ⟨1, 0⟩])
        = some [.fin (1 / 4), .fin (1 / 4)]
      ∧ ((rerankCachePayload epochSerde [⟨1, 0⟩, ⟨1, 0⟩, ⟨2, 0⟩]
            [.fin (1 / 2), .fin (1 / 2), .fin (1 / 4)]).bind fun json =>
          readRerankCacheScores epochSerde (some json) [⟨1, 0⟩, ⟨2, 0⟩, ⟨2, 0⟩])
        = some [.fin (1 / 2), .fin (1 / 4), .fin (1 / 4)] := by
  decide +kernel

end Elf
