import Elf.Properties.TracePersistence
import Elf.Search.TraceGet

/-!
This module contains the listing of recent traces, page after page, while searches and workers go on:
no trace is listed twice, the newer ones come first, and none is missed that is there all the while.
-/

namespace Elf

/-! ## Pages -/

/-- The request for the page behind a cursor. -/
def TraceRecentListRequest.after (req : TraceRecentListRequest) (cursor : Option TraceRecentCursor)
    : TraceRecentListRequest :=
  { req with
    cursorCreatedAt := cursor.map (·.createdAt)
    cursorTraceId := cursor.map (·.traceId) }

/-- Page after page, to the last one, each of the tables as they are then. -/
inductive RecentTracesWalk (req : TraceRecentListRequest)
    : Option TraceRecentCursor → List TraceDb → List RecentTraceHeader → Prop where
  | last (hlist : traceRecentList db (req.after cursor) = .ok response)
      (hend : response.nextCursor = none)
    : RecentTracesWalk req cursor [db] response.traces
  | more (hlist : traceRecentList db (req.after cursor) = .ok response)
      (hnext : response.nextCursor = some next) (later : RecentTracesWalk req (some next) dbs listed)
    : RecentTracesWalk req cursor (db :: dbs) (response.traces ++ listed)

variable {serde : TimeSerde} {payloads : List TracePayload} {db : TraceDb} {dbs : List TraceDb}
  {req : TraceRecentListRequest} {response : TraceRecentListResponse} {cursor : Option TraceRecentCursor}

def TraceRecentCursor.key (cursor : TraceRecentCursor) : Nat ×ₗ Nat :=
  toLex (timestamptz cursor.createdAt, cursor.traceId)

/-- The traces that a request asks for. -/
def TraceRecentListRequest.selected (req : TraceRecentListRequest) (db : TraceDb) : List SearchTraceRow :=
  db.traces.rows.filter req.selects

/-- The times of the rows are those that the table can hold. -/
def TraceDb.Timestamps (db : TraceDb) : Prop :=
  ∀ row ∈ db.traces, timestamptz row.createdAt = row.createdAt

theorem nodup_recency (req : TraceRecentListRequest) (db : TraceDb)
    : ((req.selected db).map SearchTraceRow.recency).Nodup := by
  have hids : ((req.selected db).map SearchTraceRow.traceId).Nodup :=
    (List.filter_sublist.map _).nodup db.traces.nodup
  apply List.Nodup.of_map (fun key : Nat ×ₗ Nat => (ofLex key).2)
  rw [List.map_map]
  exact hids

theorem limit_of_check (h : req.check = .ok ())
    : 0 < req.limitOrDefault ∧ req.limitOrDefault ≤ maxRecentTracesLimit := by
  unfold TraceRecentListRequest.check at h
  rcases Except.bind_eq_ok.mp h with ⟨_, -, h⟩
  rcases Except.bind_eq_ok.mp h with ⟨_, -, h⟩
  rcases Except.bind_eq_ok.mp h with ⟨_, hlimit, -⟩
  rw [Except.rejectIf_eq_ok] at hlimit
  simp only [Bool.or_eq_false_iff, decide_eq_false_iff_not] at hlimit
  omega

/-- The rows that are looked up for a page. -/
theorem traceRecentList_rows (h : traceRecentList db (req.after cursor) = .ok response)
    : 0 < req.limitOrDefault
      ∧ ∃ rows, rows = (Paging.rest SearchTraceRow.recency (cursor.map (·.key)) (req.selected db)).take
          (req.limitOrDefault + 1)
        ∧ response.traces = (rows.take req.limitOrDefault).map SearchTraceRow.recentHeader
        ∧ response.nextCursor = if req.limitOrDefault < rows.length then
            rows[req.limitOrDefault - 1]?.map fun row => ⟨row.createdAt, row.traceId⟩ else none := by
  unfold traceRecentList at h
  rcases Except.bind_eq_ok.mp h with ⟨⟨⟩, hcheck, hpure⟩
  have hlimit : 0 < req.limitOrDefault ∧ req.limitOrDefault ≤ maxRecentTracesLimit :=
    (limit_of_check hcheck : _ ∧ (req.after cursor).limitOrDefault ≤ _)
  cases hpure
  refine ⟨hlimit.1, _, ?_, rfl, rfl⟩
  have hcursor : (req.after cursor).cursor = cursor.map (·.key) := by
    cases cursor <;> rfl
  have hfetch : min ((req.after cursor).limitOrDefault + 1) (maxRecentTracesLimit + 1)
      = req.limitOrDefault + 1 := Nat.min_eq_left (Nat.succ_le_succ hlimit.2)
  unfold Paging.rest TraceRecentListRequest.selected
  rw [hcursor, hfetch, List.filter_filter]
  congr 2
  apply List.filter_congr
  intro row _
  rw [Bool.and_comm]
  rfl

/-- A page of the service is a page of the selected traces. -/
theorem traceRecentList_page (hdb : db.Timestamps)
    (h : traceRecentList db (req.after cursor) = .ok response)
    : response.traces = (Paging.page SearchTraceRow.recency req.limitOrDefault (cursor.map (·.key))
          (req.selected db)).rows.map SearchTraceRow.recentHeader
      ∧ response.nextCursor.map (·.key) = (Paging.page SearchTraceRow.recency req.limitOrDefault
          (cursor.map (·.key)) (req.selected db)).next := by
  rcases traceRecentList_rows h with ⟨-, rows, hrows, htraces, hnext⟩
  unfold Paging.page
  dsimp only
  rw [← hrows]
  refine ⟨htraces, ?_⟩
  rw [hnext, apply_ite (Option.map TraceRecentCursor.key), Option.map_map, Option.map_none]
  congr 1
  cases hlast : rows[req.limitOrDefault - 1]? with
  | none => rfl
  | some row =>
    have hmem : row ∈ db.traces := by
      have hmem := List.mem_of_getElem? hlast
      rw [hrows] at hmem
      have hselected := (Paging.mem_rest.mp (List.mem_of_mem_take hmem)).1
      exact (List.mem_filter.mp hselected).1
    rw [Option.map_some, Option.map_some, Function.comp_apply]
    unfold TraceRecentCursor.key SearchTraceRow.recency
    rw [hdb row hmem]

/-- The pages of the service are those of the selected traces. -/
theorem RecentTracesWalk.pages (hdbs : ∀ db ∈ dbs, db.Timestamps)
    (h : RecentTracesWalk req cursor dbs listed)
    : 0 < req.limitOrDefault ∧ ∃ rows, listed = rows.map SearchTraceRow.recentHeader
      ∧ Paging.Walk SearchTraceRow.recency req.limitOrDefault (cursor.map (·.key))
          (dbs.map req.selected) rows := by
  induction h with
  | last hlist hend =>
    rcases traceRecentList_page (hdbs _ List.mem_cons_self) hlist with ⟨htraces, hnext⟩
    refine ⟨(traceRecentList_rows hlist).1, _, htraces, .last ?_⟩
    rw [← hnext, hend]
    rfl
  | more hlist hnext later ih =>
    rcases traceRecentList_page (hdbs _ List.mem_cons_self) hlist with ⟨htraces, hpage⟩
    rcases ih fun db hdb => hdbs db (List.mem_cons_of_mem _ hdb) with ⟨hlimit, rows, hrows, hwalk⟩
    rw [hnext] at hpage
    refine ⟨hlimit, _, ?_, .more hpage.symm hwalk⟩
    rw [htraces, hrows, List.map_append]

theorem check_after (hcheck : req.check = .ok ()) (cursor : Option TraceRecentCursor)
    : (req.after cursor).check = .ok () := by
  unfold TraceRecentListRequest.check at hcheck ⊢
  rcases Except.bind_eq_ok.mp hcheck with ⟨⟨⟩, -, hrest⟩
  rw [Except.bind_eq_ok]
  refine ⟨(), ?_, hrest⟩
  rw [Except.rejectIf_eq_ok]
  cases cursor <;> rfl

theorem exists_walk (hdbs : ∀ db ∈ dbs, db.Timestamps) (hcheck : req.check = .ok ())
    {key : Option (Nat ×ₗ Nat)} {collections : List (List SearchTraceRow)}
    (h : Paging.Walk SearchTraceRow.recency req.limitOrDefault key collections rows)
    (hcollections : collections = dbs.map req.selected) (hkey : cursor.map (·.key) = key)
    : ∃ listed, RecentTracesWalk req cursor dbs listed := by
  induction h generalizing dbs cursor with
  | last hend =>
    rcases List.map_eq_singleton_iff.mp hcollections.symm with ⟨db, rfl, rfl⟩
    have hlist : ∃ response, traceRecentList db (req.after cursor) = .ok response := by
      unfold traceRecentList
      rw [check_after hcheck]
      exact ⟨_, rfl⟩
    rcases hlist with ⟨response, hlist⟩
    refine ⟨_, .last hlist ?_⟩
    have hnext := (traceRecentList_page (hdbs _ List.mem_cons_self) hlist).2
    rw [hkey, hend] at hnext
    exact Option.map_eq_none_iff.mp hnext
  | more hnext later ih =>
    rcases List.map_eq_cons_iff.mp hcollections.symm with ⟨db, dbs, rfl, rfl, hrest⟩
    have hlist : ∃ response, traceRecentList db (req.after cursor) = .ok response := by
      unfold traceRecentList
      rw [check_after hcheck]
      exact ⟨_, rfl⟩
    rcases hlist with ⟨response, hlist⟩
    have hpage := (traceRecentList_page (hdbs _ List.mem_cons_self) hlist).2
    rw [hkey, hnext] at hpage
    rcases Option.map_eq_some_iff.mp hpage with ⟨next, hcursor, hkey'⟩
    have hnextKey : (some next).map (·.key) = some _ := congrArg some hkey'
    rcases ih (fun db hdb => hdbs db (List.mem_cons_of_mem _ hdb)) hrest.symm hnextKey
      with ⟨listed, hwalk⟩
    exact ⟨_, .more hlist hcursor hwalk⟩

/-- Of tables that stay as they are, the pages come to an end. -/
theorem exists_walk_const (hdb : db.Timestamps) (hcheck : req.check = .ok ())
    : ∃ n listed, n * req.limitOrDefault ≤ (req.selected db).length
      ∧ RecentTracesWalk req none (List.replicate (n + 1) db) listed := by
  rcases Paging.Walk.exists_of_const (limit_of_check hcheck).1 (nodup_recency req db) none
    with ⟨n, rows, hle, hwalk⟩
  have hdbs : ∀ other ∈ List.replicate (n + 1) db, other.Timestamps := by
    intro other hother
    rw [(List.mem_replicate.mp hother).2]
    exact hdb
  have hfirst : (none : Option TraceRecentCursor).map (·.key) = none := rfl
  rcases exists_walk hdbs hcheck hwalk List.map_replicate.symm hfirst with ⟨listed, hlisted⟩
  refine ⟨n, listed, hle.trans ?_, hlisted⟩
  unfold Paging.rest
  rw [OrderBy.length_orderBy]
  exact List.length_filter_le ..

/-! ## Runs -/

theorem DistinctIds.sublist {payloads' : List TracePayload} (h : DistinctIds payloads)
    (hsub : payloads'.Sublist payloads) : DistinctIds payloads' := by
  have hkeys : ∀ {α κ : Type} {key : α → κ} {rows : TracePayload → List α},
      KeysApart key rows payloads → KeysApart key rows payloads' := by
    intro α κ key rows hapart
    exact ((hsub.flatMap rows).map key).nodup hapart
  exact ⟨(hsub.map _).nodup h.traces, hkeys h.items, hkeys h.candidates, hkeys h.stages,
    hkeys h.stageItems⟩

theorem TraceDb.Holds.timestamps (h : db.Holds S) : db.Timestamps := by
  intro row hrow
  rcases (h.traces row).mp hrow with ⟨p, -, hp⟩
  rw [List.mem_singleton.mp hp]
  exact timestamptz_timestamptz _

/--
Whoever asks for the recent traces page after page, to the last one, while searches and workers take
any steps between two pages, lists no trace twice and the newer ones first. What is listed was stored and
selected, and every selected trace that is stored all the while is listed.
-/
theorem recentTraces_walk {stores : List TraceStore}
    (hstores : ∀ s ∈ stores, ∃ before, before <+: as
      ∧ Run (Run.Guarded TraceStore.FreshJob (TraceSteps serde)) TraceStore.empty before s)
    (hdistinct : DistinctIds (as.filterMap TraceAction.payload))
    (hstorable : ∀ p ∈ as.filterMap TraceAction.payload, p.Storable serde)
    (hwalk : RecentTracesWalk req none (stores.map (·.db)) listed)
    : (listed.map (·.traceId)).Nodup
      ∧ listed.Pairwise (fun a b => toLex (b.createdAt, b.traceId) < toLex (a.createdAt, a.traceId))
      ∧ (∀ header ∈ listed, ∃ s ∈ stores, ∃ row ∈ s.db.traces, req.selects row
          ∧ header = row.recentHeader)
      ∧ ∀ row, (∀ s ∈ stores, row ∈ s.db.traces) → req.selects row → row.recentHeader ∈ listed := by
  have hholds : ∀ s ∈ stores, ∃ S : Set TracePayload,
      (∀ p ∈ S, p ∈ as.filterMap TraceAction.payload) ∧ s.db.Holds S := by
    intro s hs
    rcases hstores s hs with ⟨before, hprefix, hrun⟩
    have hsub := hprefix.sublist.filterMap TraceAction.payload
    rcases exists_holds hrun (hdistinct.sublist hsub) (fun p hp => hstorable p (hsub.subset hp))
      with ⟨S, hS, hholds⟩
    exact ⟨S, fun p hp => hsub.subset (hS p hp), hholds⟩
  have hdbs : ∀ db ∈ stores.map (·.db), db.Timestamps := by
    intro db hdb
    rcases List.mem_map.mp hdb with ⟨s, hs, rfl⟩
    rcases hholds s hs with ⟨S, -, hholds⟩
    exact hholds.timestamps
  rcases hwalk.pages hdbs with ⟨hlimit, rows, rfl, hpages⟩
  have hnodup : ∀ collection ∈ (stores.map (·.db)).map req.selected,
      (collection.map SearchTraceRow.recency).Nodup := by
    intro collection hmem
    rcases List.mem_map.mp hmem with ⟨db, -, rfl⟩
    exact nodup_recency req db
  have hsorted := hpages.pairwise hlimit hnodup
  have hstored : ∀ row ∈ rows, ∃ s ∈ stores, row ∈ s.db.traces ∧ req.selects row := by
    intro row hrow
    rcases hpages.mem_collection row hrow with ⟨collection, hmem, hrow⟩
    rw [List.map_map] at hmem
    rcases List.mem_map.mp hmem with ⟨s, hs, rfl⟩
    exact ⟨s, hs, List.mem_filter.mp hrow⟩
  refine ⟨?_, List.pairwise_map.mpr hsorted, ?_, ?_⟩
  . rw [List.map_map]
    have hrows : rows.Nodup := by
      apply hsorted.imp
      rintro a b hlt rfl
      exact lt_irrefl _ hlt
    apply hrows.map_on
    intro a ha b hb hid
    rcases hstored a ha with ⟨s, hs, hrow, -⟩
    rcases hstored b hb with ⟨t, ht, hrow', -⟩
    rcases hholds s hs with ⟨S, hS, hS'⟩
    rcases hholds t ht with ⟨T, hT, hT'⟩
    rcases (hS'.traces a).mp hrow with ⟨p, hp, hpa⟩
    rcases (hT'.traces b).mp hrow' with ⟨q, hq, hqb⟩
    rw [List.mem_singleton.mp hpa, List.mem_singleton.mp hqb] at hid ⊢
    rw [hdistinct.eq (hS p hp) (hT q hq) hid]
  . intro header hheader
    rcases List.mem_map.mp hheader with ⟨row, hrow, rfl⟩
    rcases hstored row hrow with ⟨s, hs, hmem, hselects⟩
    exact ⟨s, hs, row, hmem, hselects, rfl⟩
  . intro row hall hselects
    apply List.mem_map_of_mem
    apply hpages.mem_of_forall_mem hlimit hnodup
    . intro collection hmem
      rw [List.map_map] at hmem
      rcases List.mem_map.mp hmem with ⟨s, hs, rfl⟩
      exact List.mem_filter.mpr ⟨hall s hs, hselects⟩
    . nofun

/-! ## A search between two pages -/

/-- The header of a trace that is created on a day, and nothing else of it. -/
def bareTrace (n : Nat) : TracePayload where
  trace := { sampleTrace.trace with traceId := n, createdAt := day n }
  items := []
  candidates := []
  stages := []

theorem storable_bareTrace (h : n < 31) : (bareTrace n).Storable januarySerde where
  trace := { storable_sampleTrace.trace with
    traceId := Nat.lt_trans h (by decide)
    createdAt := januarySerde_keeps n h }
  items := nofun
  candidates := nofun
  stages := nofun

def threeSearches : List TraceAction :=
  [0, 1, 2].map fun n => .search "inline" n (day n) (bareTrace n)

/-- The store after some of the searches. -/
def searchedStore (n : Nat) : TraceStore :=
  (TraceStore.empty.run (threeSearches.take n)).getD .empty

theorem run_searchedStore {n : Nat}
    (h : (TraceStore.empty.run (threeSearches.take n)).isSome = true)
    : Run (Run.Guarded TraceStore.FreshJob (TraceSteps januarySerde)) .empty (threeSearches.take n)
        (searchedStore n) := by
  apply run_of_traceRun
  unfold searchedStore
  rw [Option.isSome_iff_exists] at h
  rcases h with ⟨s, hs⟩
  rw [hs, Option.getD_some]

def samplePageRequest : TraceRecentListRequest where
  tenantId := "t"
  projectId := "p"
  agentId := "a"
  limit := some 1
  cursorCreatedAt := none
  cursorTraceId := none
  agentIdFilter := none
  readProfile := none
  createdAfter := none
  createdBefore := none

theorem recentTraces_walk_threeSearches
    : RecentTracesWalk samplePageRequest none [(searchedStore 2).db, (searchedStore 3).db]
        [(bareTrace 1).trace.row.recentHeader, (bareTrace 0).trace.row.recentHeader]
      ∧ (bareTrace 0).trace.row.recentHeader
          ∈ [(bareTrace 1).trace.row.recentHeader, (bareTrace 0).trace.row.recentHeader] := by
  have hwalk : RecentTracesWalk samplePageRequest none ([searchedStore 2, searchedStore 3].map (·.db))
      [(bareTrace 1).trace.row.recentHeader, (bareTrace 0).trace.row.recentHeader] := by
    have hfirst : traceRecentList (searchedStore 2).db (samplePageRequest.after none)
        = .ok ⟨recentTracesSchemaV1, [(bareTrace 1).trace.row.recentHeader], some ⟨day 1, 1⟩⟩ := by
      decide +kernel
    have hsecond : traceRecentList (searchedStore 3).db (samplePageRequest.after (some ⟨day 1, 1⟩))
        = .ok ⟨recentTracesSchemaV1, [(bareTrace 0).trace.row.recentHeader], none⟩ := by
      decide +kernel
    exact .more hfirst rfl (.last hsecond rfl)
  have hstores : ∀ s ∈ [searchedStore 2, searchedStore 3], ∃ before, before <+: threeSearches
      ∧ Run (Run.Guarded TraceStore.FreshJob (TraceSteps januarySerde)) .empty before s := by
    intro s hs
    rw [List.mem_pair] at hs
    rcases hs with rfl | rfl
    . exact ⟨_, List.take_prefix 2 _, run_searchedStore (by decide +kernel)⟩
    . exact ⟨_, List.take_prefix 3 _, run_searchedStore (by decide +kernel)⟩
  have hdistinct : DistinctIds (threeSearches.filterMap TraceAction.payload) := by
    constructor
    . decide
    all_goals
      unfold KeysApart
      decide
  have hstorable : ∀ p ∈ threeSearches.filterMap TraceAction.payload, p.Storable januarySerde := by
    intro p hp
    change p ∈ [0, 1, 2].map bareTrace at hp
    rcases List.mem_map.mp hp with ⟨n, hn, rfl⟩
    apply storable_bareTrace
    simp at hn
    omega
  refine ⟨hwalk, (recentTraces_walk hstores hdistinct hstorable hwalk).2.2.2 _ ?_ ?_⟩
  . intro s hs
    rw [List.mem_pair] at hs
    rcases hs with rfl | rfl
    . exact List.mem_of_elem_eq_true (by decide +kernel)
    . exact List.mem_of_elem_eq_true (by decide +kernel)
  . decide +kernel

end Elf
