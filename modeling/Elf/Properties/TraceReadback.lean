import Elf.Properties.TracePersistence
import Elf.Search.TraceGet

/-!
This module contains what is read of the trace of a search: once it is stored, whether by the search or
by a worker, it is read as the search left it.
-/

namespace Elf

open OrderBy

variable {serde : TimeSerde} {payloads : List TracePayload} {p q : TracePayload} {db : TraceDb}
  {S : Set TracePayload} {E C : Type} {reader : TraceReader E C}

/-! ## Rows of a trace -/

/-- A number of 32 bits is read as it was stored. -/
theorem i32AsU32_u32AsI32 {n : Nat} (h : n < 4294967296) : i32AsU32 (u32AsI32 n) = n := by
  unfold i32AsU32 u32AsI32
  split <;> omega

theorem u32AsI32_inj {m n : Nat} (hm : m < 4294967296) (hn : n < 4294967296)
    (h : u32AsI32 m = u32AsI32 n) : m = n := by
  rw [← i32AsU32_u32AsI32 hm, h, i32AsU32_u32AsI32 hn]

theorem itemRows_perm (h : db.Holds S) (hdistinct : DistinctIds payloads)
    (hS : ∀ q ∈ S, q ∈ payloads) (hp : p ∈ S)
    : (db.items.rows.filter (·.traceId = p.trace.traceId)).Perm p.itemRows := by
  apply h.items.filter_perm (hdistinct.items.nodup (hS p hp))
  intro row
  rw [decide_eq_true_eq]
  constructor
  . intro hrow
    exact ⟨⟨p, hp, hrow⟩, traceId_itemRows hrow⟩
  . rintro ⟨⟨q, hq, hrow⟩, hid⟩
    rw [traceId_itemRows hrow] at hid
    rw [← hdistinct.eq (hS q hq) (hS p hp) hid]
    exact hrow

theorem stageRows_perm (h : db.Holds S) (hdistinct : DistinctIds payloads)
    (hS : ∀ q ∈ S, q ∈ payloads) (hp : p ∈ S)
    : (db.stages.rows.filter (·.traceId = p.trace.traceId)).Perm p.stageRows := by
  apply h.stages.filter_perm (hdistinct.stages.nodup (hS p hp))
  intro row
  rw [decide_eq_true_eq]
  constructor
  . intro hrow
    exact ⟨⟨p, hp, hrow⟩, traceId_stageRows hrow⟩
  . rintro ⟨⟨q, hq, hrow⟩, hid⟩
    rw [traceId_stageRows hrow] at hid
    rw [← hdistinct.eq (hS q hq) (hS p hp) hid]
    exact hrow

theorem DistinctIds.stageIds (h : DistinctIds payloads) (hp : p ∈ payloads)
    : (p.stages.map (·.stageId)).Nodup := by
  have hrows := h.stages.nodup hp
  unfold TracePayload.stageRows at hrows
  rw [List.map_map] at hrows
  exact hrows

/-- The items of one stage. -/
theorem stageItemRows_perm (h : db.Holds S) (hdistinct : DistinctIds payloads)
    (hS : ∀ q ∈ S, q ∈ payloads) (hp : p ∈ S) {stage : TraceTrajectoryStageRecord}
    (hstage : stage ∈ p.stages)
    : (db.stageItems.rows.filter (·.stageId = stage.stageId)).Perm
        (stage.items.map (TraceTrajectoryStageItemRecord.row stage.stageId)) := by
  have hnodup : ((stage.items.map (TraceTrajectoryStageItemRecord.row stage.stageId)).map
      SearchTraceStageItemRow.id).Nodup := by
    have hrows := hdistinct.stageItems.nodup (hS p hp)
    unfold TracePayload.stageItemRows stageItemRows at hrows
    rw [List.map_flatMap] at hrows
    exact (List.nodup_flatMap.mp hrows).1 stage hstage
  apply h.stageItems.filter_perm hnodup
  intro row
  rw [decide_eq_true_eq]
  constructor
  . intro hrow
    refine ⟨⟨p, hp, List.mem_flatMap.mpr ⟨stage, hstage, hrow⟩⟩, ?_⟩
    rcases List.mem_map.mp hrow with ⟨item, -, rfl⟩
    rfl
  . rintro ⟨⟨q, hq, hrow⟩, hid⟩
    rcases List.mem_flatMap.mp hrow with ⟨other, hother, hrow⟩
    rcases List.mem_map.mp hrow with ⟨item, hitem, rfl⟩
    change other.stageId = stage.stageId at hid
    have hsame := hdistinct.stages.eq (hS q hq) (hS p hp) (List.mem_map_of_mem hother)
      (List.mem_map_of_mem hstage) hid
    have htrace : q.trace.traceId = p.trace.traceId := congrArg (·.traceId) hsame
    have heq := hdistinct.eq (hS q hq) (hS p hp) htrace
    subst heq
    have heq := List.inj_on_of_nodup_map (hdistinct.stageIds (hS q hp)) hother hstage hid
    rw [← heq]
    exact List.mem_map_of_mem hitem

/-! ## Items -/

/-- What is read of a trace, but for the time, of which the table keeps the microseconds. -/
def TraceRecord.searchTrace (trace : TraceRecord) : SearchTrace where
  traceId := trace.traceId
  tenantId := trace.tenantId
  projectId := trace.projectId
  agentId := trace.agentId
  readProfile := trace.readProfile
  query := trace.query
  expansionMode := trace.expansionMode
  expandedQueries := trace.expandedQueries
  allowedScopes := trace.allowedScopes
  candidateCount := trace.candidateCount
  topK := trace.topK
  configSnapshot := trace.configSnapshot
  createdAt := timestamptz trace.createdAt
  traceVersion := trace.traceVersion

theorem searchTrace_row {trace : TraceRecord} (h : trace.Storable serde)
    : trace.row.searchTrace reader = .ok trace.searchTrace := by
  unfold SearchTraceRow.searchTrace TraceRecord.row TraceRecord.searchTrace decodeJson
  dsimp only
  rw [readList_stringsJson, readList_stringsJson, i32AsU32_u32AsI32 h.candidateCount,
    i32AsU32_u32AsI32 h.topK]
  rfl

/-- An item is read as the search left it. -/
structure ReadsItem (reader : TraceReader E C) (got : SearchExplainItem E) (item : TraceItemEntry)
    : Prop where
  resultHandle : got.resultHandle = item.itemId
  noteId : got.noteId = item.noteId
  chunkId : got.chunkId = item.chunkId
  rank : got.rank = item.rank
  explain : reader.explain item.explain = some got.explain

theorem explainItem_row {item : TraceItemEntry} (h : item.Storable) {explain : E}
    (hexplain : reader.explain item.explain = some explain) (traceId : Uuid)
    : ∃ got, (item.row traceId).explainItem reader = .ok got ∧ ReadsItem reader got item := by
  unfold SearchTraceItemRow.explainItem TraceItemEntry.row decodeJson
  dsimp only
  rw [hexplain, i32AsU32_u32AsI32 h.rank]
  exact ⟨_, rfl, rfl, rfl, rfl, rfl, hexplain⟩

theorem mapM_explainItem {items : List TraceItemEntry} (hitems : ∀ item ∈ items, item.Storable)
    (hexplain : ∀ item ∈ items, (reader.explain item.explain).isSome = true) (traceId : Uuid)
    : ∃ got, (items.map (TraceItemEntry.row traceId)).mapM (SearchTraceItemRow.explainItem reader) = .ok got
        ∧ List.Forall₂ (ReadsItem reader) got items := by
  induction items with
  | nil => exact ⟨[], rfl, .nil⟩
  | cons item items ih =>
    rcases Option.isSome_iff_exists.mp (hexplain item List.mem_cons_self) with ⟨explain, hread⟩
    rcases explainItem_row (hitems item List.mem_cons_self) hread traceId with ⟨first, hfirst, hreads⟩
    rcases ih (fun other hother => hitems other (List.mem_cons_of_mem _ hother))
      (fun other hother => hexplain other (List.mem_cons_of_mem _ hother)) with ⟨rest, hrest, hall⟩
    refine ⟨first :: rest, ?_, .cons hreads hall⟩
    rw [List.map_cons, Except.mapM_cons_eq_ok]
    exact ⟨first, rest, hfirst, hrest, rfl⟩

/-- The items are read in the order of their ranks. -/
theorem orderBy_itemRows (h : db.Holds S) (hdistinct : DistinctIds payloads)
    (hS : ∀ q ∈ S, q ∈ payloads) (hp : p ∈ S) (hitems : ∀ item ∈ p.items, item.Storable)
    (hranks : (p.items.map (·.rank)).Nodup)
    : orderBy SearchTraceItemRow.rank (db.items.rows.filter (·.traceId = p.trace.traceId))
        = (orderBy (fun item => u32AsI32 item.rank) p.items).map
            (TraceItemEntry.row p.trace.traceId) := by
  symm
  apply eq_orderBy
  . exact ((orderBy_perm _ _).map _).trans (itemRows_perm h hdistinct hS hp).symm
  . rw [List.pairwise_map]
    apply orderBy_pairwise_lt
    have hrows := hranks
    rw [List.Nodup, List.pairwise_map] at hrows ⊢
    apply hrows.imp_of_mem
    intro a b ha hb hne heq
    exact hne (u32AsI32_inj (hitems a ha).rank (hitems b hb).rank heq)

/-! ## Stages -/

/-- The rows of one stage in the join. -/
def TraceDb.stageJoin (db : TraceDb) (c : SearchTraceStageItemRow → Bool) (stage : SearchTraceStageRow)
    : List TrajectoryRow :=
  match db.stageItems.rows.filter fun item => item.stageId = stage.stageId && c item with
  | [] => [⟨stage, none⟩]
  | items => items.map fun item => ⟨stage, some item⟩

variable {c : SearchTraceStageItemRow → Bool}

theorem mem_stageJoin (h : row ∈ db.stageJoin c stage) : row.stage = stage := by
  unfold TraceDb.stageJoin at h
  split at h
  . rw [List.mem_singleton.mp h]
  . rcases List.mem_map.mp h with ⟨item, -, rfl⟩
    rfl

theorem stageJoin_ne_nil (db : TraceDb) (c : SearchTraceStageItemRow → Bool)
    (stage : SearchTraceStageRow) : db.stageJoin c stage ≠ [] := by
  unfold TraceDb.stageJoin
  split
  . exact List.cons_ne_nil _ _
  next items hitems => exact fun heq => hitems (List.map_eq_nil_iff.mp heq)

theorem items_stageJoin (db : TraceDb) (c : SearchTraceStageItemRow → Bool)
    (stage : SearchTraceStageRow)
    : (db.stageJoin c stage).filterMap (·.item)
        = db.stageItems.rows.filter fun item => item.stageId = stage.stageId && c item := by
  unfold TraceDb.stageJoin
  split
  next hitems =>
    rw [hitems]
    rfl
  next => simp [List.filterMap_map]

theorem trajectoryRows_perm (db : TraceDb) (traceId : Uuid) (c : SearchTraceStageItemRow → Bool)
    : (db.trajectoryRows traceId c).Perm
        ((db.stages.rows.filter (·.traceId = traceId)).flatMap (db.stageJoin c)) :=
  orderBy_perm _ _

theorem mem_trajectoryRows (h : row ∈ db.trajectoryRows traceId c)
    : row.stage ∈ db.stages.rows.filter (·.traceId = traceId) := by
  rw [(trajectoryRows_perm ..).mem_iff, List.mem_flatMap] at h
  rcases h with ⟨stage, hstage, hrow⟩
  rw [mem_stageJoin hrow]
  exact hstage

/-- The rows of a stage are those of its join. -/
theorem filter_trajectoryRows (hstage : stage ∈ db.stages.rows.filter (·.traceId = traceId))
    : ((db.trajectoryRows traceId c).filter (·.stage.stageId = stage.stageId)).Perm
        (db.stageJoin c stage) := by
  have hnodup : ((db.stages.rows.filter (·.traceId = traceId)).map (·.stageId)).Nodup :=
    (List.filter_sublist.map _).nodup db.stages.nodup
  apply ((trajectoryRows_perm db traceId c).filter _).trans
  rcases List.append_of_mem hstage with ⟨before, behind, hsplit⟩
  rw [hsplit] at hnodup ⊢
  rw [List.map_append, List.map_cons, List.nodup_middle, List.nodup_cons, ← List.map_append] at hnodup
  have hnone : ∀ others : List SearchTraceStageRow, (∀ other ∈ others, other ∈ before ++ behind)
      → (others.flatMap (db.stageJoin c)).filter (·.stage.stageId = stage.stageId) = [] := by
    intro others hothers
    rw [List.filter_eq_nil_iff]
    intro row hrow
    rcases List.mem_flatMap.mp hrow with ⟨other, hother, hrow⟩
    rw [mem_stageJoin hrow, decide_eq_true_eq]
    intro heq
    rw [← heq] at hnodup
    exact hnodup.1 (List.mem_map_of_mem (hothers other hother))
  have hall : (db.stageJoin c stage).filter (·.stage.stageId = stage.stageId) = db.stageJoin c stage := by
    rw [List.filter_eq_self]
    intro row hrow
    rw [mem_stageJoin hrow, decide_eq_true rfl]
  rw [List.flatMap_append, List.flatMap_cons, List.filter_append, List.filter_append, hall,
    hnone before fun other hother => List.mem_append_left _ hother,
    hnone behind fun other hother => List.mem_append_right _ hother, List.nil_append, List.append_nil]

/-- The items of the rows are added to the stage. -/
theorem foldl_addRow (rows : List TrajectoryRow) (stage : SearchTrajectoryStage)
    : rows.foldl SearchTrajectoryStage.addRow stage = { stage with
        items := stage.items ++ (rows.filterMap (·.item)).map SearchTraceStageItemRow.stageItem } := by
  induction rows generalizing stage with
  | nil => simp
  | cons row rows ih =>
    rw [List.foldl_cons, ih]
    unfold SearchTrajectoryStage.addRow
    cases hitem : row.item with
    | none => simp [hitem]
    | some item => simp [hitem]

/-- A stage is read as the search left it, its items in some order. -/
structure ReadsStage (got : SearchTrajectoryStage) (stage : TraceTrajectoryStageRecord) : Prop where
  stageOrder : got.stageOrder = stage.stageOrder
  stageName : got.stageName = stage.stageName
  stagePayload : got.stagePayload = stage.stagePayload
  items : got.items.Perm (stage.items.map fun item => ⟨item.itemId, item.noteId, item.chunkId, item.metrics⟩)

/-- What is read of a stage is its group of rows. -/
theorem readsStage_of_mem (h : db.Holds S) (hdistinct : DistinctIds payloads)
    (hS : ∀ q ∈ S, q ∈ payloads) (hp : p ∈ S) {stage : TraceTrajectoryStageRecord}
    (hstage : stage ∈ p.stages) (hstorable : stage.Storable serde)
    (hgroup : (stage.stageId, got) ∈ Grouping.groupBy (fun row : TrajectoryRow => row.stage.stageId)
      (fun row => ⟨i32AsU32 row.stage.stageOrder, row.stage.stageName, row.stage.stagePayload, []⟩)
      SearchTrajectoryStage.addRow (db.trajectoryRows p.trace.traceId fun _ => true))
    : ReadsStage got stage := by
  rcases Grouping.group_of_mem hgroup with ⟨first, more, hfilter, rfl⟩
  have hrow : stage.row p.trace.traceId ∈ db.stages.rows.filter (·.traceId = p.trace.traceId) := by
    rw [(stageRows_perm h hdistinct hS hp).mem_iff]
    exact List.mem_map_of_mem hstage
  have hjoin := filter_trajectoryRows (c := fun _ => true) hrow
  change (List.filter (fun row : TrajectoryRow => row.stage.stageId = stage.stageId) _).Perm _ at hjoin
  rw [hfilter] at hjoin
  have hfirst : first.stage = stage.row p.trace.traceId :=
    mem_stageJoin (hjoin.mem_iff.mp List.mem_cons_self)
  have hitems := hjoin.filterMap (·.item)
  rw [items_stageJoin] at hitems
  simp only [Bool.and_true] at hitems
  rw [foldl_addRow, hfirst]
  refine ⟨i32AsU32_u32AsI32 hstorable.stageOrder, rfl, rfl, ?_⟩
  have hstored := hitems.trans (stageItemRows_perm h hdistinct hS hp hstage)
  have hread := hstored.map SearchTraceStageItemRow.stageItem
  rw [List.map_map] at hread
  exact hread

theorem orderBy_stageRows (hstorable : ∀ stage ∈ p.stages, stage.Storable serde)
    (horders : (p.stages.map (·.stageOrder)).Nodup)
    : ((p.stageRows).map SearchTraceStageRow.stageOrder).Nodup
      ∧ orderBy SearchTraceStageRow.stageOrder p.stageRows
        = (orderBy (fun stage => u32AsI32 stage.stageOrder) p.stages).map
            (TraceTrajectoryStageRecord.row p.trace.traceId) := by
  have hkeys : (p.stages.map fun stage => u32AsI32 stage.stageOrder).Nodup := by
    have horders' := horders
    rw [List.Nodup, List.pairwise_map] at horders' ⊢
    apply horders'.imp_of_mem
    intro a b ha hb hne heq
    exact hne (u32AsI32_inj (hstorable a ha).stageOrder (hstorable b hb).stageOrder heq)
  constructor
  . unfold TracePayload.stageRows
    rw [List.map_map]
    exact hkeys
  . symm
    apply eq_orderBy ((orderBy_perm _ _).map _)
    rw [List.pairwise_map]
    exact orderBy_pairwise_lt hkeys

/-- Rows of the join that make up the stages of a trace, in their order, are all of them. -/
theorem stages_eq_orderBy (h : db.Holds S) (hdistinct : DistinctIds payloads)
    (hS : ∀ q ∈ S, q ∈ payloads) (hp : p ∈ S)
    (horders : ((p.stageRows).map SearchTraceStageRow.stageOrder).Nodup) {rows : List TrajectoryRow}
    (hsub : rows.Sublist (db.trajectoryRows p.trace.traceId c))
    (hnodup : (rows.map (·.stage.stageId)).Nodup)
    (hall : ∀ row ∈ db.trajectoryRows p.trace.traceId c,
      row.stage.stageId ∈ rows.map (·.stage.stageId))
    : rows.map (·.stage) = orderBy SearchTraceStageRow.stageOrder p.stageRows := by
  have hperm := stageRows_perm h hdistinct hS hp
  have hstages : ∀ row ∈ rows, row.stage ∈ p.stageRows := fun row hrow =>
    hperm.mem_iff.mp (mem_trajectoryRows (hsub.subset hrow))
  have hids : (p.stageRows.map SearchTraceStageRow.stageId).Nodup := hdistinct.stages.nodup (hS p hp)
  apply eq_orderBy
  . rw [List.perm_ext_iff_of_nodup _ hids.of_map]
    . intro stage
      constructor
      . intro hstage
        rcases List.mem_map.mp hstage with ⟨row, hrow, rfl⟩
        exact hstages row hrow
      . intro hstage
        have hmem := List.ne_nil_iff_exists_cons.mp (stageJoin_ne_nil db c stage)
        rcases hmem with ⟨joined, rest, hjoin⟩
        have hjoined : joined ∈ db.trajectoryRows p.trace.traceId c := by
          rw [(trajectoryRows_perm ..).mem_iff, List.mem_flatMap]
          refine ⟨stage, hperm.mem_iff.mpr hstage, ?_⟩
          rw [hjoin]
          exact List.mem_cons_self
        have hsame : joined.stage = stage := by
          have hmem : joined ∈ db.stageJoin c stage := by
            rw [hjoin]
            exact List.mem_cons_self
          exact mem_stageJoin hmem
        rcases List.mem_map.mp (hall joined hjoined) with ⟨row, hrow, hid⟩
        rw [hsame] at hid
        rw [← List.inj_on_of_nodup_map hids (hstages row hrow) hstage hid]
        exact List.mem_map_of_mem hrow
    . apply List.Nodup.of_map SearchTraceStageRow.stageId
      rw [List.map_map]
      exact hnodup
  . rw [List.Nodup, List.pairwise_map] at hnodup
    rw [List.pairwise_map]
    have hsorted := (orderBy_pairwise TrajectoryRow.order _).sublist hsub
    apply (hnodup.and hsorted).imp_of_mem
    rintro a b ha hb ⟨hne, hle⟩
    apply lt_of_le_of_ne
    . exact Prod.Lex.monotone_fst _ _ hle
    . intro heq
      apply hne
      rw [List.inj_on_of_nodup_map horders (hstages a ha) (hstages b hb) heq]

theorem forall₂_of_map_eq {α β γ : Type} {R : α → β → Prop} {f : α → γ} {g : β → γ} {as : List α}
    {bs : List β} (hmap : as.map f = bs.map g) (h : ∀ a ∈ as, ∀ b ∈ bs, f a = g b → R a b)
    : List.Forall₂ R as bs := by
  have hkeys : List.Forall₂ (fun a b => f a = g b) as bs := by
    rw [← List.forall₂_map_left_iff (f := f) (R := fun k b => k = g b),
      ← List.forall₂_map_right_iff (f := g) (R := fun k k' => k = k'), List.forall₂_eq_eq_eq]
    exact hmap
  rw [List.forall₂_iff_zip] at hkeys ⊢
  refine ⟨hkeys.1, ?_⟩
  intro a b hmem
  exact h a (List.of_mem_zip hmem).1 b (List.of_mem_zip hmem).2 (hkeys.2 hmem)

/-- The stages are read in their order. -/
theorem loadTraceTrajectoryStages_reads (h : db.Holds S) (hdistinct : DistinctIds payloads)
    (hS : ∀ q ∈ S, q ∈ payloads) (hp : p ∈ S) (hstorable : ∀ stage ∈ p.stages, stage.Storable serde)
    (horders : (p.stages.map (·.stageOrder)).Nodup)
    : List.Forall₂ ReadsStage (loadTraceTrajectoryStages db p.trace.traceId)
        (orderBy (fun stage => u32AsI32 stage.stageOrder) p.stages) := by
  rcases orderBy_stageRows hstorable horders with ⟨hrowOrders, hrows⟩
  rcases Grouping.keys_groupBy (fun row : TrajectoryRow => row.stage.stageId)
    (fun row => ⟨i32AsU32 row.stage.stageOrder, row.stage.stageName, row.stage.stagePayload, []⟩)
    SearchTrajectoryStage.addRow (db.trajectoryRows p.trace.traceId fun _ => true)
    with ⟨hnodup, hsub, hall⟩
  rcases List.sublist_map_iff.mp hsub with ⟨firsts, hfirsts, hkeys⟩
  rw [hkeys] at hnodup hall
  have hstages := stages_eq_orderBy h hdistinct hS hp hrowOrders hfirsts hnodup hall
  rw [hrows] at hstages
  unfold loadTraceTrajectoryStages
  rw [List.forall₂_map_left_iff]
  apply forall₂_of_map_eq (f := Prod.fst) (g := TraceTrajectoryStageRecord.stageId)
  . have hids := congrArg (List.map SearchTraceStageRow.stageId) hstages
    rw [List.map_map, List.map_map] at hids
    exact hkeys.trans hids
  . rintro ⟨stageId, got⟩ hgroup stage hstage rfl
    rw [mem_orderBy] at hstage
    exact readsStage_of_mem h hdistinct hS hp hstage (hstorable stage hstage) hgroup

/-! ## Traces -/

/-- The row that a request finds is that of the trace it names. -/
theorem find?_traces (h : db.Holds S) (hdistinct : DistinctIds payloads) (hS : ∀ q ∈ S, q ∈ payloads)
    (hp : p ∈ S) (tenantId projectId : String)
    : (db.traces.rows.find? fun row => row.traceId = p.trace.traceId && row.tenantId = tenantId
        && row.projectId = projectId)
      = if p.trace.tenantId = tenantId ∧ p.trace.projectId = projectId then some p.trace.row else none := by
  have hrow : ∀ row ∈ db.traces.rows, row.traceId = p.trace.traceId → row = p.trace.row := by
    intro row hrow hid
    rcases (h.traces row).mp hrow with ⟨q, hq, hmem⟩
    rw [List.mem_singleton.mp hmem] at hid ⊢
    rw [hdistinct.eq (hS q hq) (hS p hp) hid]
  split
  next hsame =>
    cases hfind : db.traces.rows.find? _ with
    | none =>
      have hnone := List.find?_eq_none.mp hfind p.trace.row
        ((h.traces _).mpr ⟨p, hp, List.mem_singleton_self _⟩)
      simp [TraceRecord.row, hsame] at hnone
    | some row =>
      have hfound := List.find?_some hfind
      simp only [Bool.and_eq_true, decide_eq_true_eq] at hfound
      rw [hrow row (List.mem_of_find?_eq_some hfind) hfound.1.1]
  next hother =>
    rw [List.find?_eq_none]
    intro row hmem hfound
    simp only [Bool.and_eq_true, decide_eq_true_eq] at hfound
    rw [hrow row hmem hfound.1.1] at hfound
    exact hother ⟨hfound.1.2, hfound.2⟩

variable {as : List TraceAction} {s : TraceStore} {req : TraceGetRequest}

/--
A trace that no job is to store any more, and that no purge found expired, is read as the search left
it: whether the search stored it itself or any number of workers did, and whatever else was searched,
stored and purged. The request names the project of the trace; to other projects the trace is unknown.
-/
theorem trace_readback
    (h : Run (Run.Guarded TraceStore.FreshJob (TraceSteps serde)) TraceStore.empty as s)
    (hdistinct : DistinctIds (as.filterMap TraceAction.payload))
    (hstorable : ∀ p ∈ as.filterMap TraceAction.payload, p.Storable serde)
    (hp : p ∈ as.filterMap TraceAction.payload)
    (hlive : ∀ now, TraceAction.purgeTraces now ∈ as → p ∉ expiredTraces now)
    (hdone : ∀ job ∈ s.db.outbox, p.toJson serde = some job.payload → job.status = .done)
    (hexplain : ∀ item ∈ p.items, (reader.explain item.explain).isSome = true)
    (hranks : (p.items.map (·.rank)).Nodup) (horders : (p.stages.map (·.stageOrder)).Nodup)
    (hreq : req.traceId = p.trace.traceId)
    (hcheck : checkTraceRequest (Text.trim req.tenantId) (Text.trim req.projectId)
      (Text.trim req.agentId) = .ok ())
    : if p.trace.tenantId = Text.trim req.tenantId ∧ p.trace.projectId = Text.trim req.projectId then
        ∃ res trajectory, traceGet reader s.db req = .ok res
          ∧ traceTrajectoryGet reader s.db req = .ok trajectory
          ∧ res.trace = p.trace.searchTrace ∧ trajectory.trace = p.trace.searchTrace
          ∧ List.Forall₂ (ReadsItem reader) res.items
              (orderBy (fun item => u32AsI32 item.rank) p.items)
          ∧ List.Forall₂ ReadsStage trajectory.stages
              (orderBy (fun stage => u32AsI32 stage.stageOrder) p.stages)
      else
        traceGet reader s.db req = .error (.invalidRequest "Unknown trace_id.")
          ∧ traceTrajectoryGet reader s.db req = .error (.invalidRequest "Unknown trace_id.") := by
  rcases exists_stored h hdistinct hstorable hp hlive hdone with ⟨S, hS, hholds, hmem⟩
  have hfind := find?_traces hholds hdistinct hS hmem (Text.trim req.tenantId) (Text.trim req.projectId)
  rw [← hreq] at hfind
  split
  next hsame =>
    rw [if_pos hsame] at hfind
    have hitems : ∀ item ∈ p.items, item.Storable := (hstorable p hp).items
    have hordered := orderBy_itemRows hholds hdistinct hS hmem hitems hranks
    have hexplain' : ∀ item ∈ orderBy (fun item => u32AsI32 item.rank) p.items,
        (reader.explain item.explain).isSome = true :=
      fun item hitem => hexplain item (mem_orderBy.mp hitem)
    rcases mapM_explainItem (fun item hitem => hitems item (mem_orderBy.mp hitem)) hexplain'
      p.trace.traceId with ⟨got, hgot, hreads⟩
    have hget : traceGet reader s.db req = .ok ⟨p.trace.searchTrace, got,
        loadTraceTrajectorySummary s.db req.traceId⟩ := by
      unfold traceGet
      dsimp only
      rw [hcheck, hfind, hreq, hordered, hgot]
      simp only [Except.ofOption, Except.bind_eq_ok]
      exact ⟨(), trivial, _, rfl, _, searchTrace_row (hstorable p hp).trace, _, rfl, rfl⟩
    have htrajectory : traceTrajectoryGet reader s.db req = .ok ⟨p.trace.searchTrace,
        buildTrajectorySummaryFromStages (loadTraceTrajectoryStages s.db req.traceId),
        loadTraceTrajectoryStages s.db req.traceId⟩ := by
      unfold traceTrajectoryGet
      rw [hget]
      rfl
    refine ⟨_, _, hget, htrajectory, rfl, rfl, hreads, ?_⟩
    rw [hreq]
    exact loadTraceTrajectoryStages_reads hholds hdistinct hS hmem (hstorable p hp).stages horders
  next hother =>
    rw [if_neg hother] at hfind
    have hget : traceGet reader s.db req = .error (.invalidRequest "Unknown trace_id.") := by
      unfold traceGet
      dsimp only
      rw [hcheck, hfind]
      rfl
    refine ⟨hget, ?_⟩
    unfold traceTrajectoryGet
    rw [hget]
    rfl

/-! ## Items explained -/

theorem addRow_of_item_none {row : TrajectoryRow} {stage : SearchExplainTrajectoryStage}
    (h : row.item = none) : stage.addRow chunkId row = stage := by
  unfold SearchExplainTrajectoryStage.addRow
  rw [h]

theorem addRow_of_item {row : TrajectoryRow} {stage : SearchExplainTrajectoryStage}
    (h : row.item = some item) : stage.addRow chunkId row
      = { stage with matchInfo := some (item.matchInfo chunkId), metrics := item.metrics } := by
  unfold SearchExplainTrajectoryStage.addRow
  rw [h]

/-- The rows of a stage leave it as it is, or with what one of them says. -/
theorem foldl_addRow_explain (chunkId : Option Uuid) (rows : List TrajectoryRow)
    (stage : SearchExplainTrajectoryStage)
    : rows.filterMap (·.item) = [] ∧ rows.foldl (SearchExplainTrajectoryStage.addRow chunkId) stage = stage
      ∨ ∃ item ∈ rows.filterMap (·.item), rows.foldl (SearchExplainTrajectoryStage.addRow chunkId) stage
          = { stage with matchInfo := some (item.matchInfo chunkId), metrics := item.metrics } := by
  induction rows using List.reverseRecOn with
  | nil => exact .inl ⟨rfl, rfl⟩
  | append_singleton rows row ih =>
    rw [List.foldl_append, List.filterMap_append]
    cases hitem : row.item with
    | none =>
      have hnone : [row].filterMap (·.item) = [] := by simp [hitem]
      have hsame : ∀ stage, [row].foldl (SearchExplainTrajectoryStage.addRow chunkId) stage = stage := by
        intro stage
        exact addRow_of_item_none hitem
      rw [hnone, List.append_nil, hsame]
      exact ih
    | some item =>
      have hsome : [row].filterMap (·.item) = [item] := by simp [hitem]
      rw [hsome]
      refine .inr ⟨item, by simp, ?_⟩
      rw [List.foldl_cons, List.foldl_nil, addRow_of_item hitem]
      rcases ih with ⟨-, hsame⟩ | ⟨other, -, hother⟩
      . rw [hsame]
      . rw [hother]

/-- A stage says of an item what one of the items that it kept for it says, if there are any. -/
structure ExplainsStage (explained : TraceItemEntry) (got : SearchExplainTrajectoryStage)
    (stage : TraceTrajectoryStageRecord) : Prop where
  stageOrder : got.stageOrder = stage.stageOrder
  stageName : got.stageName = stage.stageName
  stagePayload : got.stagePayload = stage.stagePayload
  unmatched : got.matchInfo = none → got.metrics = .obj [] ∧ ∀ item ∈ stage.items,
    (item.row stage.stageId).concerns explained.itemId explained.noteId explained.chunkId = false
  matched : ∀ info, got.matchInfo = some info → ∃ item ∈ stage.items,
    (item.row stage.stageId).concerns explained.itemId explained.noteId explained.chunkId = true
      ∧ info = (item.row stage.stageId).matchInfo explained.chunkId ∧ got.metrics = item.metrics

theorem explainsStage_of_mem (h : db.Holds S) (hdistinct : DistinctIds payloads)
    (hS : ∀ q ∈ S, q ∈ payloads) (hp : p ∈ S) {explained : TraceItemEntry}
    {stage : TraceTrajectoryStageRecord} (hstage : stage ∈ p.stages) (hstorable : stage.Storable serde)
    {rows : List TrajectoryRow}
    (hrows : rows.Perm (db.stageJoin (SearchTraceStageItemRow.concerns explained.itemId explained.noteId
      explained.chunkId) (stage.row p.trace.traceId)))
    (hfirst : rows = first :: more)
    : ExplainsStage explained (rows.foldl (SearchExplainTrajectoryStage.addRow explained.chunkId)
        ⟨i32AsU32 first.stage.stageOrder, first.stage.stageName, first.stage.stagePayload, .obj [], none⟩)
        stage := by
  have hsame : first.stage = stage.row p.trace.traceId := by
    apply mem_stageJoin
    rw [← hrows.mem_iff, hfirst]
    exact List.mem_cons_self
  have hitems := hrows.filterMap (·.item)
  rw [items_stageJoin] at hitems
  have hmem : ∀ row, row ∈ rows.filterMap (·.item) ↔
      (∃ item ∈ stage.items, item.row stage.stageId = row)
        ∧ row.concerns explained.itemId explained.noteId explained.chunkId = true := by
    intro row
    rw [hitems.mem_iff, ← List.mem_map, ← (stageItemRows_perm h hdistinct hS hp hstage).mem_iff]
    rw [List.mem_filter, List.mem_filter, Bool.and_eq_true, decide_eq_true_eq, decide_eq_true_eq,
      and_assoc]
    rfl
  have horder : i32AsU32 first.stage.stageOrder = stage.stageOrder := by
    rw [hsame]
    exact i32AsU32_u32AsI32 hstorable.stageOrder
  rcases foldl_addRow_explain explained.chunkId rows ⟨i32AsU32 first.stage.stageOrder,
    first.stage.stageName, first.stage.stagePayload, .obj [], none⟩ with ⟨hnone, hfold⟩ | ⟨row, hrow, hfold⟩
  . rw [hfold]
    refine ⟨horder, by rw [hsame]; rfl, by rw [hsame]; rfl, ?_, nofun⟩
    intro _
    refine ⟨rfl, ?_⟩
    intro item hitem
    rw [← Bool.not_eq_true]
    intro hconcerns
    have hrow := (hmem _).mpr ⟨⟨item, hitem, rfl⟩, hconcerns⟩
    rw [hnone] at hrow
    cases hrow
  . rw [hfold]
    rcases (hmem row).mp hrow with ⟨⟨item, hitem, rfl⟩, hconcerns⟩
    refine ⟨horder, by rw [hsame]; rfl, by rw [hsame]; rfl, nofun, ?_⟩
    rintro info ⟨⟩
    exact ⟨item, hitem, hconcerns, rfl, rfl⟩

/-- The rows that a stage is read from, and its order, tell it apart from the other stages. -/
theorem stageOrder_eq_iff (h : db.Holds S) (hdistinct : DistinctIds payloads)
    (hS : ∀ q ∈ S, q ∈ payloads) (hp : p ∈ S)
    (horders : ((p.stageRows).map SearchTraceStageRow.stageOrder).Nodup)
    (hstorable : ∀ stage ∈ p.stages, stage.Storable serde) {a b : SearchTraceStageRow}
    (ha : a ∈ db.stages.rows.filter (·.traceId = p.trace.traceId))
    (hb : b ∈ db.stages.rows.filter (·.traceId = p.trace.traceId))
    : i32AsU32 a.stageOrder = i32AsU32 b.stageOrder ↔ a.stageId = b.stageId := by
  have hperm := stageRows_perm h hdistinct hS hp
  have hids := hdistinct.stages.nodup (hS p hp)
  rw [hperm.mem_iff] at ha hb
  constructor
  . intro horder
    have hsame : a.stageOrder = b.stageOrder := by
      rcases List.mem_map.mp ha with ⟨stage, hstage, rfl⟩
      rcases List.mem_map.mp hb with ⟨other, hother, rfl⟩
      change i32AsU32 (u32AsI32 stage.stageOrder) = i32AsU32 (u32AsI32 other.stageOrder) at horder
      rw [i32AsU32_u32AsI32 (hstorable stage hstage).stageOrder,
        i32AsU32_u32AsI32 (hstorable other hother).stageOrder] at horder
      exact congrArg u32AsI32 horder
    rw [List.inj_on_of_nodup_map horders ha hb hsame]
  . intro hid
    rw [List.inj_on_of_nodup_map hids ha hb hid]

/-- The stages are read in their order, each with what it says of the item. -/
theorem loadItemTrajectory_explains (h : db.Holds S) (hdistinct : DistinctIds payloads)
    (hS : ∀ q ∈ S, q ∈ payloads) (hp : p ∈ S) (hstorable : ∀ stage ∈ p.stages, stage.Storable serde)
    (horders : (p.stages.map (·.stageOrder)).Nodup) (hstages : p.stages ≠ []) (explained : TraceItemEntry)
    : ∃ trajectory, loadItemTrajectory db p.trace.traceId explained.itemId explained.noteId
          explained.chunkId = some trajectory
        ∧ List.Forall₂ (ExplainsStage explained) trajectory.stages
            (orderBy (fun stage => u32AsI32 stage.stageOrder) p.stages) := by
  rcases orderBy_stageRows hstorable horders with ⟨hrowOrders, hrows⟩
  have hperm := stageRows_perm h hdistinct hS hp
  let concerns := SearchTraceStageItemRow.concerns explained.itemId explained.noteId explained.chunkId
  rcases Grouping.keys_groupBy (fun row : TrajectoryRow => i32AsU32 row.stage.stageOrder)
    (fun row => ⟨i32AsU32 row.stage.stageOrder, row.stage.stageName, row.stage.stagePayload, .obj [], none⟩)
    (SearchExplainTrajectoryStage.addRow explained.chunkId)
    (db.trajectoryRows p.trace.traceId concerns) with ⟨hnodup, hsub, hall⟩
  rcases List.sublist_map_iff.mp hsub with ⟨firsts, hfirsts, hkeys⟩
  rw [hkeys] at hnodup hall
  have hiff := fun a b ha hb => stageOrder_eq_iff h hdistinct hS hp hrowOrders hstorable (a := a) (b := b)
    ha hb
  have hids : (firsts.map (·.stage.stageId)).Nodup := by
    rw [List.Nodup, List.pairwise_map] at hnodup ⊢
    apply hnodup.imp_of_mem
    intro a b ha hb hne hid
    exact hne ((hiff _ _ (mem_trajectoryRows (hfirsts.subset ha))
      (mem_trajectoryRows (hfirsts.subset hb))).mpr hid)
  have hallIds : ∀ row ∈ db.trajectoryRows p.trace.traceId concerns,
      row.stage.stageId ∈ firsts.map (·.stage.stageId) := by
    intro row hrow
    rcases List.mem_map.mp (hall row hrow) with ⟨first, hfirst, horder⟩
    have hid := (hiff _ _ (mem_trajectoryRows (hfirsts.subset hfirst)) (mem_trajectoryRows hrow)).mp horder
    rw [← hid]
    exact List.mem_map_of_mem hfirst
  have hordered := stages_eq_orderBy h hdistinct hS hp hrowOrders hfirsts hids hallIds
  rw [hrows] at hordered
  have hnonempty : (db.trajectoryRows p.trace.traceId concerns).isEmpty = false := by
    rw [← Bool.not_eq_true, List.isEmpty_iff]
    intro hempty
    rw [hempty] at hfirsts
    rw [List.sublist_nil.mp hfirsts, List.map_nil] at hordered
    have hlength := congrArg List.length (List.map_eq_nil_iff.mp hordered.symm)
    rw [length_orderBy] at hlength
    exact hstages (List.length_eq_zero_iff.mp hlength)
  unfold loadItemTrajectory
  dsimp only
  rw [hnonempty]
  refine ⟨_, rfl, ?_⟩
  rw [List.forall₂_map_left_iff]
  apply forall₂_of_map_eq (f := Prod.fst) (g := fun stage => i32AsU32 (u32AsI32 stage.stageOrder))
  . have hkeys' := congrArg (List.map fun row : SearchTraceStageRow => i32AsU32 row.stageOrder) hordered
    rw [List.map_map, List.map_map] at hkeys'
    exact hkeys.trans hkeys'
  . rintro ⟨key, got⟩ hgroup stage hstage hkey
    rw [mem_orderBy] at hstage
    have hrow : stage.row p.trace.traceId ∈ db.stages.rows.filter (·.traceId = p.trace.traceId) := by
      rw [hperm.mem_iff]
      exact List.mem_map_of_mem hstage
    rcases Grouping.group_of_mem hgroup with ⟨first, more, hfilter, rfl⟩
    have hjoin := filter_trajectoryRows (c := concerns) hrow
    have hsame : (db.trajectoryRows p.trace.traceId concerns).filter
          (fun row => i32AsU32 row.stage.stageOrder = key)
        = (db.trajectoryRows p.trace.traceId concerns).filter
          fun row => row.stage.stageId = (stage.row p.trace.traceId).stageId := by
      apply List.filter_congr
      intro row hmem
      rw [decide_eq_decide, ← hiff _ _ (mem_trajectoryRows hmem) hrow]
      change key = _ at hkey
      rw [hkey]
      rfl
    rw [← hsame, hfilter] at hjoin
    exact explainsStage_of_mem h hdistinct hS hp hstage (hstorable stage hstage) hjoin rfl

/--
The item of a result is explained as the search left it, and so is every stage of the search: what it
says of the item is what it kept for the item itself, or for its note and chunk, if it kept anything.
-/
theorem result_explained
    (h : Run (Run.Guarded TraceStore.FreshJob (TraceSteps serde)) TraceStore.empty as s)
    (hdistinct : DistinctIds (as.filterMap TraceAction.payload))
    (hstorable : ∀ p ∈ as.filterMap TraceAction.payload, p.Storable serde)
    (hp : p ∈ as.filterMap TraceAction.payload)
    (hlive : ∀ now, TraceAction.purgeTraces now ∈ as → p ∉ expiredTraces now)
    (hdone : ∀ job ∈ s.db.outbox, p.toJson serde = some job.payload → job.status = .done)
    (horders : (p.stages.map (·.stageOrder)).Nodup) (hstages : p.stages ≠ [])
    {item : TraceItemEntry} (hitem : item ∈ p.items)
    (hexplain : (reader.explain item.explain).isSome = true) {req : SearchExplainRequest}
    (hreq : req.resultHandle = item.itemId) (htenant : p.trace.tenantId = Text.trim req.tenantId)
    (hproject : p.trace.projectId = Text.trim req.projectId)
    (hcheck : ((Text.trim req.tenantId).isEmpty || (Text.trim req.projectId).isEmpty) = false)
    : ∃ res trajectory, searchExplain reader s.db req = .ok res ∧ res.trace = p.trace.searchTrace
        ∧ ReadsItem reader res.item item ∧ res.trajectory = some trajectory
        ∧ List.Forall₂ (ExplainsStage item) trajectory.stages
            (orderBy (fun stage => u32AsI32 stage.stageOrder) p.stages) := by
  rcases exists_stored h hdistinct hstorable hp hlive hdone with ⟨S, hS, hholds, hmem⟩
  have hrow : item.row p.trace.traceId ∈ s.db.items :=
    (hholds.items _).mpr ⟨p, hmem, List.mem_map_of_mem hitem⟩
  have hfindItem : s.db.items.find? req.resultHandle = some (item.row p.trace.traceId) := by
    rw [hreq]
    exact s.db.items.find?_key hrow
  have hfind := find?_traces hholds hdistinct hS hmem (Text.trim req.tenantId) (Text.trim req.projectId)
  rw [if_pos ⟨htenant, hproject⟩] at hfind
  rcases Option.isSome_iff_exists.mp hexplain with ⟨explain, hread⟩
  rcases explainItem_row ((hstorable p hp).items item hitem) hread p.trace.traceId with ⟨got, hgot, hreads⟩
  rcases loadItemTrajectory_explains hholds hdistinct hS hmem (hstorable p hp).stages horders hstages item
    with ⟨trajectory, htrajectory, hexplains⟩
  refine ⟨⟨p.trace.searchTrace, got, some trajectory⟩, trajectory, ?_, rfl, hreads, rfl, hexplains⟩
  unfold searchExplain
  dsimp only
  rw [hcheck, hfindItem]
  refine Except.bind_eq_ok.mpr ⟨(), rfl, ?_⟩
  refine Except.bind_eq_ok.mpr ⟨_, rfl, ?_⟩
  refine Except.bind_eq_ok.mpr ⟨_, Except.ofOption_eq_ok.mpr hfind, ?_⟩
  refine Except.bind_eq_ok.mpr ⟨_, searchTrace_row (hstorable p hp).trace, ?_⟩
  refine Except.bind_eq_ok.mpr ⟨_, hgot, ?_⟩
  rw [Except.pure_eq_ok, ← htrajectory]
  rfl

/-! ## A trace that is read -/

/-- The terms of the query that an item matched. -/
def sampleReader : TraceReader (List String) Json where
  explain json := do
    let _ ← json.get "ranking"
    let matched ← json.get "match"
    readField (readList Json.asStr) matched "matched_terms"
  candidate := some
  decodeError label _ := "invalid " ++ label

def sampleTraceGet (projectId : String) : TraceGetRequest := ⟨"t", projectId, "b", 1⟩

theorem exists_done_persistTwice
    : ∃ s, TraceStore.empty.run persistTwice = some s
      ∧ ∀ job ∈ s.db.outbox, sampleTrace.toJson januarySerde = some job.payload → job.status = .done := by
  have heval : ((TraceStore.empty.run persistTwice).any fun s =>
      s.db.outbox.rows.map (·.status) = [.done]) = true := by
    decide +kernel
  rw [Option.any_eq_true] at heval
  have ⟨s, heval, hstatus⟩ := heval
  rw [decide_eq_true_eq] at hstatus
  refine ⟨s, heval, ?_⟩
  intro job hjob _
  have hmem : job.status ∈ s.db.outbox.rows.map (·.status) := List.mem_map_of_mem hjob
  rw [hstatus] at hmem
  exact List.mem_singleton.mp hmem

theorem trace_readback_persistTwice
    : ∃ s, TraceStore.empty.run persistTwice = some s
      ∧ (∃ res, traceGet sampleReader s.db (sampleTraceGet " p ") = .ok res
          ∧ res.trace = sampleTrace.trace.searchTrace
          ∧ List.Forall₂ (ReadsItem sampleReader) res.items sampleTrace.items)
      ∧ traceGet sampleReader s.db (sampleTraceGet "q")
          = .error (.invalidRequest "Unknown trace_id.") := by
  have ⟨s, heval, hdone⟩ := exists_done_persistTwice
  have hexplains : ∀ item ∈ sampleTrace.items, (sampleReader.explain item.explain).isSome = true := by
    decide +kernel
  have hreads := fun projectId => trace_readback (run_of_traceRun heval) distinctIds_sampleTrace
    storable_persistTwice (List.mem_singleton_self _) sampleTrace_lives hdone hexplains
    (by decide) (by decide) (rfl : (sampleTraceGet projectId).traceId = _)
  refine ⟨s, heval, ?_, ?_⟩
  . have hp := hreads " p " (by decide +kernel)
    rw [if_pos (by decide +kernel)] at hp
    rcases hp with ⟨res, -, hget, -, htrace, -, hitems, -⟩
    exact ⟨res, hget, htrace, hitems⟩
  . have hq := hreads "q" (by decide +kernel)
    rw [if_neg (by decide +kernel)] at hq
    exact hq.1

theorem result_explained_persistTwice
    : ∃ s, TraceStore.empty.run persistTwice = some s
      ∧ ∃ res trajectory, searchExplain sampleReader s.db ⟨"t", " p ", 2⟩ = .ok res
          ∧ res.trace = sampleTrace.trace.searchTrace ∧ res.item.explain = ["deploys"]
          ∧ res.trajectory = some trajectory ∧ trajectory.stages.length = 1 := by
  have ⟨s, heval, hdone⟩ := exists_done_persistTwice
  have hexplains : ∀ item ∈ sampleTrace.items, (sampleReader.explain item.explain).isSome = true := by
    decide +kernel
  rcases result_explained (run_of_traceRun heval) distinctIds_sampleTrace storable_persistTwice
    (List.mem_singleton_self _) sampleTrace_lives hdone (by decide) (by simp [sampleTrace])
    (List.mem_singleton_self _) (hexplains _ (List.mem_singleton_self _))
    (rfl : (SearchExplainRequest.mk "t" " p " 2).resultHandle = _)
    (by decide +kernel) (by decide +kernel) (by decide +kernel)
    with ⟨res, trajectory, hres, htrace, hitem, htrajectory, hstages⟩
  refine ⟨s, heval, res, trajectory, hres, htrace, ?_, htrajectory, hstages.length_eq⟩
  have hread := hitem.explain
  have hsample : sampleReader.explain sampleExplain = some ["deploys"] := by decide +kernel
  exact Option.some.inj (hread.symm.trans hsample)

end Elf
