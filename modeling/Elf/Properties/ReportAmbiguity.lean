import Elf.Graph.Ingestion
import Elf.Graph.Report
import Elf.Storage.Identifiers

/-!
This module contains when a report marks a fact as ambiguous. The marker says that another current
fact of the predicate is among the rows that the limit leaves, so it tells what the reader can see
exactly if the limit does not keep one of several such facts.
-/

namespace Elf

open Sorting

variable {text : GraphText} {db : GraphReadDb} {svc : ReadService} {clock : GraphReportClock}
  {params : GraphReportRowsFetchParams} {now : Nat} {asOf : Int}

/-! ## Rows -/

theorem mem_reportRows {row : GraphReportFactRow}
    : row ∈ reportRows db params now
      ↔ ∃ fact ∈ db.graph.facts, params.selects db now fact = true
        ∧ params.factRow db now fact = row := by
  unfold reportRows
  simp only [List.mem_map, mem_sortBy, List.mem_filter, Table.mem_def]
  constructor
  . rintro ⟨fact, ⟨hmem, hselects⟩, hrow⟩
    exact ⟨fact, hmem, hselects, hrow⟩
  . rintro ⟨fact, hmem, hselects, hrow⟩
    exact ⟨fact, ⟨hmem, hselects⟩, hrow⟩

theorem nodup_reportRows : ((reportRows db params now).map GraphReportFactRow.factId).Nodup := by
  unfold reportRows
  rw [List.map_map]
  have hfilter : ((db.graph.facts.rows.filter (params.selects db now)).map
      GraphFact.factId).Nodup :=
    (List.filter_sublist.map _).nodup db.graph.facts.nodup
  exact ((sortBy_perm _).map GraphFact.factId).nodup_iff.mpr hfilter

/-- The query selects only facts with evidence, so that the rows of a report have some. -/
theorem evidenceNoteIds_ne_nil {fact : GraphFact} (h : params.selects db now fact = true)
    : params.evidenceNoteIds db now fact ≠ [] := by
  have hevidence : params.evidence db now fact ≠ [] := by
    simp only [GraphReportRowsFetchParams.selects, Bool.and_eq_true, Bool.not_eq_true',
      List.isEmpty_eq_false_iff] at h
    exact h.2
  have hlength := List.length_pos_iff.mpr hevidence
  unfold GraphReportRowsFetchParams.evidenceNoteIds
  rw [← List.length_pos_iff, List.length_map, List.length_take, length_sortBy]
  unfold graphReportEvidenceLimit
  omega

theorem buildReportFacts_eq {rows : List GraphReportFactRow}
    (h : ∀ row ∈ rows, row ∈ reportRows db params now)
    : buildReportFacts rows asOf
      = rows.map fun row => row.reportFact asOf (currentSinglePredicateCounts rows asOf) := by
  have hfilter : (rows.filter fun row => !row.evidenceNoteIds.isEmpty) = rows := by
    rw [List.filter_eq_self]
    intro row hrow
    rcases mem_reportRows.mp (h row hrow) with ⟨fact, -, hselects, rfl⟩
    have hevidence := evidenceNoteIds_ne_nil hselects
    simpa [GraphReportRowsFetchParams.factRow] using hevidence
  unfold buildReportFacts
  rw [hfilter]

theorem truncateReportRows_take (rows : List GraphReportFactRow) (limit : Nat)
    : (truncateReportRows (rows.take (limit + 1)) limit).1 = rows.take limit := by
  unfold truncateReportRows
  split
  next h =>
    rw [List.take_take, Nat.min_eq_left (Nat.le_succ limit)]
  next h =>
    rw [List.length_take] at h
    rw [List.take_of_length_le (by omega), List.take_of_length_le (by omega)]

/-! ## Markers -/

theorem mem_reportStatusMarkers (row : GraphReportFactRow) (status : RelationTemporalStatus)
    (ambiguous : Bool)
    : "ambiguous" ∈ row.reportStatusMarkers status ambiguous ↔ ambiguous = true := by
  unfold GraphReportFactRow.reportStatusMarkers
  have hsupport : "ambiguous"
      ∉ [if row.evidenceNoteIds.isEmpty then "unsupported" else "sourced"] := by
    split <;> decide
  have hinferred : "ambiguous"
      ∉ (if row.predicateStatus ≠ some "active" then ["inferred"] else []) := by
    split <;> decide
  have hstale : "ambiguous" ∉ (if status = .historical then ["stale"] else []) := by
    split <;> decide
  have hsuperseded : "ambiguous"
      ∉ (if !row.supersededByFactIds.isEmpty then ["superseded"] else []) := by
    split <;> decide
  rw [List.mem_append, List.mem_append, List.mem_append, List.mem_append, or_iff_right hsupport,
    or_iff_right hinferred, or_iff_right hstale, or_iff_right hsuperseded]
  cases ambiguous <;> simp

namespace GraphReportFactRow

theorem currentSingle_iff (row : GraphReportFactRow)
    : row.currentSingle asOf = true
      ↔ row.predicateCardinality = some "single" ∧ row.temporalStatus asOf = .current := by
  simp [currentSingle]

/-- A current fact of the predicate, which is one of those that have a single value. -/
def currentOf (row : GraphReportFactRow) (asOf : Int) (predicateId : Uuid) : Bool :=
  row.currentSingle asOf && row.predicateId = some predicateId

theorem mem_markers_reportFact {row : GraphReportFactRow} (h : row.currentSingle asOf = true)
    (counts : List (String × Nat))
    : "ambiguous" ∈ (row.reportFact asOf counts).statusMarkers
      ↔ 1 < Tally.get counts row.predicateGroupKey := by
  rw [currentSingle_iff] at h
  unfold reportFact
  rw [mem_reportStatusMarkers, h.1, h.2]
  simp

end GraphReportFactRow

/-- The identifiers of predicates have 128 bits. -/
def GraphReadDb.PredicateIds (db : GraphReadDb) : Prop :=
  ∀ row ∈ db.graph.predicates, row.predicateId < 2 ^ 128

/-- A fact of a predicate with a single value. -/
def GraphReadDb.single (db : GraphReadDb) (predicateId : Uuid) : Bool :=
  (db.graph.predicates.find? predicateId).any fun row => row.cardinality = .single

theorem currentSingle_factRow {fact : GraphFact}
    : (params.factRow db now fact).currentSingle asOf = true
      ↔ db.single fact.predicateId = true ∧ fact.CurrentAt asOf := by
  have hcardinality : (params.factRow db now fact).predicateCardinality = some "single"
      ↔ db.single fact.predicateId = true := by
    unfold GraphReadDb.single GraphReportRowsFetchParams.factRow
    cases db.graph.predicates.find? fact.predicateId with
    | none => simp
    | some row => cases hcases : row.cardinality <;> simp [PredicateCardinality.asStr, hcases]
  rw [GraphReportFactRow.currentSingle_iff, hcardinality, ← fact.temporalStatus_eq_current asOf]
  exact Iff.rfl

theorem currentOf_factRow {fact : GraphFact} {predicateId : Uuid}
    : (params.factRow db now fact).currentOf asOf predicateId = true
      ↔ db.single predicateId = true ∧ fact.predicateId = predicateId ∧ fact.CurrentAt asOf := by
  unfold GraphReportFactRow.currentOf
  rw [Bool.and_eq_true, currentSingle_factRow]
  simp only [GraphReportRowsFetchParams.factRow, Option.some.injEq, decide_eq_true_eq]
  constructor
  . rintro ⟨⟨hsingle, hcurrent⟩, rfl⟩
    exact ⟨hsingle, rfl, hcurrent⟩
  . rintro ⟨hsingle, rfl, hcurrent⟩
    exact ⟨⟨hsingle, hcurrent⟩, rfl⟩

theorem GraphReadDb.PredicateIds.lt (hids : db.PredicateIds) {predicateId : Uuid}
    (h : db.single predicateId = true) : predicateId < 2 ^ 128 := by
  unfold GraphReadDb.single at h
  rw [Option.any_eq_true] at h
  rcases h with ⟨row, hfind, -⟩
  rcases (db.graph.predicates.find?_eq_some_iff predicateId row).mp hfind with ⟨hmem, hkey⟩
  rw [← hkey]
  exact hids row hmem

/-- What is counted for the predicate of a row are the current facts of that predicate. -/
theorem get_currentSinglePredicateCounts (hids : db.PredicateIds) {rows : List GraphReportFactRow}
    (hrows : ∀ row ∈ rows, row ∈ reportRows db params now) {fact : GraphFact}
    (hsingle : db.single fact.predicateId = true)
    : Tally.get (currentSinglePredicateCounts rows asOf)
        (params.factRow db now fact).predicateGroupKey
      = rows.countP fun row => row.currentOf asOf fact.predicateId := by
  unfold currentSinglePredicateCounts
  rw [Tally.get_tally, List.count_eq_countP, List.countP_map, List.countP_filter]
  apply List.countP_congr
  intro row hrow
  rcases mem_reportRows.mp (hrows row hrow) with ⟨other, -, -, rfl⟩
  have hkey (hother : db.single other.predicateId = true)
      : (params.factRow db now other).predicateGroupKey
          = (params.factRow db now fact).predicateGroupKey
        ↔ other.predicateId = fact.predicateId := by
    constructor
    . intro heq
      exact Uuid.toString_inj (hids.lt hother) (hids.lt hsingle) heq
    . intro heq
      simp [GraphReportFactRow.predicateGroupKey, GraphReportRowsFetchParams.factRow, heq]
  rw [currentOf_factRow, Bool.and_eq_true, currentSingle_factRow]
  simp only [Function.comp_apply, beq_iff_eq]
  constructor
  . rintro ⟨heq, hother, hcurrent⟩
    exact ⟨hsingle, (hkey hother).mp heq, hcurrent⟩
  . rintro ⟨-, heq, hcurrent⟩
    have hother : db.single other.predicateId = true := by rw [heq]; exact hsingle
    exact ⟨(hkey hother).mpr heq, hother, hcurrent⟩

/-! ## Reports -/

/-- What the reader can see does not depend on the predicate that a request asks for. -/
def GraphReportRowsFetchParams.sees (params : GraphReportRowsFetchParams) (db : GraphReadDb)
    (now : Nat) (fact : GraphFact) : Bool :=
  { params with predicateId := none }.selects db now fact

theorem GraphReportRowsFetchParams.selects_iff_sees {fact : GraphFact}
    : params.selects db now fact = true
      ↔ params.sees db now fact = true
        ∧ ∀ predicateId ∈ params.predicateId, fact.predicateId = predicateId := by
  unfold sees selects evidence readsEvidence reads
  cases params.predicateId with
  | none => simp
  | some predicateId =>
    simp only [Option.all_some, Option.all_none, Bool.and_eq_true, Bool.and_true, Option.mem_some_iff,
      forall_eq', decide_eq_true_eq]
    tauto

theorem resolveGraphReport_subject {req : GraphReportRequest} {resolved : ResolvedGraphReport}
    (h : resolveGraphReport text db svc clock req = .ok resolved)
    : resolved.params.subjectEntityId = resolved.subject.entityId := by
  unfold resolveGraphReport at h
  rcases Except.bind_eq_ok.mp h with ⟨prepared, -, h⟩
  rcases Except.bind_eq_ok.mp h with ⟨allowedScopes, -, h⟩
  rcases Except.bind_eq_ok.mp h with ⟨effectiveScopes, -, h⟩
  rcases Except.bind_eq_ok.mp h with ⟨subject, -, h⟩
  rcases Except.bind_eq_ok.mp h with ⟨predicate, -, h⟩
  cases h
  rfl

/--
A current fact of a predicate with a single value is marked exactly if the reader can see another
current fact of the subject and the predicate.
-/
def GraphReportResponse.MarksAmbiguity (resp : GraphReportResponse) (db : GraphReadDb)
    (params : GraphReportRowsFetchParams) (now : Nat) : Prop :=
  ∀ reported ∈ resp.facts, reported.temporalStatus = .current →
    reported.predicateCardinality = some "single" →
    ("ambiguous" ∈ reported.statusMarkers
      ↔ ∃ other ∈ db.graph.facts, params.sees db now other = true
        ∧ other.factId ≠ reported.factId ∧ other.subjectEntityId = resp.subject.entityId
        ∧ some other.predicateId = reported.predicateId ∧ other.CurrentAt resp.asOf)

/--
Of no predicate with a single value are there several current facts of which the limit keeps exactly
one.
-/
def LimitKeepsConflicts (db : GraphReadDb) (params : GraphReportRowsFetchParams) (now : Nat)
    (asOf : Int) (limit : Nat) : Prop :=
  ∀ predicateId,
    1 < (reportRows db params now).countP (fun row => row.currentOf asOf predicateId) →
    ((reportRows db params now).take limit).countP (fun row => row.currentOf asOf predicateId) ≠ 1

theorem facts_report (resolved : ResolvedGraphReport)
    : (resolved.report db clock).facts
      = buildReportFacts ((reportRows db resolved.params clock.dbNow).take resolved.prepared.limit)
        resolved.prepared.asOf := by
  rw [← truncateReportRows_take]
  rfl

/-- The reader can see another fact exactly if the query without a limit counts several. -/
theorem sees_other_iff {fact : GraphFact} (hfact : fact ∈ db.graph.facts)
    (hselects : params.selects db now fact = true) (hsingle : db.single fact.predicateId = true)
    (hcurrent : fact.CurrentAt asOf)
    : (∃ other ∈ db.graph.facts, params.sees db now other = true ∧ other.factId ≠ fact.factId
        ∧ other.subjectEntityId = params.subjectEntityId
        ∧ other.predicateId = fact.predicateId ∧ other.CurrentAt asOf)
      ↔ 1 < (reportRows db params now).countP fun row => row.currentOf asOf fact.predicateId := by
  have hrow : params.factRow db now fact ∈ reportRows db params now :=
    mem_reportRows.mpr ⟨fact, hfact, hselects, rfl⟩
  have hcounted : (params.factRow db now fact).currentOf asOf fact.predicateId = true :=
    currentOf_factRow.mpr ⟨hsingle, rfl, hcurrent⟩
  rw [Tally.one_lt_countP_iff nodup_reportRows hrow hcounted]
  have hfilter := (GraphReportRowsFetchParams.selects_iff_sees.mp hselects).2
  constructor
  . rintro ⟨other, hother, hsees, hne, -, hpredicate, hothercurrent⟩
    refine ⟨params.factRow db now other, mem_reportRows.mpr ⟨other, hother, ?_, rfl⟩, hne, ?_⟩
    . rw [GraphReportRowsFetchParams.selects_iff_sees, hpredicate]
      exact ⟨hsees, hfilter⟩
    . exact currentOf_factRow.mpr ⟨hsingle, hpredicate, hothercurrent⟩
  . rintro ⟨row, hmem, hne, hrowcounted⟩
    rcases mem_reportRows.mp hmem with ⟨other, hother, hotherselects, rfl⟩
    rcases currentOf_factRow.mp hrowcounted with ⟨-, hpredicate, hothercurrent⟩
    have hsees := (GraphReportRowsFetchParams.selects_iff_sees.mp hotherselects).1
    have hsubject : other.subjectEntityId = params.subjectEntityId := by
      simp only [GraphReportRowsFetchParams.selects, Bool.and_eq_true, decide_eq_true_eq]
        at hotherselects
      exact hotherselects.1.1.1.2
    exact ⟨other, hother, hsees, hne, hsubject, hpredicate, hothercurrent⟩

theorem graphReport_marksAmbiguity_iff {req : GraphReportRequest} {resp : GraphReportResponse}
    {resolved : ResolvedGraphReport} (hids : db.PredicateIds)
    (hresolved : resolveGraphReport text db svc clock req = .ok resolved)
    (h : graphReport text db svc clock req = .ok resp)
    : resp.MarksAmbiguity db resolved.params clock.dbNow
      ↔ LimitKeepsConflicts db resolved.params clock.dbNow resp.asOf resolved.prepared.limit := by
  have hresp : resolved.report db clock = resp := by
    unfold graphReport at h
    rw [hresolved] at h
    exact Except.ok.inj h
  subst hresp
  have hsubject : resolved.params.subjectEntityId = (resolved.report db clock).subject.entityId :=
    resolveGraphReport_subject hresolved
  have hasOf : (resolved.report db clock).asOf = resolved.prepared.asOf := rfl
  have hkept : ∀ row ∈ (reportRows db resolved.params clock.dbNow).take resolved.prepared.limit,
      row ∈ reportRows db resolved.params clock.dbNow := fun row hrow => List.mem_of_mem_take hrow
  unfold GraphReportResponse.MarksAmbiguity LimitKeepsConflicts
  rw [facts_report, buildReportFacts_eq hkept, ← hsubject, hasOf]
  have hstep (predicateId : Uuid) := Tally.shows_others_iff
    (p := fun row : GraphReportFactRow => row.currentOf resolved.prepared.asOf predicateId)
    (List.take_sublist resolved.prepared.limit (reportRows db resolved.params clock.dbNow))
  constructor
  . intro hmarks predicateId
    rw [← hstep predicateId]
    intro row hrow hcounted
    rcases mem_reportRows.mp (hkept row hrow) with ⟨fact, hfact, hselects, rfl⟩
    rcases currentOf_factRow.mp hcounted with ⟨hsingle, rfl, hcurrent⟩
    have hrowcurrent
        : (resolved.params.factRow db clock.dbNow fact).currentSingle resolved.prepared.asOf = true :=
      currentSingle_factRow.mpr ⟨hsingle, hcurrent⟩
    rcases (GraphReportFactRow.currentSingle_iff _).mp hrowcurrent with ⟨hcardinality, hstatus⟩
    have hmark := hmarks _ (List.mem_map_of_mem hrow) hstatus hcardinality
    rw [GraphReportFactRow.mem_markers_reportFact hrowcurrent,
      get_currentSinglePredicateCounts hids hkept hsingle] at hmark
    rw [hmark, ← sees_other_iff hfact hselects hsingle hcurrent]
    simp [GraphReportFactRow.reportFact, GraphReportRowsFetchParams.factRow]
  . intro hlimit reported hreported hstatus hcardinality
    rcases List.mem_map.mp hreported with ⟨row, hrow, rfl⟩
    rcases mem_reportRows.mp (hkept row hrow) with ⟨fact, hfact, hselects, rfl⟩
    have hrowcurrent := (GraphReportFactRow.currentSingle_iff _).mpr ⟨hcardinality, hstatus⟩
    rcases currentSingle_factRow.mp hrowcurrent with ⟨hsingle, hcurrent⟩
    have hcounted
        : (resolved.params.factRow db clock.dbNow fact).currentOf resolved.prepared.asOf
          fact.predicateId = true :=
      currentOf_factRow.mpr ⟨hsingle, rfl, hcurrent⟩
    have hshows := (hstep fact.predicateId).mpr (hlimit fact.predicateId) _ hrow hcounted
    rw [GraphReportFactRow.mem_markers_reportFact hrowcurrent,
      get_currentSinglePredicateCounts hids hkept hsingle, hshows,
      ← sees_other_iff hfact hselects hsingle hcurrent]
    simp [GraphReportFactRow.reportFact, GraphReportRowsFetchParams.factRow]

/-- A report that is not cut marks every conflict that the reader can see. -/
theorem limitKeepsConflicts_of_length_le {limit : Nat}
    (h : (reportRows db params now).length ≤ limit)
    : LimitKeepsConflicts db params now asOf limit := by
  intro predicateId hseveral
  rw [List.take_of_length_le h]
  omega

/-! ## Two employers -/

def employerNote (noteId : Uuid) (scope : String) : MemoryNote := {
  noteId
  tenantId := "t"
  projectId := "p"
  agentId := "a"
  scope
  type := "fact"
  key := none
  text := "Ada works here."
  importance := .fin 0
  confidence := .fin 0
  status := "active"
  createdAt := 0
  updatedAt := 0
  expiresAt := none
  embeddingVersion := "embed/v1"
  sourceRef := .obj []
  hitCount := 0
  lastHitAt := none }

def employerFact (factId : Uuid) (scope employer : String) (start : Int) : GraphFact := {
  factId
  tenantId := "t"
  projectId := "p"
  agentId := "a"
  scope
  subjectEntityId := 10
  predicate := "works at"
  predicateId := 20
  objectEntityId := none
  objectValue := some employer
  validFrom := some start
  validTo := none }

/-- One agent knows of two employers, from a private note and from a shared one. -/
def employersDb : GraphReadDb := {
  memory := { Store.empty with
    notes := ⟨[employerNote 1 "agent_private", employerNote 2 "project_shared"], by decide⟩ }
  graph := { GraphDb.empty with
    entities := ⟨[⟨10, "t", "p", "Ada", "ada", none⟩], by decide⟩
    predicates := ⟨[⟨20, "__global__", none, none, "works at", "works at", .single, .active, 0, 0⟩],
      by decide⟩
    facts := ⟨[employerFact 1 "agent_private" "Acme" 1000,
      employerFact 2 "project_shared" "Globex" 2000], by decide⟩
    evidence := ⟨[⟨1, 1, none⟩, ⟨2, 2, none⟩], by decide⟩ }
  factCreatedAt := fun _ => 0
  evidenceCreatedAt := fun _ => 0 }

def employersRequest (limit : Nat) : GraphReportRequest := {
  tenantId := "t"
  projectId := "p"
  agentId := "a"
  readProfile := "private_plus_project"
  subject := .entityId 10
  predicate := none
  scopes := none
  asOf := some 5000
  limit := some limit
  explain := none }

def employersResolved (limit : Nat) : ResolvedGraphReport := {
  prepared := {
    tenantId := "t"
    projectId := "p"
    agentId := "a"
    readProfile := "private_plus_project"
    subject := .entityId 10
    predicate := none
    requestedScopes := []
    asOf := 5000
    limit
    explain := false }
  allowedScopes := ["agent_private", "project_shared"]
  subject := ⟨10, "t", "p", "Ada", "ada", none⟩
  predicate := none
  params := {
    tenantId := "t"
    projectId := "p"
    subjectEntityId := 10
    scopes := ["agent_private", "project_shared"]
    actor := "a"
    sharedScopeKeys := []
    predicateId := none } }

theorem resolve_employersRequest
    : resolveGraphReport asciiText employersDb sampleReadService ⟨5000, 0⟩ (employersRequest 1)
      = .ok (employersResolved 1) := by
  decide +kernel

theorem report_employersRequest
    : graphReport asciiText employersDb sampleReadService ⟨5000, 0⟩ (employersRequest 1)
      = .ok ((employersResolved 1).report employersDb ⟨5000, 0⟩) := by
  unfold graphReport
  rw [resolve_employersRequest]
  rfl

theorem employersDb_predicateIds : employersDb.PredicateIds := by
  intro row hrow
  have hrow : row ∈ employersDb.graph.predicates.rows := hrow
  revert row
  decide

theorem graphReport_marksAmbiguity_iff_employers
    : ((employersResolved 1).report employersDb ⟨5000, 0⟩).MarksAmbiguity employersDb
        (employersResolved 1).params 0
      ↔ LimitKeepsConflicts employersDb (employersResolved 1).params 0 5000 1 :=
  graphReport_marksAmbiguity_iff employersDb_predicateIds resolve_employersRequest
    report_employersRequest

def globexReported : GraphReportResponseFact := {
  factId := 2
  scope := "project_shared"
  actor := "a"
  predicate := "works at"
  predicateId := some 20
  predicateStatus := some "active"
  predicateCardinality := some "single"
  observedAt := 0
  validFrom := some 2000
  validTo := none
  temporalStatus := .current
  object := ⟨none, some "Globex"⟩
  evidenceNoteIds := [2]
  supersededByFactIds := []
  supersedesFactIds := []
  statusMarkers := ["sourced"] }

/-- A report of one fact shows an employer without a marker, while the reader can see the other. -/
theorem limit_hides_employer
    : graphReport asciiText employersDb sampleReadService ⟨5000, 0⟩ (employersRequest 1)
          = .ok ((employersResolved 1).report employersDb ⟨5000, 0⟩)
        ∧ ((employersResolved 1).report employersDb ⟨5000, 0⟩).facts = [globexReported]
        ∧ ¬((employersResolved 1).report employersDb ⟨5000, 0⟩).MarksAmbiguity employersDb
          (employersResolved 1).params 0 := by
  have hfacts : ((employersResolved 1).report employersDb ⟨5000, 0⟩).facts = [globexReported] := by
    decide +kernel
  refine ⟨report_employersRequest, hfacts, ?_⟩
  intro h
  have hmark := h globexReported (by rw [hfacts]; exact List.mem_singleton_self _) rfl rfl
  have hmarked : "ambiguous" ∈ globexReported.statusMarkers := hmark.mpr
    ⟨employerFact 1 "agent_private" "Acme" 1000, .head _, by decide +kernel, by decide, rfl, rfl,
      by decide⟩
  exact absurd hmarked (by decide)

end Elf
