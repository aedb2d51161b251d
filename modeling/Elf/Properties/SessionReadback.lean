import Elf.Lib.Scan
import Elf.WorkJournal.Readback

/-!
This module contains what a readback of a session returns: the newest entries that the reader may see
and that are of the families asked for, among the newest 500 entries of the session.
-/

namespace Elf

variable {auditError : SpelledJson → String} {svc : ReadService} {db : WorkJournalDb}
  {req : WorkJournalSessionReadbackRequest} {allowedScopes : List String}

namespace WorkJournalSessionReadbackRequest

variable (req : WorkJournalSessionReadbackRequest) (db : WorkJournalDb) (allowedScopes : List String)

/-- The entry is of the families asked for, and the reader may see it. -/
def selects (row : WorkJournalEntry) : Bool :=
  (req.families.isEmpty || req.families.contains row.family)
    && workJournalReadAllowed row (Text.trim req.agentId) allowedScopes
      (loadWorkJournalSharedGrants db.memory (Text.trim req.tenantId) (Text.trim req.projectId)
        (Text.trim req.agentId) allowedScopes)

/-- The entries of the session, the newest first. -/
def session : List WorkJournalEntry :=
  sessionEntries db (Text.trim req.tenantId) (Text.trim req.projectId) orgProjectId
    (Text.trim req.sessionId)

/-- The newest entries that are selected, of those within the bound of the scan. -/
def newest : List WorkJournalEntry :=
  (((req.session db).take maxStorageScanRows).filter (req.selects db allowedScopes)).take
    req.clampedLimit

end WorkJournalSessionReadbackRequest

/-! ## The loop -/

section

variable {families : List WorkJournalEntryFamily} {agentId : String}
  {sharedGrants : List SharedSpaceGrantKey} {limit : Nat}

/-- The two checks of the loop leave the rows of the families that the reader may see. -/
theorem skips_iff (row : WorkJournalEntry)
    : (!families.isEmpty && !families.contains row.family) = true
      ↔ (families.isEmpty || families.contains row.family) = false := by
  cases families.isEmpty <;> cases families.contains row.family <;> simp

theorem collectReadable_eq (items : List WorkJournalEntryResponse) (rows : List WorkJournalEntry)
    (hlimit : items.length < limit)
    : collectReadable auditError families agentId allowedScopes sharedGrants limit items rows
      = (((rows.filter fun row => (families.isEmpty || families.contains row.family)
            && workJournalReadAllowed row agentId allowedScopes sharedGrants).take
          (limit - items.length)).mapM (rowToResponse auditError)).map (items ++ ·) := by
  induction rows generalizing items with
  | nil => simp [collectReadable, Except.map, pure, Except.pure]
  | cons row rows ih =>
    unfold collectReadable
    rw [List.filter_cons]
    split
    next hfamily =>
      rw [skips_iff] at hfamily
      rw [ih items hlimit, hfamily, Bool.false_and, if_neg Bool.false_ne_true]
    next hfamily =>
      rw [skips_iff, Bool.not_eq_false] at hfamily
      rw [hfamily, Bool.true_and]
      split
      next hread =>
        rw [Bool.not_eq_true'] at hread
        rw [ih items hlimit, hread, if_neg Bool.false_ne_true]
      next hread =>
        rw [Bool.not_eq_true', Bool.not_eq_false] at hread
        have hsucc : limit - items.length = limit - (items.length + 1) + 1 := by omega
        rw [hread, if_pos rfl, hsucc, List.take_succ_cons, List.mapM_cons]
        cases rowToResponse auditError row with
        | error e => rfl
        | ok item =>
          have hlength : (items ++ [item]).length = items.length + 1 := by simp
          simp only [bind, Except.bind]
          split
          next hfull =>
            rw [hlength] at hfull
            rw [Nat.sub_eq_zero_of_le hfull]
            simp [Except.map, pure, Except.pure]
          next hmore =>
            rw [hlength] at hmore
            rw [ih (items ++ [item]) (by omega), hlength]
            cases ((rows.filter _).take _).mapM (rowToResponse auditError) with
            | error e => rfl
            | ok rest => simp [Except.map, pure, Except.pure]

end

/-! ## Readbacks -/

theorem clampedLimit_pos (req : WorkJournalSessionReadbackRequest) : 0 < req.clampedLimit := by
  unfold WorkJournalSessionReadbackRequest.clampedLimit maxSessionReadbackLimit
  omega

/-- The request passes the checks, and its profile reads the scopes. -/
structure ReadbackAccepted (svc : ReadService) (req : WorkJournalSessionReadbackRequest)
    (allowedScopes : List String) : Prop where
  context : validateReadContext req.tenantId req.projectId req.agentId req.readProfile = .ok ()
  session : validateIdentifier req.sessionId "$.session_id" = .ok ()
  scopes : resolveReadProfileScopes svc (Text.trim req.readProfile) = .ok allowedScopes

theorem workJournalSessionReadback_eq (h : ReadbackAccepted svc req allowedScopes)
    : workJournalSessionReadback auditError svc db req
      = ((req.newest db allowedScopes).mapM (rowToResponse auditError)).map fun items => {
          schema := elfWorkJournalSchemaV1
          sessionId := Text.trim req.sessionId
          items
          whereStopped := buildWhereStopped items } := by
  have hitems : collectReadable auditError req.families (Text.trim req.agentId) allowedScopes
        (loadWorkJournalSharedGrants db.memory (Text.trim req.tenantId) (Text.trim req.projectId)
          (Text.trim req.agentId) allowedScopes) req.clampedLimit []
        (listWorkJournalEntriesForSession db (Text.trim req.tenantId) (Text.trim req.projectId)
          orgProjectId (Text.trim req.sessionId) maxStorageScanRows)
      = (req.newest db allowedScopes).mapM (rowToResponse auditError) := by
    rw [collectReadable_eq [] _ (clampedLimit_pos req)]
    change ((req.newest db allowedScopes).mapM (rowToResponse auditError)).map ([] ++ ·) = _
    cases (req.newest db allowedScopes).mapM (rowToResponse auditError) <;> rfl
  unfold workJournalSessionReadback
  rw [h.context, h.session, h.scopes]
  simp only [bind, Except.bind]
  rw [hitems]
  cases (req.newest db allowedScopes).mapM (rowToResponse auditError) <;> rfl

/-! ## Stored audits -/

/-- The audit of the entry can be read. -/
def WorkJournalEntry.Audited (row : WorkJournalEntry) : Prop :=
  ∃ audit, WritePolicyAudit.ofValue row.redactionAudit = some audit

def WorkJournalDb.Audited (db : WorkJournalDb) : Prop := ∀ row ∈ db.entries, row.Audited

theorem WriteSpan.ofValue_toValue {span : WriteSpan} (hstart : span.start < 2 ^ 64)
    (hstop : span.stop < 2 ^ 64) : WriteSpan.ofValue span.toValue = some span := by
  have hstart' : Serde.u64 (Serde.encodeInt span.start) = some (span.start : ℤ) :=
    Serde.int_encodeInt (by omega) (by omega)
  have hstop' : Serde.u64 (Serde.encodeInt span.stop) = some (span.stop : ℤ) :=
    Serde.int_encodeInt (by omega) (by omega)
  simp [toValue, ofValue, ofParts, List.lookup_cons, hstart', hstop']

/-- The offsets of an audit are those of a text, which fit into a word. -/
structure WritePolicyAudit.InRange (audit : WritePolicyAudit) : Prop where
  exclusions : ∀ span ∈ audit.exclusions, span.start < 2 ^ 64 ∧ span.stop < 2 ^ 64
  redactions : ∀ redaction ∈ audit.redactions,
    redaction.1.start < 2 ^ 64 ∧ redaction.1.stop < 2 ^ 64

theorem writeRedactionResultOfValue_toValue {redaction : WriteSpan × String}
    (hstart : redaction.1.start < 2 ^ 64) (hstop : redaction.1.stop < 2 ^ 64)
    : writeRedactionResultOfValue
        (.obj [("replacement", .str redaction.2), ("span", redaction.1.toValue)])
      = some redaction := by
  simp [writeRedactionResultOfValue, writeRedactionResultOfParts, List.lookup_cons,
    WriteSpan.ofValue_toValue hstart hstop, Serde.string]

theorem WritePolicyAudit.ofValue_toValue {audit : WritePolicyAudit} (h : audit.InRange)
    : WritePolicyAudit.ofValue audit.toValue = some audit := by
  have hexclusions : Serde.list WriteSpan.ofValue (.arr (audit.exclusions.map WriteSpan.toValue))
      = some audit.exclusions := by
    apply Serde.list_map
    intro span hspan
    exact WriteSpan.ofValue_toValue (h.exclusions span hspan).1 (h.exclusions span hspan).2
  have hredactions : Serde.list writeRedactionResultOfValue
        (.arr (audit.redactions.map fun redaction =>
          .obj [("replacement", .str redaction.2), ("span", redaction.1.toValue)]))
      = some audit.redactions := by
    apply Serde.list_map
    intro redaction hredaction
    exact writeRedactionResultOfValue_toValue (h.redactions redaction hredaction).1
      (h.redactions redaction hredaction).2
  simp [toValue, ofValue, ofParts, List.lookup_cons, hexclusions, hredactions]

/-- What a capture stores can be read back. -/
theorem insertWorkJournalEntry_audited {entry : WorkJournalEntry} {audit : WritePolicyAudit}
    {db' : WorkJournalDb} (hdb : db.Audited) (hentry : entry.redactionAudit = audit.toValue)
    (haudit : audit.InRange) (h : insertWorkJournalEntry db entry = .ok db') : db'.Audited := by
  unfold insertWorkJournalEntry at h
  rcases Except.bind_eq_ok.mp h with ⟨entries, hinsert, hdb'⟩
  cases hdb'
  apply Table.forall_insert? (Table.insert_eq_ok.mp hinsert) hdb
  unfold WorkJournalEntry.Audited
  rw [hentry]
  exact ⟨audit, WritePolicyAudit.ofValue_toValue haudit⟩

theorem rowToResponse_of_audited {row : WorkJournalEntry} (h : row.Audited)
    : ∃ item, rowToResponse auditError row = .ok item := by
  rcases h with ⟨audit, haudit⟩
  unfold rowToResponse
  rw [haudit]
  exact ⟨_, rfl⟩

theorem mem_of_mem_newest {row : WorkJournalEntry} (h : row ∈ req.newest db allowedScopes)
    : row ∈ db.entries := by
  have hfilter := List.mem_of_mem_take (List.mem_filter.mp (List.mem_of_mem_take h)).1
  have hsorted := Sorting.mem_sortBy.mp hfilter
  exact (List.mem_filter.mp hsorted).1

def journalEntry (entryId : Uuid) (agentId : String) (createdAt : Nat) : WorkJournalEntry := {
  entryId
  tenantId := "t"
  projectId := "p"
  agentId
  scope := "agent_private"
  sessionId := "s"
  family := .sessionLog
  status := "active"
  title := none
  body := "Work."
  sourceRefs := .arr []
  explicitNextSteps := .arr []
  inferredNextSteps := .arr []
  rejectedOptions := .arr []
  promotionBoundary := .obj []
  redactionAudit := WritePolicyAudit.default.toValue
  createdAt
  updatedAt := createdAt }

def soleJournal : WorkJournalDb := {
  memory := .empty
  entries := ⟨[journalEntry 0 "a" 0], by decide⟩ }

/-- The rows of one agent for the first 500 numbers, and those of another one from there on. -/
def crowdedRow (n : Nat) : WorkJournalEntry :=
  journalEntry n (if n < 500 then "b" else "a") (500 - n)

def crowdedRows : List WorkJournalEntry := (List.range 501).map crowdedRow

theorem nodup_crowdedRows : (crowdedRows.map WorkJournalEntry.entryId).Nodup := by
  have hids : crowdedRows.map WorkJournalEntry.entryId = (List.range 501).map id :=
    List.map_map
  rw [hids, List.map_id]
  exact List.nodup_range

/-- 500 entries that one agent keeps to itself, and an older entry of another agent. -/
def crowdedJournal : WorkJournalDb := {
  memory := .empty
  entries := ⟨crowdedRows, nodup_crowdedRows⟩ }

def crowdedRequest (limit : Nat) : WorkJournalSessionReadbackRequest := {
  tenantId := "t"
  projectId := "p"
  agentId := "a"
  readProfile := "private_only"
  sessionId := "s"
  families := []
  limit := some limit }

def readbackIds (db : WorkJournalDb) (req : WorkJournalSessionReadbackRequest)
    : Option (List Uuid) :=
  (workJournalSessionReadback (fun _ => "") sampleReadService db req).toOption.map
    fun resp => resp.items.map WorkJournalEntryResponse.entryId

theorem crowdedRequest_accepted
    : ReadbackAccepted sampleReadService (crowdedRequest 10) ["agent_private"] where
  context := by decide
  session := by decide
  scopes := by decide

/-- An agent does not see what another one keeps to itself. -/
theorem selects_eq_false_of_private {row : WorkJournalEntry} (hscope : row.scope = "agent_private")
    (hagent : row.agentId ≠ Text.trim req.agentId) : req.selects db allowedScopes row = false := by
  unfold WorkJournalSessionReadbackRequest.selects workJournalReadAllowed
  simp [hscope, hagent]

theorem session_crowdedJournal : (crowdedRequest 10).session crowdedJournal = crowdedRows := by
  have hsorted : crowdedRows.Pairwise fun a b => (WorkJournalEntry.newestFirst a b).isLE := by
    unfold crowdedRows
    rw [List.pairwise_map]
    apply List.pairwise_lt_range.imp_of_mem
    intro i j hi hj hlt
    have holder : compare (500 - j) (500 - i) = .lt := by
      rw [Nat.compare_eq_lt]
      have := List.mem_range.mp hj
      omega
    change ((compare (500 - j) (500 - i)).then (compare j i)).isLE = true
    rw [holder]
    rfl
  have hrows : crowdedJournal.entries.rows = crowdedRows := by
    simp only [crowdedJournal]
  unfold WorkJournalSessionReadbackRequest.session sessionEntries Sorting.sortBy
  rw [hrows, List.filter_eq_self.mpr]
  . exact hsorted.insertionSort_eq
  . intro row hrow
    rcases List.mem_map.mp hrow with ⟨n, hn, rfl⟩
    rfl

theorem newest_crowdedJournal
    : (crowdedRequest 10).newest crowdedJournal ["agent_private"] = [] := by
  unfold WorkJournalSessionReadbackRequest.newest
  rw [session_crowdedJournal, List.filter_eq_nil_iff.mpr, List.take_nil]
  intro row hrow
  have htake : crowdedRows.take maxStorageScanRows = (List.range 500).map crowdedRow := by
    unfold crowdedRows
    rw [← List.map_take, List.take_range]
    rfl
  rw [htake] at hrow
  rcases List.mem_map.mp hrow with ⟨n, hn, rfl⟩
  rw [Bool.not_eq_true]
  apply selects_eq_false_of_private rfl
  have hagent : (crowdedRow n).agentId = "b" := if_pos (List.mem_range.mp hn)
  rw [hagent]
  decide

end Elf
