import Elf.Docs.Excerpts
import Elf.Domain.WriteGate
import Elf.Lib.Serde
import Elf.Lib.Sorting
import Elf.Lib.Transaction

/-!
This module contains the entries of the work journal and how those of a session are read back: the
newest ones first, as far as the reader may see them.
-/

namespace Elf

open Sorting Text

/-! ## Entries -/

inductive WorkJournalEntryFamily where
  | sessionLog
  | handoffBrief
  | janitorReport
  | explicitNextStep
  | inferredNextStep
  | rejectedOption
deriving DecidableEq

/-- A row of `work_journal_entries`. A check constraint keeps the family to those there are. -/
structure WorkJournalEntry where
  entryId : Uuid
  tenantId : String
  projectId : String
  agentId : String
  scope : String
  sessionId : String
  family : WorkJournalEntryFamily
  status : String
  title : Option String
  body : String
  sourceRefs : SpelledJson
  explicitNextSteps : SpelledJson
  inferredNextSteps : SpelledJson
  rejectedOptions : SpelledJson
  promotionBoundary : SpelledJson
  redactionAudit : SpelledJson
  createdAt : Nat
  updatedAt : Nat

structure WorkJournalDb where
  memory : Store
  entries : Table WorkJournalEntry WorkJournalEntry.entryId

/-- Newest first. -/
def WorkJournalEntry.newestFirst (a b : WorkJournalEntry) : Ordering :=
  (compare b.createdAt a.createdAt).then (compare b.entryId a.entryId)

/-- The entries of a session, without a bound on their number. -/
def sessionEntries (db : WorkJournalDb) (tenantId projectId orgProjectId sessionId : String)
    : List WorkJournalEntry :=
  sortBy WorkJournalEntry.newestFirst (db.entries.rows.filter fun row =>
    row.tenantId = tenantId && [projectId, orgProjectId].contains row.projectId
      && row.sessionId = sessionId && row.status = "active")

def listWorkJournalEntriesForSession (db : WorkJournalDb)
    (tenantId projectId orgProjectId sessionId : String) (maxRows : Nat) : List WorkJournalEntry :=
  (sessionEntries db tenantId projectId orgProjectId sessionId).take maxRows

def insertWorkJournalEntry (db : WorkJournalDb) (entry : WorkJournalEntry)
    : Except Error WorkJournalDb := do
  let entries ← db.entries.insert entry (.conflict "work_journal entry_id already exists")
  return { db with entries }

/-! ## Stored audits -/

def WriteSpan.ofParts (start stop : SpelledJson) : Option WriteSpan := do
  let start ← Serde.u64 start
  let stop ← Serde.u64 stop
  return ⟨start.toNat, stop.toNat⟩

def WriteSpan.ofValue : SpelledJson → Option WriteSpan
  | .arr [start, stop] => WriteSpan.ofParts start stop
  | .obj entries => do WriteSpan.ofParts (← entries.lookup "start") (← entries.lookup "end")
  | _ => none

def writeRedactionResultOfParts (span replacement : SpelledJson) : Option (WriteSpan × String) := do
  let span ← WriteSpan.ofValue span
  let replacement ← Serde.string replacement
  return (span, replacement)

def writeRedactionResultOfValue : SpelledJson → Option (WriteSpan × String)
  | .arr [span, replacement] => writeRedactionResultOfParts span replacement
  | .obj entries => do
    writeRedactionResultOfParts (← entries.lookup "span") (← entries.lookup "replacement")
  | _ => none

def WritePolicyAudit.ofParts (exclusions redactions : SpelledJson) : Option WritePolicyAudit := do
  let exclusions ← Serde.list WriteSpan.ofValue exclusions
  let redactions ← Serde.list writeRedactionResultOfValue redactions
  return { exclusions, redactions }

def WritePolicyAudit.ofValue : SpelledJson → Option WritePolicyAudit
  | .arr [exclusions, redactions] => WritePolicyAudit.ofParts exclusions redactions
  | .obj entries => do
    WritePolicyAudit.ofParts (← entries.lookup "exclusions") (← entries.lookup "redactions")
  | _ => none

def WriteSpan.toValue (span : WriteSpan) : SpelledJson :=
  .obj [("end", Serde.encodeInt span.stop), ("start", Serde.encodeInt span.start)]

def WritePolicyAudit.toValue (audit : WritePolicyAudit) : SpelledJson := .obj [
  ("exclusions", .arr (audit.exclusions.map WriteSpan.toValue)),
  ("redactions", .arr (audit.redactions.map fun redaction =>
    .obj [("replacement", .str redaction.2), ("span", redaction.1.toValue)]))]

/-! ## Reading -/

def workJournalReadAllowed (entry : WorkJournalEntry) (requesterAgentId : String)
    (allowedScopes : List String) (sharedGrants : List SharedSpaceGrantKey) : Bool :=
  if entry.status ≠ "active" then
    false
  else if !allowedScopes.contains entry.scope then
    false
  else if entry.scope = "agent_private" then
    entry.agentId = requesterAgentId
  else if entry.agentId = requesterAgentId then
    true
  else
    sharedGrants.contains ⟨entry.scope, entry.agentId⟩

structure WorkJournalEntryResponse where
  schema : String
  entryId : Uuid
  tenantId : String
  projectId : String
  agentId : String
  scope : String
  sessionId : String
  family : WorkJournalEntryFamily
  status : String
  title : Option String
  body : String
  sourceRefs : List SpelledJson
  explicitNextSteps : List String
  inferredNextSteps : List String
  rejectedOptions : List String
  promotionBoundary : SpelledJson
  redactionAudit : WritePolicyAudit
  createdAt : Nat
  updatedAt : Nat

structure WorkJournalWhereStopped where
  latestEntryId : Uuid
  latestFamily : WorkJournalEntryFamily
  sourceRefs : List SpelledJson
  explicitNextSteps : List String
  inferredNextSteps : List String
  rejectedOptions : List String
  promotionBoundary : SpelledJson

structure WorkJournalSessionReadbackRequest where
  tenantId : String
  projectId : String
  agentId : String
  readProfile : String
  sessionId : String
  families : List WorkJournalEntryFamily
  limit : Option Nat

structure WorkJournalSessionReadbackResponse where
  schema : String
  sessionId : String
  items : List WorkJournalEntryResponse
  whereStopped : Option WorkJournalWhereStopped

def elfWorkJournalSchemaV1 : String := "elf.work_journal/v1"

def defaultSessionReadbackLimit : Nat := 20

def maxSessionReadbackLimit : Nat := 100

def maxStorageScanRows : Nat := 500

def validateIdentifier (text field : String) : Except Error Unit :=
  Except.rejectIf (trim text == "" || !isValidIdentifier (trim text)) (.invalidText field)

def validateReadContext (tenantId projectId agentId readProfile : String) : Except Error Unit := do
  Except.rejectIf (trim tenantId == "" || trim projectId == "" || trim agentId == ""
      || trim readProfile == "")
    (.invalidRequest "tenant_id, project_id, agent_id, and read_profile are required.")
  validateIdentifier tenantId "$.tenant_id"
  validateIdentifier projectId "$.project_id"
  validateIdentifier agentId "$.agent_id"
  validateIdentifier readProfile "$.read_profile"

def loadWorkJournalSharedGrants (s : Store) (tenantId projectId agentId : String)
    (allowedScopes : List String) : List SharedSpaceGrantKey :=
  loadSharedReadGrantsWithOrgShared s tenantId projectId agentId
    (allowedScopes.contains "org_shared")

def valueArray : SpelledJson → List SpelledJson
  | .arr items => items
  | _ => []

def stringArray : SpelledJson → List String
  | .arr items => items.filterMap Serde.string
  | _ => []

section

-- What the reader of an audit says about a value that it rejects.
variable (auditError : SpelledJson → String)

def rowToResponse (row : WorkJournalEntry) : Except Error WorkJournalEntryResponse := do
  let redactionAudit ← Except.ofOption
    (.invalidRequest ("stored redaction audit is invalid: " ++ auditError row.redactionAudit))
    (WritePolicyAudit.ofValue row.redactionAudit)
  return {
    schema := elfWorkJournalSchemaV1
    entryId := row.entryId
    tenantId := row.tenantId
    projectId := row.projectId
    agentId := row.agentId
    scope := row.scope
    sessionId := row.sessionId
    family := row.family
    status := row.status
    title := row.title
    body := row.body
    sourceRefs := valueArray row.sourceRefs
    explicitNextSteps := stringArray row.explicitNextSteps
    inferredNextSteps := stringArray row.inferredNextSteps
    rejectedOptions := stringArray row.rejectedOptions
    promotionBoundary := row.promotionBoundary
    redactionAudit
    createdAt := row.createdAt
    updatedAt := row.updatedAt }

/-- The loop over the rows, with the items so far. -/
def collectReadable (familyFilter : List WorkJournalEntryFamily) (requesterAgentId : String)
    (allowedScopes : List String) (sharedGrants : List SharedSpaceGrantKey) (limit : Nat)
    (items : List WorkJournalEntryResponse)
    : List WorkJournalEntry → Except Error (List WorkJournalEntryResponse)
  | [] => .ok items
  | row :: rows =>
    if !familyFilter.isEmpty && !familyFilter.contains row.family then
      collectReadable familyFilter requesterAgentId allowedScopes sharedGrants limit items rows
    else if !workJournalReadAllowed row requesterAgentId allowedScopes sharedGrants then
      collectReadable familyFilter requesterAgentId allowedScopes sharedGrants limit items rows
    else do
      let item ← rowToResponse auditError row
      let items := items ++ [item]
      if limit ≤ items.length then
        return items
      else
        collectReadable familyFilter requesterAgentId allowedScopes sharedGrants limit items rows

end

def firstNonEmpty (lists : List (List String)) : List String :=
  (lists.find? fun items => !items.isEmpty).getD []

def buildWhereStopped : List WorkJournalEntryResponse → Option WorkJournalWhereStopped
  | [] => none
  | latest :: items => some {
    latestEntryId := latest.entryId
    latestFamily := latest.family
    sourceRefs := latest.sourceRefs
    explicitNextSteps := firstNonEmpty ((latest :: items).map (·.explicitNextSteps))
    inferredNextSteps := firstNonEmpty ((latest :: items).map (·.inferredNextSteps))
    rejectedOptions := firstNonEmpty ((latest :: items).map (·.rejectedOptions))
    promotionBoundary := latest.promotionBoundary }

/-- `clamp(1, MAX_SESSION_READBACK_LIMIT)` -/
def WorkJournalSessionReadbackRequest.clampedLimit (req : WorkJournalSessionReadbackRequest) : Nat :=
  min (max (req.limit.getD defaultSessionReadbackLimit) 1) maxSessionReadbackLimit

def workJournalSessionReadback (auditError : SpelledJson → String) (svc : ReadService)
    (db : WorkJournalDb) (req : WorkJournalSessionReadbackRequest)
    : Except Error WorkJournalSessionReadbackResponse := do
  validateReadContext req.tenantId req.projectId req.agentId req.readProfile
  validateIdentifier req.sessionId "$.session_id"
  let limit := req.clampedLimit
  let allowedScopes ← resolveReadProfileScopes svc (trim req.readProfile)
  let sharedGrants := loadWorkJournalSharedGrants db.memory (trim req.tenantId) (trim req.projectId)
    (trim req.agentId) allowedScopes
  let rows := listWorkJournalEntriesForSession db (trim req.tenantId) (trim req.projectId)
    orgProjectId (trim req.sessionId) maxStorageScanRows
  let items ← collectReadable auditError req.families (trim req.agentId) allowedScopes sharedGrants
    limit [] rows
  return {
    schema := elfWorkJournalSchemaV1
    sessionId := trim req.sessionId
    items
    whereStopped := buildWhereStopped items }

end Elf
