import Elf.Lib.Run
import Elf.Service.Review
import Elf.Worker.Helpers

/-!
This module contains the runs of consolidation: the jobs that workers claim, the status that they read of
a run, the transaction that stores its proposals, and the steps that requests and workers take in any
order.
-/

namespace Elf

open Except

/-! ## Tables -/

structure ConsolidationRun where
  runId : Uuid
  tenantId : String
  projectId : String
  agentId : String
  jobKind : String
  status : ConsolidationRunState
  inputRefs : Json
  sourceSnapshot : Json
  lineage : Json
  createdAt : Nat
  updatedAt : Nat
  completedAt : Option Nat

inductive ConsolidationJobStatus where
  | pending
  | claimed
  | done
  | failed
deriving DecidableEq

structure ConsolidationRunJob where
  jobId : Uuid
  owner : ConsolidationJobOwner
  jobKind : String
  status : ConsolidationJobStatus
  payload : ConsolidationJobPayload
  attempts : Nat
  availableAt : Nat
  createdAt : Nat
  updatedAt : Nat

structure ConsolidationStore where
  runs : Table ConsolidationRun ConsolidationRun.runId
  jobs : Table ConsolidationRunJob ConsolidationRunJob.jobId
  proposals : Table ConsolidationProposal ConsolidationProposal.proposalId
  /-- The statuses that were stored, oldest first. -/
  statuses : List (Uuid × ConsolidationRunState)

def ConsolidationStore.empty : ConsolidationStore := ⟨.empty, .empty, .empty, []⟩

def getConsolidationRun (db : ConsolidationStore) (tenantId projectId : String) (runId : Uuid)
    : Option ConsolidationRun :=
  (db.runs.find? runId).filter fun run => run.tenantId = tenantId && run.projectId = projectId

-- The status that is stored is not compared with any other.
def updateConsolidationRunState (db : ConsolidationStore) (tenantId projectId : String) (runId : Uuid)
    (status : ConsolidationRunState) (now : Nat) : Option ConsolidationStore :=
  (getConsolidationRun db tenantId projectId runId).map fun _ =>
    let runs := db.runs.modify runId fun run => { run with
      status
      updatedAt := timestamptz now
      completedAt := if status.terminal then some (timestamptz now) else run.completedAt }
    { db with runs, statuses := db.statuses ++ [(runId, status)] }

/-! ## Requests -/

structure ConsolidationRunCreateRequest where
  tenantId : String
  projectId : String
  agentId : String
  jobKind : String
  inputRefs : Json
  sourceSnapshot : Json
  lineage : Json
  /-- The input references and the lineage are valid. -/
  partsValid : Bool
  proposals : List ConsolidationProposalContract

def validateJobKind (jobKind : String) : Except Error Unit := do
  validateNonEmpty "job_kind" jobKind
  rejectIf (jobKind ≠ "fixture" && jobKind ≠ "manual")
    (.invalidRequest "job_kind must be fixture or manual for consolidation v1.")

def consolidationRunCreate (req : ConsolidationRunCreateRequest) (runId jobId : Uuid) (now : Nat)
    (db : ConsolidationStore) : Except Error ConsolidationStore := do
  validateContext req.tenantId req.projectId req.agentId
  validateJobKind req.jobKind
  rejectIf (!req.partsValid) (.invalidRequest "consolidation input is invalid")
  rejectIf (!req.sourceSnapshot.isObject) (.invalidRequest "source_snapshot must be a JSON object.")
  let payload : ConsolidationJobPayload := ⟨consolidationContractSchemaV1, req.proposals⟩
  rejectIf (!payload.validate) (.invalidRequest "consolidation proposal is invalid")
  let runs ← db.runs.insert {
      runId
      tenantId := req.tenantId
      projectId := req.projectId
      agentId := req.agentId
      jobKind := req.jobKind
      status := .pending
      inputRefs := req.inputRefs
      sourceSnapshot := req.sourceSnapshot
      lineage := req.lineage
      createdAt := timestamptz now
      updatedAt := timestamptz now
      completedAt := none } duplicateKey
  let jobs ← db.jobs.insert {
      jobId
      owner := ⟨runId, req.tenantId, req.projectId, req.agentId⟩
      jobKind := req.jobKind
      status := .pending
      payload
      attempts := 0
      availableAt := timestamptz now
      createdAt := timestamptz now
      updatedAt := timestamptz now } duplicateKey
  return { db with runs, jobs, statuses := db.statuses ++ [(runId, .pending)] }

-- An operator cancels a run, as the lifecycle allows.
def cancelConsolidationRun (db : ConsolidationStore) (tenantId projectId : String) (runId : Uuid)
    (now : Nat) : Option ConsolidationStore := do
  let run ← getConsolidationRun db tenantId projectId runId
  guard (run.status.allowed .cancelled)
  updateConsolidationRunState db tenantId projectId runId .cancelled now

/-! ## Jobs -/

def consolidationJobLeaseSeconds : Nat := 30

def ConsolidationRunJob.due (job : ConsolidationRunJob) (now : Nat) : Bool :=
  [ConsolidationJobStatus.pending, .failed, .claimed].contains job.status
    && job.availableAt ≤ timestamptz now

/-- The claim of a job, where `SKIP LOCKED` leaves out the ones that are `locked`. -/
def claimNextConsolidationRunJob (db : ConsolidationStore) (now leaseSeconds : Nat)
    (locked : List Uuid) : Option (ConsolidationRunJob × ConsolidationStore) := do
  let job ← db.jobs.earliest (fun job => job.due now && !locked.contains job.jobId)
    ConsolidationRunJob.availableAt
  let leaseUntil := now + seconds leaseSeconds
  let jobs := db.jobs.modify job.jobId fun job => { job with
    status := .claimed
    availableAt := timestamptz leaseUntil
    updatedAt := timestamptz now }
  return ({ job with status := .claimed, availableAt := leaseUntil, updatedAt := now }, { db with jobs })

def markConsolidationRunJobDone (db : ConsolidationStore) (jobId : Uuid) (now : Nat)
    : ConsolidationStore :=
  let jobs := db.jobs.modify jobId fun job => { job with
    status := .done
    updatedAt := timestamptz now }
  { db with jobs }

def markConsolidationRunJobFailed (db : ConsolidationStore) (jobId : Uuid)
    (attempts availableAt now : Nat) : ConsolidationStore :=
  let jobs := db.jobs.modify jobId fun job => { job with
    status := .failed
    attempts
    availableAt := timestamptz availableAt
    updatedAt := timestamptz now }
  { db with jobs }

def markConsolidationFailed (db : ConsolidationStore) (job : ConsolidationRunJob) (now : Nat)
    : ConsolidationStore :=
  let attempts := nextAttempts job.attempts
  markConsolidationRunJobFailed db job.jobId attempts (now + backoffForAttempt attempts) now

/-! ## Handler -/

def runDisappeared : WorkerError := .validation "Consolidation run disappeared."

/-- The first part of the handler: the status of the run. -/
def readConsolidationRun (db : ConsolidationStore) (job : ConsolidationRunJob)
    : Except WorkerError ConsolidationRunState := do
  rejectIf (!job.payload.validate) (.validation "consolidation proposal is invalid")
  let existing ← ofOption (.validation "Consolidation run does not exist.")
    (getConsolidationRun db job.owner.tenantId job.owner.projectId job.owner.runId)
  return existing.status

/-- The transition is valid, and the run gets the next status. -/
def moveConsolidationRun (db : ConsolidationStore) (owner : ConsolidationJobOwner)
    (state next : ConsolidationRunState) (now : Nat) : Except WorkerError ConsolidationStore := do
  (state.validateTransition next).mapError .validation
  ofOption runDisappeared
    (updateConsolidationRunState db owner.tenantId owner.projectId owner.runId next now)

/-- The proposals of a payload get the identifiers that are drawn for them. -/
def insertConsolidationProposals (db : ConsolidationStore) (owner : ConsolidationJobOwner) (now : Nat)
    (proposalId : Nat → Uuid) (idx : Nat)
    : List ConsolidationProposalContract → Except WorkerError ConsolidationStore
  | [] => .ok db
  | contract :: contracts => do
    let row ← (proposalRowFromContract owner (proposalId idx) now contract).mapError fun _ =>
      .validation "consolidation proposal is invalid"
    let proposals ← db.proposals.insert row
      (.message "duplicate key value violates unique constraint")
    insertConsolidationProposals { db with proposals } owner now proposalId (idx + 1) contracts

/-- A run that was pending starts to run. -/
def startConsolidationRun (db : ConsolidationStore) (owner : ConsolidationJobOwner)
    (state : ConsolidationRunState) (now : Nat) : Except WorkerError ConsolidationStore :=
  if state = .pending then moveConsolidationRun db owner state .running now else .ok db

/-- The second part of the handler, which is one transaction, for a run whose status was `state`. -/
def writeConsolidationRun (db : ConsolidationStore) (job : ConsolidationRunJob)
    (state : ConsolidationRunState) (now : Nat) (proposalId : Nat → Uuid)
    : Except WorkerError ConsolidationStore :=
  if state.terminal then
    .ok (markConsolidationRunJobDone db job.jobId now)
  else do
    let db ← startConsolidationRun db job.owner state now
    let db ← insertConsolidationProposals db job.owner now proposalId 0 job.payload.proposals
    let db ← moveConsolidationRun db job.owner .running .completed now
    return markConsolidationRunJobDone db job.jobId now

/-! ## Steps -/

/-- How far a worker is with its job. -/
inductive ConsolidationPhase where
  | claimed
  | read (state : ConsolidationRunState)
  | handled (result : Except WorkerError Unit)

structure ConsolidationAttempt where
  job : ConsolidationRunJob
  phase : ConsolidationPhase

/-- The tables, and what the workers are doing. -/
structure Consolidation where
  db : ConsolidationStore
  attempts : Attempts ConsolidationAttempt

def Consolidation.empty : Consolidation := ⟨.empty, fun _ => none⟩

inductive ConsolidationAction where
  | create (req : ConsolidationRunCreateRequest) (runId jobId : Uuid) (now : Nat)
  | cancel (tenantId projectId : String) (runId : Uuid) (now : Nat)
  | claim (worker now : Nat) (locked : List Uuid)
  | read (worker : Nat)
  | write (worker now : Nat) (proposalId : Nat → Uuid)
  /-- A call of the handler fails, or its answer is lost after it had its effect. -/
  | fail (worker : Nat) (err : WorkerError)
  | settle (worker now : Nat)
  /-- The worker stops, and its lease expires. -/
  | crash (worker : Nat)

namespace Consolidation

variable (s : Consolidation)

def claim (worker now : Nat) (locked : List Uuid) : Option Consolidation := do
  guard (s.attempts worker).isNone
  let (job, db) ← claimNextConsolidationRunJob s.db now consolidationJobLeaseSeconds locked
  return { s with db, attempts := s.attempts.set worker (some ⟨job, .claimed⟩) }

def read (worker : Nat) : Option Consolidation :=
  match s.attempts worker with
  | some ⟨job, .claimed⟩ =>
    let phase := match readConsolidationRun s.db job with
      | .ok state => .read state
      | .error err => .handled (.error err)
    some { s with attempts := s.attempts.set worker (some ⟨job, phase⟩) }
  | _ => none

def write (worker now : Nat) (proposalId : Nat → Uuid) : Option Consolidation :=
  match s.attempts worker with
  | some ⟨job, .read state⟩ =>
    match writeConsolidationRun s.db job state now proposalId with
    | .ok db => some { s with db, attempts := s.attempts.set worker (some ⟨job, .handled (.ok ())⟩) }
    | .error err => some { s with attempts := s.attempts.set worker (some ⟨job, .handled (.error err)⟩) }
  | _ => none

def fail (worker : Nat) (err : WorkerError) : Option Consolidation := do
  let attempt ← s.attempts worker
  return { s with attempts := s.attempts.set worker (some ⟨attempt.job, .handled (.error err)⟩) }

def settle (worker now : Nat) : Option Consolidation :=
  match s.attempts worker with
  | some ⟨job, .handled result⟩ =>
    let db := match result with
      | .ok () => s.db
      | .error _ => markConsolidationFailed s.db job now
    some { s with db, attempts := s.attempts.set worker none }
  | _ => none

def step : ConsolidationAction → Option Consolidation
  | .create req runId jobId now =>
    match consolidationRunCreate req runId jobId now s.db with
    | .ok db => some { s with db }
    | .error _ => some s
  | .cancel tenantId projectId runId now =>
    some { s with db := (cancelConsolidationRun s.db tenantId projectId runId now).getD s.db }
  | .claim worker now locked => s.claim worker now locked
  | .read worker => s.read worker
  | .write worker now proposalId => s.write worker now proposalId
  | .fail worker err => s.fail worker err
  | .settle worker now => s.settle worker now
  | .crash worker => some { s with attempts := s.attempts.set worker none }

end Consolidation

def ConsolidationSteps (s : Consolidation) (a : ConsolidationAction) (s' : Consolidation) : Prop :=
  s.step a = some s'

end Elf
