import Elf.Worker.ConsolidationJobs
import Mathlib.Data.List.Chain

/-!
This module contains the runs of consolidation under concurrent workers: the statuses that are stored
for a run follow its lifecycle and its proposals are stored once, provided that no worker writes after
the status of its run has changed since it read it.
-/

namespace Elf

variable {db db' : ConsolidationStore} {owner : ConsolidationJobOwner} {runId : Uuid}
  {state status : ConsolidationRunState} {job : ConsolidationRunJob} {s s' : Consolidation}

/-! ## What is stored of a run -/

namespace ConsolidationStore

def statusOf (db : ConsolidationStore) (runId : Uuid) : Option ConsolidationRunState :=
  (db.runs.find? runId).map (·.status)

/-- The statuses that a run had, oldest first. -/
def statusesOf (db : ConsolidationStore) (runId : Uuid) : List ConsolidationRunState :=
  (db.statuses.filter (·.1 = runId)).map Prod.snd

def proposalsOf (db : ConsolidationStore) (runId : Uuid) : List ConsolidationProposal :=
  db.proposals.rows.filter (·.runId = runId)

end ConsolidationStore

def proposalRows (owner : ConsolidationJobOwner) (now : Nat) (proposalId : Nat → Uuid) (idx : Nat)
    (contracts : List ConsolidationProposalContract) : List ConsolidationProposal :=
  (contracts.zipIdx idx).map fun (contract, i) => proposalRow owner (proposalId i) now contract

/-- The proposals of the run are those of one of its jobs, each stored once. -/
def ConsolidationStore.InsertedOnce (db : ConsolidationStore) (runId : Uuid) : Prop :=
  ∃ job ∈ db.jobs, job.owner.runId = runId
    ∧ ∃ now proposalId, db.proposalsOf runId
      = proposalRows job.owner now proposalId 0 job.payload.proposals

/-- The stored statuses are a path of the lifecycle to the status of the run. -/
structure ConsolidationStore.Lifecycle (db : ConsolidationStore) (runId : Uuid) : Prop where
  path : (db.statusesOf runId).IsChain fun state next => state.allowed next = true
  stored : (db.statusesOf runId).getLast? = db.statusOf runId

-- Proposals are only there once the run has come to its end.
def ConsolidationStore.Proposals (db : ConsolidationStore) (runId : Uuid) : Prop :=
  db.proposalsOf runId = []
    ∨ db.InsertedOnce runId ∧ ∃ state, db.statusOf runId = some state ∧ state.terminal = true

structure ConsolidationStore.Sound (db : ConsolidationStore) : Prop where
  lifecycle : ∀ runId, db.Lifecycle runId
  proposals : ∀ runId, db.Proposals runId

-- The jobs may change but for their owners and payloads.
def ConsolidationStore.KeepsJobs (db db' : ConsolidationStore) : Prop :=
  ∀ job ∈ db.jobs, ∃ job' ∈ db'.jobs, job'.owner = job.owner ∧ job'.payload = job.payload

structure Consolidation.Sound (s : Consolidation) : Prop where
  db : s.db.Sound
  known : ∀ worker attempt, s.attempts worker = some attempt
    → ∃ job ∈ s.db.jobs, job.owner = attempt.job.owner ∧ job.payload = attempt.job.payload

namespace ConsolidationStore

theorem KeepsJobs.refl (db : ConsolidationStore) : db.KeepsJobs db := by
  intro job hjob
  exact ⟨job, hjob, rfl, rfl⟩

theorem KeepsJobs.trans {db'' : ConsolidationStore} (h : db.KeepsJobs db') (h' : db'.KeepsJobs db'')
    : db.KeepsJobs db'' := by
  intro job hjob
  have ⟨job', hjob', howner, hpayload⟩ := h job hjob
  have ⟨job'', hjob'', howner', hpayload'⟩ := h' job' hjob'
  exact ⟨job'', hjob'', howner'.trans howner, hpayload'.trans hpayload⟩

theorem KeepsJobs.of_eq (h : db'.jobs = db.jobs) : db.KeepsJobs db' := by
  intro job hjob
  rw [h]
  exact ⟨job, hjob, rfl, rfl⟩

theorem InsertedOnce.mono (hjobs : db.KeepsJobs db') (hproposals : db'.proposals = db.proposals)
    (h : db.InsertedOnce runId) : db'.InsertedOnce runId := by
  have ⟨job, hjob, hrun, now, proposalId, hrows⟩ := h
  have ⟨job', hjob', howner, hpayload⟩ := hjobs job hjob
  refine ⟨job', hjob', by rw [howner, hrun], now, proposalId, ?_⟩
  unfold proposalsOf at hrows ⊢
  rw [hproposals, hrows, howner, hpayload]

/-- A step that leaves the runs and the proposals as they are. -/
theorem Sound.of_same (h : db.Sound) (hruns : db'.runs = db.runs)
    (hstatuses : db'.statuses = db.statuses) (hproposals : db'.proposals = db.proposals)
    (hjobs : db.KeepsJobs db')
    : db'.Sound := by
  constructor
  . intro runId
    have hlife := h.lifecycle runId
    constructor
    . unfold statusesOf
      rw [hstatuses]
      exact hlife.path
    . unfold statusesOf statusOf
      rw [hstatuses, hruns]
      exact hlife.stored
  . intro runId
    unfold Proposals statusOf
    rw [hruns]
    cases h.proposals runId with
    | inl hnone =>
      left
      unfold proposalsOf at hnone ⊢
      rw [hproposals]
      exact hnone
    | inr hsome =>
      right
      exact ⟨hsome.1.mono hjobs hproposals, hsome.2⟩

/-! ## Status updates -/

/-- All that an update of a run's status does. -/
structure Moved (db : ConsolidationStore) (runId : Uuid) (status : ConsolidationRunState)
    (db' : ConsolidationStore) : Prop where
  jobs : db'.jobs = db.jobs
  proposals : db'.proposals = db.proposals
  statuses : db'.statuses = db.statuses ++ [(runId, status)]
  statusOf : ∀ id, db'.statusOf id = if runId = id then some status else db.statusOf id

end ConsolidationStore

theorem getConsolidationRun_eq_some (h : getConsolidationRun db tenantId projectId runId = some run)
    : db.runs.find? runId = some run := by
  unfold getConsolidationRun at h
  rw [Option.filter_eq_some_iff] at h
  exact h.1

theorem updateConsolidationRunState_eq_some
    (h : updateConsolidationRunState db tenantId projectId runId status now = some db')
    : ∃ run, getConsolidationRun db tenantId projectId runId = some run ∧ db.Moved runId status db' := by
  unfold updateConsolidationRunState at h
  have ⟨run, hrun, hdb⟩ := Option.map_eq_some_iff.mp h
  refine ⟨run, hrun, ?_⟩
  subst hdb
  have hfind := Table.find?_modify_of_find? (getConsolidationRun_eq_some hrun)
    fun run => { run with
      status
      updatedAt := timestamptz now
      completedAt := if status.terminal then some (timestamptz now) else run.completedAt }
  constructor
  . rfl
  . rfl
  . rfl
  . intro id
    unfold ConsolidationStore.statusOf
    rw [hfind _ id]
    split
    . rfl
    . rfl

namespace ConsolidationStore

theorem Moved.statusesOf (h : db.Moved runId status db') (id : Uuid)
    : db'.statusesOf id = db.statusesOf id ++ (if runId = id then [status] else []) := by
  unfold ConsolidationStore.statusesOf
  rw [h.statuses, List.filter_append, List.map_append]
  split
  next hid => simp [hid]
  next hid => simp [hid]

theorem Moved.lifecycle (h : db.Moved runId status db') (hstate : db.statusOf runId = some state)
    (hallowed : state.allowed status = true) (hlife : ∀ id, db.Lifecycle id) (id : Uuid)
    : db'.Lifecycle id := by
  have hold := hlife id
  constructor
  . rw [h.statusesOf]
    split
    next hid =>
      subst hid
      apply hold.path.append
      . apply List.isChain_singleton
      . intro last hlast next hnext
        rw [hold.stored, hstate] at hlast
        cases hlast
        cases hnext
        exact hallowed
    next =>
      rw [List.append_nil]
      exact hold.path
  . rw [h.statusesOf, h.statusOf]
    split
    next => rw [List.getLast?_append_of_ne_nil _ (List.cons_ne_nil status []), List.getLast?_singleton]
    next =>
      rw [List.append_nil]
      exact hold.stored

theorem Moved.proposals_of_ne {id : Uuid} (h : db.Moved runId status db') (hne : runId ≠ id)
    (hproposals : db.Proposals id) : db'.Proposals id := by
  unfold Proposals proposalsOf at hproposals ⊢
  rw [h.statusOf, if_neg hne, h.proposals]
  cases hproposals with
  | inl hnone => exact .inl hnone
  | inr hsome => exact .inr ⟨hsome.1.mono (.of_eq h.jobs) h.proposals, hsome.2⟩

/-- A run that is not at its end has no proposals. -/
theorem Proposals.eq_nil (h : db.Proposals runId) (hstate : db.statusOf runId = some state)
    (hopen : state.terminal = false) : db.proposalsOf runId = [] := by
  cases h with
  | inl hnone => exact hnone
  | inr hsome =>
    have ⟨_, state', hstate', hterminal⟩ := hsome
    rw [hstate] at hstate'
    cases hstate'
    rw [hopen] at hterminal
    contradiction

theorem terminal_of_allowed (h : state.allowed status = true) : state.terminal = false := by
  cases hterminal : state.terminal with
  | false => rfl
  | true =>
    rw [ConsolidationRunState.allowed_eq_false_of_terminal hterminal] at h
    contradiction

theorem Moved.sound (h : db.Moved runId status db') (hstate : db.statusOf runId = some state)
    (hallowed : state.allowed status = true) (hsound : db.Sound) : db'.Sound := by
  constructor
  . exact h.lifecycle hstate hallowed hsound.lifecycle
  . intro id
    by_cases hid : runId = id
    . subst hid
      left
      have hnone := (hsound.proposals runId).eq_nil hstate (terminal_of_allowed hallowed)
      unfold proposalsOf at hnone ⊢
      rw [h.proposals]
      exact hnone
    . exact h.proposals_of_ne hid (hsound.proposals id)

end ConsolidationStore

/-! ## Requests -/

theorem consolidationRunCreate_sound {req : ConsolidationRunCreateRequest}
    (h : consolidationRunCreate req runId jobId now db = .ok db') (hsound : db.Sound)
    : db'.Sound ∧ db.KeepsJobs db' := by
  simp only [consolidationRunCreate, Except.bind_eq_ok, Table.insert_eq_ok, Except.pure_eq_ok] at h
  have ⟨_, _, _, _, _, _, _, _, _, _, runs, hruns, jobs, hjobs, hdb⟩ := h
  subst hdb
  have hkeeps : db.KeepsJobs { db with runs, jobs, statuses := db.statuses ++ [(runId, .pending)] } := by
    intro job hjob
    refine ⟨job, ?_, rfl, rfl⟩
    rw [Table.mem_insert? hjobs]
    exact .inl hjob
  have hstatuses (id : Uuid)
      : ConsolidationStore.statusesOf
          { db with runs, jobs, statuses := db.statuses ++ [(runId, .pending)] } id
        = db.statusesOf id ++ (if runId = id then [.pending] else []) := by
    unfold ConsolidationStore.statusesOf
    rw [List.filter_append, List.map_append]
    split
    next hid => simp [hid]
    next hid => simp [hid]
  have hfresh : db.statusOf runId = none := by
    unfold ConsolidationStore.statusOf
    rw [Table.insert?_fresh hruns]
    rfl
  have hstatus (id : Uuid) (hne : runId ≠ id) : ConsolidationStore.statusOf
      { db with runs, jobs, statuses := db.statuses ++ [(runId, .pending)] } id = db.statusOf id := by
    unfold ConsolidationStore.statusOf
    rw [Table.find?_insert? hruns]
    rw [if_neg hne]
  refine ⟨⟨?_, ?_⟩, hkeeps⟩
  . intro id
    have hold := hsound.lifecycle id
    constructor
    . rw [hstatuses]
      split
      next hid =>
        subst hid
        have hnil := hold.stored
        rw [hfresh, List.getLast?_eq_none_iff] at hnil
        rw [hnil]
        apply List.isChain_singleton
      next =>
        rw [List.append_nil]
        exact hold.path
    . rw [hstatuses]
      split
      next hid =>
        subst hid
        rw [List.getLast?_append_of_ne_nil _ (List.cons_ne_nil _ []), List.getLast?_singleton]
        unfold ConsolidationStore.statusOf
        rw [Table.find?_insert? hruns]
        simp
      next hid =>
        rw [List.append_nil, hstatus id hid]
        exact hold.stored
  . intro id
    by_cases hid : runId = id
    . subst hid
      left
      have hold := hsound.proposals runId
      unfold ConsolidationStore.Proposals at hold
      rw [hfresh] at hold
      cases hold with
      | inl hnone => exact hnone
      | inr hsome =>
        have ⟨_, _, hstate, _⟩ := hsome
        contradiction
    . unfold ConsolidationStore.Proposals
      rw [hstatus id hid]
      cases hsound.proposals id with
      | inl hnone => exact .inl hnone
      | inr hsome => exact .inr ⟨hsome.1.mono hkeeps rfl, hsome.2⟩

theorem cancelConsolidationRun_sound
    (h : cancelConsolidationRun db tenantId projectId runId now = some db') (hsound : db.Sound)
    : db'.Sound ∧ db.KeepsJobs db' := by
  simp only [cancelConsolidationRun, Option.bind_eq_bind, Option.bind_eq_some_iff,
    Option.guard_eq_some'] at h
  have ⟨run, hrun, _, hallowed, hupdate⟩ := h
  have ⟨_, _, hmoved⟩ := updateConsolidationRunState_eq_some hupdate
  have hstate : db.statusOf runId = some run.status := by
    unfold ConsolidationStore.statusOf
    rw [getConsolidationRun_eq_some hrun]
    rfl
  exact ⟨hmoved.sound hstate hallowed hsound, .of_eq hmoved.jobs⟩

/-! ## Jobs -/

/-- A job may change but for its owner and its payload. -/
theorem ConsolidationStore.Sound.modifyJob {f : ConsolidationRunJob → ConsolidationRunJob} (jobId : Uuid)
    (hf : ∀ job, (f job).jobId = job.jobId)
    (hkeeps : ∀ job, (f job).owner = job.owner ∧ (f job).payload = job.payload) (hsound : db.Sound)
    : ConsolidationStore.Sound { db with jobs := db.jobs.modify jobId f hf }
      ∧ db.KeepsJobs { db with jobs := db.jobs.modify jobId f hf } := by
  have hjobs : db.KeepsJobs { db with jobs := db.jobs.modify jobId f hf } := by
    intro job hjob
    refine ⟨if job.jobId = jobId then f job else job, ?_, ?_⟩
    . rw [Table.mem_modify]
      exact ⟨job, hjob, rfl⟩
    . split
      . exact hkeeps job
      . exact ⟨rfl, rfl⟩
  exact ⟨hsound.of_same rfl rfl rfl hjobs, hjobs⟩

theorem markConsolidationRunJobDone_sound (jobId : Uuid) (now : Nat) (hsound : db.Sound)
    : (markConsolidationRunJobDone db jobId now).Sound
      ∧ db.KeepsJobs (markConsolidationRunJobDone db jobId now) := by
  apply hsound.modifyJob
  intro job
  exact ⟨rfl, rfl⟩

theorem markConsolidationFailed_sound (job : ConsolidationRunJob) (now : Nat) (hsound : db.Sound)
    : (markConsolidationFailed db job now).Sound
      ∧ db.KeepsJobs (markConsolidationFailed db job now) := by
  apply hsound.modifyJob
  intro job
  exact ⟨rfl, rfl⟩

theorem claimNextConsolidationRunJob_sound
    (h : claimNextConsolidationRunJob db now leaseSeconds locked = some (job, db')) (hsound : db.Sound)
    : (db'.Sound ∧ db.KeepsJobs db')
      ∧ ∃ job' ∈ db.jobs, job'.owner = job.owner ∧ job'.payload = job.payload := by
  simp only [claimNextConsolidationRunJob, Option.bind_eq_bind, Option.bind_eq_some_iff,
    Option.pure_def, Option.some.injEq, Prod.mk.injEq] at h
  rcases h with ⟨row, hrow, hjob, hdb⟩
  subst hjob hdb
  constructor
  . apply hsound.modifyJob
    intro job
    exact ⟨rfl, rfl⟩
  . exact ⟨row, (Table.earliest_spec hrow).1, rfl, rfl⟩

/-! ## Writes -/

theorem moveConsolidationRun_eq_ok {next : ConsolidationRunState}
    (h : moveConsolidationRun db owner state next now = .ok db')
    : state.allowed next = true ∧ ∃ run, db.runs.find? owner.runId = some run
      ∧ db.Moved owner.runId next db' := by
  simp only [moveConsolidationRun, Except.bind_eq_ok, Except.mapError_eq_ok,
    Except.ofOption_eq_ok] at h
  have ⟨_, hvalid, hupdate⟩ := h
  have ⟨run, hrun, hmoved⟩ := updateConsolidationRunState_eq_some hupdate
  rw [ConsolidationRunState.validateTransition_eq_ok] at hvalid
  exact ⟨hvalid, run, getConsolidationRun_eq_some hrun, hmoved⟩

theorem insertConsolidationProposals_eq_ok {contracts : List ConsolidationProposalContract}
    (h : insertConsolidationProposals db owner now proposalId idx contracts = .ok db')
    : (∃ proposals, db' = { db with proposals })
      ∧ db'.proposals.rows = db.proposals.rows ++ proposalRows owner now proposalId idx contracts := by
  induction contracts generalizing db idx with
  | nil =>
    cases h
    exact ⟨⟨_, rfl⟩, by simp [proposalRows]⟩
  | cons contract contracts ih =>
    simp only [insertConsolidationProposals, Except.bind_eq_ok, Except.mapError_eq_ok,
      Table.insert_eq_ok, proposalRowFromContract, Except.pure_eq_ok] at h
    have ⟨row, ⟨_, _, hrow⟩, proposals, hinsert, hrest⟩ := h
    have ⟨⟨proposals', hdb⟩, hrows⟩ := ih hrest
    refine ⟨⟨proposals', hdb⟩, ?_⟩
    rw [hrows, Table.rows_insert? hinsert, hrow, List.append_assoc]
    rfl

theorem filter_proposalRows (owner : ConsolidationJobOwner) (now : Nat) (proposalId : Nat → Uuid)
    (idx : Nat) (contracts : List ConsolidationProposalContract) (runId : Uuid)
    : (proposalRows owner now proposalId idx contracts).filter (·.runId = runId)
      = if owner.runId = runId then proposalRows owner now proposalId idx contracts else [] := by
  have hrun (row : ConsolidationProposal) (hmem : row ∈ proposalRows owner now proposalId idx contracts)
      : row.runId = owner.runId := by
    unfold proposalRows at hmem
    have ⟨pair, _, hpair⟩ := List.mem_map.mp hmem
    rw [← hpair]
    rfl
  split
  next hid =>
    rw [List.filter_eq_self]
    intro row hmem
    simp [hrun row hmem, hid]
  next hid =>
    rw [List.filter_eq_nil_iff]
    intro row hmem
    simp [hrun row hmem, hid]

/-- The end of a run that is running: its proposals are stored and it is completed. -/
theorem complete_sound {inserted : ConsolidationStore} (hsound : db.Sound)
    (hstate : db.statusOf job.owner.runId = some .running)
    (hjob : ∃ row ∈ db.jobs, row.owner = job.owner ∧ row.payload = job.payload)
    (hinsert : insertConsolidationProposals db job.owner now proposalId 0 job.payload.proposals
      = .ok inserted)
    (hmove : moveConsolidationRun inserted job.owner .running .completed now = .ok db')
    : db'.Sound ∧ db.KeepsJobs db' := by
  have ⟨⟨proposals, hinserted⟩, hrows⟩ := insertConsolidationProposals_eq_ok hinsert
  have ⟨hallowed, run, _, hmoved⟩ := moveConsolidationRun_eq_ok hmove
  have hjobs : db'.jobs = db.jobs := by
    rw [hmoved.jobs, hinserted]
  have hlife (id : Uuid) : inserted.Lifecycle id := by
    rw [hinserted]
    have hold := hsound.lifecycle id
    exact ⟨hold.path, hold.stored⟩
  have hstatus (id : Uuid) : inserted.statusOf id = db.statusOf id := by
    rw [hinserted]
    rfl
  have hproposals (id : Uuid) : db'.proposalsOf id = db.proposalsOf id
      ++ (if job.owner.runId = id then
        proposalRows job.owner now proposalId 0 job.payload.proposals else []) := by
    unfold ConsolidationStore.proposalsOf
    rw [hmoved.proposals, hrows, List.filter_append, filter_proposalRows]
  refine ⟨⟨hmoved.lifecycle ((hstatus _).trans hstate) hallowed hlife, ?_⟩, .of_eq hjobs⟩
  intro id
  by_cases hid : job.owner.runId = id
  . subst hid
    right
    constructor
    . have ⟨row, hrow, howner, hpayload⟩ := hjob
      refine ⟨row, ?_, by rw [howner], now, proposalId, ?_⟩
      . rw [hjobs]
        exact hrow
      . rw [hproposals, if_pos rfl, (hsound.proposals _).eq_nil hstate rfl, howner, hpayload]
        rfl
    . refine ⟨.completed, ?_, rfl⟩
      rw [hmoved.statusOf, if_pos rfl]
  . have hsame : db'.proposalsOf id = db.proposalsOf id := by
      rw [hproposals, if_neg hid, List.append_nil]
    unfold ConsolidationStore.Proposals
    rw [hmoved.statusOf, if_neg hid, hsame, hstatus]
    cases hsound.proposals id with
    | inl hnone => exact .inl hnone
    | inr hsome =>
      right
      have ⟨⟨row, hrow, hrun, now', proposalId', hinserted'⟩, hend⟩ := hsome
      refine ⟨⟨row, ?_, hrun, now', proposalId', ?_⟩, hend⟩
      . rw [hjobs]
        exact hrow
      . rw [hsame]
        exact hinserted'

/-- A transaction whose run still has the status that was read. -/
theorem writeConsolidationRun_sound (h : writeConsolidationRun db job state now proposalId = .ok db')
    (hcurrent : state.terminal = false → ∀ run, db.runs.find? job.owner.runId = some run
      → run.status = state)
    (hjob : ∃ row ∈ db.jobs, row.owner = job.owner ∧ row.payload = job.payload) (hsound : db.Sound)
    : db'.Sound ∧ db.KeepsJobs db' := by
  unfold writeConsolidationRun at h
  split at h
  next =>
    cases h
    exact markConsolidationRunJobDone_sound _ _ hsound
  next hopen =>
    rw [Bool.not_eq_true] at hopen
    simp only [Except.bind_eq_ok, Except.pure_eq_ok] at h
    have ⟨started, hstarted, inserted, hinserted, completed, hcompleted, hdb⟩ := h
    have hstart : started.Sound ∧ started.jobs = db.jobs
        ∧ started.statusOf job.owner.runId = some .running := by
      unfold startConsolidationRun at hstarted
      split at hstarted
      next hpending =>
        subst hpending
        have ⟨hallowed, run, hrun, hmoved⟩ := moveConsolidationRun_eq_ok hstarted
        have hstate : db.statusOf job.owner.runId = some .pending := by
          unfold ConsolidationStore.statusOf
          rw [hrun, Option.map_some, hcurrent hopen run hrun]
        refine ⟨hmoved.sound hstate hallowed hsound, hmoved.jobs, ?_⟩
        rw [hmoved.statusOf, if_pos rfl]
      next hpending =>
        cases hstarted
        have ⟨⟨_, hinserted⟩, _⟩ := insertConsolidationProposals_eq_ok hinserted
        have ⟨_, run, hrun, _⟩ := moveConsolidationRun_eq_ok hcompleted
        rw [hinserted] at hrun
        refine ⟨hsound, rfl, ?_⟩
        unfold ConsolidationStore.statusOf
        rw [hrun, Option.map_some, hcurrent hopen run hrun]
        cases state with
        | running => rfl
        | pending => contradiction
        | completed => contradiction
        | failed => contradiction
        | cancelled => contradiction
    have ⟨hsound', hjobs, hstate⟩ := hstart
    rw [← hjobs] at hjob
    have ⟨hcomplete, hkeeps⟩ := complete_sound hsound' hstate hjob hinserted hcompleted
    have ⟨hdone, hkeeps'⟩ := markConsolidationRunJobDone_sound job.jobId now hcomplete
    rw [hdb]
    exact ⟨hdone, (ConsolidationStore.KeepsJobs.of_eq hjobs).trans (hkeeps.trans hkeeps')⟩

/-! ## Runs -/

/-- A worker writes only if the status of its run is still the one that it read, or was at its end. -/
def Consolidation.Current (s : Consolidation) : ConsolidationAction → Prop
  | .write worker _ _ => ∀ job state run, s.attempts worker = some ⟨job, .read state⟩
    → state.terminal = false → s.db.runs.find? job.owner.runId = some run → run.status = state
  | _ => True

namespace Consolidation.Sound

theorem of_db (h : s.Sound) (hdb : db'.Sound ∧ s.db.KeepsJobs db')
    : Consolidation.Sound { s with db := db' } := by
  constructor
  . exact hdb.1
  . intro worker attempt ha
    have ⟨row, hrow, howner, hpayload⟩ := h.known worker attempt ha
    have ⟨row', hrow', howner', hpayload'⟩ := hdb.2 row hrow
    exact ⟨row', hrow', howner'.trans howner, hpayload'.trans hpayload⟩

theorem set (h : s.Sound) (worker : Nat) (attempt : Option ConsolidationAttempt)
    (hjob : ∀ a, attempt = some a
      → ∃ row ∈ s.db.jobs, row.owner = a.job.owner ∧ row.payload = a.job.payload)
    : Consolidation.Sound { s with attempts := s.attempts.set worker attempt } := by
  constructor
  . exact h.db
  . intro other a ha
    cases Attempts.eq_some_set ha with
    | inl hnew => exact hjob a hnew
    | inr hold => exact h.known other a hold

/-- A worker goes on with its job. -/
theorem advance {attempt : ConsolidationAttempt} (h : s.Sound) (ha : s.attempts worker = some attempt)
    (phase : ConsolidationPhase)
    : Consolidation.Sound
      { s with attempts := s.attempts.set worker (some ⟨attempt.job, phase⟩) } := by
  apply h.set
  intro a hnew
  cases hnew
  exact h.known worker attempt ha

/-- The step lemma. -/
theorem step (h : s.Sound) (hcurrent : s.Current a) (hstep : ConsolidationSteps s a s') : s'.Sound := by
  unfold ConsolidationSteps Consolidation.step at hstep
  cases a with
  | create req runId jobId now =>
    simp only at hstep
    split at hstep
    next db hdb =>
      cases hstep
      exact h.of_db (consolidationRunCreate_sound hdb h.db)
    next =>
      cases hstep
      exact h
  | cancel tenantId projectId runId now =>
    simp only at hstep
    cases hcancel : cancelConsolidationRun s.db tenantId projectId runId now with
    | none =>
      rw [hcancel] at hstep
      cases hstep
      exact h
    | some db =>
      rw [hcancel] at hstep
      cases hstep
      exact h.of_db (cancelConsolidationRun_sound hcancel h.db)
  | claim worker now locked =>
    simp only [Consolidation.claim, Option.bind_eq_bind, Option.bind_eq_some_iff, Option.pure_def,
      Option.some.injEq] at hstep
    have ⟨_, _, ⟨job, db⟩, hclaim, hs⟩ := hstep
    have ⟨hsound, row, hrow, howner, hpayload⟩ := claimNextConsolidationRunJob_sound hclaim h.db
    subst hs
    apply (h.of_db hsound).set
    intro a hnew
    cases hnew
    have ⟨row', hrow', howner', hpayload'⟩ := hsound.2 row hrow
    exact ⟨row', hrow', howner'.trans howner, hpayload'.trans hpayload⟩
  | read worker =>
    simp only [Consolidation.read] at hstep
    split at hstep
    next job ha =>
      cases hstep
      exact h.advance ha _
    next => contradiction
  | write worker now proposalId =>
    simp only [Consolidation.write] at hstep
    split at hstep
    next job state ha =>
      split at hstep
      next db hdb =>
        cases hstep
        have hwrite : db.Sound ∧ s.db.KeepsJobs db := by
          apply writeConsolidationRun_sound hdb _ (h.known worker _ ha) h.db
          intro hopen run hrun
          exact hcurrent job state run ha hopen hrun
        exact (h.of_db hwrite).advance ha _
      next =>
        cases hstep
        exact h.advance ha _
    next => contradiction
  | fail worker err =>
    simp only [Consolidation.fail, Option.bind_eq_bind, Option.bind_eq_some_iff, Option.pure_def,
      Option.some.injEq] at hstep
    have ⟨attempt, ha, hs⟩ := hstep
    subst hs
    exact h.advance ha _
  | settle worker now =>
    simp only [Consolidation.settle] at hstep
    split at hstep
    next job result ha =>
      cases result with
      | ok u =>
        cases hstep
        apply h.set
        intro a hnew
        contradiction
      | error err =>
        cases hstep
        apply (h.of_db (markConsolidationFailed_sound job now h.db)).set
        intro a hnew
        contradiction
    next => contradiction
  | crash worker =>
    cases hstep
    apply h.set
    intro a hnew
    contradiction

theorem empty : Consolidation.empty.Sound := by
  constructor
  . constructor
    . intro runId
      exact ⟨.nil, rfl⟩
    . intro runId
      exact .inl rfl
  . intro worker attempt ha
    contradiction

end Consolidation.Sound

/--
In a run in which no worker writes after the status of its run has changed since it read it, the
statuses of every consolidation run are a path of its lifecycle to the stored one, and its proposals are
not stored or are those of its job, once.
-/
theorem consolidation_runs (runId : Uuid)
    (hrun : Run (Run.Guarded Consolidation.Current ConsolidationSteps) .empty as s)
    : s.db.Lifecycle runId ∧ (s.db.proposalsOf runId = [] ∨ s.db.InsertedOnce runId) := by
  have hsound : s.Sound := by
    apply hrun.invariant _ .empty
    intro before a after h hstep
    exact h.step hstep.1 hstep.2
  constructor
  . exact hsound.db.lifecycle runId
  . cases hsound.db.proposals runId with
    | inl hnone => exact .inl hnone
    | inr hsome => exact .inr hsome.1

def sampleRunRequest : ConsolidationRunCreateRequest := {
  tenantId := "t"
  projectId := "p"
  agentId := "a"
  jobKind := "manual"
  inputRefs := .arr []
  sourceSnapshot := .obj []
  lineage := .obj []
  partsValid := true
  proposals := [{
    proposalKind := "summary"
    applyIntent := .noOp
    sourceRefs := .arr []
    sourceSnapshot := .obj []
    lineage := .obj []
    confidence := .fin (1 / 2)
    unsupportedClaimFlags := .arr []
    diff := ⟨"A note on deploys.", .obj [], .obj []⟩
    targetRef := .obj []
    proposedPayload := .obj []
    partsValid := true }] }

/-- A run is created, and a worker does its job. -/
def doRun : List ConsolidationAction :=
  [.create sampleRunRequest 1 1 0, .claim 0 1000000000 [], .read 0, .write 0 2000000000 (10 + ·),
    .settle 0 3000000000]

/-- The lease of a worker expires before it writes, and a second worker does the job as well. -/
def doRunTwice : List ConsolidationAction :=
  [.create sampleRunRequest 1 1 0, .claim 0 1000000000 [], .read 0, .claim 1 32000000000 [], .read 1,
    .write 0 33000000000 (10 + ·), .write 1 34000000000 (20 + ·)]

/-- The write of a worker that read the status which is stored. -/
def Consolidation.currentWrite (s : Consolidation) : ConsolidationAction → Bool
  | .write worker _ _ => (s.attempts worker).all fun attempt =>
    match attempt.phase with
    | .read state => s.db.statusOf attempt.job.owner.runId = some state
    | .claimed | .handled _ => true
  | _ => true

theorem Consolidation.current_of_currentWrite (h : s.currentWrite a = true) : s.Current a := by
  unfold Consolidation.Current
  split
  next worker now proposalId =>
    intro job state run ha hopen hrun
    change Option.all _ (s.attempts worker) = true at h
    rw [ha, Option.all_some, decide_eq_true_eq] at h
    unfold ConsolidationStore.statusOf at h
    rw [hrun] at h
    simpa using h
  next => trivial

theorem consolidation_runs_doRun
    : ∃ s, Run (Run.Guarded Consolidation.Current ConsolidationSteps) .empty doRun s
      ∧ (s.db.proposalsOf 1).length = 1 ∧ s.db.Lifecycle 1
      ∧ (s.db.proposalsOf 1 = [] ∨ s.db.InsertedOnce 1) := by
  have heval : ((Run.eval (fun s a => if s.currentWrite a then s.step a else none) .empty doRun).any
      fun s : Consolidation => (s.db.proposalsOf 1).length = 1) = true := by
    decide +kernel
  rw [Option.any_eq_true] at heval
  have ⟨s, heval, hcount⟩ := heval
  rw [decide_eq_true_eq] at hcount
  have hrun : Run (Run.Guarded Consolidation.Current ConsolidationSteps) .empty doRun s := by
    apply Run.of_eval _ heval
    intro before a after hstep
    rw [Option.ite_none_right_eq_some] at hstep
    exact ⟨Consolidation.current_of_currentWrite hstep.1, hstep.2⟩
  exact ⟨s, hrun, hcount, consolidation_runs 1 hrun⟩

-- The second worker takes the completed run back to running, and its proposals are stored again.
theorem not_lifecycle_doRunTwice
    : ∃ s, Run ConsolidationSteps .empty doRunTwice s ∧ ¬ s.db.Lifecycle 1
      ∧ s.db.jobs.rows.all (fun job => job.payload.proposals.length = 1)
      ∧ (s.db.proposalsOf 1).length = 2 := by
  have heval : ((Run.eval (fun s a => Consolidation.step s a) .empty doRunTwice).any
      fun s : Consolidation =>
        s.db.statusesOf 1 = [.pending, .running, .completed, .running, .completed]
          && s.db.jobs.rows.all (fun job => job.payload.proposals.length = 1)
          && (s.db.proposalsOf 1).length = 2) = true := by
    decide +kernel
  rw [Option.any_eq_true] at heval
  have ⟨s, heval, hs⟩ := heval
  simp only [Bool.and_eq_true, decide_eq_true_eq] at hs
  have ⟨⟨hstatuses, hjobs⟩, hcount⟩ := hs
  refine ⟨s, Run.of_eval (fun _ _ _ hstep => hstep) heval, ?_, hjobs, hcount⟩
  intro hlife
  have hpath := hlife.path
  rw [hstatuses] at hpath
  simp [ConsolidationRunState.allowed] at hpath

end Elf
