import Elf.Worker.TraceJobs

/-!
This module contains what is stored of the traces of searches. In every order of the steps of searches
and workers, the tables hold the whole traces of a set of searches and nothing else of any trace, and
no trace is lost: until it expires it is stored, or the job that stores it is still to be done.
-/

namespace Elf

/-! ## Traces as rows -/

def TracePayload.traceRows (payload : TracePayload) : List SearchTraceRow := [payload.trace.row]

def TracePayload.itemRows (payload : TracePayload) : List SearchTraceItemRow :=
  payload.items.map (TraceItemEntry.row payload.trace.traceId)

def TracePayload.candidateRows (payload : TracePayload) : List SearchTraceCandidateRow :=
  payload.candidates.map (TraceCandidateEntry.row payload.trace.traceId)

def TracePayload.stageRows (payload : TracePayload) : List SearchTraceStageRow :=
  payload.stages.map (TraceTrajectoryStageRecord.row payload.trace.traceId)

def TracePayload.stageItemRows (payload : TracePayload) : List SearchTraceStageItemRow :=
  Elf.stageItemRows payload.stages

/-- No two rows of the payloads have one key. -/
def KeysApart {α κ : Type} (key : α → κ) (rows : TracePayload → List α) (payloads : List TracePayload)
    : Prop :=
  ((payloads.flatMap rows).map key).Nodup

section KeysApart

variable {α κ : Type} {key : α → κ} {rows : TracePayload → List α} {payloads : List TracePayload}
  {p q : TracePayload}

theorem KeysApart.nodup (h : KeysApart key rows payloads) (hp : p ∈ payloads)
    : ((rows p).map key).Nodup := by
  unfold KeysApart at h
  rw [List.map_flatMap] at h
  exact (List.nodup_flatMap.mp h).1 p hp

theorem KeysApart.eq (h : KeysApart key rows payloads) (hp : p ∈ payloads) (hq : q ∈ payloads)
    {x y : α} (hx : x ∈ rows p) (hy : y ∈ rows q) (hkey : key x = key y) : x = y :=
  List.inj_on_of_nodup_map h (List.mem_flatMap.mpr ⟨p, hp, hx⟩) (List.mem_flatMap.mpr ⟨q, hq, hy⟩) hkey

end KeysApart

/-- Every search draws its identifiers anew. -/
structure DistinctIds (payloads : List TracePayload) : Prop where
  traces : (payloads.map (·.trace.traceId)).Nodup
  items : KeysApart SearchTraceItemRow.itemId TracePayload.itemRows payloads
  candidates : KeysApart SearchTraceCandidateRow.candidateId TracePayload.candidateRows payloads
  stages : KeysApart SearchTraceStageRow.stageId TracePayload.stageRows payloads
  stageItems : KeysApart SearchTraceStageItemRow.id TracePayload.stageItemRows payloads

variable {serde : TimeSerde} {payloads : List TracePayload} {p q : TracePayload} {db db' : TraceDb}
  {s t : TraceStore} {a : TraceAction}

theorem DistinctIds.eq (h : DistinctIds payloads) (hp : p ∈ payloads) (hq : q ∈ payloads)
    (hid : p.trace.traceId = q.trace.traceId) : p = q :=
  List.inj_on_of_nodup_map h.traces hp hq hid

theorem traceId_itemRows (h : row ∈ p.itemRows) : row.traceId = p.trace.traceId := by
  rcases List.mem_map.mp h with ⟨item, -, rfl⟩
  rfl

theorem traceId_candidateRows (h : row ∈ p.candidateRows) : row.traceId = p.trace.traceId := by
  rcases List.mem_map.mp h with ⟨entry, -, rfl⟩
  rfl

theorem traceId_stageRows (h : row ∈ p.stageRows) : row.traceId = p.trace.traceId := by
  rcases List.mem_map.mp h with ⟨stage, -, rfl⟩
  rfl

/-- The row of a stage that a stage item belongs to. -/
theorem exists_stageRow (h : row ∈ p.stageItemRows)
    : ∃ stage ∈ p.stageRows, stage.stageId = row.stageId := by
  unfold TracePayload.stageItemRows stageItemRows at h
  rcases List.mem_flatMap.mp h with ⟨stage, hstage, hrow⟩
  rcases List.mem_map.mp hrow with ⟨item, -, rfl⟩
  exact ⟨_, List.mem_map_of_mem hstage, rfl⟩

/-! ## Whole traces -/

/-- The tables hold the traces of a set of searches, but for candidates that were purged. -/
structure TraceDb.Holds (db : TraceDb) (S : Set TracePayload) : Prop where
  traces : db.traces.Holds TracePayload.traceRows S
  items : db.items.Holds TracePayload.itemRows S
  stages : db.stages.Holds TracePayload.stageRows S
  stageItems : db.stageItems.Holds TracePayload.stageItemRows S
  candidates : ∀ row ∈ db.candidates, ∃ p ∈ S, row ∈ p.candidateRows

/-- The candidates that are kept are stored with their traces. -/
def TraceDb.Keeps (db : TraceDb) (S : Set TracePayload) (kept : SearchTraceCandidateRow → Prop)
    : Prop :=
  ∀ p ∈ S, ∀ row ∈ p.candidateRows, kept row → row ∈ db.candidates

variable {S : Set TracePayload} {kept : SearchTraceCandidateRow → Prop}

theorem holds_empty : TraceDb.empty.Holds ∅ where
  traces := .empty _
  items := .empty _
  stages := .empty _
  stageItems := .empty _
  candidates := nofun

theorem mem_candidates_persistTrace (h : db.Holds S) (hdistinct : DistinctIds payloads)
    (hS : ∀ q ∈ S, q ∈ payloads) (hp : p ∈ payloads) (row : SearchTraceCandidateRow)
    : row ∈ (persistTrace db p).candidates ↔ row ∈ db.candidates ∨ row ∈ p.candidateRows := by
  apply Table.mem_insertAllNew (hdistinct.candidates.nodup hp)
  intro x hx y hy hkey
  rcases h.candidates y hy with ⟨q, hq, hrow⟩
  exact hdistinct.candidates.eq (hS q hq) hp hrow hx hkey

/-- A trace that is persisted is stored in full, whether or not it had been stored before. -/
theorem TraceDb.Holds.persist (h : db.Holds S) (hdistinct : DistinctIds payloads)
    (hS : ∀ q ∈ S, q ∈ payloads) (hp : p ∈ payloads) : (persistTrace db p).Holds (insert p S) where
  traces := by
    apply h.traces.insertAllNew (b := p)
    . simp [TracePayload.traceRows]
    . intro q hq x hx y hy hkey
      rw [List.mem_singleton.mp hx, List.mem_singleton.mp hy] at hkey ⊢
      rw [hdistinct.eq (hS q hq) hp hkey]
  items := by
    apply h.items.insertAllNew (hdistinct.items.nodup hp)
    intro q hq x hx y hy hkey
    exact hdistinct.items.eq (hS q hq) hp hy hx hkey
  stages := by
    apply h.stages.insertAllNew (hdistinct.stages.nodup hp)
    intro q hq x hx y hy hkey
    exact hdistinct.stages.eq (hS q hq) hp hy hx hkey
  stageItems := by
    apply h.stageItems.insertAllNew (hdistinct.stageItems.nodup hp)
    intro q hq x hx y hy hkey
    exact hdistinct.stageItems.eq (hS q hq) hp hy hx hkey
  candidates := by
    intro row hrow
    rw [mem_candidates_persistTrace h hdistinct hS hp] at hrow
    rcases hrow with hrow | hrow
    . rcases h.candidates row hrow with ⟨q, hq, hrow⟩
      exact ⟨q, .inr hq, hrow⟩
    . exact ⟨p, .inl rfl, hrow⟩

theorem TraceDb.Keeps.persist (hkeeps : db.Keeps S kept) (h : db.Holds S)
    (hdistinct : DistinctIds payloads) (hS : ∀ q ∈ S, q ∈ payloads) (hp : p ∈ payloads)
    : (persistTrace db p).Keeps (insert p S) kept := by
  intro q hq row hrow hkept
  rw [mem_candidates_persistTrace h hdistinct hS hp]
  rcases hq with rfl | hq
  . exact .inr hrow
  . exact .inl (hkeeps q hq row hrow hkept)

/-! ## Purges -/

/-- The traces that a purge deletes. -/
def expiredTraces (now : Nat) : Set TracePayload :=
  {p | timestamptz p.trace.expiresAt ≤ timestamptz now}

/-- The identifiers of the expired rows are those of the expired traces. -/
theorem mem_expired (h : db.Holds S) (hdistinct : DistinctIds payloads) (hS : ∀ q ∈ S, q ∈ payloads)
    (hp : p ∈ S) (now : Nat)
    : ((db.traces.rows.filter (·.expiresAt ≤ timestamptz now)).map SearchTraceRow.traceId).contains
        p.trace.traceId = true ↔ p ∈ expiredTraces now := by
  rw [List.contains_iff_mem, List.mem_map]
  constructor
  . rintro ⟨row, hrow, hid⟩
    rw [List.mem_filter, decide_eq_true_eq] at hrow
    rcases (h.traces row).mp hrow.1 with ⟨q, hq, hrow'⟩
    rw [List.mem_singleton.mp hrow'] at hrow hid
    rw [← hdistinct.eq (hS q hq) (hS p hp) hid]
    exact hrow.2
  . intro hexpired
    refine ⟨p.trace.row, ?_, rfl⟩
    rw [List.mem_filter, decide_eq_true_eq]
    exact ⟨(h.traces _).mpr ⟨p, hp, List.mem_singleton_self _⟩, hexpired⟩

/-- A stage item is deleted with its stage, and the stage with its trace. -/
theorem mem_expiredStages (h : db.Holds S) (hdistinct : DistinctIds payloads)
    (hS : ∀ q ∈ S, q ∈ payloads) (hp : p ∈ S) (hrow : row ∈ p.stageItemRows)
    {expired : List Uuid}
    (hexpired : ∀ q ∈ S, expired.contains q.trace.traceId = true ↔ q ∈ expiredTraces now)
    : ((db.stages.rows.filter fun row => expired.contains row.traceId).map
        SearchTraceStageRow.stageId).contains row.stageId = true ↔ p ∈ expiredTraces now := by
  rcases exists_stageRow hrow with ⟨stage, hstage, hid⟩
  rw [List.contains_iff_mem, List.mem_map]
  constructor
  . rintro ⟨other, hother, hsame⟩
    rw [List.mem_filter] at hother
    rcases (h.stages other).mp hother.1 with ⟨q, hq, hstage'⟩
    have heq := hdistinct.stages.eq (hS q hq) (hS p hp) hstage' hstage (hsame.trans hid.symm)
    rw [heq, traceId_stageRows hstage] at hother
    exact (hexpired p hp).mp hother.2
  . intro hdeleted
    refine ⟨stage, ?_, hid⟩
    rw [List.mem_filter, traceId_stageRows hstage]
    exact ⟨(h.stages stage).mpr ⟨p, hp, hstage⟩, (hexpired p hp).mpr hdeleted⟩

theorem TraceDb.Holds.purge (h : db.Holds S) (hdistinct : DistinctIds payloads)
    (hS : ∀ q ∈ S, q ∈ payloads) (now : Nat)
    : (purgeExpiredTraces db now).Holds (S \ expiredTraces now) := by
  have hexpired := fun q hq => mem_expired h hdistinct hS (p := q) hq now
  constructor
  . apply h.traces.deleteWhere
    intro q hq row hrow
    rw [List.mem_singleton.mp hrow, decide_eq_true_eq]
    rfl
  . apply h.items.deleteWhere
    intro q hq row hrow
    rw [traceId_itemRows hrow]
    exact hexpired q hq
  . apply h.stages.deleteWhere
    intro q hq row hrow
    rw [traceId_stageRows hrow]
    exact hexpired q hq
  . apply h.stageItems.deleteWhere
    intro q hq row hrow
    exact mem_expiredStages h hdistinct hS hq hrow hexpired
  . intro row hrow
    unfold purgeExpiredTraces at hrow
    rw [Table.mem_deleteWhere] at hrow
    rcases h.candidates row hrow.1 with ⟨q, hq, hcandidate⟩
    refine ⟨q, ⟨hq, ?_⟩, hcandidate⟩
    intro hdeleted
    have hdeleted := (hexpired q hq).mpr hdeleted
    rw [← traceId_candidateRows hcandidate, hrow.2] at hdeleted
    cases hdeleted

theorem TraceDb.Keeps.purge (hkeeps : db.Keeps S kept) (h : db.Holds S)
    (hdistinct : DistinctIds payloads) (hS : ∀ q ∈ S, q ∈ payloads) (now : Nat)
    : (purgeExpiredTraces db now).Keeps (S \ expiredTraces now) kept := by
  rintro q ⟨hq, hlive⟩ row hrow hkept
  unfold purgeExpiredTraces
  rw [Table.mem_deleteWhere, traceId_candidateRows hrow, ← Bool.not_eq_true,
    mem_expired h hdistinct hS hq now]
  exact ⟨hkeeps q hq row hrow hkept, hlive⟩

/-! ## The queue -/

/-- The payload is written as the value, and it is not to expire. -/
structure Delivers (serde : TimeSerde) (payloads : List TracePayload) (live : TracePayload → Prop)
    (value : Json) (p : TracePayload) : Prop where
  mem : p ∈ payloads
  written : p.toJson serde = some value
  live : live p

/-- The jobs carry the traces of searches, and those that are done have been stored. -/
structure TraceStore.Queued (serde : TimeSerde) (payloads : List TracePayload)
    (live : TracePayload → Prop) (s : TraceStore) (S : Set TracePayload) : Prop where
  jobs : ∀ job ∈ s.db.outbox, ∃ p ∈ payloads, p.toJson serde = some job.payload
  attempts : ∀ worker attempt, s.attempts worker = some attempt →
    ∃ job ∈ s.db.outbox, job.outboxId = attempt.outboxId ∧ job.payload = attempt.job.payload
  through : ∀ worker attempt, s.attempts worker = some attempt → attempt.phase = .handled (.ok ()) →
    ∀ p, Delivers serde payloads live attempt.job.payload p → p ∈ S
  done : ∀ job ∈ s.db.outbox, job.status = .done →
    ∀ p, Delivers serde payloads live job.payload p → p ∈ S

variable {live : TracePayload → Prop} {S' : Set TracePayload}

theorem queued_empty : TraceStore.empty.Queued serde payloads live ∅ where
  jobs := nofun
  attempts := nofun
  through := nofun
  done := nofun

namespace TraceStore.Queued

/-- The traces that are stored may become more, and those that expire may be deleted. -/
theorem mono (h : s.Queued serde payloads live S) (hS : ∀ p ∈ S, live p → p ∈ S')
    (houtbox : t.db.outbox = s.db.outbox) (hattempts : t.attempts = s.attempts)
    : t.Queued serde payloads live S' := by
  constructor
  . rw [houtbox]
    exact h.jobs
  . rw [houtbox, hattempts]
    exact h.attempts
  . rw [hattempts]
    intro worker attempt ha hphase p hp
    exact hS p (h.through worker attempt ha hphase p hp) hp.live
  . rw [houtbox]
    intro job hjob hdone p hp
    exact hS p (h.done job hjob hdone p hp) hp.live

/-- A worker takes up a job, goes on with it or leaves it. -/
theorem set (h : s.Queued serde payloads live S) (worker : Nat) {attempt : Option TraceAttempt}
    (hknown : ∀ a, attempt = some a →
      ∃ job ∈ s.db.outbox, job.outboxId = a.outboxId ∧ job.payload = a.job.payload)
    (hthrough : ∀ a, attempt = some a → a.phase = .handled (.ok ()) →
      ∀ p, Delivers serde payloads live a.job.payload p → p ∈ S)
    : ({ s with attempts := s.attempts.set worker attempt } : TraceStore).Queued serde payloads live S
    where
  jobs := h.jobs
  attempts other a ha := by
    rcases Attempts.eq_some_set ha with heq | ha
    . exact hknown a heq
    . exact h.attempts other a ha
  through other a ha := by
    rcases Attempts.eq_some_set ha with heq | ha
    . exact hthrough a heq
    . exact h.through other a ha
  done := h.done

/-- A job keeps what it carries, and is done when it has been stored. -/
theorem modify (h : s.Queued serde payloads live S) (outboxId : Uuid)
    (f : TraceOutboxEntry → TraceOutboxEntry) (hf : ∀ job, (f job).outboxId = job.outboxId)
    (hpayload : ∀ job, (f job).payload = job.payload)
    (hdone : ∀ job ∈ s.db.outbox, job.outboxId = outboxId → (f job).status = .done →
      job.status = .done ∨ ∀ p, Delivers serde payloads live job.payload p → p ∈ S)
    : ({ s with db.outbox := s.db.outbox.modify outboxId f hf } : TraceStore).Queued serde payloads live
        S where
  jobs job hjob := by
    rcases (s.db.outbox.mem_modify outboxId f hf job).mp hjob with ⟨old, hold, rfl⟩
    split
    . rw [hpayload]
      exact h.jobs old hold
    . exact h.jobs old hold
  attempts worker attempt ha := by
    rcases h.attempts worker attempt ha with ⟨job, hjob, hid, hsame⟩
    refine ⟨_, s.db.outbox.modified_mem_modify outboxId f hjob hf, ?_⟩
    split
    . rw [hf, hpayload]
      exact ⟨hid, hsame⟩
    . exact ⟨hid, hsame⟩
  through := h.through
  done job hjob := by
    rcases (s.db.outbox.mem_modify outboxId f hf job).mp hjob with ⟨old, hold, rfl⟩
    split
    next hid =>
      intro hstatus p hp
      rw [hpayload] at hp
      rcases hdone old hold hid hstatus with hbefore | hstored
      . exact h.done old hold hbefore p hp
      . exact hstored p hp
    next => exact h.done old hold

end TraceStore.Queued

/-! ## Steps -/

def TraceAction.payload : TraceAction → Option TracePayload
  | .search _ _ _ payload => some payload
  | _ => none

/-- The searches are among the payloads, and what is kept is not purged. -/
def TraceAction.Allowed (payloads : List TracePayload) (live : TracePayload → Prop)
    (kept : SearchTraceCandidateRow → Prop) : TraceAction → Prop
  | .search _ _ _ payload => payload ∈ payloads
  | .purgeTraces now => ∀ p, live p → p ∉ expiredTraces now
  | .purgeTraceCandidates now => ∀ row, kept row → timestamptz now < row.expiresAt
  | _ => True

/-- The identifier of a new job is drawn anew. -/
def TraceStore.FreshJob (s : TraceStore) : TraceAction → Prop
  | .search _ outboxId _ _ => s.db.outbox.find? outboxId = none
  | _ => True

/-- What is stored, and what is still to be stored. -/
structure TraceStore.Sound (serde : TimeSerde) (payloads : List TracePayload)
    (live : TracePayload → Prop) (kept : SearchTraceCandidateRow → Prop) (s : TraceStore)
    (S : Set TracePayload) : Prop where
  subset : ∀ q ∈ S, q ∈ payloads
  holds : s.db.Holds S
  keeps : s.db.Keeps S kept
  queued : s.Queued serde payloads live S

/-- The trace of a search is stored, or there is a job for it. -/
def TraceStore.Has (serde : TimeSerde) (s : TraceStore) (S : Set TracePayload) (p : TracePayload)
    : Prop :=
  p ∈ S ∨ ∃ job ∈ s.db.outbox, p.toJson serde = some job.payload

/-- What a step leads to. -/
structure TraceStore.Advances (serde : TimeSerde) (payloads : List TracePayload)
    (live : TracePayload → Prop) (kept : SearchTraceCandidateRow → Prop) (s : TraceStore)
    (a : TraceAction) (t : TraceStore) (S S' : Set TracePayload) : Prop where
  sound : t.Sound serde payloads live kept S'
  has : ∀ p, live p → s.Has serde S p → t.Has serde S' p
  searched : ∀ p, a.payload = some p → t.Has serde S' p

/-- A step that stores nothing and purges nothing. -/
theorem TraceStore.Sound.idle (h : s.Sound serde payloads live kept S)
    (hqueued : t.Queued serde payloads live S)
    (hdb : t.db = { s.db with outbox := t.db.outbox })
    (hjobs : ∀ job ∈ s.db.outbox, ∃ job' ∈ t.db.outbox, job'.payload = job.payload)
    (hsearched : ∀ p, a.payload = some p → t.Has serde S p)
    : s.Advances serde payloads live kept a t S S where
  sound := by
    refine ⟨h.subset, ?_, ?_, hqueued⟩
    . rw [hdb]
      exact ⟨h.holds.traces, h.holds.items, h.holds.stages, h.holds.stageItems, h.holds.candidates⟩
    . rw [hdb]
      exact h.keeps
  has p _ hp := by
    rcases hp with hp | ⟨job, hjob, hwritten⟩
    . exact .inl hp
    . rcases hjobs job hjob with ⟨job', hjob', hsame⟩
      exact .inr ⟨job', hjob', by rw [hsame, hwritten]⟩
  searched := hsearched

/-- A step that stores a trace. -/
theorem TraceStore.Sound.persist (h : s.Sound serde payloads live kept S)
    (hdistinct : DistinctIds payloads) (hp : p ∈ payloads) (hdb : t.db = persistTrace s.db p)
    (hqueued : t.Queued serde payloads live (insert p S))
    (hsearched : ∀ q, a.payload = some q → q = p)
    : s.Advances serde payloads live kept a t S (insert p S) where
  sound := by
    refine ⟨?_, ?_, ?_, hqueued⟩
    . rintro q (rfl | hq)
      . exact hp
      . exact h.subset q hq
    . rw [hdb]
      exact h.holds.persist hdistinct h.subset hp
    . rw [hdb]
      exact h.keeps.persist h.holds hdistinct h.subset hp
  has q _ hq := by
    rcases hq with hq | ⟨job, hjob, hwritten⟩
    . exact .inl (.inr hq)
    . refine .inr ⟨job, ?_, hwritten⟩
      rw [hdb]
      exact hjob
  searched q hq := .inl (.inl (hsearched q hq))

theorem search_advances (h : s.Sound serde payloads live kept S) (hdistinct : DistinctIds payloads)
    (hp : p ∈ payloads) (hstorable : p.Storable serde) (hfresh : s.db.outbox.find? outboxId = none)
    : ∃ S', s.Advances serde payloads live kept (.search writeMode outboxId now p)
        { s with db := writeTracePayload serde writeMode outboxId now p s.db } S S' := by
  unfold writeTracePayload
  split
  . refine ⟨insert p S, h.persist hdistinct hp rfl ?_ ?_⟩
    . exact h.queued.mono (fun q hq _ => .inr hq) rfl rfl
    . rintro q ⟨⟩
      rfl
  . rcases TracePayload.ofJson_toJson hstorable with ⟨value, hvalue, -⟩
    rcases s.db.outbox.insert?_isSome (a := ⟨outboxId, p.trace.traceId, .pending, 0, timestamptz now,
      value, timestamptz now, timestamptz now⟩) hfresh with ⟨outbox, hinsert⟩
    have henqueue : enqueueTrace serde s.db outboxId now p = some { s.db with outbox } := by
      unfold enqueueTrace
      rw [hvalue, Option.bind_eq_bind, Option.bind_some, hinsert]
      rfl
    rw [henqueue, Option.getD_some]
    have hmem := Table.mem_insert? hinsert
    refine ⟨S, h.idle ?_ rfl ?_ ?_⟩
    . constructor
      . intro job hjob
        rcases (hmem job).mp hjob with hjob | rfl
        . exact h.queued.jobs job hjob
        . exact ⟨p, hp, hvalue⟩
      . intro worker attempt ha
        rcases h.queued.attempts worker attempt ha with ⟨job, hjob, hsame⟩
        exact ⟨job, (hmem job).mpr (.inl hjob), hsame⟩
      . exact h.queued.through
      . intro job hjob hdone
        rcases (hmem job).mp hjob with hjob | rfl
        . exact h.queued.done job hjob hdone
        . cases hdone
    . intro job hjob
      exact ⟨job, (hmem job).mpr (.inl hjob), rfl⟩
    . rintro q ⟨⟩
      exact .inr ⟨_, (hmem _).mpr (.inr rfl), hvalue⟩

theorem claim_advances (h : s.Sound serde payloads live kept S)
    (hstep : s.claim worker now locked = some t)
    : s.Advances serde payloads live kept (.claim worker now locked) t S S := by
  unfold TraceStore.claim at hstep
  rcases Option.bind_eq_some_iff.mp hstep with ⟨⟨⟩, -, hstep⟩
  rcases Option.bind_eq_some_iff.mp hstep with ⟨⟨job, outbox⟩, hclaim, hpure⟩
  cases hpure
  unfold claimNextTraceOutboxJob at hclaim
  rcases Option.bind_eq_some_iff.mp hclaim with ⟨row, hrow, hpure⟩
  cases hpure
  have hmem := (Table.earliest_spec hrow).1
  apply h.idle
  . have hmodified := h.queued.modify row.outboxId (fun job => { job with
      availableAt := timestamptz (now + seconds traceOutboxLeaseSeconds)
      updatedAt := timestamptz now }) (fun _ => rfl) (fun _ => rfl) fun _ _ _ hstatus => .inl hstatus
    apply hmodified.set
    . rintro attempt ⟨⟩
      exact ⟨_, Table.updated_mem_modify hmem, rfl, rfl⟩
    . rintro attempt ⟨⟩ hphase
      cases hphase
  . rfl
  . intro job hjob
    refine ⟨_, s.db.outbox.modified_mem_modify row.outboxId _ hjob, ?_⟩
    split <;> rfl
  . rintro p ⟨⟩

/-- The job of a worker carries the trace of a search, which is what is read back from it. -/
theorem TraceStore.Sound.decode (h : s.Sound serde payloads live kept S)
    (hstorable : ∀ p ∈ payloads, p.Storable serde) (ha : s.attempts worker = some attempt)
    : ∃ p ∈ payloads, p.toJson serde = some attempt.job.payload ∧
        TracePayload.ofJson serde attempt.job.payload = some p := by
  rcases h.queued.attempts worker attempt ha with ⟨job, hjob, -, hsame⟩
  rcases h.queued.jobs job hjob with ⟨p, hp, hwritten⟩
  rcases TracePayload.ofJson_toJson (hstorable p hp) with ⟨value, hvalue, hread⟩
  rw [hwritten] at hvalue
  cases hvalue
  rw [hsame] at hwritten hread
  exact ⟨p, hp, hwritten, hread⟩

/-- What is written as the same value is the same trace. -/
theorem delivers_eq (hstorable : ∀ p ∈ payloads, p.Storable serde)
    (hread : TracePayload.ofJson serde value = some p)
    (hq : Delivers serde payloads live value q) : q = p := by
  rcases TracePayload.ofJson_toJson (hstorable q hq.mem) with ⟨value', hvalue, hread'⟩
  rw [hq.written] at hvalue
  cases hvalue
  rw [hread] at hread'
  cases hread'
  rfl

theorem persist_advances (h : s.Sound serde payloads live kept S) (hdistinct : DistinctIds payloads)
    (hstorable : ∀ p ∈ payloads, p.Storable serde) (hstep : s.persist serde worker = some t)
    : ∃ S', s.Advances serde payloads live kept (.persist worker) t S S' := by
  unfold TraceStore.persist at hstep
  split at hstep
  next job ha =>
    rcases h.decode hstorable ha with ⟨p, hp, hwritten, hread⟩
    have hhandle : handleTraceJob serde s.db job = .ok (persistTrace s.db p) := by
      unfold handleTraceJob
      rw [hread]
      rfl
    rw [hhandle] at hstep
    cases hstep
    refine ⟨insert p S, h.persist hdistinct hp rfl ?_ nofun⟩
    have hmono : ({ s with db := persistTrace s.db p } : TraceStore).Queued serde payloads live
        (insert p S) := h.queued.mono (fun q hq _ => .inr hq) rfl rfl
    apply hmono.set
    . rintro attempt ⟨⟩
      have hknown := h.queued.attempts worker _ ha
      exact hknown
    . rintro attempt ⟨⟩ - q hq
      exact .inl (delivers_eq hstorable hread hq)
  next => cases hstep

theorem fail_advances (h : s.Sound serde payloads live kept S) (hstep : s.fail worker err = some t)
    : s.Advances serde payloads live kept (.fail worker err) t S S := by
  unfold TraceStore.fail at hstep
  rcases Option.bind_eq_some_iff.mp hstep with ⟨attempt, ha, hpure⟩
  cases hpure
  apply h.idle
  . apply h.queued.set
    . rintro _ ⟨⟩
      have hknown := h.queued.attempts worker attempt ha
      exact hknown
    . rintro _ ⟨⟩ hphase
      cases hphase
  . rfl
  . intro job hjob
    exact ⟨job, hjob, rfl⟩
  . nofun

/-- The outcome of a job is recorded, and the worker is free. -/
theorem TraceStore.Sound.settled (h : s.Sound serde payloads live kept S) (worker now : Nat)
    (outboxId : Uuid) (f : TraceOutboxEntry → TraceOutboxEntry)
    (hf : ∀ job, (f job).outboxId = job.outboxId) (hpayload : ∀ job, (f job).payload = job.payload)
    (hdone : ∀ job ∈ s.db.outbox, job.outboxId = outboxId → (f job).status = .done →
      ∀ p, Delivers serde payloads live job.payload p → p ∈ S)
    : s.Advances serde payloads live kept (.settle worker now)
        { s with db.outbox := s.db.outbox.modify outboxId f hf
                 attempts := s.attempts.set worker none } S S := by
  apply h.idle
  . have hmodified := h.queued.modify outboxId f hf hpayload fun job hjob hid hstatus =>
      .inr (hdone job hjob hid hstatus)
    apply hmodified.set <;> nofun
  . rfl
  . intro job hjob
    refine ⟨_, s.db.outbox.modified_mem_modify outboxId f hjob hf, ?_⟩
    split
    . exact hpayload job
    . rfl
  . nofun

theorem settle_advances (h : s.Sound serde payloads live kept S) (hstep : s.settle worker now = some t)
    : s.Advances serde payloads live kept (.settle worker now) t S S := by
  unfold TraceStore.settle at hstep
  split at hstep
  next job result ha =>
    cases hstep
    cases result with
    | ok =>
      apply h.settled worker now job.outboxId (fun entry => { entry with
        status := .done, updatedAt := timestamptz now }) (fun _ => rfl) (fun _ => rfl)
      intro entry hentry hid _ p hp
      rcases h.queued.attempts worker _ ha with ⟨claimed, hclaimed, hid', hsame⟩
      have heq := s.db.outbox.eq_of_key_eq hentry hclaimed (hid.trans hid'.symm)
      rw [heq, hsame] at hp
      exact h.queued.through worker _ ha rfl p hp
    | error err =>
      apply h.settled worker now job.outboxId (fun entry => { entry with
        status := .failed
        attempts := nextAttempts job.attempts
        availableAt := timestamptz (now + backoffForAttempt (nextAttempts job.attempts))
        updatedAt := timestamptz now }) (fun _ => rfl) (fun _ => rfl)
      nofun
  next => cases hstep

theorem purgeTraceCandidates_advances (h : s.Sound serde payloads live kept S)
    (hkept : ∀ row, kept row → timestamptz now < row.expiresAt)
    : s.Advances serde payloads live kept (.purgeTraceCandidates now)
        { s with db := purgeExpiredTraceCandidates s.db now } S S where
  sound := by
    refine ⟨h.subset, ?_, ?_, h.queued.mono (fun q hq _ => hq) rfl rfl⟩
    . refine ⟨h.holds.traces, h.holds.items, h.holds.stages, h.holds.stageItems, ?_⟩
      intro row hrow
      unfold purgeExpiredTraceCandidates at hrow
      rw [Table.mem_deleteWhere] at hrow
      exact h.holds.candidates row hrow.1
    . intro q hq row hrow hkeep
      unfold purgeExpiredTraceCandidates
      rw [Table.mem_deleteWhere]
      have hlater := hkept row hkeep
      refine ⟨h.keeps q hq row hrow hkeep, ?_⟩
      rw [decide_eq_false_iff_not]
      omega
  has := fun _ _ hp => hp
  searched := nofun

theorem purgeTraces_advances (h : s.Sound serde payloads live kept S) (hdistinct : DistinctIds payloads)
    (hlive : ∀ p, live p → p ∉ expiredTraces now)
    : s.Advances serde payloads live kept (.purgeTraces now)
        { s with db := purgeExpiredTraces s.db now } S (S \ expiredTraces now) where
  sound := by
    refine ⟨fun q hq => h.subset q hq.1, h.holds.purge hdistinct h.subset now,
      h.keeps.purge h.holds hdistinct h.subset now, ?_⟩
    refine h.queued.mono ?_ rfl rfl
    intro q hq hlive'
    exact ⟨hq, hlive q hlive'⟩
  has p hp hstored := by
    rcases hstored with hstored | hjob
    . exact .inl ⟨hstored, hlive p hp⟩
    . exact .inr hjob
  searched := nofun

/-- Every step keeps what is stored whole, and leaves no trace that is not to expire without its rows
    or a job. -/
theorem TraceStore.Sound.advances (h : s.Sound serde payloads live kept S) (hdistinct : DistinctIds payloads)
    (hstorable : ∀ p ∈ payloads, p.Storable serde) (hallowed : a.Allowed payloads live kept)
    (hfresh : s.FreshJob a) (hstep : TraceSteps serde s a t)
    : ∃ S', s.Advances serde payloads live kept a t S S' := by
  unfold TraceSteps at hstep
  cases a with
  | search writeMode outboxId now payload =>
    cases hstep
    exact search_advances h hdistinct hallowed (hstorable _ hallowed) hfresh
  | claim worker now locked => exact ⟨S, claim_advances h hstep⟩
  | persist worker => exact persist_advances h hdistinct hstorable hstep
  | fail worker err => exact ⟨S, fail_advances h hstep⟩
  | settle worker now => exact ⟨S, settle_advances h hstep⟩
  | crash worker =>
    cases hstep
    refine ⟨S, h.idle ?_ rfl (fun job hjob => ⟨job, hjob, rfl⟩) nofun⟩
    apply h.queued.set <;> nofun
  | purgeTraceCandidates now =>
    cases hstep
    exact ⟨S, purgeTraceCandidates_advances h hallowed⟩
  | purgeTraces now =>
    cases hstep
    exact ⟨_, purgeTraces_advances h hdistinct hallowed⟩

/-! ## Runs -/

theorem traces_run (hdistinct : DistinctIds payloads) (hstorable : ∀ p ∈ payloads, p.Storable serde)
    (h : Run (Run.Guarded TraceStore.FreshJob (TraceSteps serde)) TraceStore.empty as s)
    (hallowed : ∀ a ∈ as, a.Allowed payloads live kept)
    : ∃ S, s.Sound serde payloads live kept S ∧
        ∀ p ∈ as.filterMap TraceAction.payload, live p → s.Has serde S p := by
  revert hallowed
  apply h.snoc_induction (P := fun as s => (∀ a ∈ as, a.Allowed payloads live kept) →
    ∃ S, s.Sound serde payloads live kept S ∧
      ∀ p ∈ as.filterMap TraceAction.payload, live p → s.Has serde S p)
  . intro _
    exact ⟨∅, ⟨nofun, holds_empty, nofun, queued_empty⟩, nofun⟩
  . intro as t a u hrun ih hstep hallowed
    rcases ih fun a ha => hallowed a (List.mem_append_left _ ha) with ⟨S, hsound, hhas⟩
    rcases hsound.advances hdistinct hstorable (hallowed a (by simp)) hstep.1 hstep.2
      with ⟨S', hadvances⟩
    refine ⟨S', hadvances.sound, ?_⟩
    intro p hp hlive
    rw [List.filterMap_append, List.mem_append] at hp
    rcases hp with hp | hp
    . exact hadvances.has p hlive (hhas p hp hlive)
    . apply hadvances.searched
      simpa using hp

/-- The steps of a run are allowed for what its purges spare. -/
theorem allowed_of_mem {as : List TraceAction} (ha : a ∈ as)
    : a.Allowed (as.filterMap TraceAction.payload)
        (fun p => ∀ now, TraceAction.purgeTraces now ∈ as → p ∉ expiredTraces now)
        (fun row => ∀ now, TraceAction.purgeTraceCandidates now ∈ as →
          timestamptz now < row.expiresAt) := by
  cases a with
  | search writeMode outboxId now payload => exact List.mem_filterMap.mpr ⟨_, ha, rfl⟩
  | purgeTraces now => exact fun p hp => hp now ha
  | purgeTraceCandidates now => exact fun row hrow => hrow now ha
  | _ => trivial

theorem exists_holds
    (h : Run (Run.Guarded TraceStore.FreshJob (TraceSteps serde)) TraceStore.empty as s)
    (hdistinct : DistinctIds (as.filterMap TraceAction.payload))
    (hstorable : ∀ p ∈ as.filterMap TraceAction.payload, p.Storable serde)
    : ∃ S : Set TracePayload, (∀ p ∈ S, p ∈ as.filterMap TraceAction.payload) ∧ s.db.Holds S := by
  rcases traces_run hdistinct hstorable h fun a ha => allowed_of_mem ha with ⟨S, hsound, -⟩
  exact ⟨S, hsound.subset, hsound.holds⟩

theorem exists_stored
    (h : Run (Run.Guarded TraceStore.FreshJob (TraceSteps serde)) TraceStore.empty as s)
    (hdistinct : DistinctIds (as.filterMap TraceAction.payload))
    (hstorable : ∀ p ∈ as.filterMap TraceAction.payload, p.Storable serde)
    (hp : p ∈ as.filterMap TraceAction.payload)
    (hlive : ∀ now, TraceAction.purgeTraces now ∈ as → p ∉ expiredTraces now)
    (hdone : ∀ job ∈ s.db.outbox, p.toJson serde = some job.payload → job.status = .done)
    : ∃ S : Set TracePayload,
        (∀ q ∈ S, q ∈ as.filterMap TraceAction.payload) ∧ s.db.Holds S ∧ p ∈ S := by
  rcases traces_run hdistinct hstorable h fun a ha => allowed_of_mem ha with ⟨S, hsound, hhas⟩
  refine ⟨S, hsound.subset, hsound.holds, ?_⟩
  rcases hhas p hp hlive with hstored | ⟨job, hjob, hwritten⟩
  . exact hstored
  . exact hsound.queued.done job hjob (hdone job hjob hwritten) p ⟨hp, hwritten, hlive⟩

/--
In every order of the steps of searches and workers, the tables hold the whole traces of a set of
searches, and no row besides. A trace that no purge finds expired is one of them, or the job that
stores it is still to be done, and a candidate of a stored trace is missing only when a purge found it
expired.
-/
theorem traces_persisted
    (h : Run (Run.Guarded TraceStore.FreshJob (TraceSteps serde)) TraceStore.empty as s)
    (hdistinct : DistinctIds (as.filterMap TraceAction.payload))
    (hstorable : ∀ p ∈ as.filterMap TraceAction.payload, p.Storable serde)
    : ∃ S : Set TracePayload,
        (∀ p ∈ S, p ∈ as.filterMap TraceAction.payload) ∧
        s.db.Holds S ∧
        s.db.Keeps S (fun row =>
          ∀ now, TraceAction.purgeTraceCandidates now ∈ as → timestamptz now < row.expiresAt) ∧
        ∀ p ∈ as.filterMap TraceAction.payload,
          (∀ now, TraceAction.purgeTraces now ∈ as → p ∉ expiredTraces now) →
          p ∈ S ∨ ∃ job ∈ s.db.outbox, p.toJson serde = some job.payload ∧ job.status ≠ .done := by
  rcases traces_run hdistinct hstorable h fun a ha => allowed_of_mem ha with ⟨S, hsound, hhas⟩
  refine ⟨S, hsound.subset, hsound.holds, hsound.keeps, ?_⟩
  intro p hp hlive
  by_cases hstored : p ∈ S
  . exact .inl hstored
  . rcases hhas p hp hlive with hstored' | ⟨job, hjob, hwritten⟩
    . exact .inl hstored'
    . refine .inr ⟨job, hjob, hwritten, ?_⟩
      intro hdone
      exact hstored (hsound.queued.done job hjob hdone p ⟨hp, hwritten, hlive⟩)

/-! ## A trace that is persisted twice -/

/-- The days of January 1970, in nanoseconds. -/
def day (n : Nat) : Nat := seconds 86400 * n

def januaryJson (n : Nat) : Json := .arr ([1970, n + 1, 0, 0, 0, 0, 0, 0, 0].map Json.num)

def januarySerde : TimeSerde where
  toJson time := ((List.range 31).find? fun n => (day n : Int) = time).map januaryJson
  ofJson json := ((List.range 31).find? fun n => januaryJson n = json).map fun n => (day n : Int)

theorem januarySerde_keeps : ∀ n < 31, januarySerde.Keeps (day n) := by
  have hkeeps : ∀ n < 31, januarySerde.toJson (day n) = some (januaryJson n)
      ∧ januarySerde.ofJson (januaryJson n) = some (day n : Int) := by
    decide +kernel
  intro n hn
  exact ⟨januaryJson n, (hkeeps n hn).1, nofun, (hkeeps n hn).2⟩

/-- What a search writes of why it found a note. -/
def sampleExplain : Json := .obj [
  ("match", .obj [
    ("matched_fields", stringsJson ["text"]),
    ("matched_terms", stringsJson ["deploys"])]),
  ("ranking", .obj [
    ("final_score", scoreJson (.fin 1)),
    ("policy_id", .str "ranking_v2:0"),
    ("schema", .str "search_ranking_explain/v2"),
    ("terms", .arr [])])]

def sampleTrace : TracePayload where
  trace := {
    traceId := 1
    tenantId := "t"
    projectId := "p"
    agentId := "a"
    readProfile := "private_only"
    query := "When do deploys run?"
    expansionMode := "off"
    expandedQueries := ["When do deploys run?"]
    allowedScopes := ["agent_private"]
    candidateCount := 1
    topK := 10
    configSnapshot := .obj []
    traceVersion := 3
    createdAt := day 0
    expiresAt := day 7 }
  items := [⟨2, 3, some 4, 1, .fin 1, sampleExplain⟩]
  candidates := [⟨5, ⟨3, 4, 0, "Deploys run on Friday.", .obj [], 1, .fin 1, "agent_private", .fin 1,
    day 0, 0, none⟩, day 0, day 2⟩]
  stages := [⟨6, 0, "recall.candidates", .obj [], day 0, [⟨7, none, some 3, some 4, .obj []⟩]⟩]

theorem storable_sampleTrace : sampleTrace.Storable januarySerde := by
  have hone : StorableF32 (.fin 1) := ⟨⟨by norm_num [F32.max], by norm_num [F32.max]⟩, rfl⟩
  constructor
  . constructor <;> first | exact januarySerde_keeps _ (by omega) | decide
  . intro item hitem
    rw [List.mem_singleton.mp hitem]
    constructor <;> first | exact hone | decide
  . intro entry hentry
    rw [List.mem_singleton.mp hentry]
    constructor <;> first | exact hone | exact januarySerde_keeps _ (by omega) | decide | nofun
  . intro stage hstage
    rw [List.mem_singleton.mp hstage]
    constructor
    . decide
    . decide
    . exact januarySerde_keeps 0 (by omega)
    . intro item hitem
      rw [List.mem_singleton.mp hitem]
      constructor <;> simp

/-- A worker stores the trace and stops, and a second one stores it again. -/
def persistTwice : List TraceAction :=
  [.search "outbox" 8 (day 0) sampleTrace, .claim 0 (day 0) [], .persist 0, .crash 0,
    .claim 1 (day 1) [], .persist 1, .settle 1 (day 1), .purgeTraceCandidates (day 2),
    .purgeTraces (day 2)]

def TraceStore.draws (s : TraceStore) : TraceAction → Bool
  | .search _ outboxId _ _ => (s.db.outbox.find? outboxId).isNone
  | _ => true

theorem TraceStore.freshJob_of_draws (h : s.draws a = true) : s.FreshJob a := by
  cases a with
  | search writeMode outboxId now payload => exact Option.isNone_iff_eq_none.mp h
  | _ => trivial

/-- The store that the steps lead to, if they can be taken and every job gets a new identifier. -/
def TraceStore.run (s : TraceStore) (as : List TraceAction) : Option TraceStore :=
  Run.eval (fun s a => if s.draws a then s.step januarySerde a else none) s as

theorem run_of_traceRun (h : s.run as = some t)
    : Run (Run.Guarded TraceStore.FreshJob (TraceSteps januarySerde)) s as t := by
  apply Run.of_eval _ h
  intro before a after hstep
  rw [Option.ite_none_right_eq_some] at hstep
  exact ⟨TraceStore.freshJob_of_draws hstep.1, hstep.2⟩

theorem distinctIds_sampleTrace : DistinctIds (persistTwice.filterMap TraceAction.payload) := by
  change DistinctIds [sampleTrace]
  constructor
  . decide
  all_goals
    unfold KeysApart
    decide

theorem storable_persistTwice
    : ∀ p ∈ persistTwice.filterMap TraceAction.payload, p.Storable januarySerde := by
  intro p hp
  rw [List.mem_singleton.mp (hp : p ∈ [sampleTrace])]
  exact storable_sampleTrace

theorem sampleTrace_lives
    : ∀ now, TraceAction.purgeTraces now ∈ persistTwice → sampleTrace ∉ expiredTraces now := by
  intro now hnow
  simp only [persistTwice, List.mem_cons, TraceAction.purgeTraces.injEq, reduceCtorEq, false_or,
    List.not_mem_nil, or_false] at hnow
  rw [hnow]
  change ¬ timestamptz (day 7) ≤ timestamptz (day 2)
  decide

theorem traces_persisted_persistTwice
    : ∃ s, TraceStore.empty.run persistTwice = some s
      ∧ ∃ S : Set TracePayload, sampleTrace ∈ S ∧ s.db.Holds S
        ∧ s.db.traces.rows = sampleTrace.traceRows ∧ s.db.candidates.rows = [] := by
  have heval : ((TraceStore.empty.run persistTwice).any fun s =>
      s.db.outbox.rows.map (·.status) = [.done] && s.db.traces.rows = sampleTrace.traceRows
        && s.db.candidates.rows = []) = true := by
    decide +kernel
  rw [Option.any_eq_true] at heval
  have ⟨s, heval, hs⟩ := heval
  simp only [Bool.and_eq_true, decide_eq_true_eq] at hs
  have ⟨⟨hstatus, htraces⟩, hcandidates⟩ := hs
  rcases traces_persisted (run_of_traceRun heval) distinctIds_sampleTrace storable_persistTwice
    with ⟨S, -, hholds, -, hstored⟩
  refine ⟨s, heval, S, ?_, hholds, htraces, hcandidates⟩
  rcases hstored sampleTrace (List.mem_singleton_self _) sampleTrace_lives
    with hstored | ⟨job, hjob, -, hpending⟩
  . exact hstored
  . have hdone : job.status ∈ s.db.outbox.rows.map (·.status) := List.mem_map_of_mem hjob
    rw [hstatus] at hdone
    exact absurd (List.mem_singleton.mp hdone) hpending

end Elf
