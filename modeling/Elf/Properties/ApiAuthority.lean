import Elf.Properties.ApiIdentity
import Elf.Properties.HitCounts

/-!
This module contains what the callers of the API can do to the notes, however their calls are interleaved with
those of others and with what workers and searches do.
-/

namespace Elf

open Text

variable {svc : ElfService} {draw : Draw} {s t u : Store} {op : Op} {w : NoteWrite} {note : MemoryNote}

/-! ## Callers of transactions -/

/-- The tenant, the project and the agent that a transaction is executed for. -/
def Op.caller : Op → Option Api.RequestContext
  | .addNote req _ _ _ => some ⟨req.tenantId, req.projectId, req.agentId⟩
  | .addEvent _ req _ _ _ => some ⟨req.tenantId, req.projectId, req.agentId⟩
  | .update req => some ⟨req.tenantId, req.projectId, req.agentId⟩
  | .delete req => some ⟨req.tenantId, req.projectId, req.agentId⟩
  | .publish req => some ⟨req.tenantId, req.projectId, req.agentId⟩
  | .unpublish req => some ⟨req.tenantId, req.projectId, req.agentId⟩
  | .grantUpsert req => some ⟨req.tenantId, req.projectId, req.agentId⟩
  | .grantRevoke req => some ⟨req.tenantId, req.projectId, req.agentId⟩
  | .correct req => some ⟨req.tenantId, req.projectId, req.actorAgentId⟩
  | .review req => some ⟨req.tenantId, req.projectId, req.reviewerAgentId⟩
  | .propose _ _ _ | .recordHits _ => none

/-- The transactions that an administrator may execute on the notes of other agents. -/
def Op.administers : Op → Bool
  | .correct _ | .review _ => true
  | _ => false

theorem update_loads {req : UpdateRequest} {response : UpdateResponse}
    (h : update svc req draw s = .ok (response, t))
    : ∃ note, s.notes.find? req.noteId = some note ∧ note.tenantId = trim req.tenantId
      ∧ note.agentId = trim req.agentId := by
  simp only [update, Except.bind_eq_ok, Except.rejectIf_eq_ok, Except.ofOption_eq_ok] at h
  rcases h with ⟨-, -, -, -, -, -, note, hload, _, hvalid, -⟩
  rcases loadNote_eq_some hload with ⟨hfind, htenant, -⟩
  exact ⟨note, hfind, htenant, (validateNoteIsUpdatable_eq_ok hvalid).1⟩

theorem delete_loads {req : DeleteRequest} {response : DeleteResponse}
    (h : delete svc req draw s = .ok (response, t))
    : ∃ note, s.notes.find? req.noteId = some note ∧ note.tenantId = trim req.tenantId
      ∧ note.agentId = trim req.agentId := by
  simp only [delete, Except.bind_eq_ok, Except.rejectIf_eq_ok, Except.ofOption_eq_ok] at h
  rcases h with ⟨-, -, note, hload, -, hagent, -⟩
  rcases loadNote_eq_some hload with ⟨hfind, htenant, -⟩
  exact ⟨note, hfind, htenant, by simpa using hagent⟩

theorem unpublishNote_loads {req : UnpublishNoteRequest} {response : PublishNoteResponse}
    (h : unpublishNote svc req draw s = .ok (response, t))
    : ∃ note, s.notes.find? req.noteId = some note ∧ note.tenantId = trim req.tenantId
      ∧ note.agentId = trim req.agentId := by
  simp only [unpublishNote, Except.bind_eq_ok, Except.rejectIf_eq_ok] at h
  rcases h with ⟨-, -, note, hload, -⟩
  rcases loadOwnedActiveNote_eq_ok hload with ⟨hfind, htenant, -, hagent, -⟩
  exact ⟨note, hfind, htenant, hagent⟩

/-- Whose note a mutation writes, where the caller is named without white space at the ends. -/
theorem Op.exec_caller {ctx : Api.RequestContext} (h : op.exec svc draw s = .ok (r, t))
    (hmut : Mutation svc draw s t op w) (hcaller : op.caller = some ctx)
    (htenant : trim ctx.tenantId = ctx.tenantId) (hagent : trim ctx.agentId = ctx.agentId)
    : w.next.tenantId = ctx.tenantId ∧ (op.administers = false → w.next.agentId = ctx.agentId) := by
  cases hmut with
  | added hadd =>
    cases hcaller
    exact ⟨rfl, fun _ => rfl⟩
  | extracted hdata hadd =>
    cases hcaller
    exact ⟨rfl, fun _ => rfl⟩
  | @replaced req now note withinBudget text prev hrep =>
    cases hcaller
    have hmatched := hrep.matched
    unfold ResolveUpdateArgs.matches at hmatched
    simp only [Bool.and_eq_true, decide_eq_true_eq] at hmatched
    rcases hmatched with ⟨⟨⟨⟨⟨⟨⟨htenant', -⟩, hagent'⟩, -⟩, -⟩, -⟩, -⟩, -⟩
    exact ⟨htenant', fun _ => hagent'⟩
  | @updated req prev find active gate writes fields =>
    cases hcaller
    rcases Transaction.reports_eq_ok.mp h with ⟨response, hok, -⟩
    rcases update_loads hok with ⟨note, hnote, htenant', hagent'⟩
    cases find.symm.trans hnote
    exact ⟨htenant'.trans htenant, fun _ => hagent'.trans hagent⟩
  | @deleted req prev find writes fields =>
    cases hcaller
    rcases Transaction.reports_eq_ok.mp h with ⟨response, hok, -⟩
    rcases delete_loads hok with ⟨note, hnote, htenant', hagent'⟩
    cases find.symm.trans hnote
    exact ⟨htenant'.trans htenant, fun _ => hagent'.trans hagent⟩
  | published loads moved writes fields =>
    cases hcaller
    exact ⟨loads.tenant.trans htenant, fun _ => loads.agent.trans hagent⟩
  | @unpublished req prev find active shared writes fields =>
    cases hcaller
    rcases Transaction.reports_eq_ok.mp h with ⟨response, hok, -⟩
    rcases unpublishNote_loads hok with ⟨note, hnote, htenant', hagent'⟩
    cases find.symm.trans hnote
    exact ⟨htenant'.trans htenant, fun _ => hagent'.trans hagent⟩
  | @ended req prev status op find ending writes fields =>
    cases hcaller
    rcases Transaction.reports_eq_ok.mp h with ⟨response, hok, -⟩
    rcases memoryCorrectionApply_cases hok with ⟨note, hnote, hload, -⟩
    cases find.symm.trans hnote
    exact ⟨(loadNote_eq_some hload).2.1.trans htenant, nofun⟩
  | @restored req prev restored source snapshot find action inactive load apply writes fields =>
    cases hcaller
    rcases Transaction.reports_eq_ok.mp h with ⟨response, hok, -⟩
    rcases memoryCorrectionApply_cases hok with ⟨note, hnote, hload, -⟩
    cases find.symm.trans hnote
    have hframe := congrArg (·.tenantId) (applyRestoreSnapshot_cases apply).frame
    exact ⟨hframe.trans ((loadNote_eq_some hload).2.1.trans htenant), nofun⟩
  | @promoted req w proposal promoted args s₁ s₂ find action contract hprom before after =>
    cases hcaller
    rcases Transaction.reports_eq_ok.mp h with ⟨updated, hok, -⟩
    rcases consolidationProposalReview_cases hok with ⟨found, events, hfound, hfoundTenant, -⟩
    cases find.symm.trans hfound
    have hsame : promoted.tenantId = proposal.tenantId := congrArg (·.tenantId) contract
    exact ⟨hprom.tenant.trans (hsame.trans hfoundTenant), nofun⟩

/-! ## Untouched notes -/

/-- Nothing was done to a note but to count the hits of it. -/
structure Store.Untouched (s t : Store) (id : Uuid) : Prop where
  row : (t.notes.find? id).map MemoryNote.unhit = (s.notes.find? id).map MemoryNote.unhit
  versions : t.versions.rows.filter (·.noteId = id) = s.versions.rows.filter (·.noteId = id)
  jobs : t.outbox.rows.filter (·.noteId = id) = s.outbox.rows.filter (·.noteId = id)

theorem Store.Untouched.refl (s : Store) (id : Uuid) : s.Untouched s id := ⟨rfl, rfl, rfl⟩

theorem Store.Untouched.trans {id : Uuid} (h : s.Untouched t id) (h' : t.Untouched u id)
    : s.Untouched u id where
  row := h'.row.trans h.row
  versions := h'.versions.trans h.versions
  jobs := h'.jobs.trans h.jobs

theorem Store.Quiet.untouched (h : s.Quiet t) (id : Uuid) : s.Untouched t id where
  row := h.notes id
  versions := by rw [h.versions]
  jobs := by rw [h.outbox]

theorem Store.Writes.untouched {id : Uuid} (h : s.Writes t w) (hid : w.next.noteId ≠ id)
    : s.Untouched t id := by
  rcases h.versions_eq with ⟨version, hversions, hversion, -⟩
  rcases h.outbox_eq with ⟨job, hjobs, hjob, -⟩
  constructor
  . rw [h.notes_eq, if_neg hid]
  . rw [hversions, List.filter_append, List.filter_cons_of_neg (by simp [hversion, hid])]
    simp
  . rw [hjobs, List.filter_append, List.filter_cons_of_neg (by simp [hjob, hid])]
    simp

theorem Store.Untouched.owner {id : Uuid} (h : s.Untouched t id)
    (hfind : s.notes.find? id = some note)
    : ∃ row, t.notes.find? id = some row ∧ row.tenantId = note.tenantId
      ∧ row.agentId = note.agentId := by
  have hrow := h.row
  rw [hfind, Option.map_some] at hrow
  rcases Option.map_eq_some_iff.mp hrow with ⟨row, hrow, heq⟩
  have hsame := MemoryNote.eq_of_unhit heq
  exact ⟨row, hrow, congrArg (·.tenantId) hsame, congrArg (·.agentId) hsame⟩

/-- The caller of a transaction does not own the note. -/
def Op.Foreign (op : Op) (note : MemoryNote) : Prop :=
  ∀ ctx, op.caller = some ctx → trim ctx.tenantId = ctx.tenantId ∧ trim ctx.agentId = ctx.agentId
    ∧ (ctx.tenantId ≠ note.tenantId ∨ (op.administers = false ∧ ctx.agentId ≠ note.agentId))

theorem Mutation.exists_caller (h : Mutation svc draw s t op w) : ∃ ctx, op.caller = some ctx := by
  cases h with
  | _ => exact ⟨_, rfl⟩

theorem Op.exec_untouched {id : Uuid} (h : op.exec svc draw s = .ok (r, t))
    (hfind : s.notes.find? id = some note) (hforeign : op.Foreign note) : s.Untouched t id := by
  rcases op.exec_cases h with hquiet | ⟨w, hmut, -⟩
  . exact hquiet.untouched id
  . rcases hmut.exists_caller with ⟨ctx, hctx⟩
    rcases hforeign ctx hctx with ⟨htenant, hagent, hother⟩
    rcases op.exec_caller h hmut hctx htenant hagent with ⟨hnextTenant, hnextAgent⟩
    apply hmut.writes.untouched
    intro hid
    -- The row that is written would be one of the owner, and so would the caller.
    rcases (op.exec_keepsRows h hmut).kept id note hfind with
      ⟨row, hrow, hrowTenant, hrowAgent, -, -⟩
    have hnext := hmut.writes.notes_eq id
    rw [if_pos hid, hrow] at hnext
    have hsame := Option.some.inj hnext
    rw [hsame] at hrowTenant hrowAgent
    rcases hother with hne | ⟨hadmin, hne⟩
    . exact hne (hnextTenant.symm.trans hrowTenant)
    . exact hne ((hnextAgent hadmin).symm.trans hrowAgent)

/-! ## Organizations -/

/-- The transactions that may bring a note into the space of the whole organization. -/
def Op.OpensOrg : Op → Prop
  | .addNote req _ _ _ => req.scope = "org_shared"
  | .addEvent _ req note _ _ => (req.scope <|> note.scopeSuggestion).getD "" = "org_shared"
  | .publish req => req.scope = "org_shared"
  | .correct _ | .review _ => True
  | _ => False

theorem Mutation.opensOrg (h : Mutation svc draw s t op w) (hscope : w.next.scope = "org_shared")
    : (∃ prev, w.prev = some prev ∧ prev.scope = "org_shared") ∨ op.OpensOrg := by
  cases h with
  | added h => exact .inr hscope
  | extracted hdata h =>
    subst hdata
    exact .inr hscope
  | replaced h => exact .inl ⟨_, rfl, hscope⟩
  | updated find active gate writes fields => exact .inl ⟨_, rfl, hscope⟩
  | deleted find writes fields => exact .inl ⟨_, rfl, hscope⟩
  | published loads moved writes fields => exact .inr hscope
  | unpublished find active shared writes fields =>
    have hprivate : "agent_private" = "org_shared" := hscope
    simp at hprivate
  | ended find ending writes fields => exact .inr trivial
  | restored find action inactive load apply writes fields => exact .inr trivial
  | promoted find action contract h before after => exact .inr trivial

/-- A note of a whole organization was one, or its owner has it opened. -/
theorem Op.exec_orgShared {id : Uuid} (h : op.exec svc draw s = .ok (r, t))
    (htrim : ∀ ctx, op.caller = some ctx →
      trim ctx.tenantId = ctx.tenantId ∧ trim ctx.agentId = ctx.agentId)
    (hfind : t.notes.find? id = some note) (hscope : note.scope = "org_shared")
    : (∃ prev, s.notes.find? id = some prev ∧ prev.scope = "org_shared"
        ∧ prev.tenantId = note.tenantId ∧ prev.agentId = note.agentId)
      ∨ op.OpensOrg ∧ ∃ ctx, op.caller = some ctx ∧ ctx.tenantId = note.tenantId
        ∧ (op.administers = false → ctx.agentId = note.agentId) := by
  rcases op.exec_cases h with hquiet | ⟨w, hmut, -⟩
  . rcases hquiet.row hfind with ⟨row, hrow, heq⟩
    left
    rw [heq] at hscope ⊢
    exact ⟨row, hrow, hscope, rfl, rfl⟩
  . have hnotes := hmut.writes.notes_eq id
    by_cases hid : w.next.noteId = id
    . rw [if_pos hid, hfind] at hnotes
      have hnext : note = w.next.stored := Option.some.inj hnotes
      have hnextScope : w.next.scope = "org_shared" := by
        rw [hnext] at hscope
        exact hscope
      rcases hmut.opensOrg hnextScope with ⟨prev, hprev, hprevScope⟩ | hopens
      . have hrow := hmut.writes.prev_eq
        rw [hid, hprev] at hrow
        rcases (op.exec_keepsRows h hmut).kept id prev hrow with ⟨row, hlater, htenant, hagent, -, -⟩
        cases hfind.symm.trans hlater
        exact .inl ⟨prev, hrow, hprevScope, htenant.symm, hagent.symm⟩
      . rcases hmut.exists_caller with ⟨ctx, hctx⟩
        rcases htrim ctx hctx with ⟨htenant, hagent⟩
        rcases op.exec_caller h hmut hctx htenant hagent with ⟨hnextTenant, hnextAgent⟩
        right
        refine ⟨hopens, ctx, hctx, ?_, ?_⟩
        . rw [hnext]
          exact hnextTenant.symm
        . intro hadmin
          rw [hnext]
          exact (hnextAgent hadmin).symm
    . rw [if_neg hid, hfind] at hnotes
      exact .inl ⟨note, hnotes.symm, hscope, rfl, rfl⟩

namespace Api

variable {server : Server} {headers : HeaderMap} {drawn : Uuid} {call : Call} {req : ServiceRequest}
  {inc : Incoming} {key : SecurityAuthKey}

/-! ## Calls -/

/-- Who a request of the service is made for. -/
def ServiceRequest.caller : ServiceRequest → RequestContext
  | .addNote req => ⟨req.tenantId, req.projectId, req.agentId⟩
  | .addEvent req => ⟨req.tenantId, req.projectId, req.agentId⟩
  | .update req => ⟨req.tenantId, req.projectId, req.agentId⟩
  | .delete req => ⟨req.tenantId, req.projectId, req.agentId⟩
  | .publish req => ⟨req.tenantId, req.projectId, req.agentId⟩
  | .unpublish req => ⟨req.tenantId, req.projectId, req.agentId⟩
  | .grantUpsert req => ⟨req.tenantId, req.projectId, req.agentId⟩
  | .grantRevoke req => ⟨req.tenantId, req.projectId, req.agentId⟩
  | .correct req => ⟨req.tenantId, req.projectId, req.actorAgentId⟩
  | .review req => ⟨req.tenantId, req.projectId, req.reviewerAgentId⟩

theorem ServiceRequest.Issues.caller (h : req.Issues op) : op.caller = some req.caller := by
  cases h with
  | _ => rfl

/-- The scope that a request names, where it names one. -/
def ServiceRequest.scope : ServiceRequest → Option String
  | .addNote req => some req.scope
  | .addEvent req => req.scope
  | .publish req => some req.scope
  | _ => none

theorem requireOrgShared_eq_ok {isOrgShared : Bool} {u : Unit}
    : inc.requireOrgShared isOrgShared = .ok u
      ↔ (isOrgShared = true → trim inc.authMode = "static_keys" → inc.role.any isAdminRole = true) := by
  unfold Incoming.requireOrgShared requireAdminForOrgSharedWrites
  cases isOrgShared with
  | true => simp [Except.rejectIf_eq_ok]
  | false => simp

/-- What a handler makes of a call. -/
structure Handled (inc : Incoming) (call : Call) (req : ServiceRequest) : Prop where
  caller : RequestContext.fromHeaders inc.headers = .ok req.caller
  administers : ∀ op, req.Issues op → op.administers = true → call.port = .admin
  orgShared : req.scope = some "org_shared" → trim inc.authMode = "static_keys" →
    inc.role.any isAdminRole = true
  event : ∀ event, req = .addEvent event → ∃ payload, call = .eventsIngest payload
    ∧ payload.scope = event.scope

theorem spaceGrantUpsert_caller {space : String} {payload : SpaceGrantUpsertBody}
    {grant : SpaceGrantRequest} (h : inc.spaceGrantUpsert space payload = .ok grant)
    : RequestContext.fromHeaders inc.headers
      = .ok ⟨grant.tenantId, grant.projectId, grant.agentId⟩ := by
  simp only [Incoming.spaceGrantUpsert, Except.bind_eq_ok, Except.pure_eq_ok] at h
  rcases h with ⟨ctx, hctx, _, -, _, -, rfl⟩
  exact hctx

theorem handled_of_handle (h : inc.handle call = .ok req) : Handled inc call req := by
  cases call with
  | notesIngest payload =>
    simp only [Incoming.handle, Incoming.notesIngest, Except.map_eq_ok, Except.bind_eq_ok,
      Except.pure_eq_ok, requireOrgShared_eq_ok] at h
    rcases h with ⟨_, ⟨ctx, hctx, _, hscope, _, -, rfl⟩, rfl⟩
    refine ⟨hctx, ?_, ?_, nofun⟩
    . rintro _ ⟨⟩ ⟨⟩
    . intro horg
      apply hscope
      have hpayload : payload.scope = "org_shared" := Option.some.inj horg
      rw [hpayload]
      rfl
  | eventsIngest payload =>
    simp only [Incoming.handle, Incoming.eventsIngest, Except.map_eq_ok, Except.bind_eq_ok,
      Except.pure_eq_ok, requireOrgShared_eq_ok] at h
    rcases h with ⟨_, ⟨ctx, hctx, _, hscope, _, -, _, -, rfl⟩, rfl⟩
    refine ⟨hctx, ?_, ?_, ?_⟩
    . rintro _ ⟨⟩ ⟨⟩
    . intro horg
      apply hscope
      have hpayload : payload.scope = some "org_shared" := horg
      rw [hpayload]
      rfl
    . rintro _ ⟨⟩
      exact ⟨payload, rfl, rfl⟩
  | notesPatch noteId payload =>
    simp only [Incoming.handle, Incoming.notesPatch, Except.map_eq_ok, Except.bind_eq_ok,
      Except.pure_eq_ok] at h
    rcases h with ⟨_, ⟨ctx, hctx, rfl⟩, rfl⟩
    refine ⟨hctx, ?_, nofun, nofun⟩
    rintro _ ⟨⟩ ⟨⟩
  | notesDelete noteId =>
    simp only [Incoming.handle, Incoming.notesDelete, Except.map_eq_ok, Except.bind_eq_ok,
      Except.pure_eq_ok] at h
    rcases h with ⟨_, ⟨ctx, hctx, rfl⟩, rfl⟩
    refine ⟨hctx, ?_, nofun, nofun⟩
    rintro _ ⟨⟩ ⟨⟩
  | notesPublish noteId space =>
    simp only [Incoming.handle, Incoming.notesPublish, Except.map_eq_ok, Except.bind_eq_ok,
      Except.pure_eq_ok, requireOrgShared_eq_ok] at h
    rcases h with ⟨_, ⟨ctx, hctx, scope, -, _, hscope, rfl⟩, rfl⟩
    refine ⟨hctx, ?_, ?_, nofun⟩
    . rintro _ ⟨⟩ ⟨⟩
    . intro horg
      apply hscope
      exact decide_eq_true (Option.some.inj horg)
  | notesUnpublish noteId space =>
    simp only [Incoming.handle, Incoming.notesUnpublish, Except.map_eq_ok, Except.bind_eq_ok,
      Except.pure_eq_ok] at h
    rcases h with ⟨_, ⟨ctx, hctx, scope, -, _, -, rfl⟩, rfl⟩
    refine ⟨hctx, ?_, nofun, nofun⟩
    rintro _ ⟨⟩ ⟨⟩
  | spaceGrantUpsert space payload =>
    simp only [Incoming.handle, Except.map_eq_ok] at h
    rcases h with ⟨grant, hgrant, rfl⟩
    refine ⟨spaceGrantUpsert_caller hgrant, ?_, nofun, nofun⟩
    rintro _ ⟨⟩ ⟨⟩
  | spaceGrantRevoke space payload =>
    simp only [Incoming.handle, Except.map_eq_ok] at h
    rcases h with ⟨grant, hgrant, rfl⟩
    refine ⟨spaceGrantUpsert_caller hgrant, ?_, nofun, nofun⟩
    rintro _ ⟨⟩ ⟨⟩
  | noteCorrection noteId payload =>
    simp only [Incoming.handle, Incoming.noteCorrection, Except.map_eq_ok, Except.bind_eq_ok,
      Except.pure_eq_ok] at h
    rcases h with ⟨_, ⟨ctx, hctx, rfl⟩, rfl⟩
    exact ⟨hctx, fun _ _ _ => rfl, nofun, nofun⟩
  | proposalReview proposalId payload =>
    simp only [Incoming.handle, Incoming.proposalReview, Except.map_eq_ok, Except.bind_eq_ok,
      Except.pure_eq_ok] at h
    rcases h with ⟨_, ⟨ctx, hctx, rfl⟩, rfl⟩
    exact ⟨hctx, fun _ _ _ => rfl, nofun, nofun⟩

/-- Who may have a transaction of a call executed, and for whom it is executed. -/
theorem route_eq_ok (hmode : trim server.security.authMode = "static_keys")
    (h : server.route headers drawn call = .ok req)
    : ∃ key agentId role seen, Authenticated server.security headers call.port seen role key agentId
      ∧ Handled ⟨server.security.authMode, seen, role⟩ call req
      ∧ req.caller = ⟨trim key.tenantId, trim key.projectId, trim agentId⟩ := by
  simp only [Server.route, Except.bind_eq_ok] at h
  rcases h with ⟨⟨seen, role⟩, hauth, hhandle⟩
  rcases ((middleware_eq_ok hmode).mp hauth).2 with ⟨key, agentId, hauth⟩
  have hhandled := handled_of_handle hhandle
  exact ⟨key, agentId, role, seen, hauth, hhandled, (hauth.fromHeaders_eq_ok.mp hhandled.caller).2⟩

/-! ## Strangers -/

/-- No caller with a token of the request can act for the owner of the note. -/
def Stranger (security : Security) (note : MemoryNote) : Event → Prop
  | .call headers _ call => ∀ key ∈ security.authKeys, bearerToken headers = some key.token →
    trim key.tenantId ≠ note.tenantId
      ∨ (call.port = .api ∧ key.agentId.map trim ≠ some note.agentId)
  | .background _ => True

theorem caller_of_background (h : isBackground op = true) : op.caller = none := by
  cases op with
  | propose owner proposalId proposal => rfl
  | recordHits noteIds => rfl
  | _ => cases h

theorem foreign_of_stranger (hmode : trim server.security.authMode = "static_keys")
    (h : server.route headers drawn call = .ok req) (hop : req.Issues op)
    (hstranger : Stranger server.security note (.call headers drawn call)) : op.Foreign note := by
  rcases route_eq_ok hmode h with ⟨key, agentId, role, seen, hauth, hhandled, hcaller⟩
  intro ctx hctx
  cases (hop.caller.symm.trans hctx)
  rw [hcaller]
  refine ⟨trim_trim key.tenantId, trim_trim agentId, ?_⟩
  rcases hstranger key hauth.caller.mem hauth.caller.token with htenant | ⟨hport, hagent⟩
  . exact .inl htenant
  . right
    constructor
    . apply Bool.eq_false_of_not_eq_true
      intro hadmin
      rw [hhandled.administers op hop hadmin] at hport
      cases hport
    . intro heq
      apply hagent
      rw [hauth.caller.agent, ← heq]
      rfl

theorem steps_untouched {a : Event} {id : Uuid}
    (hmode : trim server.security.authMode = "static_keys") (h : Steps server s a t)
    (hfind : s.notes.find? id = some note) (hstranger : Stranger server.security note a)
    : s.Untouched t id := by
  cases h with
  | refused h => exact .refl s id
  | @executed _ headers drawn call req op draw h hop hstep =>
    rcases hstep.cases with rfl | ⟨r, hok⟩
    . exact .refl _ id
    . exact op.exec_untouched hok hfind (foreign_of_stranger hmode h hop hstranger)
  | @background _ op draw h hstep =>
    rcases hstep.cases with rfl | ⟨r, hok⟩
    . exact .refl _ id
    . apply op.exec_untouched hok hfind
      intro ctx hctx
      rw [caller_of_background h] at hctx
      cases hctx

/-- What others try to do to the first note. -/
def attempts : List Event := [
  .call [bearer "secret-3"] 7 (.notesDelete 1),
  .background (.recordHits [1]),
  .call [bearer "secret-2"] 8 (.notesPublish 1 "org_shared"),
  .call [] 9 (.notesDelete 1)]

def privateNote : Step := sampleAdd 1 "p" "agent_private" (sampleNote none "The key is in the safe.")

theorem opensOrg_of_issues (hop : req.Issues op) (hopens : op.OpensOrg)
    : op.administers = true ∨ (op.administers = false
      ∧ (req.scope = some "org_shared" ∨ ∃ event, req = .addEvent event ∧ event.scope = none)) := by
  cases hop with
  | addNote req now note withinBudget h => exact .inr ⟨rfl, .inl (congrArg some hopens)⟩
  | addEvent req event note now withinBudget =>
    right
    refine ⟨rfl, ?_⟩
    cases hscope : req.scope with
    | none => exact .inr ⟨req, rfl, hscope⟩
    | some scope =>
      have horg : (req.scope <|> note.scopeSuggestion).getD "" = "org_shared" := hopens
      rw [hscope] at horg
      left
      exact hscope.trans (congrArg some horg)
  | publish req => exact .inr ⟨rfl, .inl (congrArg some hopens)⟩
  | correct req => exact .inl rfl
  | review req => exact .inl rfl
  | _ => exact absurd hopens not_false

/-- A caller has a note of the tenant opened to its whole organization. -/
def OpensOrg (security : Security) (note : MemoryNote) : Event → Prop
  | .call headers _ call => ∃ key ∈ security.authKeys, bearerToken headers = some key.token
    ∧ trim key.tenantId = note.tenantId
    ∧ (isAdminRole key.role = true
      ∨ key.agentId.map trim = some note.agentId
        ∧ ∃ payload, call = .eventsIngest payload ∧ payload.scope = none)
  | .background _ => False

theorem steps_orgShared {a : Event} {id : Uuid}
    (hmode : trim server.security.authMode = "static_keys") (h : Steps server s a t)
    (hfind : t.notes.find? id = some note) (hscope : note.scope = "org_shared")
    : (∃ prev, s.notes.find? id = some prev ∧ prev.scope = "org_shared"
        ∧ prev.tenantId = note.tenantId ∧ prev.agentId = note.agentId)
      ∨ OpensOrg server.security note a := by
  cases h with
  | refused h => exact .inl ⟨note, hfind, hscope, rfl, rfl⟩
  | @executed _ headers drawn call req op draw h hop hstep =>
    rcases hstep.cases with rfl | ⟨r, hok⟩
    . exact .inl ⟨note, hfind, hscope, rfl, rfl⟩
    rcases route_eq_ok hmode h with ⟨key, agentId, role, seen, hauth, hhandled, hcaller⟩
    have htrim : ∀ ctx, op.caller = some ctx →
        trim ctx.tenantId = ctx.tenantId ∧ trim ctx.agentId = ctx.agentId := by
      intro ctx hctx
      cases (hop.caller.symm.trans hctx)
      rw [hcaller]
      exact ⟨trim_trim key.tenantId, trim_trim agentId⟩
    rcases op.exec_orgShared hok htrim hfind hscope with hprev | ⟨hopens, ctx, hctx, htenant, hagent⟩
    . exact .inl hprev
    cases (hop.caller.symm.trans hctx)
    rw [hcaller] at htenant hagent
    right
    refine ⟨key, hauth.caller.mem, hauth.caller.token, htenant, ?_⟩
    rcases opensOrg_of_issues hop hopens with hadmin | ⟨hadmin, hreq | ⟨event, rfl, hevent⟩⟩
    . exact .inl (hauth.caller.admin (hhandled.administers op hop hadmin))
    . left
      have hrole := hhandled.orgShared hreq hmode
      rw [hauth.role_eq] at hrole
      exact hrole
    . rcases hhandled.event event rfl with ⟨payload, rfl, hpayload⟩
      right
      refine ⟨?_, payload, rfl, hpayload.trans hevent⟩
      rw [hauth.caller.agent, ← hagent hadmin]
      rfl
  | @background _ op draw h hstep =>
    rcases hstep.cases with rfl | ⟨r, hok⟩
    . exact .inl ⟨note, hfind, hscope, rfl, rfl⟩
    have hnone := caller_of_background h
    rcases op.exec_orgShared hok (fun ctx hctx => by rw [hnone] at hctx; cases hctx) hfind hscope with
      hprev | ⟨-, ctx, hctx, -⟩
    . exact .inl hprev
    . rw [hnone] at hctx
      cases hctx

/--
A note of the space of a whole organization was one before the run, or a caller of its tenant brought it there
in the run: an administrator, or its owner by an event that is sent without a scope. The scope of such
an event is the one that the extractor suggests.
-/
theorem orgShared_by_admin {as : List Event} {id : Uuid}
    (hmode : trim server.security.authMode = "static_keys") (hrun : Run (Steps server) s as t)
    (hfind : t.notes.find? id = some note) (hscope : note.scope = "org_shared")
    : (∃ prev, s.notes.find? id = some prev ∧ prev.scope = "org_shared"
        ∧ prev.tenantId = note.tenantId ∧ prev.agentId = note.agentId)
      ∨ ∃ a ∈ as, OpensOrg server.security note a := by
  induction hrun with
  | nil s => exact .inl ⟨note, hfind, hscope, rfl, rfl⟩
  | cons head tail ih =>
    rcases ih hfind with ⟨mid, hmid, hmidScope, htenant, hagent⟩ | ⟨a, ha, hopens⟩
    . rcases steps_orgShared hmode head hmid hmidScope with
        ⟨prev, hprev, hprevScope, hprevTenant, hprevAgent⟩ | hopens
      . exact .inl ⟨prev, hprev, hprevScope, hprevTenant.trans htenant, hprevAgent.trans hagent⟩
      . right
        refine ⟨_, List.mem_cons_self, ?_⟩
        unfold OpensOrg at hopens ⊢
        rw [← htenant, ← hagent]
        exact hopens
    . exact .inr ⟨a, List.mem_cons_of_mem _ ha, hopens⟩

/-- The administrator writes to the whole organization. -/
def announcement : Event :=
  .call [bearer "secret-2"] 7 (.notesIngest ⟨"org_shared", [sampleNote none "The office is closed."]⟩)

theorem orgShared_by_admin_announcement
    : ∃ t note, Run (Steps sampleServer) Store.empty [announcement] t
      ∧ t.notes.find? 1 = some note ∧ OpensOrg sampleServer.security note announcement := by
  let req : AddNoteRequest :=
    ⟨"t", "p", "root", "org_shared", [sampleNote none "The office is closed."]⟩
  let step : Step := ⟨sampleService, sampleDraw 1, .addNote (normalizeAddNoteRequest req) 1000000000
    (sampleNote none "The office is closed.") true⟩
  have hstep : Steps sampleServer Store.empty announcement (step.exec.next Store.empty) := by
    apply Steps.executed (by rfl) (.addNote req _ _ _ _)
    . exact (rfl : step.exec.next _ = _)
    . simp [req, normalizeAddNoteRequest, sampleNote, Json.isNull]
  have hnote : ((step.exec.next Store.empty).notes.find? 1).any (·.scope = "org_shared") = true := by
    decide +kernel
  simp only [Option.any_eq_true, decide_eq_true_eq] at hnote
  rcases hnote with ⟨note, hfind, hscope⟩
  refine ⟨_, note, .single hstep, hfind, ?_⟩
  rcases orgShared_by_admin (by rfl) (.single hstep) hfind hscope with ⟨prev, hprev, -⟩ | ⟨a, ha, hopens⟩
  . cases hprev
  . rw [List.mem_singleton.mp ha] at hopens
    exact hopens

end Api

end Elf
