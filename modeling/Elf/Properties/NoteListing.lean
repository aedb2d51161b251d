import Elf.Properties.HitCounts
import Elf.Properties.SharedSpaces
import Elf.Service.List

/-!
This module contains that the listing of notes and the fetch of a single note show the same notes to the
same callers, and that whatever a listing shows of other agents was opened to the caller.
-/

namespace Elf

open Text

variable {svc : ReadService} {s t : Store} {as : List Step} {a : Step} {note : MemoryNote}
  {req : ListRequest} {items : List ListItem} {item : ListItem} {now : Nat}
  {tenantId projectId agentId : String} {allowedScopes : List String}

/-! ## Rows -/

/-- Every row was stored with the time of its expiry cut down to what the column keeps. -/
def Store.Expiries (s : Store) : Prop :=
  ∀ note ∈ s.notes, note.expiresAt.map timestamptz = note.expiresAt

theorem expiries_step (hs : s.Expiries) (h : Steps s a t) : t.Expiries := by
  rcases a with ⟨svc, draw, op⟩
  rcases h.cases with rfl | ⟨r, hok⟩
  . exact hs
  rcases op.exec_effect hok with hsame | ⟨noteIds, rfl⟩ | ⟨w, hmut, -⟩
  . intro note hnote
    rw [hsame.1.1] at hnote
    exact hs note hnote
  . unfold Steps at h
    intro note hnote
    rw [← h, recordHits_next, Table.mem_updateWhere] at hnote
    rcases hnote with ⟨row, hrow, rfl⟩
    split
    next => exact hs row hrow
    next => exact hs row hrow
  . intro note hnote
    have hfind := t.notes.find?_key hnote
    rw [hmut.writes.notes_eq] at hfind
    split at hfind
    next =>
      rw [← Option.some.inj hfind]
      simp [MemoryNote.stored, Function.comp_def]
    next => exact hs note (Table.mem_of_find? hfind)

theorem expiries_run (h : Run Steps Store.empty as s) : s.Expiries :=
  h.invariant (fun _ _ _ hs hstep => expiries_step hs hstep) fun _ hmem => nomatch hmem

/-- The condition on the column is that of the reader. -/
theorem expiresAt_all_iff (hexpires : note.expiresAt.map timestamptz = note.expiresAt)
    : note.expiresAt.all (timestamptz now < ·) = true ↔ note.expired now = false := by
  unfold MemoryNote.expired
  cases htime : note.expiresAt with
  | none => simp
  | some time =>
    rw [htime, Option.map_some, Option.some.injEq] at hexpires
    simp only [Option.all_some, decide_eq_true_eq, decide_eq_false_iff_not, not_le]
    unfold timestamptz at *
    omega

/-! ## Listings -/

theorem ListRequest.list_eq_ok
    : req.list svc s now = .ok items
      ↔ validateListRequest req (trim req.tenantId) (trim req.projectId)
          ((req.agentId.map trim).getD "") svc.docs.cfg.scopes.allowed = .ok ()
        ∧ items = mapListItems
          (listNotes s req (trim req.tenantId) (trim req.projectId) (requestedListStatus req.status)
            ((req.agentId.map trim).getD "") now)
          ((req.agentId.map trim).getD "") (req.nonPrivateScopes svc.docs.cfg.scopes.allowed)
          (listSharedGrants s (trim req.tenantId) (trim req.projectId)
            ((req.agentId.map trim).getD "") (req.nonPrivateScopes svc.docs.cfg.scopes.allowed))
          (eqIgnoreAsciiCase ((requestedListStatus req.status).getD "active") "active") now := by
  unfold ListRequest.list
  dsimp only
  rw [Except.bind_eq_ok]
  constructor
  . rintro ⟨_, hvalid, hitems⟩
    cases hitems
    exact ⟨hvalid, rfl⟩
  . rintro ⟨hvalid, rfl⟩
    exact ⟨(), hvalid, rfl⟩

theorem mem_mapListItems {notes : List MemoryNote} {scopes : Option (List String)}
    {grants : List SharedSpaceGrantKey} {statusForNoteRead : Bool}
    : item ∈ mapListItems notes agentId scopes grants statusForNoteRead now
      ↔ ∃ note ∈ notes, listReadAllowed agentId scopes grants statusForNoteRead now note = true
        ∧ ListItem.ofNote note = item := by
  simp only [mapListItems, List.mem_map, List.mem_filter, and_assoc]

theorem scope_allowed_of_valid {scope : String}
    (h : validateListRequest req tenantId projectId agentId allowedScopes = .ok ())
    (hscope : req.scope = some scope) : scope ∈ allowedScopes := by
  unfold validateListRequest at h
  rw [Except.bind_eq_ok] at h
  rcases h with ⟨_, -, h⟩
  rw [Except.bind_eq_ok] at h
  rcases h with ⟨_, hallowed, -⟩
  rw [Except.rejectIf_eq_ok, hscope] at hallowed
  simpa using hallowed

/-- The scope and the type are what the request asks for. -/
structure ListRequest.AsksFor (req : ListRequest) (noteScope noteType : String) : Prop where
  scope : ∀ wanted, req.scope = some wanted → noteScope = wanted
  shared : req.scope = none → noteScope ≠ "agent_private"
  type : ∀ wanted, req.type = some wanted → noteType = wanted

/-- The note is one of the project, or of the organisation's shared space. -/
def InProject (tenantId projectId : String) (note : MemoryNote) : Prop :=
  note.tenantId = tenantId
    ∧ (note.projectId = projectId ∨ (note.projectId = orgProjectId ∧ note.scope = "org_shared"))

theorem noteReadAllowed_grants_iff
    : noteReadAllowed note agentId allowedScopes
        (loadSharedReadGrantsWithOrgShared s tenantId projectId agentId
          (allowedScopes.contains "org_shared")) now = true
      ↔ note.status = "active" ∧ note.expired now = false ∧ note.scope ∈ allowedScopes
        ∧ ((note.scope = "agent_private" ∧ note.agentId = agentId)
          ∨ (isSharedScope note.scope = true ∧ (note.agentId = agentId ∨ ∃ grant ∈ s.grants,
            grant.OpensTo tenantId (targetProjectId note.scope projectId) note.scope note.agentId
              agentId))) := by
  rw [noteReadAllowed_iff]
  apply and_congr_right
  intro _
  apply and_congr_right
  intro _
  apply and_congr_right
  intro hscope
  apply or_congr_right
  apply and_congr_right
  intro hshared
  apply or_congr_right
  apply mem_loadSharedReadGrantsWithOrgShared hshared
  intro horg
  rw [horg] at hscope
  simpa using hscope

theorem fetched_allowed_eq
    : noteReadAllowed note agentId allowedScopes
        (if note.scope = "agent_private" then []
          else loadSharedReadGrantsWithOrgShared s tenantId projectId agentId
            (allowedScopes.contains "org_shared")) now
      = noteReadAllowed note agentId allowedScopes
        (loadSharedReadGrantsWithOrgShared s tenantId projectId agentId
          (allowedScopes.contains "org_shared")) now := by
  split
  next hprivate =>
    unfold noteReadAllowed
    rw [hprivate]
    rfl
  next => rfl

theorem trim_of_isSharedScope {scope : String} (h : isSharedScope scope = true) : trim scope = scope := by
  rcases isSharedScope_iff.mp h with rfl | rfl
  . decide +kernel
  . decide +kernel

/-- What a listing of active notes shows is what its caller may fetch and asks for. -/
theorem shown_iff (hexpires : note.expiresAt.map timestamptz = note.expiresAt) (hagent : agentId ≠ "")
    (hvalid : ∀ scope, req.scope = some scope → scope ∈ allowedScopes)
    (hstatus : (requestedListStatus req.status).getD "active" = "active")
    (hprivate : ∀ scope, req.scope = some scope → trim scope = "agent_private" → scope = "agent_private")
    : (req.selects tenantId projectId (requestedListStatus req.status) agentId now note = true
        ∧ listReadAllowed agentId (req.nonPrivateScopes allowedScopes)
          (listSharedGrants s tenantId projectId agentId (req.nonPrivateScopes allowedScopes))
          (eqIgnoreAsciiCase ((requestedListStatus req.status).getD "active") "active") now note = true)
      ↔ InProject tenantId projectId note
        ∧ noteReadAllowed note agentId allowedScopes
          (loadSharedReadGrantsWithOrgShared s tenantId projectId agentId
            (allowedScopes.contains "org_shared")) now = true
        ∧ req.AsksFor note.scope note.type := by
  have hactive : eqIgnoreAsciiCase "active" "active" = true := by decide
  have htime : note.expiresAt.all (timestamptz now < ·) = true ↔ note.expired now = false :=
    expiresAt_all_iff hexpires
  have htype : req.type.all (note.type = ·) = true
      ↔ ∀ wanted, req.type = some wanted → note.type = wanted := by
    cases req.type with
    | none => simp
    | some wanted => simp
  rw [hstatus, hactive]
  unfold ListRequest.selects
  rw [hstatus, hactive]
  simp only [Bool.not_true, Bool.false_or, Bool.and_eq_true, Bool.or_eq_true, decide_eq_true_eq, htime,
    htype]
  cases hscope : req.scope with
  | none =>
    have hscopes : req.nonPrivateScopes allowedScopes
        = some (allowedScopes.filter (· ≠ "agent_private")) := by
      unfold ListRequest.nonPrivateScopes
      rw [hscope]
      rfl
    rw [hscopes]
    simp only [listReadAllowed, listSharedGrants, if_neg hagent, if_true]
    rw [noteReadAllowed_grants_iff, noteReadAllowed_grants_iff]
    have hasks : req.AsksFor note.scope note.type
        ↔ note.scope ≠ "agent_private" ∧ ∀ wanted, req.type = some wanted → note.type = wanted :=
      ⟨fun h => ⟨h.shared hscope, h.type⟩, fun h => ⟨by simp [hscope], fun _ => h.1, h.2⟩⟩
    rw [hasks]
    simp only [InProject, Option.map_none, Option.all_none, true_and, List.mem_filter, decide_eq_true_eq]
    tauto
  | some scope =>
    have hasks : req.AsksFor note.scope note.type
        ↔ note.scope = scope ∧ ∀ wanted, req.type = some wanted → note.type = wanted :=
      ⟨fun h => ⟨h.scope scope hscope, h.type⟩, fun h => ⟨by simp [hscope, h.1], by simp [hscope], h.2⟩⟩
    have hallowed := hvalid scope hscope
    have hnonPrivate : req.nonPrivateScopes allowedScopes
        = if trim scope = "agent_private" then none else some [trim scope] := by
      unfold ListRequest.nonPrivateScopes
      rw [hscope]
      rfl
    rw [hasks, hnonPrivate]
    by_cases htrim : trim scope = "agent_private"
    . -- The private notes of the caller, which the statement selects by their owner.
      have hscopeEq := hprivate scope hscope htrim
      subst hscopeEq
      rw [if_pos htrim, noteReadAllowed_grants_iff]
      have hnot : isSharedScope "agent_private" = false := by decide
      simp only [listReadAllowed, InProject, Option.map_some, Option.all_some, htrim]
      by_cases hnote : note.scope = "agent_private"
      . simp only [String.reduceEq, decide_false, Bool.false_eq_true, false_and, hnote, and_self, or_false,
          decide_true, ne_eq, not_true_eq_false, Bool.false_or, Bool.true_and, decide_eq_true_eq,
          and_true, and_false, hallowed, true_and, hnot]
        constructor
        . rintro ⟨⟨⟨⟨⟨htenant, hproject⟩, howner⟩, hlive⟩, hfresh⟩, hkind⟩
          exact ⟨⟨htenant, hproject⟩, ⟨hlive, hfresh, howner⟩, hkind⟩
        . rintro ⟨⟨htenant, hproject⟩, ⟨hlive, hfresh, howner⟩, hkind⟩
          exact ⟨⟨⟨⟨⟨htenant, hproject⟩, howner⟩, hlive⟩, hfresh⟩, hkind⟩
      . simp [hnote]
    . rw [if_neg htrim]
      simp only [listReadAllowed, listSharedGrants, if_neg hagent, if_true]
      rw [noteReadAllowed_grants_iff, noteReadAllowed_grants_iff]
      have hne : scope ≠ "agent_private" := by
        rintro rfl
        exact htrim (by decide +kernel)
      simp only [InProject, Option.map_some, Option.all_some, List.mem_singleton, decide_eq_true_eq]
      by_cases hnote : note.scope = scope
      . by_cases hshared : isSharedScope scope = true
        . simp only [trim_of_isSharedScope hshared, hnote, decide_true, ne_eq, hne, not_false_eq_true,
            Bool.true_or, Bool.and_self, and_true, false_and, hshared, true_and, false_or, hallowed]
          constructor
          . rintro ⟨⟨⟨⟨⟨htenant, hproject⟩, hlive⟩, hfresh⟩, hkind⟩, -, -, hread⟩
            refine ⟨⟨htenant, ?_⟩, ⟨hlive, hfresh, hread⟩, hkind⟩
            rcases hproject with hproject | ⟨⟨-, hproject⟩, horg⟩
            . exact .inl hproject
            . exact .inr ⟨hproject, horg⟩
          . rintro ⟨⟨htenant, hproject⟩, ⟨hlive, hfresh, hread⟩, hkind⟩
            refine ⟨⟨⟨⟨⟨htenant, ?_⟩, hlive⟩, hfresh⟩, hkind⟩, hlive, hfresh, hread⟩
            rcases hproject with hproject | ⟨hproject, horg⟩
            . exact .inl hproject
            . exact .inr ⟨⟨horg, hproject⟩, horg⟩
        . simp [hnote, hne, hshared]
      . simp [hnote]

theorem getNote_eq_ok {response : NoteFetchResponse} {noteId : Uuid}
    : getNote svc s now ⟨tenantId, projectId, agentId, noteId⟩ = .ok response
      ↔ (trim tenantId ≠ "" ∧ trim projectId ≠ "" ∧ trim agentId ≠ "")
        ∧ ∃ note ∈ s.notes, note.noteId = noteId ∧ InProject (trim tenantId) (trim projectId) note
          ∧ noteReadAllowed note (trim agentId) svc.docs.cfg.scopes.allowed
            (loadSharedReadGrantsWithOrgShared s (trim tenantId) (trim projectId) (trim agentId)
              (svc.docs.cfg.scopes.allowed.contains "org_shared")) now = true
          ∧ response = .ofNote note (fetchStructuredFields s.fields note.noteId) := by
  unfold getNote
  dsimp only
  simp only [Except.bind_eq_ok, Except.rejectIf_eq_ok, Except.ofOption_eq_ok, fetched_allowed_eq,
    Option.filter_eq_some_iff, Bool.or_eq_false_iff, beq_eq_false_iff_ne, Bool.not_eq_false',
    exists_const, Bool.and_eq_true, Bool.or_eq_true, decide_eq_true_eq, and_assoc]
  constructor
  . rintro ⟨htenant, hproject, hagent, note, hfind, hnoteTenant, hnoteProject, hread, heq⟩
    cases heq
    exact ⟨htenant, hproject, hagent, note, Table.mem_of_find? hfind, Table.key_of_find? hfind,
      ⟨hnoteTenant, hnoteProject⟩, hread, rfl⟩
  . rintro ⟨htenant, hproject, hagent, note, hmem, rfl, ⟨hnoteTenant, hnoteProject⟩, hread, rfl⟩
    exact ⟨htenant, hproject, hagent, note, s.notes.find?_key hmem, hnoteTenant, hnoteProject, hread, rfl⟩

def NoteFetchResponse.listItem (response : NoteFetchResponse) : ListItem := {
  noteId := response.noteId
  type := response.type
  key := response.key
  scope := response.scope
  status := response.status
  text := response.text
  importance := response.importance
  confidence := response.confidence
  updatedAt := response.updatedAt
  expiresAt := response.expiresAt
  sourceRef := response.sourceRef }

theorem agent_ne_empty_of_valid
    (h : validateListRequest req tenantId projectId (trim agentId) allowedScopes = .ok ())
    (hagent : req.agentId = some agentId)
    : tenantId ≠ "" ∧ projectId ≠ "" ∧ trim agentId ≠ "" := by
  unfold validateListRequest at h
  simp only [Except.bind_eq_ok, Except.rejectIf_eq_ok, exists_const, hagent, Option.any_some,
    Bool.or_eq_false_iff, beq_eq_false_iff_ne] at h
  exact ⟨h.1.1, h.1.2, h.2.2.1⟩

/-- A listing shows each note once. -/
theorem listed_once (h : req.list svc s now = .ok items) : (items.map ListItem.noteId).Nodup := by
  rcases ListRequest.list_eq_ok.mp h with ⟨-, rfl⟩
  unfold mapListItems listNotes
  rw [List.map_map]
  exact ((List.filter_sublist.trans List.filter_sublist).map _).nodup s.notes.nodup

/--
What an agent is listed of the active notes is what it gets of them one by one, of the scope and the type
that the listing asks for.
-/
theorem listed_iff_fetched (hrun : Run Steps Store.empty as s) (h : req.list svc s now = .ok items)
    (hagent : req.agentId = some agentId)
    (hstatus : (requestedListStatus req.status).getD "active" = "active")
    (hprivate : ∀ scope ∈ svc.docs.cfg.scopes.allowed,
      trim scope = "agent_private" → scope = "agent_private")
    : (items.map ListItem.noteId).Nodup
      ∧ ∀ item, item ∈ items ↔ ∃ response,
        getNote svc s now ⟨req.tenantId, req.projectId, agentId, item.noteId⟩ = .ok response
          ∧ req.AsksFor response.scope response.type ∧ response.listItem = item := by
  refine ⟨listed_once h, ?_⟩
  intro item
  rcases ListRequest.list_eq_ok.mp h with ⟨hvalid, rfl⟩
  have hcaller : (req.agentId.map trim).getD "" = trim agentId := by
    rw [hagent]
    rfl
  rw [hcaller] at hvalid ⊢
  have hnames := agent_ne_empty_of_valid hvalid hagent
  have hshown : ∀ note ∈ s.notes, _ ↔ InProject (trim req.tenantId) (trim req.projectId) note
      ∧ noteReadAllowed note (trim agentId) svc.docs.cfg.scopes.allowed
        (loadSharedReadGrantsWithOrgShared s (trim req.tenantId) (trim req.projectId) (trim agentId)
          (svc.docs.cfg.scopes.allowed.contains "org_shared")) now = true
      ∧ req.AsksFor note.scope note.type :=
    fun note hnote => shown_iff (expiries_run hrun note hnote) hnames.2.2
      (fun _ => scope_allowed_of_valid hvalid) hstatus
      fun scope hscope => hprivate scope (scope_allowed_of_valid hvalid hscope)
  rw [mem_mapListItems]
  constructor
  . rintro ⟨note, hmem, hread, rfl⟩
    rw [listNotes, List.mem_filter] at hmem
    rcases (hshown note hmem.1).mp ⟨hmem.2, hread⟩ with ⟨hproject, hallowed, hasks⟩
    exact ⟨_, getNote_eq_ok.mpr ⟨hnames, note, hmem.1, rfl, hproject, hallowed, rfl⟩, hasks, rfl⟩
  . rintro ⟨response, hfetch, hasks, heq⟩
    rcases getNote_eq_ok.mp hfetch with ⟨-, note, hmem, -, hproject, hallowed, rfl⟩
    rcases (hshown note hmem).mpr ⟨hproject, hallowed, hasks⟩ with ⟨hselects, hread⟩
    exact ⟨note, List.mem_filter.mpr ⟨hmem, hselects⟩, hread, heq⟩

def sampleListing : ListRequest := {
  tenantId := "t"
  projectId := " p"
  agentId := some "b"
  scope := some "project_shared"
  status := none
  type := none }

theorem listed_iff_fetched_sampleListing
    : ∃ items, sampleListing.list sampleReadService (Store.empty.run sharedNote) 2000000000 = .ok items
      ∧ items.map ListItem.text = ["Deploys run on Friday."]
      ∧ ∀ item, item ∈ items ↔ ∃ response,
        getNote sampleReadService (Store.empty.run sharedNote) 2000000000 ⟨"t", " p", "b", item.noteId⟩
            = .ok response
          ∧ sampleListing.AsksFor response.scope response.type ∧ response.listItem = item := by
  have htexts : (sampleListing.list sampleReadService (Store.empty.run sharedNote) 2000000000).toOption.map
      (·.map ListItem.text) = some ["Deploys run on Friday."] := by
    decide +kernel
  cases hlist : sampleListing.list sampleReadService (Store.empty.run sharedNote) 2000000000 with
  | error err =>
    rw [hlist] at htexts
    contradiction
  | ok items =>
    rw [hlist] at htexts
    refine ⟨items, rfl, Option.some.inj htexts,
      (listed_iff_fetched (run_iff.mpr rfl) hlist rfl rfl ?_).2⟩
    decide +kernel

/-! ## What is disclosed -/

theorem grant_of_mem {key : SharedSpaceGrantKey} {orgSharedAllowed : Bool}
    (h : key ∈ loadSharedReadGrantsWithOrgShared s tenantId projectId agentId orgSharedAllowed)
    : ∃ grant ∈ s.grants, grant.tenantId = tenantId ∧ grant.grantKey = key
      ∧ grant.revokedAt = none ∧ grant.reaches agentId = true := by
  unfold loadSharedReadGrantsWithOrgShared loadSharedReadGrants at h
  split at h
  . simp only [List.mem_map, List.mem_filter, Bool.and_eq_true, decide_eq_true_eq,
      Option.isNone_iff_eq_none] at h
    rcases h with ⟨grant, ⟨hmem, ⟨⟨⟨htenant, -⟩, hactive⟩, -⟩, hreaches⟩, hkey⟩
    exact ⟨grant, hmem, htenant, hkey, hactive, hreaches⟩
  . simp only [List.mem_map, List.mem_filter, Bool.and_eq_true, decide_eq_true_eq,
      Option.isNone_iff_eq_none] at h
    rcases h with ⟨grant, ⟨hmem, ⟨⟨htenant, hactive⟩, -⟩, hreaches⟩, hkey⟩
    exact ⟨grant, hmem, htenant, hkey, hactive, hreaches⟩

/-- The note is the agent's own, or of a space that was opened to the agent and has been open since. -/
inductive OpenedTo (agentId : String) (as : List Step) (s : Store) (note : MemoryNote) : Prop where
  | own : note.agentId = agentId → OpenedTo agentId as s note
  | granted {grant : SpaceGrant} (stored : grant ∈ s.grants) (tenantId : grant.tenantId = note.tenantId)
    (space : grant.grantKey = ⟨note.scope, note.agentId⟩) (reaches : grant.reaches agentId = true)
    (since : OpenSince grant.spaceKey as s) : OpenedTo agentId as s note

theorem openedTo_of_grants {orgSharedAllowed : Bool} (hrun : Run Steps Store.empty as s)
    (htenant : note.tenantId = tenantId)
    (h : ⟨note.scope, note.agentId⟩
      ∈ loadSharedReadGrantsWithOrgShared s tenantId projectId agentId orgSharedAllowed)
    : OpenedTo agentId as s note := by
  rcases grant_of_mem h with ⟨grant, hmem, hgrantTenant, hkey, hactive, hreaches⟩
  refine .granted hmem ?_ hkey hreaches (openSince_run hrun ⟨grant, hmem, hactive, rfl⟩)
  rw [hgrantTenant, htenant]

/--
Whatever a listing shows, of any status, is of the tenant and the project or the organisation's space, and
is the caller's own or of a space that some step of the run opened to the caller and no step closed since.
-/
theorem listed_opened (hrun : Run Steps Store.empty as s) (h : req.list svc s now = .ok items)
    (hprivate : ∀ scope ∈ svc.docs.cfg.scopes.allowed,
      trim scope = "agent_private" → scope = "agent_private")
    (hitem : item ∈ items)
    : ∃ note ∈ s.notes, ListItem.ofNote note = item
      ∧ InProject (trim req.tenantId) (trim req.projectId) note
      ∧ OpenedTo ((req.agentId.map trim).getD "") as s note := by
  rcases ListRequest.list_eq_ok.mp h with ⟨hvalid, rfl⟩
  rcases mem_mapListItems.mp hitem with ⟨note, hmem, hread, heq⟩
  rw [listNotes, List.mem_filter] at hmem
  rcases hmem with ⟨hmem, hselects⟩
  unfold ListRequest.selects at hselects
  simp only [Bool.and_eq_true, Bool.or_eq_true, decide_eq_true_eq] at hselects
  rcases hselects with ⟨⟨⟨⟨⟨htenant, hproject⟩, hscope⟩, -⟩, -⟩, -⟩
  refine ⟨note, hmem, heq, ⟨htenant, ?_⟩, ?_⟩
  . rcases hproject with hproject | ⟨⟨-, horg⟩, hshared⟩
    . exact .inl hproject
    . exact .inr ⟨horg, hshared⟩
  . cases hscopes : req.nonPrivateScopes svc.docs.cfg.scopes.allowed with
    | none =>
      -- The private notes, which the statement selects by their owner.
      cases hreq : req.scope with
      | none => simp [ListRequest.nonPrivateScopes, hreq] at hscopes
      | some scope =>
        have htrim : trim scope = "agent_private" := by
          simpa [ListRequest.nonPrivateScopes, hreq] using hscopes
        rw [hreq] at hscope
        simp only [Bool.and_eq_true, Bool.or_eq_true, decide_eq_true_eq] at hscope
        have heq := hprivate scope (scope_allowed_of_valid hvalid hreq) htrim
        exact .own (hscope.2.resolve_left (not_not.mpr heq))
    | some scopes =>
      rw [hscopes] at hread
      by_cases hown : note.agentId = (req.agentId.map trim).getD ""
      . exact .own hown
      . have hgrant : ⟨note.scope, note.agentId⟩ ∈ listSharedGrants s (trim req.tenantId)
            (trim req.projectId) ((req.agentId.map trim).getD "") (some scopes) := by
          unfold listReadAllowed at hread
          dsimp only at hread
          split at hread
          . rcases (noteReadAllowed_iff.mp hread).2.2.2 with hprivateOwn | hshared
            . exact absurd hprivateOwn.2 hown
            . exact hshared.2.resolve_left hown
          . simpa [hown] using hread
        unfold listSharedGrants at hgrant
        dsimp only at hgrant
        split at hgrant
        . contradiction
        . exact openedTo_of_grants hrun htenant hgrant

theorem listed_opened_sampleListing
    : ∃ items, sampleListing.list sampleReadService (Store.empty.run sharedNote) 2000000000 = .ok items
      ∧ ∃ item ∈ items, ∃ note ∈ (Store.empty.run sharedNote).notes, ListItem.ofNote note = item
        ∧ InProject "t" "p" note ∧ OpenedTo "b" sharedNote (Store.empty.run sharedNote) note := by
  have hsome : (sampleListing.list sampleReadService (Store.empty.run sharedNote) 2000000000).toOption.any
      (fun items => items ≠ []) = true := by
    decide +kernel
  cases hlist : sampleListing.list sampleReadService (Store.empty.run sharedNote) 2000000000 with
  | error err =>
    rw [hlist] at hsome
    contradiction
  | ok items =>
    rw [hlist] at hsome
    rcases List.exists_mem_of_ne_nil items (by simpa [Except.toOption] using hsome) with ⟨item, hitem⟩
    have hopened := listed_opened (run_iff.mpr rfl) hlist (by decide +kernel) hitem
    have hnames : trim sampleListing.tenantId = "t" ∧ trim sampleListing.projectId = "p"
        ∧ (sampleListing.agentId.map trim).getD "" = "b" := by
      decide +kernel
    rw [hnames.1, hnames.2.1, hnames.2.2] at hopened
    exact ⟨items, rfl, item, hitem, hopened⟩

end Elf
