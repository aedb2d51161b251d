import Elf.IngestionProfiles.Store

/-!
This module contains what holds of the versions of ingestion profiles however the statements of requests
are interleaved: a version that is stored stays as it is, the default of a project names a version that is
stored, and a version that is created is a new one.
-/

namespace Elf

open OrderBy

variable {schema : SpelledJson} {db db' : ProfileDb} {s t u : ProfileServer} {a : ProfileAction}
  {as : List ProfileAction}
  {tenantId projectId profileId : String} {version : ℤ} {call : ProfileCall}

/-! ## Profiles -/

theorem parseProfile_of_isObject {profile : SpelledJson} (h : profile.isObject = true)
    : ∃ parsed, parseProfile profile = .ok parsed := by
  unfold parseProfile
  split
  next parsed _ => exact ⟨parsed, rfl⟩
  next =>
    rw [if_pos h]
    exact ⟨_, rfl⟩

/-- What a profile says of an extraction, and the built-in one where it says nothing. -/
def IngestionProfileV1.overBuiltin (schema : SpelledJson) (parsed : IngestionProfileV1)
    (profileRef : IngestionProfileRef) : ResolvedIngestionProfile := {
  profileRef
  promptSchema := parsed.promptSchema.getD schema
  promptSystem := parsed.promptSystemTemplate.getD builtinSystemTemplate
  promptUserTemplate := parsed.promptUserTemplate.getD builtinUserTemplate
  model := parsed.model
  temperature := parsed.temperature
  timeoutMs := parsed.timeoutMs }

/-- The versions of the schema of profiles that are supported. Zero stands for one. -/
def IngestionProfileV1.Supported (parsed : IngestionProfileV1) : Prop :=
  parsed.schemaVersion = 0 ∨ parsed.schemaVersion = 1

instance (parsed : IngestionProfileV1) : Decidable parsed.Supported :=
  inferInstanceAs (Decidable (_ ∨ _))

theorem withDefaults_schemaVersion (parsed : IngestionProfileV1)
    : (parsed.withDefaults schema).schemaVersion = 1 ↔ parsed.Supported := by
  simp only [IngestionProfileV1.withDefaults, builtinProfile, IngestionProfileV1.Supported]
  split <;> omega

theorem resolve_withDefaults (parsed : IngestionProfileV1) (profileRef : IngestionProfileRef)
    : (parsed.withDefaults schema).resolve profileRef
      = if parsed.Supported then .ok (parsed.overBuiltin schema profileRef)
        else .error (.invalidRequest "Unsupported ingestion profile schema version.") := by
  unfold IngestionProfileV1.resolve
  split
  next hsupported =>
    have hversion : (parsed.withDefaults schema).schemaVersion = 1 :=
      (withDefaults_schemaVersion parsed).mpr hsupported
    simp only [hversion]
    simp [IngestionProfileV1.withDefaults, builtinProfile, IngestionProfileV1.overBuiltin,
      Except.rejectIf, Except.ofOption]
    rfl
  next hsupported =>
    have hversion : (parsed.withDefaults schema).schemaVersion ≠ 1 :=
      mt (withDefaults_schemaVersion parsed).mp hsupported
    simp [hversion, Except.rejectIf]
    rfl

theorem resolve_of_parse {row : IngestionProfileRow} {parsed : IngestionProfileV1}
    (h : parseProfile row.profile = .ok parsed)
    : row.resolve schema
      = if parsed.Supported then .resolved (parsed.overBuiltin schema ⟨row.profileId, row.version⟩)
        else .failed (.invalidRequest "Unsupported ingestion profile schema version.") := by
  have hresolve : resolveAddEventProfile schema ⟨row.profileId, row.version, row.profile⟩
      = (parsed.withDefaults schema).resolve ⟨row.profileId, row.version⟩ := by
    simp only [resolveAddEventProfile, h]
    rfl
  unfold IngestionProfileRow.resolve
  rw [hresolve, resolve_withDefaults]
  by_cases hsupported : parsed.Supported
  . rw [if_pos hsupported, if_pos hsupported]
  . rw [if_neg hsupported, if_neg hsupported]

/-! ## Tables that grow -/

/-- The version is stored. -/
def ProfileDb.Stored (db : ProfileDb) (tenantId projectId profileId : String) (version : ℤ) : Prop :=
  ∃ row ∈ db.profiles, row.key = ⟨tenantId, projectId, profileId, version⟩

/-- The project has a default. -/
def ProfileDb.Pointed (db : ProfileDb) (tenantId projectId : String) : Prop :=
  ∃ row ∈ db.defaults, row.key = (tenantId, projectId)

/-- What the statements do to the tables: no version is changed, and no default is deleted. -/
structure ProfileDb.Grows (db db' : ProfileDb) : Prop where
  profiles : ∀ row ∈ db.profiles, row ∈ db'.profiles
  pointed : ∀ tenantId projectId, db.Pointed tenantId projectId → db'.Pointed tenantId projectId

theorem ProfileDb.Grows.refl (db : ProfileDb) : db.Grows db := ⟨fun _ h => h, fun _ _ h => h⟩

theorem ProfileDb.Grows.trans {db'' : ProfileDb} (h : db.Grows db') (h' : db'.Grows db'')
    : db.Grows db'' :=
  ⟨fun row hrow => h'.profiles row (h.profiles row hrow),
    fun tenantId projectId hp => h'.pointed tenantId projectId (h.pointed tenantId projectId hp)⟩

theorem ProfileDb.Grows.stored (h : db.Grows db') (hs : db.Stored tenantId projectId profileId version)
    : db'.Stored tenantId projectId profileId version := by
  rcases hs with ⟨row, hrow, hkey⟩
  exact ⟨row, h.profiles row hrow, hkey⟩

/-- What is known of the statements that are left of a request. -/
def ProfileCall.Valid (db : ProfileDb) : ProfileCall → Prop
  | .insertProfile _ _ _ _ profile _ => profile.isObject = true
  | .upsertDefault tenantId projectId profileId version =>
    db.Stored tenantId projectId profileId version
  | .seedDefault tenantId projectId _ =>
    db.Stored tenantId projectId defaultProfileId defaultProfileVersion
  | .selectDefault tenantId projectId | .selectFallback tenantId projectId
  | .selectSelector tenantId projectId => db.Pointed tenantId projectId
  | .selectProfile tenantId projectId requested selector => requested = none →
    ∃ version, selector.version = some version ∧ db.Stored tenantId projectId selector.id version

theorem ProfileCall.Valid.mono (h : call.Valid db) (hgrows : db.Grows db') : call.Valid db' := by
  cases call with
  | insertProfile => exact h
  | upsertDefault => exact hgrows.stored h
  | seedDefault => exact hgrows.stored h
  | selectDefault tenantId projectId => exact hgrows.pointed tenantId projectId h
  | selectFallback tenantId projectId => exact hgrows.pointed tenantId projectId h
  | selectSelector tenantId projectId => exact hgrows.pointed tenantId projectId h
  | selectProfile tenantId projectId requested selector =>
    intro hrequested
    rcases h hrequested with ⟨version, hversion, hstored⟩
    exact ⟨version, hversion, hgrows.stored hstored⟩

structure ProfileDb.Sound (db : ProfileDb) : Prop where
  objects : ∀ row ∈ db.profiles, row.profile.isObject = true
  defaults : ∀ row ∈ db.defaults, ∃ version, row.version = some version
    ∧ db.Stored row.tenantId row.projectId row.profileId version

structure ProfileServer.Sound (s : ProfileServer) : Prop where
  db : s.db.Sound
  calls : ∀ client call, s.calls client = some call → call.Valid s.db

/-! ## Statements -/

theorem mem_insertNew_of_mem {α κ : Type} [DecidableEq κ] {key : α → κ} {table : Table α key} {a b : α}
    (h : b ∈ table) : b ∈ table.insertNew a := by
  unfold Table.insertNew
  cases hinsert : table.insert? a with
  | none => exact h
  | some t => exact (Table.mem_insert? hinsert b).mpr (.inl h)

/-- There is a row under the key of one that was inserted unless there was one. -/
theorem exists_mem_insertNew {α κ : Type} [DecidableEq κ] {key : α → κ} (table : Table α key) (a : α)
    : ∃ b ∈ table.insertNew a, key b = key a := by
  unfold Table.insertNew
  cases hinsert : table.insert? a with
  | none =>
    cases hfind : table.find? (key a) with
    | none =>
      rcases table.insert?_isSome hfind with ⟨t, ht⟩
      rw [hinsert] at ht
      cases ht
    | some b => exact ⟨b, Table.mem_of_find? hfind, Table.key_of_find? hfind⟩
  | some t => exact ⟨a, (Table.mem_insert? hinsert a).mpr (.inr rfl), rfl⟩

theorem mem_of_mem_insertNew {α κ : Type} [DecidableEq κ] {key : α → κ} {table : Table α key} {a b : α}
    (h : b ∈ table.insertNew a) : b ∈ table ∨ b = a := by
  unfold Table.insertNew at h
  cases hinsert : table.insert? a with
  | none =>
    rw [hinsert] at h
    exact .inl h
  | some t =>
    rw [hinsert] at h
    exact (Table.mem_insert? hinsert b).mp h

/-- What a statement leads to. -/
structure ProfileDb.Leads (db db' : ProfileDb) : Prop where
  sound : db'.Sound
  grows : db.Grows db'

theorem ProfileDb.Sound.same (h : db.Sound) : db.Leads db := ⟨h, .refl db⟩

theorem seedDefaultProfile_leads (h : db.Sound) (now : Nat)
    : db.Leads (seedDefaultProfile schema now tenantId projectId db) := by
  have hgrows : db.Grows (seedDefaultProfile schema now tenantId projectId db) :=
    ⟨fun row hrow => mem_insertNew_of_mem hrow, fun _ _ hp => hp⟩
  refine ⟨⟨?_, ?_⟩, hgrows⟩
  . intro row hrow
    rcases mem_of_mem_insertNew hrow with hrow | rfl
    . exact h.objects row hrow
    . rfl
  . intro row hrow
    rcases h.defaults row hrow with ⟨version, hversion, hstored⟩
    exact ⟨version, hversion, hgrows.stored hstored⟩

theorem seedDefaultProfile_stored (now : Nat)
    : (seedDefaultProfile schema now tenantId projectId db).Stored tenantId projectId defaultProfileId
      defaultProfileVersion :=
  exists_mem_insertNew db.profiles _

theorem seedDefaultPointer_pointed (now : Nat)
    : (seedDefaultPointer now tenantId projectId db).Pointed tenantId projectId :=
  exists_mem_insertNew db.defaults _

theorem seedDefaultPointer_leads (h : db.Sound) (now : Nat)
    (hstored : db.Stored tenantId projectId defaultProfileId defaultProfileVersion)
    : db.Leads (seedDefaultPointer now tenantId projectId db) := by
  have hgrows : db.Grows (seedDefaultPointer now tenantId projectId db) := by
    refine ⟨fun row hrow => hrow, ?_⟩
    rintro tenantId projectId ⟨row, hrow, hkey⟩
    exact ⟨row, mem_insertNew_of_mem hrow, hkey⟩
  refine ⟨⟨h.objects, ?_⟩, hgrows⟩
  intro row hrow
  rcases mem_of_mem_insertNew hrow with hrow | rfl
  . exact h.defaults row hrow
  . exact ⟨_, rfl, hstored⟩

theorem upsertDefaultRow_leads (h : db.Sound) (now : Nat)
    (hstored : db.Stored tenantId projectId profileId version)
    : db.Leads (upsertDefaultRow now tenantId projectId profileId version db).2 := by
  unfold upsertDefaultRow
  dsimp only
  split
  next defaults hinsert =>
    have hmem := Table.mem_insert? hinsert
    refine ⟨⟨h.objects, ?_⟩, ⟨fun row hrow => hrow, ?_⟩⟩
    . intro row hrow
      rcases (hmem row).mp hrow with hrow | rfl
      . exact h.defaults row hrow
      . exact ⟨version, rfl, hstored⟩
    . rintro tenantId projectId ⟨row, hrow, hkey⟩
      exact ⟨row, (hmem row).mpr (.inl hrow), hkey⟩
  next =>
    refine ⟨⟨h.objects, ?_⟩, ⟨fun row hrow => hrow, ?_⟩⟩
    . intro row hrow
      have hrow := (Table.mem_modify db.defaults (tenantId, projectId) (fun row => { row with
        profileId
        version := some version
        updatedAt := timestamptz now }) (fun _ => rfl) row).mp hrow
      rcases hrow with ⟨old, hold, rfl⟩
      split
      next hkey =>
        cases hkey
        exact ⟨version, rfl, hstored⟩
      next => exact h.defaults old hold
    . rintro tenantId' projectId' ⟨row, hrow, hkey⟩
      refine ⟨_, db.defaults.modified_mem_modify (tenantId, projectId) (fun row => { row with
        profileId
        version := some version
        updatedAt := timestamptz now }) hrow fun _ => rfl, ?_⟩
      split
      . exact hkey
      . exact hkey

theorem insertProfile_leads {row : IngestionProfileRow}
    {profiles : Table IngestionProfileRow IngestionProfileRow.key} (h : db.Sound)
    (hinsert : db.profiles.insert? row = some profiles) (hobject : row.profile.isObject = true)
    : db.Leads { db with profiles } := by
  have hmem := Table.mem_insert? hinsert
  have hgrows : db.Grows { db with profiles } :=
    ⟨fun row hrow => (hmem row).mpr (.inl hrow), fun _ _ hp => hp⟩
  refine ⟨⟨?_, ?_⟩, hgrows⟩
  . intro other hother
    rcases (hmem other).mp hother with hother | rfl
    . exact h.objects other hother
    . exact hobject
  . intro other hother
    rcases h.defaults other hother with ⟨version, hversion, hstored⟩
    exact ⟨version, hversion, hgrows.stored hstored⟩

/-! ## Lookups -/

/-- What a version that is looked up is. -/
structure Selected (db : ProfileDb) (tenantId projectId : String) (selector : IngestionProfileSelector)
    (row : IngestionProfileRow) : Prop where
  mem : row ∈ db.profiles
  tenant : row.tenantId = tenantId
  project : row.projectId = projectId
  profile : row.profileId = selector.id
  pinned : ∀ version, selector.version = some version → row.version = version
  latest : selector.version = none →
    ∀ other ∈ db.versionsOf tenantId projectId selector.id, other.version ≤ row.version

theorem mem_versionsOf {row : IngestionProfileRow}
    : row ∈ db.versionsOf tenantId projectId profileId ↔ row ∈ db.profiles ∧ row.tenantId = tenantId
      ∧ row.projectId = projectId ∧ row.profileId = profileId := by
  unfold ProfileDb.versionsOf
  simp [List.mem_filter, Table.mem_def, and_assoc]

theorem selectProfile_eq_ok {selector : IngestionProfileSelector} {row : IngestionProfileRow}
    (h : selectProfile db tenantId projectId selector = .ok row)
    : Selected db tenantId projectId selector row := by
  unfold selectProfile at h
  rw [Except.ofOption_eq_ok] at h
  cases hversion : selector.version with
  | some version =>
    simp only [hversion] at h
    have hkey := Table.key_of_find? h
    simp only [IngestionProfileRow.key, IngestionProfileKey.mk.injEq] at hkey
    rcases hkey with ⟨ht, hp, hid, hrow⟩
    refine ⟨Table.mem_of_find? h, ht, hp, hid, ?_, ?_⟩
    . intro other hother
      rw [hrow]
      exact Option.some.inj (hversion.symm.trans hother)
    . intro hnone
      cases hversion.symm.trans hnone
  | none =>
    simp only [hversion] at h
    rcases mem_versionsOf.mp (mem_orderBy.mp (List.mem_of_mem_head? h)) with ⟨hmem, ht, hp, hid⟩
    refine ⟨hmem, ht, hp, hid, fun version hsome => ?_, fun _ other hother => ?_⟩
    . cases hversion.symm.trans hsome
    . exact OrderDual.toDual_le_toDual.mp (le_of_head? h other hother)

theorem selectProfile_of_stored (h : db.Stored tenantId projectId profileId version)
    : ∃ row, selectProfile db tenantId projectId ⟨profileId, some version⟩ = .ok row := by
  rcases h with ⟨row, hrow, hkey⟩
  unfold selectProfile
  dsimp only
  rw [← hkey, Table.find?_key _ hrow]
  exact ⟨row, rfl⟩

theorem Selected.stored {selector : IngestionProfileSelector} {row : IngestionProfileRow}
    (h : Selected db tenantId projectId selector row)
    : db.Stored tenantId projectId row.profileId row.version := by
  refine ⟨row, h.mem, ?_⟩
  unfold IngestionProfileRow.key
  rw [h.tenant, h.project]

/-! ## Requests -/

/-- What a statement of a request leads to, and what is then left of the request. -/
def ProfileDb.LeadsTo (db db' : ProfileDb) (left : Option ProfileCall) : Prop :=
  db.Leads db' ∧ ∀ call, left = some call → call.Valid db'

theorem startCreate_valid {req : AdminIngestionProfileCreateRequest} (h : req.start db = .ok call)
    : call.Valid db := by
  unfold AdminIngestionProfileCreateRequest.start AdminIngestionProfileCreateRequest.check at h
  simp only [Except.bind_eq_ok, Except.rejectIf_eq_ok] at h
  rcases h with ⟨_, ⟨_, _, _, _, _, hobject, _⟩, h⟩
  have hobject : req.profile.isObject = true := by simpa using hobject
  cases hversion : req.version with
  | some version =>
    simp only [hversion, Except.bind_eq_ok, Except.pure_eq_ok] at h
    rcases h with ⟨_, _, rfl⟩
    exact hobject
  | none =>
    simp only [hversion, Except.bind_eq_ok, Except.pure_eq_ok] at h
    rcases h with ⟨_, _, rfl⟩
    exact hobject

theorem startDefaultSet_valid {req : AdminIngestionProfileDefaultSetRequest}
    (h : req.start db = .ok call) : call.Valid db := by
  unfold AdminIngestionProfileDefaultSetRequest.start at h
  simp only [Except.bind_eq_ok, Except.rejectIf_eq_ok, Except.pure_eq_ok] at h
  rcases h with ⟨_, _, _, _, row, hselect, rfl⟩
  exact (selectProfile_eq_ok hselect).stored

theorem start_leadsTo (h : db.Sound) (now : Nat) (req : ProfileRequest)
    : db.LeadsTo (req.start schema now db).2 (req.start schema now db).1.toOption := by
  cases req with
  | create req =>
    refine ⟨h.same, fun call hcall => ?_⟩
    exact startCreate_valid (Except.toOption_eq_some_iff.mp hcall)
  | defaultSet req =>
    refine ⟨h.same, fun call hcall => ?_⟩
    exact startDefaultSet_valid (Except.toOption_eq_some_iff.mp hcall)
  | defaultGet tenantId projectId =>
    refine ⟨seedDefaultProfile_leads h now, ?_⟩
    rintro call ⟨⟩
    exact seedDefaultProfile_stored now
  | resolve tenantId projectId selector =>
    refine ⟨seedDefaultProfile_leads h now, ?_⟩
    rintro call ⟨⟩
    exact seedDefaultProfile_stored now

theorem next_leadsTo (h : db.Sound) (hcall : call.Valid db) (now : Nat)
    : db.LeadsTo (call.next schema now db).2 (call.next schema now db).1.getLeft? := by
  cases call with
  | insertProfile tenantId projectId profileId version profile createdBy =>
    simp only [ProfileCall.next]
    split
    next profiles hinsert => exact ⟨insertProfile_leads h hinsert hcall, nofun⟩
    next => exact ⟨h.same, nofun⟩
  | upsertDefault tenantId projectId profileId version =>
    exact ⟨upsertDefaultRow_leads h now hcall, nofun⟩
  | seedDefault tenantId projectId resolving =>
    refine ⟨seedDefaultPointer_leads h now hcall, ?_⟩
    intro call hnext
    have hpointed : (seedDefaultPointer now tenantId projectId db).Pointed tenantId projectId :=
      seedDefaultPointer_pointed now
    match resolving with
    | none | some none =>
      cases hnext
      exact hpointed
    | some (some selector) =>
      cases hnext
      exact nofun
  | selectDefault tenantId projectId =>
    simp only [ProfileCall.next]
    split
    next => exact ⟨h.same, nofun⟩
    next =>
      refine ⟨h.same, ?_⟩
      rintro call ⟨⟩
      exact hcall
  | selectFallback tenantId projectId => exact ⟨h.same, nofun⟩
  | selectSelector tenantId projectId =>
    refine ⟨h.same, ?_⟩
    rintro call ⟨⟩ _
    -- The project has a default, and the version that it names is stored.
    rcases hcall with ⟨row, hrow, hkey⟩
    rcases h.defaults row hrow with ⟨version, hversion, hstored⟩
    have hfind : db.defaults.find? (tenantId, projectId) = some row := by
      rw [← hkey]
      exact Table.find?_key _ hrow
    unfold selectDefaultSelector selectDefaultRow
    rw [hfind]
    cases hkey
    exact ⟨version, hversion, hstored⟩
  | selectProfile tenantId projectId requested selector =>
    simp only [ProfileCall.next]
    split
    next => exact ⟨h.same, nofun⟩
    next => exact ⟨h.same, nofun⟩

/-! ## Steps -/

theorem sound_of_leadsTo {left : Option ProfileCall} {client : Nat} (hs : s.Sound)
    (h : s.db.LeadsTo db left) : ProfileServer.Sound ⟨db, s.calls.set client left⟩ := by
  refine ⟨h.1.sound, ?_⟩
  intro other call hcall
  rcases Attempts.eq_some_set hcall with rfl | hcall
  . exact h.2 call rfl
  . exact (hs.calls other call hcall).mono h.1.grows

/-- The cases of a step. -/
theorem step_cases {reply : Option ProfileReply} (h : s.step schema a = some (t, reply))
    : (∃ client now req, a = .start client now req ∧ s.calls client = none
        ∧ t = ⟨(req.start schema now s.db).2,
          s.calls.set client (req.start schema now s.db).1.toOption⟩)
      ∨ (∃ client now call, a = .next client now ∧ s.calls client = some call
        ∧ t = ⟨(call.next schema now s.db).2,
          s.calls.set client (call.next schema now s.db).1.getLeft?⟩)
      ∨ ∃ client, a = .leave client ∧ t = ⟨s.db, s.calls.set client none⟩ := by
  cases a with
  | start client now req =>
    simp only [ProfileServer.step, Option.bind_eq_bind, Option.bind_eq_some_iff,
      Option.guard_eq_some', Option.isNone_iff_eq_none] at h
    rcases h with ⟨_, hidle, h⟩
    refine .inl ⟨client, now, req, rfl, hidle, ?_⟩
    split at h
    next call db hstart =>
      cases h
      rw [hstart]
      rfl
    next err db hstart =>
      cases h
      rw [hstart]
      exact congrArg _ (Attempts.set_of_eq hidle).symm
  | next client now =>
    simp only [ProfileServer.step, Option.bind_eq_bind, Option.bind_eq_some_iff] at h
    rcases h with ⟨call, hcall, h⟩
    refine .inr (.inl ⟨client, now, call, rfl, hcall, ?_⟩)
    split at h
    next left db hnext =>
      cases h
      rw [hnext]
      rfl
    next reply db hnext =>
      cases h
      rw [hnext]
      rfl
  | leave client =>
    cases h
    exact .inr (.inr ⟨client, rfl, rfl⟩)

theorem step_leads (hs : s.Sound) (h : ProfileSteps schema s a t) : t.Sound ∧ s.db.Grows t.db := by
  rcases h with ⟨reply, h⟩
  rcases step_cases h with ⟨client, now, req, rfl, _, rfl⟩ | ⟨client, now, call, rfl, hcall, rfl⟩
    | ⟨client, rfl, rfl⟩
  . have hleads : s.db.LeadsTo (req.start schema now s.db).2 _ := start_leadsTo hs.db now req
    exact ⟨sound_of_leadsTo hs hleads, hleads.1.grows⟩
  . have hleads : s.db.LeadsTo (call.next schema now s.db).2 _ :=
      next_leadsTo hs.db (hs.calls client call hcall) now
    exact ⟨sound_of_leadsTo hs hleads, hleads.1.grows⟩
  . exact ⟨sound_of_leadsTo hs ⟨hs.db.same, nofun⟩, .refl s.db⟩

theorem run_leads (hs : s.Sound) (h : Run (ProfileSteps schema) s as t)
    : t.Sound ∧ s.db.Grows t.db := by
  let Inv (u : ProfileServer) : Prop := u.Sound ∧ s.db.Grows u.db
  have hstep (u : ProfileServer) (a : ProfileAction) (v : ProfileServer) (hu : Inv u)
      (h : ProfileSteps schema u a v) : Inv v := by
    rcases step_leads hu.1 h with ⟨hv, hgrows⟩
    exact ⟨hv, hu.2.trans hgrows⟩
  have hinit : Inv s := ⟨hs, .refl s.db⟩
  have hinv : Inv t := h.invariant hstep hinit
  exact hinv

theorem sound_empty : ProfileServer.empty.Sound := by
  refine ⟨⟨?_, ?_⟩, nofun⟩
  . intro row hrow
    cases hrow
  . intro row hrow
    cases hrow

theorem sound_of_reachable (h : Reachable ProfileServer.empty (ProfileSteps schema) s) : s.Sound := by
  rcases h with ⟨as, h⟩
  exact (run_leads sound_empty h).1

/-- The row that a request asks to create. -/
def AdminIngestionProfileCreateRequest.row (req : AdminIngestionProfileCreateRequest) (version : ℤ)
    (now : Nat) : IngestionProfileRow :=
  ⟨req.tenantId, req.projectId, Text.trim req.profileId, version, req.profile, timestamptz now,
    Text.trim req.createdBy⟩

/-! ## Runs on a schema that is empty -/

def ProfileServer.exec (s : ProfileServer) (a : ProfileAction) : Option ProfileServer :=
  (s.step (.obj []) a).map Prod.fst

def ProfileServer.run (s : ProfileServer) (as : List ProfileAction) : ProfileServer :=
  (Run.eval ProfileServer.exec s as).getD s

theorem run_steps (h : (Run.eval ProfileServer.exec s as).isSome)
    : Run (ProfileSteps (.obj [])) s as (s.run as) := by
  rcases Option.isSome_iff_exists.mp h with ⟨t, ht⟩
  unfold ProfileServer.run
  rw [ht]
  apply Run.of_eval _ ht
  intro s a t hexec
  rcases Option.map_eq_some_iff.mp hexec with ⟨⟨u, reply⟩, hstep, rfl⟩
  exact ⟨reply, hstep⟩

theorem step_of_quiet (h : (s.step (.obj []) a).any (·.2.isNone))
    : s.step (.obj []) a = some (s.run [a], none) := by
  rcases (Option.any_eq_true ..).mp h with ⟨⟨t, reply⟩, hstep, hquiet⟩
  cases reply with
  | none => simp [ProfileServer.run, Run.eval, ProfileServer.exec, hstep]
  | some reply => cases hquiet

def sampleCreate : AdminIngestionProfileCreateRequest :=
  ⟨"tenant", "project", "terse", none, .obj [], "ops"⟩

/-! ## Resolution by default -/

/--
However the requests of others are interleaved, the version that a project has by default is found: the
event is extracted under it, unless its schema is of a version that is not supported.
-/
theorem defaultProfile_resolves {client : Nat} {selector : IngestionProfileSelector}
    (h : Reachable ProfileServer.empty (ProfileSteps schema) s)
    (hcall : s.calls client = some (.selectProfile tenantId projectId none selector)) (now : Nat)
    : ∃ row ∈ s.db.profiles, ∃ parsed, row.key = ⟨tenantId, projectId, selector.id, row.version⟩
        ∧ selector.version = some row.version
        ∧ parseProfile row.profile = .ok parsed
        ∧ s.step schema (.next client now) = some (⟨s.db, s.calls.set client none⟩, some
          (if parsed.Supported then .resolved (parsed.overBuiltin schema ⟨row.profileId, row.version⟩)
            else .failed (.invalidRequest "Unsupported ingestion profile schema version."))) := by
  have hs := sound_of_reachable h
  rcases hs.calls client _ hcall rfl with ⟨version, hversion, hstored⟩
  rcases selectProfile_of_stored hstored with ⟨row, hselect⟩
  have hrow := selectProfile_eq_ok hselect
  rcases parseProfile_of_isObject (hs.db.objects row hrow.mem) with ⟨parsed, hparsed⟩
  refine ⟨row, hrow.mem, parsed, ?_, ?_, hparsed, ?_⟩
  . rw [IngestionProfileRow.key, hrow.tenant, hrow.project, hrow.profile]
  . rw [hversion, hrow.pinned version rfl]
  . have hselector : selector = ⟨selector.id, some version⟩ := by
      rw [← hversion]
    rw [hselector] at hcall
    simp only [ProfileServer.step, hcall, ProfileCall.next, hselect, Option.bind_eq_bind,
      Option.bind_some]
    rw [resolve_of_parse hparsed]

/-- An event is about to be extracted, and nothing was created. -/
def sampleResolve : List ProfileAction :=
  [.start 0 1 (.resolve "tenant" "project" none), .next 0 1, .next 0 1]

theorem defaultProfile_resolves_sampleResolve
    : ∃ row ∈ (ProfileServer.empty.run sampleResolve).db.profiles, row.profileId = "default"
      ∧ row.version = 8 := by
  have hrun : Run (ProfileSteps (.obj [])) .empty sampleResolve (ProfileServer.empty.run sampleResolve) :=
    run_steps (by decide +kernel)
  have hcall : (ProfileServer.empty.run sampleResolve).calls 0
      = some (.selectProfile "tenant" "project" none ⟨"default", some 8⟩) := by
    rfl
  rcases defaultProfile_resolves ⟨sampleResolve, hrun⟩ hcall 1 with ⟨row, hrow, _, hkey, hversion, _⟩
  exact ⟨row, hrow, congrArg (·.profileId) hkey, (Option.some.inj hversion).symm⟩

/-! ## Versions -/

theorem versionsOf_lt (db : ProfileDb) (tenantId projectId profileId : String)
    : (listProfileVersionSummaries db tenantId projectId profileId).Pairwise
        fun row other => other.version < row.version := by
  apply List.Pairwise.imp OrderDual.toDual_lt_toDual.mp
  apply orderBy_pairwise_lt
  -- Rows of one profile that are of one version have one key.
  apply List.Nodup.map_on _ (db.profiles.nodup.of_map _ |>.filter _)
  intro row hrow other hother heq
  rcases mem_versionsOf.mp hrow with ⟨hmem, ht, hp, hid⟩
  rcases mem_versionsOf.mp hother with ⟨hmem', ht', hp', hid'⟩
  apply db.profiles.eq_of_key_eq hmem hmem'
  rw [IngestionProfileRow.key, IngestionProfileRow.key, ht, ht', hp, hp', hid, hid',
    OrderDual.toDual_inj.mp heq]

/-- What is listed later has all the versions, in their order. -/
theorem versions_sublist (h : db.Grows db') (tenantId projectId profileId : String)
    : (listProfileVersionSummaries db tenantId projectId profileId).Sublist
        (listProfileVersionSummaries db' tenantId projectId profileId) := by
  have hantisymm : Std.Antisymm fun row other : IngestionProfileRow => other.version < row.version :=
    ⟨fun row other hlt hgt => absurd hlt hgt.not_gt⟩
  have hsorted := versionsOf_lt db tenantId projectId profileId
  apply List.sublist_of_subperm_of_pairwise _ hsorted (versionsOf_lt db' tenantId projectId profileId)
  apply List.subperm_of_subset (hsorted.imp fun hlt heq => by simp [heq] at hlt)
  intro row hrow
  rw [listProfileVersionSummaries, mem_orderBy, mem_versionsOf] at hrow ⊢
  exact ⟨h.profiles row hrow.1, hrow.2⟩

theorem selectProfile_of_mem {row : IngestionProfileRow}
    (h : row ∈ db.versionsOf tenantId projectId profileId)
    : ∃ later, selectProfile db tenantId projectId ⟨profileId, none⟩ = .ok later := by
  unfold selectProfile
  dsimp only
  cases hlist : orderBy (fun row => OrderDual.toDual row.version)
      (db.versionsOf tenantId projectId profileId) with
  | nil =>
    have hordered : row ∈ orderBy (fun row => OrderDual.toDual row.version)
        (db.versionsOf tenantId projectId profileId) :=
      mem_orderBy.mpr h
    rw [hlist] at hordered
    cases hordered
  | cons later rows => exact ⟨later, rfl⟩

/--
A version that is found stays as it is, whatever is created later. Where no version is asked for, a later
one may be found, never an earlier one.
-/
theorem profileVersion_pinned {selector : IngestionProfileSelector} {row : IngestionProfileRow}
    (h : Reachable ProfileServer.empty (ProfileSteps schema) s)
    (hrun : Run (ProfileSteps schema) s as t)
    (hselect : selectProfile s.db tenantId projectId selector = .ok row)
    : ∃ later, selectProfile t.db tenantId projectId selector = .ok later
        ∧ row.version ≤ later.version
        ∧ (selector.version ≠ none → later = row)
        ∧ (listProfileVersionSummaries s.db tenantId projectId row.profileId).Sublist
            (listProfileVersionSummaries t.db tenantId projectId row.profileId) := by
  have hgrows := (run_leads (sound_of_reachable h) hrun).2
  have hrow := selectProfile_eq_ok hselect
  have hmem : row ∈ t.db.profiles := hgrows.profiles row hrow.mem
  have hsublist := versions_sublist hgrows tenantId projectId row.profileId
  cases hversion : selector.version with
  | some version =>
    have hselector : selector = ⟨selector.id, some version⟩ := by
      rw [← hversion]
    rcases selectProfile_of_stored (hgrows.stored hrow.stored) with ⟨later, hlater⟩
    rw [hrow.profile, hrow.pinned version hversion, ← hselector] at hlater
    have hfound := selectProfile_eq_ok hlater
    have heq : later = row := by
      apply t.db.profiles.eq_of_key_eq hfound.mem hmem
      rw [IngestionProfileRow.key, IngestionProfileRow.key, hfound.tenant, hrow.tenant, hfound.project,
        hrow.project, hfound.profile, hrow.profile, hfound.pinned version hversion,
        hrow.pinned version hversion]
    exact ⟨later, hlater, heq ▸ le_refl _, fun _ => heq, hsublist⟩
  | none =>
    have hselector : selector = ⟨selector.id, none⟩ := by
      rw [← hversion]
    have hof : row ∈ t.db.versionsOf tenantId projectId selector.id :=
      mem_versionsOf.mpr ⟨hmem, hrow.tenant, hrow.project, hrow.profile⟩
    rcases selectProfile_of_mem hof with ⟨later, hlater⟩
    rw [← hselector] at hlater
    have hfound := selectProfile_eq_ok hlater
    exact ⟨later, hlater, hfound.latest hversion row hof, fun hne => absurd rfl hne, hsublist⟩

def sampleVersions : List ProfileAction := [.start 0 1 (.create sampleCreate), .next 0 2]

theorem profileVersion_pinned_sampleVersions
    : ∃ later, selectProfile ((ProfileServer.empty.run sampleVersions).run sampleVersions).db "tenant"
          "project" ⟨"terse", none⟩ = .ok later
        ∧ 1 ≤ later.version := by
  have hrun : Run (ProfileSteps (.obj [])) .empty sampleVersions
      (ProfileServer.empty.run sampleVersions) :=
    run_steps (by decide +kernel)
  have hmore : Run (ProfileSteps (.obj [])) (ProfileServer.empty.run sampleVersions) sampleVersions
      ((ProfileServer.empty.run sampleVersions).run sampleVersions) :=
    run_steps (by decide +kernel)
  have hselect : selectProfile (ProfileServer.empty.run sampleVersions).db "tenant" "project"
      ⟨"terse", none⟩ = .ok (sampleCreate.row 1 2) := by
    rfl
  rcases profileVersion_pinned ⟨sampleVersions, hrun⟩ hmore hselect with ⟨later, hlater, hle, _⟩
  exact ⟨later, hlater, hle⟩

/-! ## Creation -/

/-- The client that a step is of. -/
def ProfileAction.client : ProfileAction → Nat
  | .start client _ _ | .next client _ | .leave client => client

theorem step_calls_of_ne {client : Nat} (h : ProfileSteps schema s a t) (hne : a.client ≠ client)
    : t.calls client = s.calls client := by
  have hset (left : Option ProfileCall) : s.calls.set a.client left client = s.calls client :=
    if_neg hne.symm
  rcases h with ⟨reply, h⟩
  rcases step_cases h with ⟨_, _, _, rfl, _, rfl⟩ | ⟨_, _, _, rfl, _, rfl⟩ | ⟨_, rfl, rfl⟩
  . exact hset _
  . exact hset _
  . exact hset _

/-- What is left of a request stays as it is while others take steps. -/
theorem run_calls_of_ne {client : Nat} (h : Run (ProfileSteps schema) s as t)
    (hothers : ∀ a ∈ as, a.client ≠ client) : t.calls client = s.calls client := by
  induction h with
  | nil s => rfl
  | cons head tail ih =>
    rw [ih fun a ha => hothers a (List.mem_cons_of_mem _ ha)]
    exact step_calls_of_ne head (hothers _ List.mem_cons_self)

theorem le_foldl_max (rows : List IngestionProfileRow) (start : ℤ)
    : start ≤ rows.foldl (fun version row => max version row.version) start
        ∧ ∀ row ∈ rows, row.version ≤ rows.foldl (fun version row => max version row.version) start := by
  induction rows generalizing start with
  | nil => simp
  | cons row rows ih =>
    rcases ih (max start row.version) with ⟨hstart, hrows⟩
    rw [List.foldl_cons, List.forall_mem_cons]
    exact ⟨(le_max_left ..).trans hstart, (le_max_right ..).trans hstart, hrows⟩

/-- The version that is asked for, or the one after the greatest. -/
def AdminIngestionProfileCreateRequest.chosen (req : AdminIngestionProfileCreateRequest)
    (db : ProfileDb) : ℤ :=
  req.version.getD (maxVersion (db.versionsOf req.tenantId req.projectId (Text.trim req.profileId)) + 1)

theorem startCreate_eq_ok {req : AdminIngestionProfileCreateRequest} (h : req.start db = .ok call)
    : call = .insertProfile req.tenantId req.projectId (Text.trim req.profileId) (req.chosen db)
        req.profile (Text.trim req.createdBy) := by
  unfold AdminIngestionProfileCreateRequest.start at h
  rw [Except.bind_eq_ok] at h
  rcases h with ⟨_, _, h⟩
  unfold AdminIngestionProfileCreateRequest.chosen
  cases hasked : req.version with
  | some version =>
    simp only [hasked, Except.bind_eq_ok, Except.pure_eq_ok] at h
    rcases h with ⟨_, rfl, rfl⟩
    rfl
  | none =>
    simp only [hasked, nextProfileVersion, Except.bind_eq_ok, Except.pure_eq_ok] at h
    rcases h with ⟨version, ⟨_, _, rfl⟩, rfl⟩
    rfl

theorem lt_chosen {req : AdminIngestionProfileCreateRequest} (hauto : req.version = none)
    {row : IngestionProfileRow}
    (hrow : row ∈ db.versionsOf req.tenantId req.projectId (Text.trim req.profileId))
    : row.version < req.chosen db := by
  unfold AdminIngestionProfileCreateRequest.chosen
  rw [hauto]
  exact Int.lt_add_one_of_le ((le_foldl_max _ 0).2 row hrow)

theorem not_stored_chosen {req : AdminIngestionProfileCreateRequest} (hauto : req.version = none)
    : ¬ db.Stored req.tenantId req.projectId (Text.trim req.profileId) (req.chosen db) := by
  rintro ⟨row, hrow, hkey⟩
  simp only [IngestionProfileRow.key, IngestionProfileKey.mk.injEq] at hkey
  rcases hkey with ⟨ht, hp, hid, hversion⟩
  have hlt := lt_chosen hauto (mem_versionsOf.mpr ⟨hrow, ht, hp, hid⟩)
  exact absurd hversion (ne_of_lt hlt)

theorem insert?_row {req : AdminIngestionProfileCreateRequest} (now : Nat)
    : (db.Stored req.tenantId req.projectId (Text.trim req.profileId) version →
        db.profiles.insert? (req.row version now) = none)
      ∧ (¬ db.Stored req.tenantId req.projectId (Text.trim req.profileId) version →
        ∃ profiles, db.profiles.insert? (req.row version now) = some profiles) := by
  refine ⟨?_, ?_⟩
  . rintro ⟨row, hrow, hkey⟩
    apply Option.eq_none_iff_forall_ne_some.mpr
    intro profiles hinsert
    exact (Table.find?_eq_none_iff ..).mp (Table.insert?_fresh hinsert) row hrow hkey
  . intro hfree
    apply Table.insert?_isSome
    apply (Table.find?_eq_none_iff ..).mpr
    intro row hrow hkey
    exact hfree ⟨row, hrow, hkey⟩

/--
A client asks for a version to be created, and other clients take steps before the version is inserted. If
the version is there by then, it stays as it is and the client is told so, and one that was numbered for
the client was not there when the client asked. Otherwise it is created, and no other version is changed.
-/
theorem profileVersion_created {client now : Nat} {req : AdminIngestionProfileCreateRequest}
    {started : ProfileServer}
    (hstart : s.step schema (.start client now (.create req)) = some (started, none))
    (hrun : Run (ProfileSteps schema) started as u) (hothers : ∀ a ∈ as, a.client ≠ client)
    (later : Nat)
    : (u.db.Stored req.tenantId req.projectId (Text.trim req.profileId) (req.chosen s.db) →
        (req.version = none →
          ¬ s.db.Stored req.tenantId req.projectId (Text.trim req.profileId) (req.chosen s.db))
        ∧ u.step schema (.next client later) = some (⟨u.db, u.calls.set client none⟩,
          some (.failed (profileConflict (req.row (req.chosen s.db) later)))))
      ∧ (¬ u.db.Stored req.tenantId req.projectId (Text.trim req.profileId) (req.chosen s.db) →
        ∃ v, u.step schema (.next client later)
            = some (v, some (.created (req.row (req.chosen s.db) later)))
          ∧ v.db.profiles.rows = u.db.profiles.rows ++ [req.row (req.chosen s.db) later]
          ∧ v.db.defaults = u.db.defaults
          ∧ (req.version = none →
            ∀ row ∈ s.db.versionsOf req.tenantId req.projectId (Text.trim req.profileId),
              row.version < req.chosen s.db)) := by
  simp only [ProfileServer.step, ProfileRequest.start, Option.bind_eq_bind,
    Option.bind_eq_some_iff] at hstart
  rcases hstart with ⟨_, _, hstart⟩
  cases hcreate : req.start s.db with
  | error err =>
    rw [hcreate] at hstart
    cases hstart
  | ok call =>
    rw [hcreate] at hstart
    cases hstart
    have hcall : u.calls client = some (.insertProfile req.tenantId req.projectId
        (Text.trim req.profileId) (req.chosen s.db) req.profile (Text.trim req.createdBy)) := by
      rw [run_calls_of_ne hrun hothers, ← startCreate_eq_ok hcreate]
      exact if_pos rfl
    have hinserted : _ ∧ (¬ u.db.Stored req.tenantId req.projectId (Text.trim req.profileId)
        (req.chosen s.db) → _) :=
      insert?_row later
    rcases hinserted with ⟨htaken, hfree⟩
    refine ⟨?_, ?_⟩
    . intro hstored
      refine ⟨not_stored_chosen, ?_⟩
      have hinsert := htaken hstored
      simp only [AdminIngestionProfileCreateRequest.row] at hinsert
      simp only [ProfileServer.step, hcall, ProfileCall.next, hinsert, Option.bind_eq_bind,
        Option.bind_some]
      rfl
    . intro hstored
      rcases hfree hstored with ⟨profiles, hinsert⟩
      have hrows := Table.rows_insert? hinsert
      simp only [AdminIngestionProfileCreateRequest.row] at hinsert
      refine ⟨⟨{ u.db with profiles }, u.calls.set client none⟩, ?_, hrows, rfl, ?_⟩
      . simp only [ProfileServer.step, hcall, ProfileCall.next, hinsert, Option.bind_eq_bind,
          Option.bind_some]
        rfl
      . intro hauto row hrow
        exact lt_chosen hauto hrow

/-- Another client creates the version that was chosen for the first one. -/
def sampleRace : List ProfileAction := [.start 1 2 (.create sampleCreate), .next 1 3]

theorem profileVersion_created_sampleRace
    : let u := (ProfileServer.empty.run [.start 0 1 (.create sampleCreate)]).run sampleRace
      u.step (.obj []) (.next 0 4) = some (⟨u.db, u.calls.set 0 none⟩,
        some (.failed (profileConflict (sampleCreate.row 1 4)))) := by
  have hstart : (ProfileServer.empty.step (.obj []) (.start 0 1 (.create sampleCreate))).any
      (·.2.isNone) := by
    decide +kernel
  have hrun : Run (ProfileSteps (.obj [])) (ProfileServer.empty.run [.start 0 1 (.create sampleCreate)])
      sampleRace ((ProfileServer.empty.run [.start 0 1 (.create sampleCreate)]).run sampleRace) :=
    run_steps (by decide +kernel)
  have hstored : ((ProfileServer.empty.run [.start 0 1 (.create sampleCreate)]).run
      sampleRace).db.profiles.rows.any (·.key = ⟨"tenant", "project", Text.trim "terse", 1⟩) := by
    decide +kernel
  rcases List.any_eq_true.mp hstored with ⟨row, hrow, hkey⟩
  apply ((profileVersion_created (step_of_quiet hstart) hrun (by decide) 4).1 _).2
  exact ⟨row, hrow, of_decide_eq_true hkey⟩

end Elf
