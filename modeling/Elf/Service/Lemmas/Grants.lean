import Elf.Service.Lemmas.Op

/-!
This module contains what the grants of shared spaces open: the grants that a reader loads are the ones
that are active, of the project that owns the scope, and given to the reader or to the whole project.
-/

namespace Elf

/-- The grant is active and opens the space of an owner to an agent. -/
structure SpaceGrant.OpensTo (grant : SpaceGrant) (tenantId projectId scope owner agentId : String)
    : Prop where
  tenantId : grant.tenantId = tenantId
  projectId : grant.projectId = projectId
  scope : grant.scope = scope
  owner : grant.spaceOwnerAgentId = owner
  active : grant.revokedAt = none
  reaches : grant.reaches agentId = true

theorem isSharedScope_iff : isSharedScope scope = true ↔ scope = "project_shared" ∨ scope = "org_shared" := by
  simp [isSharedScope]

/-- A reader loads the grants that open a shared scope, in the project that owns it. -/
theorem mem_loadSharedReadGrantsWithOrgShared {s : Store} (hscope : isSharedScope scope = true)
    (hallowed : scope = "org_shared" → orgSharedAllowed = true)
    : ⟨scope, owner⟩ ∈ loadSharedReadGrantsWithOrgShared s tenantId projectId agentId orgSharedAllowed
      ↔ ∃ grant ∈ s.grants,
          grant.OpensTo tenantId (targetProjectId scope projectId) scope owner agentId := by
  have hmem : ∀ p : SpaceGrant → Bool,
      (⟨scope, owner⟩ ∈ (s.grants.rows.filter p).map SpaceGrant.grantKey)
        ↔ ∃ grant ∈ s.grants, p grant = true ∧ grant.scope = scope
          ∧ grant.spaceOwnerAgentId = owner := by
    intro p
    simp only [List.mem_map, List.mem_filter, SpaceGrant.grantKey, SharedSpaceGrantKey.mk.injEq,
      Table.mem_def, and_assoc]
  unfold loadSharedReadGrantsWithOrgShared loadSharedReadGrants
  split
  next hnot =>
    rw [Bool.not_eq_true', ← Bool.not_eq_true] at hnot
    have hproject : scope = "project_shared" :=
      (isSharedScope_iff.mp hscope).resolve_right fun horg => hnot (hallowed horg)
    have htarget : targetProjectId scope projectId = projectId := by
      rw [hproject]
      rfl
    rw [hmem, htarget]
    apply exists_congr
    intro grant
    rw [and_congr_right_iff]
    intro _
    constructor
    . rintro ⟨hgrant, hgrantScope, howner⟩
      simp only [Bool.and_eq_true, decide_eq_true_eq, Option.isNone_iff_eq_none] at hgrant
      exact ⟨hgrant.1.1.1.1, hgrant.1.1.1.2, hgrantScope, howner, hgrant.1.1.2, hgrant.2⟩
    . intro h
      rw [h.scope, h.tenantId, h.projectId, h.active, h.owner, h.reaches, hscope]
      simp
  next hallowed =>
    rw [hmem]
    apply exists_congr
    intro grant
    rw [and_congr_right_iff]
    intro _
    constructor
    . rintro ⟨hgrant, hgrantScope, howner⟩
      simp only [Bool.and_eq_true, Bool.or_eq_true, decide_eq_true_eq,
        Option.isNone_iff_eq_none] at hgrant
      rw [hgrantScope] at hgrant
      refine ⟨hgrant.1.1.1, ?_, hgrantScope, howner, hgrant.1.1.2, hgrant.2⟩
      rcases hgrant.1.2 with ⟨hid, hproject⟩ | ⟨horg, hid⟩
      . rw [hid, hproject]
        rfl
      . rw [hid, horg]
        rfl
    . intro h
      rw [h.scope, h.tenantId, h.projectId, h.active, h.owner, h.reaches]
      rcases isSharedScope_iff.mp hscope with hproject | horg
      . simp [hproject, targetProjectId]
      . simp [horg, targetProjectId]

/-! ## Spaces -/

/-- What a grant opens, and to whom. -/
structure SpaceKey where
  tenantId : String
  projectId : String
  scope : String
  owner : String
  granteeKind : GranteeKind
  grantee : Option String
deriving DecidableEq

def SpaceGrant.spaceKey (grant : SpaceGrant) : SpaceKey :=
  ⟨grant.tenantId, grant.projectId, grant.scope, grant.spaceOwnerAgentId, grant.granteeKind,
    grant.granteeAgentId⟩

/-- The space of an owner, opened to the whole project. -/
def SpaceKey.project (tenantId projectId scope owner : String) : SpaceKey :=
  ⟨tenantId, projectId, scope, owner, .project, none⟩

/-- The spaces that are open, and to whom. -/
def Store.openSpaces (s : Store) : Set SpaceKey :=
  {key | ∃ grant ∈ s.grants, grant.revokedAt = none ∧ grant.spaceKey = key}

/-- What every row of the grants is: one by the owner of a shared space, who also ends it. -/
structure SpaceGrant.Sound (grant : SpaceGrant) : Prop where
  shared : isSharedScope grant.scope = true
  project : grant.granteeKind = .project → grant.granteeAgentId = none
  granted : grant.grantedByAgentId = grant.spaceOwnerAgentId
  revoked : grant.revokedByAgentId = grant.revokedAt.map fun _ => grant.spaceOwnerAgentId

/-- The grants are sound, and no space is opened twice to the same grantee. -/
structure Store.Granted (s : Store) : Prop where
  sound : ∀ grant ∈ s.grants, grant.Sound
  unique : s.grants.UniqueOn (·.revokedAt = none) SpaceGrant.spaceKey

/-- The grants of a store are those of another, with some spaces opened. -/
structure Store.Opens (s t : Store) (keys : Set SpaceKey) : Prop where
  granted : s.Granted → t.Granted
  spaces : s.Granted → t.openSpaces = s.openSpaces ∪ keys

variable {s t u : Store} {keys : Set SpaceKey}

theorem Store.Granted.of_grants (h : t.grants = s.grants) (hs : s.Granted) : t.Granted := by
  constructor
  . rw [h]
    exact hs.sound
  . rw [h]
    exact hs.unique

theorem openSpaces_of_grants (h : t.grants = s.grants) : t.openSpaces = s.openSpaces := by
  unfold Store.openSpaces
  rw [h]

theorem Store.Opens.of_grants (h : t.grants = s.grants) : s.Opens t ∅ := by
  constructor
  . exact Granted.of_grants h
  . intro _
    rw [openSpaces_of_grants h, Set.union_empty]

/-- Only the grants of a store matter. -/
theorem Store.Opens.congr (h : s.Opens t keys) (hgrants : u.grants = t.grants) : s.Opens u keys := by
  constructor
  . intro hs
    exact (h.granted hs).of_grants hgrants
  . intro hs
    rw [openSpaces_of_grants hgrants]
    exact h.spaces hs

/-! ## Statements -/

/-- A new grant opens its space, which no grant had opened. -/
theorem opens_insert {grants : Table SpaceGrant SpaceGrant.grantId} {grant : SpaceGrant}
    (hinsert : s.grants.insert? grant = some grants) (hsound : grant.Sound)
    (hactive : grant.revokedAt = none) (hnew : grant.spaceKey ∉ s.openSpaces)
    : s.Opens { s with grants } {grant.spaceKey} := by
  constructor
  . intro hs
    constructor
    . exact Table.forall_insert? hinsert hs.sound hsound
    . apply hs.unique.insert? hinsert
      intro _ other hmem hother hkey
      exact hnew ⟨other, hmem, hother, hkey⟩
  . intro _
    ext key
    simp only [Store.openSpaces, Table.mem_insert? hinsert, Set.mem_ofPred_eq, Set.mem_union,
      Set.mem_singleton_iff]
    constructor
    . rintro ⟨other, hmem | rfl, hother, hkey⟩
      . exact .inl ⟨other, hmem, hother, hkey⟩
      . exact .inr hkey.symm
    . rintro (⟨other, hmem, hother, hkey⟩ | rfl)
      . exact ⟨other, .inl hmem, hother, hkey⟩
      . exact ⟨grant, .inr rfl, hactive, rfl⟩

/-- An active grant that is renewed stays the grant it is. -/
theorem opens_regrant {existing : SpaceGrant} {renew : SpaceGrant → SpaceGrant}
    (hmem : existing ∈ s.grants) (hactive : existing.revokedAt = none)
    (hid : ∀ grant, (renew grant).grantId = grant.grantId)
    (hkey : (renew existing).spaceKey = existing.spaceKey)
    (hrenewed : (renew existing).revokedAt = none)
    (hsound : existing.Sound → (renew existing).Sound)
    : s.Opens { s with grants := s.grants.modify existing.grantId renew hid }
        {existing.spaceKey} := by
  have hmodify : ∀ grant ∈ s.grants, grant.grantId = existing.grantId → grant = existing :=
    fun grant hgrant hsame => s.grants.eq_of_key_eq hgrant hmem hsame
  constructor
  . intro hs
    constructor
    . intro grant hgrant
      rw [Table.mem_modify] at hgrant
      rcases hgrant with ⟨old, hold, rfl⟩
      split
      next hsame =>
        rw [hmodify old hold hsame]
        exact hsound (hs.sound existing hmem)
      next => exact hs.sound old hold
    . refine hs.unique.modify ?_ hid
      intro grant hgrant hsame _ other hother hne hotherActive hkeys
      rw [hmodify grant hgrant hsame, hkey] at hkeys
      have heq := hs.unique other hother existing hmem hotherActive hactive hkeys
      exact hne (congrArg SpaceGrant.grantId heq)
  . intro _
    have hopen : existing.spaceKey ∈ s.openSpaces := ⟨existing, hmem, hactive, rfl⟩
    rw [Set.union_eq_self_of_subset_right (Set.singleton_subset_iff.mpr hopen)]
    ext key
    simp only [Store.openSpaces, Table.mem_modify, Set.mem_ofPred_eq]
    constructor
    . rintro ⟨_, ⟨old, hold, rfl⟩, hactive', hkey'⟩
      split at hkey'
      next hsame =>
        rw [hmodify old hold hsame, hkey] at hkey'
        exact ⟨existing, hmem, hactive, hkey'⟩
      next hne =>
        rw [if_neg hne] at hactive'
        exact ⟨old, hold, hactive', hkey'⟩
    . rintro ⟨old, hold, hactive', hkey'⟩
      refine ⟨_, ⟨old, hold, rfl⟩, ?_⟩
      split
      next hsame =>
        rw [hmodify old hold hsame] at hkey' ⊢
        exact ⟨hrenewed, hkey.trans hkey'⟩
      next => exact ⟨hactive', hkey'⟩

theorem upsertProjectGrant_opens (hscope : isSharedScope scope = true)
    (h : upsertProjectGrant s grantId tenantId projectId scope owner now = .ok t)
    : s.Opens t {.project tenantId projectId scope owner} := by
  unfold upsertProjectGrant at h
  split at h
  next existing hfind =>
    cases h
    have hmem : existing ∈ s.grants := List.mem_of_find?_eq_some hfind
    have hactive := List.find?_some hfind
    simp only [SpaceGrant.isActiveProjectGrant, Bool.and_eq_true, decide_eq_true_eq,
      Option.isNone_iff_eq_none] at hactive
    have hopens := opens_regrant hmem hactive.1.2 (grantId_regranted owner now) rfl rfl
      fun hsound => ⟨hsound.shared, hsound.project, hactive.1.1.2.symm, rfl⟩
    constructor
    . exact hopens.granted
    . intro hs
      have hkey : existing.spaceKey = .project tenantId projectId scope owner := by
        simp [SpaceGrant.spaceKey, SpaceKey.project, hactive, (hs.sound existing hmem).project]
      rw [← hkey]
      exact hopens.spaces hs
  next hfind =>
    simp only [Except.bind_eq_ok, Table.insert_eq_ok, Except.pure_eq_ok] at h
    rcases h with ⟨grants, hinsert, rfl⟩
    apply opens_insert hinsert
    . exact ⟨hscope, fun _ => rfl, rfl, rfl⟩
    . rfl
    . rintro ⟨other, hmem, hactive, hkey⟩
      have hnone := List.find?_eq_none.mp hfind other hmem
      simp only [SpaceGrant.spaceKey, SpaceKey.mk.injEq] at hkey
      simp [SpaceGrant.isActiveProjectGrant, hactive, hkey] at hnone

theorem upsertAgentGrant_opens (hscope : isSharedScope scope = true)
    (h : upsertAgentGrant s grantId tenantId projectId scope owner grantee now = .ok t)
    : s.Opens t {⟨tenantId, projectId, scope, owner, .agent, grantee⟩} := by
  unfold upsertAgentGrant at h
  split at h
  . cases h
  . split at h
    next existing hfind =>
      cases h
      have hmem : existing ∈ s.grants := List.mem_of_find?_eq_some hfind
      have hactive := List.find?_some hfind
      simp only [SpaceGrant.isActiveAgentGrant, Bool.and_eq_true, decide_eq_true_eq,
        Option.isNone_iff_eq_none] at hactive
      have hkey : existing.spaceKey = ⟨tenantId, projectId, scope, owner, .agent, grantee⟩ := by
        simp [SpaceGrant.spaceKey, hactive]
      rw [← hkey]
      exact opens_regrant hmem hactive.1.1.2 (grantId_regranted owner now) rfl rfl
        fun hsound => ⟨hsound.shared, hsound.project, hactive.1.1.1.2.symm, rfl⟩
    next hfind =>
      simp only [Except.bind_eq_ok, Table.insert_eq_ok, Except.pure_eq_ok] at h
      rcases h with ⟨grants, hinsert, rfl⟩
      apply opens_insert hinsert
      . exact ⟨hscope, by simp, rfl, rfl⟩
      . rfl
      . rintro ⟨other, hmem, hactive, hkey⟩
        have hnone := List.find?_eq_none.mp hfind other hmem
        simp only [SpaceGrant.spaceKey, SpaceKey.mk.injEq] at hkey
        simp [SpaceGrant.isActiveAgentGrant, hactive, hkey] at hnone

/-- A note that is written opens the space it is in, if that is a shared one. -/
def SpaceKey.written (tenantId projectId scope owner : String) : Set SpaceKey :=
  {key | isSharedScope scope = true ∧ key = .project tenantId projectId scope owner}

theorem ensureActiveProjectScopeGrant_opens
    (h : ensureActiveProjectScopeGrant s grantId tenantId projectId scope owner now = .ok t)
    : s.Opens t (SpaceKey.written tenantId projectId scope owner) := by
  unfold ensureActiveProjectScopeGrant at h
  unfold SpaceKey.written
  split at h
  next hscope =>
    cases h
    rw [Bool.not_eq_true'] at hscope
    simp only [hscope, Bool.false_eq_true, false_and, Set.ofPred_false]
    exact .of_grants rfl
  next hscope =>
    rw [Bool.not_eq_true', Bool.not_eq_false] at hscope
    simp only [hscope, true_and, Set.ofPred_eq_eq_singleton]
    exact upsertProjectGrant_opens hscope h

/-! ## Requests on grants -/

/-- The space that a request on grants is about. -/
def SpaceGrantRequest.spaceKey (req : SpaceGrantRequest) : SpaceKey :=
  ⟨Text.trim req.tenantId, targetProjectId req.scope (Text.trim req.projectId), req.scope,
    Text.trim req.agentId, req.granteeKind, req.grantee⟩

variable {svc : ElfService} {draw : Draw} {req : SpaceGrantRequest}

theorem spaceGrantUpsert_opens (h : spaceGrantUpsert svc req draw s = .ok (r, t))
    : s.Opens t {req.spaceKey} := by
  simp only [spaceGrantUpsert, Except.bind_eq_ok, Except.rejectIf_eq_ok, Except.pure_eq_ok,
    Prod.mk.injEq] at h
  rcases h with ⟨-, -, -, hscope, -, -, -, hnone, s', hgrant, -, rfl⟩
  rw [Bool.not_eq_false'] at hscope
  have hshared := isSharedScope_of_sharedScopeAllowed hscope
  unfold upsertGrant at hgrant
  dsimp only at hgrant
  unfold SpaceGrantRequest.spaceKey
  split at hgrant
  next hkind =>
    simp only [hkind, decide_true, Bool.true_and, Option.isSome_eq_false_iff,
      Option.isNone_iff_eq_none] at hnone
    rw [hkind, hnone]
    exact upsertProjectGrant_opens hshared hgrant
  next hkind =>
    rw [hkind]
    exact upsertAgentGrant_opens hshared hgrant

/-- The rows that a revocation ends are the active ones of its space. -/
theorem revokes_iff {grant : SpaceGrant} (hproject : req.granteeKind = .project → req.grantee = none)
    : req.revokes grant = true ↔ grant.revokedAt = none ∧ grant.spaceKey = req.spaceKey := by
  unfold SpaceGrantRequest.revokes SpaceGrant.spaceKey SpaceGrantRequest.spaceKey
  simp only [Bool.and_eq_true, Bool.or_eq_true, decide_eq_true_eq, Option.isNone_iff_eq_none,
    SpaceKey.mk.injEq]
  constructor
  . rintro ⟨⟨⟨hkey, hkind⟩, hgrantee⟩, hactive⟩
    refine ⟨hactive, hkey.1.1.1, hkey.1.1.2, hkey.1.2, hkey.2, hkind, ?_⟩
    rcases hgrantee with ⟨hprojectKind, hnone⟩ | ⟨-, hsame⟩
    . rw [hnone, hproject (hkind.symm.trans hprojectKind)]
    . exact hsame
  . rintro ⟨hactive, htenant, hprojectId, hscope, howner, hkind, hgrantee⟩
    refine ⟨⟨⟨⟨⟨⟨htenant, hprojectId⟩, hscope⟩, howner⟩, hkind⟩, ?_⟩, hactive⟩
    cases hgrantKind : grant.granteeKind with
    | project =>
      left
      exact ⟨rfl, hgrantee.trans (hproject (hkind.symm.trans hgrantKind))⟩
    | agent =>
      right
      exact ⟨rfl, hgrantee⟩

theorem mem_revokeWhere {grants : Table SpaceGrant SpaceGrant.grantId} {p : SpaceGrant → Bool}
    : grant ∈ revokeWhere grants p agentId now ↔ ∃ old ∈ grants,
        grant = if p old then
          { old with revokedAt := some (timestamptz now), revokedByAgentId := some agentId }
        else old := by
  apply Table.mem_updateWhere

theorem spaceGrantRevoke_closes (h : spaceGrantRevoke svc req draw s = .ok (r, t)) (hs : s.Granted)
    : t.Granted ∧ req.spaceKey ∈ s.openSpaces ∧ t.openSpaces = s.openSpaces \ {req.spaceKey} := by
  simp only [spaceGrantRevoke, Except.bind_eq_ok, Except.rejectIf_eq_ok, Except.pure_eq_ok,
    Prod.mk.injEq] at h
  rcases h with ⟨-, -, -, -, -, hnone, -, -, -, hsome, -, rfl⟩
  have hproject : req.granteeKind = .project → req.grantee = none := by
    intro hkind
    simpa [hkind] using hnone
  refine ⟨⟨?_, ?_⟩, ?_, ?_⟩
  . intro grant hmem
    rcases mem_revokeWhere.mp hmem with ⟨old, hold, rfl⟩
    split
    next hrevokes =>
      have hsound := hs.sound old hold
      refine ⟨hsound.shared, hsound.project, hsound.granted, ?_⟩
      have hkey := ((revokes_iff hproject).mp hrevokes).2
      simp only [SpaceGrant.spaceKey, SpaceGrantRequest.spaceKey, SpaceKey.mk.injEq] at hkey
      simp [hkey]
    next => exact hs.sound old hold
  . intro grant hgrant other hother hactive hactive' hkey
    rcases mem_revokeWhere.mp hgrant with ⟨old, hold, rfl⟩
    rcases mem_revokeWhere.mp hother with ⟨old', hold', rfl⟩
    split at hactive
    . cases hactive
    next hkeep =>
      split at hactive'
      . cases hactive'
      next hkeep' =>
        rw [if_neg hkeep, if_neg hkeep'] at hkey ⊢
        exact hs.unique old hold old' hold' hactive hactive' hkey
  . cases hrows : s.grants.rows.filter req.revokes with
    | nil => simp [hrows] at hsome
    | cons grant rest =>
      have hgrant : grant ∈ s.grants.rows.filter req.revokes := by
        rw [hrows]
        apply List.mem_cons_self
      rw [List.mem_filter] at hgrant
      rcases (revokes_iff hproject).mp hgrant.2 with ⟨hactive, hkey⟩
      exact ⟨grant, hgrant.1, hactive, hkey⟩
  . ext key
    simp only [Store.openSpaces, mem_revokeWhere, Set.mem_ofPred_eq, Set.mem_sdiff,
      Set.mem_singleton_iff]
    constructor
    . rintro ⟨_, ⟨old, hold, rfl⟩, hactive, hkey⟩
      split at hactive
      . cases hactive
      next hkeep =>
        rw [if_neg hkeep] at hkey
        refine ⟨⟨old, hold, hactive, hkey⟩, ?_⟩
        rintro rfl
        exact hkeep ((revokes_iff hproject).mpr ⟨hactive, hkey⟩)
    . rintro ⟨⟨old, hold, hactive, hkey⟩, hne⟩
      have hkeep : ¬ req.revokes old = true := by
        intro hrevokes
        exact hne (hkey.symm.trans ((revokes_iff hproject).mp hrevokes).2)
      refine ⟨_, ⟨old, hold, rfl⟩, ?_⟩
      rw [if_neg hkeep]
      exact ⟨hactive, hkey⟩

end Elf
