import Elf.Service.Lemmas.Write
import Elf.Service.Op

/-!
This module contains when a publication that succeeds opens the note to the readers of its scope.
-/

namespace Elf

open Text

variable {svc : ElfService} {draw : Draw} {s t : Store} {note : MemoryNote}
  {req : PublishNoteRequest}

/-! ## Grants -/

theorem upsertProjectGrant_grants
    (h : upsertProjectGrant s grantId tenantId projectId scope owner now = .ok t)
    : t.hasActiveProjectGrant tenantId projectId scope owner := by
  unfold upsertProjectGrant at h
  split at h
  next existing hfind =>
    cases h
    have hactive := List.find?_some hfind
    have hmem : existing ∈ s.grants := List.mem_of_find?_eq_some hfind
    refine ⟨_, (Table.mem_modify _ _ _ (by intro _; rfl) _).mpr ⟨existing, hmem, rfl⟩, ?_⟩
    rw [if_pos rfl]
    unfold SpaceGrant.isActiveProjectGrant at hactive ⊢
    simp only [Bool.and_eq_true, decide_eq_true_eq] at hactive ⊢
    simp [hactive]
  next hfind =>
    simp only [Except.bind_eq_ok, Table.insert_eq_ok, Except.pure_eq_ok] at h
    rcases h with ⟨grants, hinsert, rfl⟩
    refine ⟨_, (Table.mem_insert? hinsert _).mpr (Or.inr rfl), ?_⟩
    simp [SpaceGrant.isActiveProjectGrant]

/-- Publishing to a shared scope leaves an active grant in the open transaction. -/
theorem PublishLoads.granted {prev : MemoryNote} {granted : Store}
    (h : PublishLoads svc req draw s prev granted)
    : granted.hasActiveProjectGrant (trim req.tenantId)
      (targetProjectId req.scope (trim req.projectId)) req.scope (trim req.agentId) := by
  have hgrant := h.grant
  unfold ensureActiveProjectScopeGrant at hgrant
  rw [isSharedScope_of_sharedScopeAllowed h.allowed] at hgrant
  exact upsertProjectGrant_grants hgrant

/-- The reads that the note's scope and project open to a reader. -/
def Admitted (s : Store) (note : MemoryNote) : Prop :=
  ∀ (projectId agentId : String) (allowedScopes : List String) (now : Nat),
    allowedScopes.contains note.scope = true
    → (note.scope = "project_shared" → projectId = note.projectId)
    → note.expired now = false
    → noteReadAllowed note agentId allowedScopes
      (loadSharedReadGrantsWithOrgShared s note.tenantId projectId agentId
        (allowedScopes.contains "org_shared")) now = true

/-- The grants that a reader of the scope loads contain the one on the owner's space. -/
theorem grant_loaded {allowedScopes : List String} {projectId agentId : String}
    (hscope : isSharedScope note.scope = true)
    (horg : note.scope = "org_shared" → note.projectId = orgProjectId)
    (hgrant : s.hasActiveProjectGrant note.tenantId note.projectId note.scope note.agentId)
    (hallowed : allowedScopes.contains note.scope = true)
    (hproject : note.scope = "project_shared" → projectId = note.projectId)
    : (loadSharedReadGrantsWithOrgShared s note.tenantId projectId agentId
        (allowedScopes.contains "org_shared")).contains ⟨note.scope, note.agentId⟩ = true := by
  rcases hgrant with ⟨grant, hmem, hactive⟩
  simp only [SpaceGrant.isActiveProjectGrant, Bool.and_eq_true, decide_eq_true_eq] at hactive
  rcases hactive with ⟨⟨⟨⟨⟨htenant, hprojectId⟩, hgrantScope⟩, howner⟩, hrevoked⟩, hkind⟩
  have hkey : grant.grantKey = ⟨note.scope, note.agentId⟩ := by
    unfold SpaceGrant.grantKey
    rw [hgrantScope, howner]
  have hreaches : grant.reaches agentId = true := by simp [SpaceGrant.reaches, hkind]
  rw [List.contains_iff_mem, ← hkey]
  simp only [isSharedScope, Bool.or_eq_true, decide_eq_true_eq] at hscope
  unfold loadSharedReadGrantsWithOrgShared loadSharedReadGrants
  rcases hscope with hscope | hscope
  . split
    . apply List.mem_map_of_mem
      simp [hmem, ← Table.mem_def, htenant, hprojectId, hproject hscope, hrevoked, hgrantScope,
        hscope, hreaches, isSharedScope]
    . apply List.mem_map_of_mem
      simp [hmem, ← Table.mem_def, htenant, hprojectId, hproject hscope, hrevoked, hgrantScope,
        hscope, hreaches]
  . have hall : allowedScopes.contains "org_shared" = true := by
      rw [← hscope]
      exact hallowed
    rw [hall]
    apply List.mem_map_of_mem
    simp [hmem, ← Table.mem_def, htenant, hprojectId, horg hscope, hrevoked, hgrantScope, hscope,
      hreaches]

theorem admitted_of_grant (hstatus : note.status = "active")
    (hscope : isSharedScope note.scope = true)
    (horg : note.scope = "org_shared" → note.projectId = orgProjectId)
    (hgrant : s.hasActiveProjectGrant note.tenantId note.projectId note.scope note.agentId)
    : Admitted s note := by
  intro projectId agentId allowedScopes now hallowed hproject hexpired
  have hloaded := @grant_loaded s note allowedScopes projectId agentId hscope horg hgrant hallowed
    hproject
  have hprivate : note.scope ≠ "agent_private" := by
    intro hprivate
    rw [hprivate] at hscope
    cases hscope
  unfold noteReadAllowed
  rw [if_neg (by simp [hstatus]), if_neg (by simp [hexpired]), if_neg (by simpa using hallowed),
    if_neg hprivate, if_neg (by simp [hscope])]
  split
  . rfl
  . exact hloaded

/-! ## Publications -/

/-- The published note has the scope, a grant on its owner's space, and the readers of the scope. -/
def PublishGrants (req : PublishNoteRequest) (t : Store) : Prop :=
  ∃ note, t.notes.find? req.noteId = some note ∧ note.scope = req.scope
    ∧ t.hasActiveProjectGrant note.tenantId note.projectId note.scope note.agentId
    ∧ Admitted t note

/-- A note that is in the requested scope and project already has an active grant. -/
def GrantedIfPublished (req : PublishNoteRequest) (s : Store) : Prop :=
  ∀ prev, s.notes.find? req.noteId = some prev → prev.scope = req.scope
    → prev.projectId = targetProjectId req.scope (trim req.projectId)
    → s.hasActiveProjectGrant prev.tenantId prev.projectId prev.scope prev.agentId

theorem targetProjectId_org (h : scope = "org_shared")
    : targetProjectId scope projectId = orgProjectId := if_pos h

/--
A publication that succeeds grants access if and only if the note was not published to the same
scope and project before, or was so with a grant that is still active.
-/
theorem publish_grants_iff (h : publishNote svc req draw s = .ok (r, t))
    : PublishGrants req t ↔ GrantedIfPublished req s := by
  rcases publishNote_cases h with ⟨prev, granted, hloads, -, hsame | hmoved⟩
  . -- The transaction was rolled back, and the grant with it.
    rcases hsame with ⟨hscope, hproject, rfl⟩
    constructor
    . rintro ⟨note, hfind, -, hgrant, -⟩ prev' hfind' - -
      rw [hfind] at hfind'
      cases hfind'
      exact hgrant
    . intro hgranted
      have hgrant := hgranted prev hloads.find hscope hproject
      refine ⟨prev, hloads.find, hscope, hgrant, ?_⟩
      apply admitted_of_grant hloads.active _ _ hgrant
      . rw [hscope]
        exact isSharedScope_of_sharedScopeAllowed hloads.allowed
      . intro horg
        rw [hscope] at horg
        rw [hproject]
        exact targetProjectId_org horg
  . rcases hmoved with ⟨hmoved, hwrites, -, hgrants, -⟩
    have hid := Table.key_of_find? hloads.find
    have hfind := hwrites.notes_eq req.noteId
    have hnext : (publishedNote req prev (draw.clock 2)).noteId = req.noteId := hid
    rw [if_pos hnext] at hfind
    have hgrant := hloads.granted
    unfold Store.hasActiveProjectGrant at hgrant
    rw [← hgrants, ← hloads.tenant, ← hloads.agent] at hgrant
    constructor
    . intro _ prev' hfind' hscope hproject
      rw [hloads.find] at hfind'
      cases hfind'
      exact absurd ⟨hscope, hproject⟩ hmoved
    . intro _
      have hactive : (publishedNote req prev (draw.clock 2)).stored.status = "active" :=
        hloads.active
      refine ⟨_, hfind, rfl, hgrant, ?_⟩
      apply admitted_of_grant hactive
      . exact isSharedScope_of_sharedScopeAllowed hloads.allowed
      . exact fun horg => targetProjectId_org horg
      . exact hgrant

/-- A note in the project's shared scope, whose owner revokes the project's grant on the scope. -/
def sharedThenRevoked : Store := Store.empty.run [
  sampleAdd 1 "p" "project_shared" (sampleNote none "Deploys run on Friday."),
  sampleStep 2 (.grantRevoke ⟨"t", "p", "a", "project_shared", .project, none⟩)]

def publishAgain : PublishNoteRequest := ⟨"t", "p", "a", 1, "project_shared"⟩

def publishToOrg : PublishNoteRequest := ⟨"t", "p", "a", 1, "org_shared"⟩

theorem publish_grants_iff_publishToOrg
    : PublishGrants publishToOrg
      ((publishNote sampleService publishToOrg (sampleDraw 3)).next sharedThenRevoked) := by
  have hok : publishNote sampleService publishToOrg (sampleDraw 3) sharedThenRevoked
      = .ok (⟨1, "org_shared"⟩,
        (publishNote sampleService publishToOrg (sampleDraw 3)).next sharedThenRevoked) := by
    decide +kernel
  rw [publish_grants_iff hok]
  intro prev hfind hscope hproject
  have hshared : (sharedThenRevoked.notes.find? 1).map MemoryNote.scope = some "project_shared" := by
    decide +kernel
  change sharedThenRevoked.notes.find? 1 = some prev at hfind
  rw [hfind, Option.map_some, hscope] at hshared
  exact absurd hshared (by decide)

-- The second publication succeeds, and the grant stays revoked.
theorem not_publish_grants_publishAgain
    : publishNote sampleService publishAgain (sampleDraw 3) sharedThenRevoked
        = .ok (⟨1, "project_shared"⟩, sharedThenRevoked)
      ∧ ¬ PublishGrants publishAgain sharedThenRevoked := by
  constructor
  . decide +kernel
  . rintro ⟨note, hfind, -, hgrant, -⟩
    have hnone : ∀ grant ∈ sharedThenRevoked.grants.rows, grant.revokedAt.isSome = true := by
      decide +kernel
    rcases hgrant with ⟨grant, hmem, hactive⟩
    have hrevoked := hnone grant hmem
    simp only [SpaceGrant.isActiveProjectGrant, Bool.and_eq_true] at hactive
    rw [Option.isNone_iff_eq_none.mp hactive.1.2] at hrevoked
    cases hrevoked

end Elf
