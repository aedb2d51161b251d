import Elf.Graph.Ingestion
import Mathlib.Logic.Relator

/-!
This module contains the names that stand for an entity: its canonical name and the aliases that a
caller gave it. Where every name stands for one entity at most, looking a name up finds it.
-/

namespace Elf

open Text

variable {text : GraphText}

namespace GraphDb

def CanonicalName (db : GraphDb) (tenantId projectId norm : String) (id : Uuid) : Prop :=
  ∃ entity, db.entities.find? id = some entity
    ∧ entity.tenantId = tenantId ∧ entity.projectId = projectId ∧ entity.canonicalNorm = norm

def CallerName (db : GraphDb) (tenantId projectId norm : String) (id : Uuid) : Prop :=
  (∃ row, db.entityAliases.find? (id, norm) = some row ∧ row.authority = .caller)
    ∧ ∃ entity, db.entities.find? id = some entity
      ∧ entity.tenantId = tenantId ∧ entity.projectId = projectId

def Names (db : GraphDb) (tenantId projectId norm : String) (id : Uuid) : Prop :=
  db.CanonicalName tenantId projectId norm id ∨ db.CallerName tenantId projectId norm id

/-- Aliases belong to entities, and every name stands for one entity at most. -/
structure Unambiguous (db : GraphDb) : Prop where
  linked : ∀ id norm, db.entities.find? id = none → db.entityAliases.find? (id, norm) = none
  unique : ∀ tenantId projectId, Relator.RightUnique (db.Names tenantId projectId)

variable {norm : String}

theorem canonicalName_of_find {db : GraphDb}
    (h : db.findCanonical tenantId projectId norm = some entity)
    : db.CanonicalName tenantId projectId norm entity.entityId := by
  have hmem : entity ∈ db.entities := List.mem_of_find?_eq_some h
  have hsome := List.find?_some h
  simp only [Bool.and_eq_true, decide_eq_true_eq] at hsome
  exact ⟨entity, db.entities.find?_key hmem, hsome.1.1, hsome.1.2, hsome.2⟩

theorem not_canonicalName_of_find {db : GraphDb}
    (h : db.findCanonical tenantId projectId norm = none) (id : Uuid)
    : ¬db.CanonicalName tenantId projectId norm id := by
  rintro ⟨entity, hfind, htenant, hproject, hnorm⟩
  have hnone := List.find?_eq_none.mp h entity (Table.mem_of_find? hfind)
  simp [htenant, hproject, hnorm] at hnone

theorem mem_callerMatches {db : GraphDb}
    : entity ∈ db.callerMatches tenantId projectId norm
        ↔ db.entities.find? entity.entityId = some entity
          ∧ db.CallerName tenantId projectId norm entity.entityId := by
  unfold callerMatches CallerName
  simp only [List.mem_filterMap]
  constructor
  . rintro ⟨row, hrow, hentity⟩
    split at hentity
    next hcond =>
      simp only [Bool.and_eq_true, decide_eq_true_eq] at hcond
      rw [Option.filter_eq_some_iff] at hentity
      have hplace := hentity.2
      simp only [Bool.and_eq_true, decide_eq_true_eq] at hplace
      have hid : entity.entityId = row.entityId := Table.key_of_find? hentity.1
      have hfind := db.entityAliases.find?_key hrow
      have href : row.ref = (entity.entityId, norm) := by
        unfold GraphEntityAlias.ref
        rw [hcond.1, hid]
      rw [href] at hfind
      rw [hid]
      rw [hid] at hfind
      exact ⟨hentity.1, ⟨row, hfind, hcond.2⟩, entity, hentity.1, hplace⟩
    next => cases hentity
  . rintro ⟨hfind, ⟨row, hrow, hauthority⟩, other, hother, hplace⟩
    rw [hfind] at hother
    cases hother
    have href : row.ref = (entity.entityId, norm) := Table.key_of_find? hrow
    simp only [GraphEntityAlias.ref, Prod.mk.injEq] at href
    refine ⟨row, Table.mem_of_find? hrow, ?_⟩
    rw [if_pos (by simp [href.2, hauthority]), href.1, Option.filter_eq_some_iff]
    exact ⟨hfind, by simp [hplace]⟩

theorem callerMatches_nodup (db : GraphDb) (tenantId projectId norm : String)
    : (db.callerMatches tenantId projectId norm).Pairwise fun a b => a.entityId ≠ b.entityId := by
  unfold callerMatches
  rw [List.pairwise_filterMap]
  have hnodup := List.pairwise_map.mp db.entityAliases.nodup
  apply hnodup.imp
  intro a b hab entity hentity other hother hid
  split at hentity
  next ha =>
    split at hother
    next hb =>
      simp only [Bool.and_eq_true, decide_eq_true_eq] at ha hb
      have hfind := (Option.filter_eq_some_iff.mp hentity).1
      have hfind' := (Option.filter_eq_some_iff.mp hother).1
      have hkey := Table.key_of_find? hfind
      have hkey' := Table.key_of_find? hfind'
      apply hab
      unfold GraphEntityAlias.ref
      rw [ha.1, hb.1, ← hkey, ← hkey', hid]
    next => cases hother
  next => cases hentity

theorem callerMatches_cases {db : GraphDb} (h : db.Unambiguous)
    (tenantId projectId norm : String)
    : db.callerMatches tenantId projectId norm = []
        ∨ ∃ entity, db.callerMatches tenantId projectId norm = [entity] := by
  have hnodup := db.callerMatches_nodup tenantId projectId norm
  have hmem : ∀ entity, entity ∈ db.callerMatches tenantId projectId norm
      → db.CallerName tenantId projectId norm entity.entityId :=
    fun entity hentity => (mem_callerMatches.mp hentity).2
  match hmatches : db.callerMatches tenantId projectId norm with
  | [] => exact .inl rfl
  | [entity] => exact .inr ⟨entity, rfl⟩
  | a :: b :: rest =>
    rw [hmatches] at hnodup hmem
    have hne := (List.pairwise_cons.mp hnodup).1 b (by simp)
    exact absurd (h.unique tenantId projectId (.inr (hmem a (by simp)))
      (.inr (hmem b (by simp)))) hne

end GraphDb

theorem names_of_resolve
    (h : resolveEntityBySurface text db tenantId projectId surface = .ok (some entity))
    : db.Names tenantId projectId (text.normalizeEntityName (trim surface)) entity.entityId := by
  unfold resolveEntityBySurface resolveEntityByCanonical at h
  dsimp only at h
  split at h
  . cases h
  . split at h
    next found hfound =>
      cases h
      exact .inl (GraphDb.canonicalName_of_find hfound)
    next =>
      split at h
      . cases h
      next found hfound =>
        cases h
        right
        apply (GraphDb.mem_callerMatches.mp _).2
        rw [hfound]
        simp
      . cases h

theorem not_names_of_resolve
    (h : resolveEntityBySurface text db tenantId projectId surface = .ok none) (id : Uuid)
    : ¬db.Names tenantId projectId (text.normalizeEntityName (trim surface)) id := by
  unfold resolveEntityBySurface resolveEntityByCanonical at h
  dsimp only at h
  split at h
  . cases h
  . split at h
    . cases h
    next hnone =>
      split at h
      next hmatches =>
        rintro (hcanonical | hcaller)
        . exact GraphDb.not_canonicalName_of_find hnone id hcanonical
        . rcases hcaller.2 with ⟨entity, hfind, -⟩
          have hid : entity.entityId = id := Table.key_of_find? hfind
          subst hid
          have hmem := GraphDb.mem_callerMatches.mpr ⟨hfind, hcaller⟩
          rw [hmatches] at hmem
          cases hmem
      . cases h
      . cases h

theorem resolve_isOk (text : GraphText) (h : db.Unambiguous) (tenantId projectId : String)
    (hsurface : trim surface ≠ "")
    : ∃ r, resolveEntityBySurface text db tenantId projectId surface = .ok r := by
  unfold resolveEntityBySurface resolveEntityByCanonical
  dsimp only
  rw [if_neg hsurface]
  split
  next found hfound => exact ⟨_, rfl⟩
  next =>
    rcases GraphDb.callerMatches_cases h tenantId projectId
      (text.normalizeEntityName (trim surface)) with hnil | ⟨entity, hone⟩
    . rw [hnil]
      exact ⟨_, rfl⟩
    . rw [hone]
      exact ⟨_, rfl⟩

theorem resolve_of_names {id : Uuid} (h : db.Unambiguous) (hsurface : trim surface ≠ "")
    (hnames : db.Names tenantId projectId (text.normalizeEntityName (trim surface)) id)
    : ∃ entity, resolveEntityBySurface text db tenantId projectId surface = .ok (some entity)
        ∧ entity.entityId = id := by
  rcases resolve_isOk text h tenantId projectId hsurface with ⟨r, hr⟩
  cases r with
  | none => exact absurd hnames (not_names_of_resolve hr id)
  | some entity => exact ⟨entity, hr, h.unique tenantId projectId (names_of_resolve hr) hnames⟩

end Elf
