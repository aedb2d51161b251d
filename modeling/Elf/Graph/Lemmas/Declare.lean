import Elf.Graph.Lemmas.Names
import Mathlib.Data.List.Dedup

/-!
This module contains what the declaration of an entity does to the names: which ones it adds, and
why every name still stands for one entity.
-/

namespace Elf

open Text

variable {text : GraphText} {db db' : GraphDb} {id : Uuid}

namespace GraphDb

def Placed (db : GraphDb) (tenantId projectId : String) (id : Uuid) : Prop :=
  ∃ entity, db.entities.find? id = some entity
    ∧ entity.tenantId = tenantId ∧ entity.projectId = projectId

def Linked (db : GraphDb) : Prop :=
  ∀ id norm, db.entities.find? id = none → db.entityAliases.find? (id, norm) = none

/-- The entity `id` got the canonical names `C` and the names `A` from a caller. -/
structure Declares (db : GraphDb) (tenantId projectId : String) (id : Uuid) (C A : String → Prop)
    (db' : GraphDb) : Prop where
  canonical : ∀ t p n e, db'.CanonicalName t p n e ↔
    db.CanonicalName t p n e ∨ (t = tenantId ∧ p = projectId ∧ e = id ∧ C n)
  caller : ∀ t p n e, db'.CallerName t p n e ↔
    db.CallerName t p n e ∨ (t = tenantId ∧ p = projectId ∧ e = id ∧ A n)
  linked : db'.Linked
  placed : db'.Placed tenantId projectId id

namespace Declares

theorem refl (hlinked : db.Linked) (hplaced : db.Placed tenantId projectId id)
    : db.Declares tenantId projectId id (fun _ => False) (fun _ => False) db where
  canonical := by simp
  caller := by simp
  linked := hlinked
  placed := hplaced

theorem trans {db₁ db₂ db₃ : GraphDb} (h : db₁.Declares tenantId projectId id C A db₂)
    (h' : db₂.Declares tenantId projectId id C' A' db₃)
    : db₁.Declares tenantId projectId id (fun n => C n ∨ C' n) (fun n => A n ∨ A' n) db₃ where
  canonical := by
    intro t p n e
    rw [h'.canonical, h.canonical]
    tauto
  caller := by
    intro t p n e
    rw [h'.caller, h.caller]
    tauto
  linked := h'.linked
  placed := h'.placed

theorem names (h : db.Declares tenantId projectId id C A db') (t p n e)
    : db'.Names t p n e ↔
        db.Names t p n e ∨ (t = tenantId ∧ p = projectId ∧ e = id ∧ (C n ∨ A n)) := by
  unfold Names
  rw [h.canonical, h.caller]
  tauto

theorem congr (h : db.Declares tenantId projectId id C A db')
    (hC : ∀ n, C n ↔ C' n) (hA : ∀ n, A n ↔ A' n)
    : db.Declares tenantId projectId id C' A' db' where
  canonical := by
    intro t p n e
    rw [h.canonical, hC]
  caller := by
    intro t p n e
    rw [h.caller, hA]
  linked := h.linked
  placed := h.placed

/-- Names that stood for no other entity may be added. -/
theorem unambiguous (h : db.Declares tenantId projectId id C A db')
    (hdb : db.Unambiguous)
    (hfree : ∀ n, C n ∨ A n → ∀ d, db.Names tenantId projectId n d → d = id)
    : db'.Unambiguous := by
  refine ⟨h.linked, ?_⟩
  intro t p n d e hd he
  rw [h.names] at hd he
  rcases hd with hd | ⟨rfl, rfl, rfl, hn⟩
  . rcases he with he | ⟨rfl, rfl, rfl, hn⟩
    . exact hdb.unique t p hd he
    . exact hfree n hn d hd
  . rcases he with he | ⟨-, -, rfl, -⟩
    . exact (hfree n hn e he).symm
    . rfl

end Declares

/-- A row for the entity `id` adds its normalised name, if it keeps what the row before it said. -/
theorem declares_of_entities {entities : Table GraphEntity GraphEntity.entityId} {row : GraphEntity}
    (hlinked : db.Linked)
    (hfind : ∀ e, entities.find? e = if row.entityId = e then some row else db.entities.find? e)
    (hkeeps : ∀ old, db.entities.find? row.entityId = some old →
      old.tenantId = row.tenantId ∧ old.projectId = row.projectId
        ∧ old.canonicalNorm = row.canonicalNorm)
    : db.Declares row.tenantId row.projectId row.entityId (fun n => n = row.canonicalNorm)
        (fun _ => False) { db with entities } := by
  constructor
  . intro t p n e
    unfold CanonicalName
    simp only [hfind]
    split
    next he =>
      subst he
      simp only [Option.some.injEq, exists_eq_left', true_and]
      constructor
      . rintro ⟨rfl, rfl, rfl⟩
        exact .inr ⟨rfl, rfl, rfl⟩
      . rintro (⟨old, hold, rfl, rfl, rfl⟩ | ⟨rfl, rfl, rfl⟩)
        . rcases hkeeps old hold with ⟨htenant, hproject, hnorm⟩
          exact ⟨htenant.symm, hproject.symm, hnorm.symm⟩
        . exact ⟨rfl, rfl, rfl⟩
    next he =>
      constructor
      . intro hname
        exact .inl hname
      . rintro (hname | ⟨-, -, rfl, -⟩)
        . exact hname
        . exact absurd rfl he
  . intro t p n e
    unfold CallerName
    simp only [hfind, and_false, or_false]
    split
    next he =>
      subst he
      cases hold : db.entities.find? row.entityId with
      | none =>
        rw [hlinked _ n hold]
        simp
      | some old =>
        rcases hkeeps old hold with ⟨htenant, hproject, -⟩
        simp [htenant, hproject]
    next => rfl
  . intro e n he
    dsimp only at he
    rw [hfind] at he
    split at he
    . cases he
    . exact hlinked e n he
  . exact ⟨row, by dsimp only; rw [hfind, if_pos rfl], rfl, rfl⟩

end GraphDb

theorem upsertEntity_declares (hlinked : db.Linked)
    (h : upsertEntity text db fresh tenantId projectId canonical kind = .ok (id, db'))
    : db.Declares tenantId projectId id (fun n => n = text.normalizeEntityName canonical)
        (fun _ => False) db' := by
  unfold upsertEntity at h
  dsimp only at h
  split at h
  next existing hexisting =>
    simp only [Except.ok.injEq, Prod.mk.injEq] at h
    rcases h with ⟨rfl, rfl⟩
    rcases GraphDb.canonicalName_of_find hexisting with ⟨row, hrow, rfl, rfl, hnorm⟩
    have hid := Table.key_of_find? hrow
    rw [← hnorm, ← hid]
    apply @GraphDb.declares_of_entities db _ { row with canonical, kind := kind <|> row.kind } hlinked
    . intro e
      rw [Table.find?_modify_of_find? (hid ▸ hrow)]
    . intro old hold
      dsimp only at hold
      rw [hid, hrow] at hold
      cases hold
      exact ⟨rfl, rfl, rfl⟩
  next hnone =>
    rcases Except.bind_eq_ok.mp h with ⟨entities, hinsert, hpure⟩
    have hinsert := Table.insert_eq_ok.mp hinsert
    have hresult := Except.pure_eq_ok.mp hpure
    simp only [Prod.mk.injEq] at hresult
    rcases hresult with ⟨rfl, rfl⟩
    apply GraphDb.declares_of_entities hlinked (Table.find?_insert? hinsert)
    intro old hold
    rw [Table.insert?_fresh hinsert] at hold
    cases hold

theorem find?_upsertEntityAlias (text : GraphText) (db : GraphDb) (id : Uuid) (surface : String)
    (authority : AliasAuthority) (e : Uuid) (n : String)
    : (upsertEntityAlias text db id surface authority).entityAliases.find? (e, n)
        =
      if id = e ∧ text.normalizeEntityName surface = n then
        some (((db.entityAliases.find? (e, n)).map fun row =>
          { row with
            aliasSurface := surface
            authority := if row.authority = .caller then .caller else authority }).getD
          ⟨id, surface, text.normalizeEntityName surface, authority⟩)
      else
        db.entityAliases.find? (e, n) := by
  refine (Table.find?_upsert db.entityAliases _ _ _ (e, n)).trans ?_
  have href : GraphEntityAlias.ref ⟨id, surface, text.normalizeEntityName surface, authority⟩ = (e, n)
      ↔ id = e ∧ text.normalizeEntityName surface = n := Prod.mk.injEq .. ▸ Iff.rfl
  simp only [href]

theorem callerRow_upsertEntityAlias (text : GraphText) (db : GraphDb) (id : Uuid) (surface : String)
    (authority : AliasAuthority) (e : Uuid) (n : String)
    : (∃ row, (upsertEntityAlias text db id surface authority).entityAliases.find? (e, n) = some row
          ∧ row.authority = .caller)
        ↔ (∃ row, db.entityAliases.find? (e, n) = some row ∧ row.authority = .caller)
          ∨ (e = id ∧ authority = .caller ∧ n = text.normalizeEntityName surface) := by
  rw [find?_upsertEntityAlias]
  split
  next hkey =>
    rcases hkey with ⟨rfl, rfl⟩
    cases db.entityAliases.find? (id, text.normalizeEntityName surface) with
    | none => simp
    | some row =>
      by_cases hcaller : row.authority = .caller
      . simp [hcaller]
      . simp [hcaller]
  next hkey =>
    constructor
    . intro hrow
      exact .inl hrow
    . rintro (hrow | ⟨rfl, -, rfl⟩)
      . exact hrow
      . exact absurd ⟨rfl, rfl⟩ hkey

theorem upsertEntityAlias_declares (text : GraphText) (surface : String) (authority : AliasAuthority)
    (hlinked : db.Linked)
    (hplaced : db.Placed tenantId projectId id)
    : db.Declares tenantId projectId id (fun _ => False)
        (fun n => authority = .caller ∧ n = text.normalizeEntityName surface)
        (upsertEntityAlias text db id surface authority) := by
  constructor
  . intro t p n e
    simp only [and_false, or_false]
    rfl
  . intro t p n e
    unfold GraphDb.CallerName
    rw [callerRow_upsertEntityAlias]
    rcases hplaced with ⟨entity, hentity, htenant, hproject⟩
    constructor
    . rintro ⟨hrow | ⟨rfl, hnew⟩, other, hother, rfl, rfl⟩
      . exact .inl ⟨hrow, other, hother, rfl, rfl⟩
      . have hsame : other = entity := Option.some.inj (hother.symm.trans hentity)
        subst hsame
        exact .inr ⟨htenant, hproject, rfl, hnew⟩
    . rintro (⟨hrow, hold⟩ | ⟨rfl, rfl, rfl, hnew⟩)
      . exact ⟨.inl hrow, hold⟩
      . exact ⟨.inr ⟨rfl, hnew⟩, entity, hentity, htenant, hproject⟩
  . intro e n he
    rw [find?_upsertEntityAlias, if_neg]
    . exact hlinked e n he
    . rintro ⟨rfl, -⟩
      rcases hplaced with ⟨entity, hentity, -⟩
      exact absurd (hentity.symm.trans he) (by simp)
  . exact hplaced

theorem aliasAuthority_eq_caller (authority : EntityIdentityAuthority)
    : authority.aliasAuthority = .caller ↔ authority = .caller := by
  cases authority with
  | caller => simp [EntityIdentityAuthority.aliasAuthority]
  | extracted => simp [EntityIdentityAuthority.aliasAuthority]

theorem upsertAliases_declares (hlinked : db.Linked) (hplaced : db.Placed tenantId projectId id)
    (h : upsertAliases text db id path authority aliases idx = .ok db')
    : (∀ surface ∈ aliases, trim surface ≠ "")
      ∧ db.Declares tenantId projectId id (fun _ => False)
        (fun n => authority = .caller
          ∧ ∃ surface ∈ aliases, n = text.normalizeEntityName (trim surface)) db' := by
  induction aliases generalizing db idx with
  | nil =>
    cases h
    refine ⟨by simp, ?_⟩
    apply (GraphDb.Declares.refl hlinked hplaced).congr
    . simp
    . simp
  | cons surface aliases ih =>
    unfold upsertAliases at h
    rcases Except.bind_eq_ok.mp h with ⟨_, hblank, hrest⟩
    have hblank := Except.rejectIf_eq_ok.mp hblank
    have hfirst := upsertEntityAlias_declares text (trim surface) authority.aliasAuthority hlinked hplaced
    rcases ih hfirst.linked hfirst.placed hrest with ⟨hblanks, hdeclares⟩
    constructor
    . intro other hother
      rcases List.mem_cons.mp hother with rfl | hother
      . simpa using hblank
      . exact hblanks other hother
    . apply (hfirst.trans hdeclares).congr
      . simp
      . intro n
        rw [aliasAuthority_eq_caller, ← and_or_left]
        simp only [List.mem_cons, exists_eq_or_imp]

theorem mem_surfaces_caller (entity : StructuredEntity) (canonical surface : String)
    : surface ∈ entity.surfaces canonical .caller
        ↔ surface = canonical ∨ surface ∈ entity.aliases.getD [] := by
  unfold StructuredEntity.surfaces
  rw [List.mem_dedup, List.mem_insertionSort, List.mem_cons]

theorem resolveSurfaces_eq_ok
    (h : resolveSurfaces text db tenantId projectId path authority surfaces resolved = .ok r)
    : (∀ surface ∈ surfaces, ∃ found,
        resolveSurface text db tenantId projectId surface authority = .ok found
          ∧ ∀ entity, found = some entity → r = some entity.entityId)
      ∧ (∀ known, resolved = some known → r = some known)
      ∧ (r = resolved ∨ ∃ surface ∈ surfaces, ∃ entity,
          resolveSurface text db tenantId projectId surface authority = .ok (some entity)
            ∧ r = some entity.entityId) := by
  induction surfaces generalizing resolved with
  | nil =>
    cases h
    exact ⟨by simp, fun _ hknown => hknown, .inl rfl⟩
  | cons surface surfaces ih =>
    unfold resolveSurfaces at h
    rcases Except.bind_eq_ok.mp h with ⟨found, hfound, hrest⟩
    cases found with
    | none =>
      rcases ih hrest with ⟨hall, hknown, horigin⟩
      refine ⟨?_, hknown, ?_⟩
      . intro other hother
        rcases List.mem_cons.mp hother with rfl | hother
        . exact ⟨none, hfound, by simp⟩
        . exact hall other hother
      . rcases horigin with horigin | ⟨other, hother, horigin⟩
        . exact .inl horigin
        . exact .inr ⟨other, List.mem_cons_of_mem _ hother, horigin⟩
    | some existing =>
      rcases Except.bind_eq_ok.mp hrest with ⟨_, hconflict, hrest⟩
      have hconflict := Except.rejectIf_eq_ok.mp hconflict
      rcases ih hrest with ⟨hall, hknown, horigin⟩
      have hr := hknown _ rfl
      refine ⟨?_, ?_, ?_⟩
      . intro other hother
        rcases List.mem_cons.mp hother with rfl | hother
        . refine ⟨some existing, hfound, ?_⟩
          intro entity hentity
          cases hentity
          exact hr
        . exact hall other hother
      . intro known hsome
        subst hsome
        simp only [Option.any_some, decide_not, Bool.not_eq_false', decide_eq_true_eq] at hconflict
        rw [hr, hconflict]
      . exact .inr ⟨surface, by simp, existing, hfound, hr⟩

/-- The surfaces that lead to one entity, or to none, resolve. -/
theorem resolveSurfaces_succeeds
    (h : ∀ surface ∈ surfaces, ∃ entity,
      resolveSurface text db tenantId projectId surface authority = .ok (some entity)
        ∧ entity.entityId = id)
    (hresolved : resolved = none ∨ resolved = some id) (hsurfaces : surfaces ≠ [])
    : resolveSurfaces text db tenantId projectId path authority surfaces resolved
        = .ok (some id) := by
  have hsome : ∀ surfaces : List String,
      (∀ surface ∈ surfaces, ∃ entity,
        resolveSurface text db tenantId projectId surface authority = .ok (some entity)
          ∧ entity.entityId = id)
      → resolveSurfaces text db tenantId projectId path authority surfaces (some id)
          = .ok (some id) := by
    intro surfaces hall
    induction surfaces with
    | nil => rfl
    | cons surface surfaces ih =>
      unfold resolveSurfaces
      rcases hall surface (by simp) with ⟨entity, hentity, rfl⟩
      rw [hentity]
      apply Except.bind_eq_ok.mpr
      refine ⟨_, rfl, ?_⟩
      apply Except.bind_eq_ok.mpr
      refine ⟨(), Except.rejectIf_eq_ok.mpr (by simp), ?_⟩
      exact ih fun other hother => hall other (List.mem_cons_of_mem _ hother)
  rcases hresolved with rfl | rfl
  . match surfaces, hsurfaces with
    | surface :: surfaces, _ =>
      unfold resolveSurfaces
      rcases h surface (by simp) with ⟨entity, hentity, rfl⟩
      rw [hentity]
      apply Except.bind_eq_ok.mpr
      refine ⟨_, rfl, ?_⟩
      apply Except.bind_eq_ok.mpr
      refine ⟨(), Except.rejectIf_eq_ok.mpr (by simp), ?_⟩
      exact hsome surfaces fun other hother => h other (List.mem_cons_of_mem _ hother)
  . exact hsome surfaces h

theorem placed_of_names {norm : String} (h : db.Names tenantId projectId norm id)
    : db.Placed tenantId projectId id := by
  rcases h with ⟨entity, hfind, htenant, hproject, -⟩ | ⟨-, entity, hfind, hplace⟩
  . exact ⟨entity, hfind, htenant, hproject⟩
  . exact ⟨entity, hfind, hplace⟩

/-- What a surface leads to is named by it. -/
theorem names_of_resolveSurface
    (h : resolveSurface text db tenantId projectId surface authority = .ok (some entity))
    : ∃ norm, db.Names tenantId projectId norm entity.entityId := by
  cases authority with
  | caller =>
    unfold resolveSurface at h
    cases hr : resolveEntityBySurface text db tenantId projectId surface with
    | error err =>
      rw [hr] at h
      cases h
    | ok found =>
      rw [hr] at h
      cases h
      exact ⟨_, names_of_resolve hr⟩
  | extracted =>
    unfold resolveSurface resolveEntityByCanonical at h
    simp only [Except.ok.injEq] at h
    exact ⟨_, .inl (GraphDb.canonicalName_of_find h)⟩

/-- The entity `id` is declared under its names, which led to no other entity. -/
structure DeclaredByNames (text : GraphText) (db : GraphDb) (tenantId projectId : String)
    (entity : StructuredEntity) (authority : EntityIdentityAuthority) (canonical : String) (id : Uuid)
    (C A : String → Prop) (db' : GraphDb) : Prop where
  blanks : ∀ surface ∈ entity.aliases.getD [], trim surface ≠ ""
  found : ∀ surface ∈ entity.surfaces (trim canonical) authority, ∃ found,
    resolveSurface text db tenantId projectId surface authority = .ok found
      ∧ ∀ entity, found = some entity → entity.entityId = id
  canonicalNames : ∀ n, C n → n = text.normalizeEntityName (trim canonical)
    ∧ ∀ surface ∈ entity.surfaces (trim canonical) authority,
      resolveSurface text db tenantId projectId surface authority = .ok none
  callerNames : ∀ n, A n → authority = .caller
    ∧ ∃ surface ∈ entity.surfaces (trim canonical) .caller,
      n = text.normalizeEntityName (trim surface)
  covers : authority = .caller → ∀ surface ∈ entity.surfaces (trim canonical) .caller,
    C (text.normalizeEntityName (trim surface)) ∨ A (text.normalizeEntityName (trim surface))
  declares : db.Declares tenantId projectId id C A db'

/-- An entity that some of the names led to gets all of them. -/
theorem declaredByNames_of_known {canonical : String} (hlinked : db.Linked)
    (hall : ∀ surface ∈ entity.surfaces (trim canonical) authority, ∃ found,
      resolveSurface text db tenantId projectId surface authority = .ok found
        ∧ ∀ entity, found = some entity → entity.entityId = id)
    (hplaced : db.Placed tenantId projectId id)
    (haliases : upsertAliases text (upsertEntityAlias text db id (trim canonical)
      authority.aliasAuthority) id path authority (entity.aliases.getD []) 0 = .ok db')
    : ∃ C A, DeclaredByNames text db tenantId projectId entity authority canonical id C A db' := by
  have hfirst := upsertEntityAlias_declares text (trim canonical) authority.aliasAuthority hlinked hplaced
  rcases upsertAliases_declares hfirst.linked hfirst.placed haliases with ⟨hblanks, hrest⟩
  refine ⟨_, _, hblanks, hall, ?_, ?_, ?_, hfirst.trans hrest⟩
  . simp
  . rintro n (⟨hcaller, rfl⟩ | ⟨hcaller, surface, hsurface, rfl⟩)
    . refine ⟨(aliasAuthority_eq_caller authority).mp hcaller, trim canonical, ?_, ?_⟩
      . exact (mem_surfaces_caller ..).mpr (.inl rfl)
      . rw [trim_trim]
    . exact ⟨hcaller, surface, (mem_surfaces_caller ..).mpr (.inr hsurface), rfl⟩
  . intro hcaller surface hsurface
    right
    rcases (mem_surfaces_caller ..).mp hsurface with rfl | hsurface
    . left
      rw [trim_trim]
      exact ⟨(aliasAuthority_eq_caller authority).mpr hcaller, rfl⟩
    . right
      exact ⟨hcaller, surface, hsurface, rfl⟩

/-- Names that led to no entity become those of a new one. -/
theorem declaredByNames_of_unknown {canonical : String} {entityId : Uuid} {mid : GraphDb}
    (hlinked : db.Linked)
    (hunknown : ∀ surface ∈ entity.surfaces (trim canonical) authority,
      resolveSurface text db tenantId projectId surface authority = .ok none)
    (hentity : upsertEntity text db entityId tenantId projectId (trim canonical) entity.kind
      = .ok (id, mid))
    (haliases : upsertAliases text mid id path authority (entity.aliases.getD []) 0 = .ok db')
    : ∃ C A, DeclaredByNames text db tenantId projectId entity authority canonical id C A db' := by
  have hfirst := upsertEntity_declares hlinked hentity
  rcases upsertAliases_declares hfirst.linked hfirst.placed haliases with ⟨hblanks, hrest⟩
  refine ⟨_, _, hblanks, ?_, ?_, ?_, ?_, hfirst.trans hrest⟩
  . intro surface hsurface
    exact ⟨none, hunknown surface hsurface, by simp⟩
  . rintro n (rfl | hfalse)
    . exact ⟨rfl, hunknown⟩
    . cases hfalse
  . rintro n (hfalse | ⟨hcaller, surface, hsurface, rfl⟩)
    . cases hfalse
    . exact ⟨hcaller, surface, (mem_surfaces_caller ..).mpr (.inr hsurface), rfl⟩
  . intro hcaller surface hsurface
    rcases (mem_surfaces_caller ..).mp hsurface with rfl | hsurface
    . left
      left
      rw [trim_trim]
    . right
      right
      exact ⟨hcaller, surface, hsurface, rfl⟩

/-- What a declaration does: it selects an entity, or it adds names that led to no other entity. -/
theorem upsertGraphEntityAndAliases_cases (hlinked : db.Linked)
    (h : upsertGraphEntityAndAliases text draw tenantId projectId entity path authority db
      = .ok (id, db'))
    : (entity.entityId = some id ∧ entity.canonical.isSome ∧ db' = db
        ∧ db.Placed tenantId projectId id)
      ∨ ∃ canonical C A, entity.entityId = none ∧ entity.canonical = some canonical
        ∧ DeclaredByNames text db tenantId projectId entity authority canonical id C A db' := by
  unfold upsertGraphEntityAndAliases at h
  rcases Except.bind_eq_ok.mp h with ⟨canonical, hcanonical, h⟩
  have hcanonical := Except.ofOption_eq_ok.mp hcanonical
  dsimp only at h
  split at h
  next known hknown =>
    left
    rcases Except.bind_eq_ok.mp h with ⟨_, hexists, h⟩
    have hexists := Except.rejectIf_eq_ok.mp hexists
    have hresult := Except.pure_eq_ok.mp h
    simp only [Prod.mk.injEq] at hresult
    rcases hresult with ⟨rfl, rfl⟩
    simp only [Bool.not_eq_false', List.any_eq_true, Bool.and_eq_true, decide_eq_true_eq] at hexists
    rcases hexists with ⟨row, hrow, ⟨htenant, hproject⟩, rfl⟩
    exact ⟨hknown, by simp [hcanonical], rfl, row, db'.entities.find?_key hrow, htenant, hproject⟩
  next hnone =>
    right
    rcases Except.bind_eq_ok.mp h with ⟨resolved, hresolved, h⟩
    rcases resolveSurfaces_eq_ok hresolved with ⟨hall, -, horigin⟩
    cases resolved with
    | some known =>
      rcases Except.bind_eq_ok.mp h with ⟨_, hmid, h⟩
      cases hmid
      rcases Except.bind_eq_ok.mp h with ⟨db'', haliases, h⟩
      have hresult := Except.pure_eq_ok.mp h
      simp only [Prod.mk.injEq] at hresult
      rcases hresult with ⟨rfl, rfl⟩
      have hplaced : db.Placed tenantId projectId id := by
        rcases horigin with horigin | ⟨surface, -, existing, hexisting, hr⟩
        . cases horigin
        . rcases names_of_resolveSurface hexisting with ⟨norm, hnames⟩
          cases hr
          exact placed_of_names hnames
      have hfound : ∀ surface ∈ entity.surfaces (trim canonical) authority, ∃ found,
          resolveSurface text db tenantId projectId surface authority = .ok found
            ∧ ∀ entity, found = some entity → entity.entityId = id := by
        intro surface hsurface
        rcases hall surface hsurface with ⟨found, hfound, hid⟩
        exact ⟨found, hfound, fun entity hentity => (Option.some.inj (hid entity hentity)).symm⟩
      rcases declaredByNames_of_known hlinked hfound hplaced haliases with ⟨C, A, hdeclared⟩
      exact ⟨canonical, C, A, hnone, hcanonical, hdeclared⟩
    | none =>
      rcases Except.bind_eq_ok.mp h with ⟨⟨found, mid⟩, hmid, h⟩
      rcases Except.bind_eq_ok.mp h with ⟨db'', haliases, h⟩
      have hresult := Except.pure_eq_ok.mp h
      simp only [Prod.mk.injEq] at hresult
      rcases hresult with ⟨rfl, rfl⟩
      have hunknown : ∀ surface ∈ entity.surfaces (trim canonical) authority,
          resolveSurface text db tenantId projectId surface authority = .ok none := by
        intro surface hsurface
        rcases hall surface hsurface with ⟨found, hfound, hid⟩
        cases found with
        | none => exact hfound
        | some entity => cases hid entity rfl
      rcases declaredByNames_of_unknown hlinked hunknown (Except.mapError_eq_ok.mp hmid) haliases with
        ⟨C, A, hdeclared⟩
      exact ⟨canonical, C, A, hnone, hcanonical, hdeclared⟩

end Elf
