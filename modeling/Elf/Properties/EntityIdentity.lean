import Elf.Graph.Lemmas.Ingestion

/-!
This module contains the identity of entities: which names a sequence of ingestions gives them, and
that no name comes to stand for two of them. Extraction may break this in one way, by creating an
entity under a name that a caller gave to another one as an alias.
-/

namespace Elf

open Text

variable {text : GraphText} {db db' : GraphDb} {id : Uuid}

/-- The canonical name of an entity that does not exist is a caller's alias of another one. -/
def StructuredEntity.shadows (text : GraphText) (db : GraphDb) (tenantId projectId : String)
    (entity : StructuredEntity) : Bool :=
  entity.entityId.isNone && entity.canonical.any fun canonical =>
    let norm := text.normalizeEntityName (trim canonical)
    (db.findCanonical tenantId projectId norm).isNone
      && !(db.callerMatches tenantId projectId norm).isEmpty

/-- No entity of an extraction shadows an alias of a caller. -/
def GraphIngestion.unshadowing (text : GraphText) (db : GraphDb) (req : GraphIngestion) : Bool :=
  req.authority = .caller
    || req.mentioned.all fun entity => !entity.shadows text db req.tenantId req.projectId

def Unshadowed (text : GraphText) (db : GraphDb) (req : GraphIngestion) : Prop :=
  req.unshadowing text db = true

/-- No entity has a name yet. -/
def GraphDb.Unnamed (db : GraphDb) : Prop :=
  db.entities = .empty ∧ db.entityAliases = .empty

theorem GraphDb.Unnamed.unambiguous (h : db.Unnamed) : db.Unambiguous := by
  constructor
  . intro e n he
    rw [h.2]
    rfl
  . rintro t p n d e (⟨entity, hfind, -⟩ | ⟨-, entity, hfind, -⟩) he
    . rw [h.1] at hfind
      cases hfind
    . rw [h.1] at hfind
      cases hfind

/-- What a caller's declaration is about, in the words of the caller. -/
def GraphDb.Declared (text : GraphText) (db : GraphDb) (tenantId projectId : String)
    (entity : StructuredEntity) (id : Uuid) : Prop :=
  match entity.entityId with
  | some known => entity.canonical.isSome ∧ known = id ∧ db.Placed tenantId projectId id
  | none => ∃ canonical, entity.canonical = some canonical
      ∧ ∀ surface ∈ canonical :: entity.aliases.getD [], trim surface ≠ ""
        ∧ db.Names tenantId projectId (text.normalizeEntityName (trim surface)) id

/-- Every name that stood for an entity still does. -/
structure GraphDb.Keeps (db db' : GraphDb) : Prop where
  names : ∀ t p n e, db.Names t p n e → db'.Names t p n e
  placed : ∀ t p e, db.Placed t p e → db'.Placed t p e

namespace GraphDb.Keeps

theorem refl (db : GraphDb) : db.Keeps db := ⟨fun _ _ _ _ h => h, fun _ _ _ h => h⟩

theorem trans (h : db₁.Keeps db₂) (h' : db₂.Keeps db₃) : GraphDb.Keeps db₁ db₃ where
  names t p n e hn := h'.names t p n e (h.names t p n e hn)
  placed t p e hp := h'.placed t p e (h.placed t p e hp)

theorem declared (h : db.Keeps db') (hdeclared : db.Declared text tenantId projectId entity id)
    : db'.Declared text tenantId projectId entity id := by
  unfold GraphDb.Declared at hdeclared ⊢
  split at hdeclared
  . exact ⟨hdeclared.1, hdeclared.2.1, h.placed _ _ _ hdeclared.2.2⟩
  . rcases hdeclared with ⟨canonical, hcanonical, hall⟩
    refine ⟨canonical, hcanonical, ?_⟩
    intro surface hsurface
    exact ⟨(hall surface hsurface).1, h.names _ _ _ _ (hall surface hsurface).2⟩

end GraphDb.Keeps

theorem placed_iff : db.Placed t p e ↔ ∃ n, db.CanonicalName t p n e := by
  constructor
  . rintro ⟨entity, hfind, htenant, hproject⟩
    exact ⟨entity.canonicalNorm, entity, hfind, htenant, hproject, rfl⟩
  . rintro ⟨n, entity, hfind, htenant, hproject, -⟩
    exact ⟨entity, hfind, htenant, hproject⟩

theorem GraphDb.Declares.keeps (h : db.Declares tenantId projectId id C A db') : db.Keeps db' where
  names t p n e hn := (h.names t p n e).mpr (.inl hn)
  placed t p e hp := by
    rw [placed_iff] at hp ⊢
    rcases hp with ⟨n, hn⟩
    exact ⟨n, (h.canonical t p n e).mpr (.inl hn)⟩

theorem GraphDb.SameNames.names (h : db.SameNames db') (t p n e)
    : db'.Names t p n e ↔ db.Names t p n e := by
  unfold Names CanonicalName CallerName
  rw [h.entities, h.entityAliases]

theorem GraphDb.SameNames.keeps (h : db.SameNames db') : db.Keeps db' where
  names t p n e hn := (h.names t p n e).mpr hn
  placed t p e hp := by
    unfold Placed
    rw [h.entities]
    exact hp

theorem GraphDb.SameNames.unambiguous (h : db.SameNames db') (hdb : db.Unambiguous)
    : db'.Unambiguous := by
  constructor
  . rw [h.entities, h.entityAliases]
    exact hdb.linked
  . intro t p n d e hd he
    rw [h.names] at hd he
    exact hdb.unique t p hd he

theorem callerMatches_isEmpty
    : (db.callerMatches t p n).isEmpty = false ↔ ∃ e, db.CallerName t p n e := by
  constructor
  . intro h
    rw [List.isEmpty_eq_false_iff_exists_mem] at h
    rcases h with ⟨entity, hentity⟩
    exact ⟨entity.entityId, (GraphDb.mem_callerMatches.mp hentity).2⟩
  . rintro ⟨e, hrow, entity, hfind, hplace⟩
    rw [List.isEmpty_eq_false_iff_exists_mem]
    have hid : entity.entityId = e := Table.key_of_find? hfind
    subst hid
    exact ⟨entity, GraphDb.mem_callerMatches.mpr ⟨hfind, hrow, entity, hfind, hplace⟩⟩

theorem nonblank_of_resolve
    (h : resolveEntityBySurface text db tenantId projectId surface = .ok found)
    : trim surface ≠ "" := by
  intro hblank
  unfold resolveEntityBySurface at h
  dsimp only at h
  rw [if_pos hblank] at h
  cases h

/-- A surface leads to `id`, or it stands for nothing. -/
theorem names_eq_of_resolveSurface (hdb : db.Unambiguous)
    (h : resolveSurface text db tenantId projectId surface .caller = .ok found)
    (hfound : ∀ entity, found = some entity → entity.entityId = id)
    : trim surface ≠ ""
      ∧ ∀ d, db.Names tenantId projectId (text.normalizeEntityName (trim surface)) d → d = id := by
  have h := Except.mapError_eq_ok.mp h
  refine ⟨nonblank_of_resolve h, ?_⟩
  intro d hd
  cases found with
  | none => exact absurd hd (not_names_of_resolve h d)
  | some entity =>
    rw [← hfound entity rfl]
    exact hdb.unique tenantId projectId hd (names_of_resolve h)

namespace DeclaredByNames

variable {C A : String → Prop} {canonical : String}

/-- The names that a declaration adds stood for no other entity, if it shadows no alias. -/
theorem free (hdb : db.Unambiguous)
    (h : DeclaredByNames text db tenantId projectId entity authority canonical id C A db')
    (hnone : entity.entityId = none) (hcanonical : entity.canonical = some canonical)
    (hguard : authority = .extracted → entity.shadows text db tenantId projectId = false)
    : ∀ n, C n ∨ A n → ∀ d, db.Names tenantId projectId n d → d = id := by
  intro n hn d hd
  cases authority with
  | caller =>
    have hsurface : ∃ surface ∈ entity.surfaces (trim canonical) .caller,
        n = text.normalizeEntityName (trim surface) := by
      rcases hn with hn | hn
      . refine ⟨trim canonical, (mem_surfaces_caller ..).mpr (.inl rfl), ?_⟩
        rw [trim_trim]
        exact (h.canonicalNames n hn).1
      . exact (h.callerNames n hn).2
    rcases hsurface with ⟨surface, hsurface, rfl⟩
    rcases h.found surface hsurface with ⟨found, hresolve, hentity⟩
    exact (names_eq_of_resolveSurface hdb hresolve hentity).2 d hd
  | extracted =>
    rcases hn with hn | hn
    . rcases h.canonicalNames n hn with ⟨rfl, hunknown⟩
      have hresolve := hunknown (trim canonical) (by simp [StructuredEntity.surfaces])
      have hfresh : db.findCanonical tenantId projectId
          (text.normalizeEntityName (trim canonical)) = none := by
        unfold resolveSurface resolveEntityByCanonical at hresolve
        simpa using hresolve
      have hshadow := hguard rfl
      unfold StructuredEntity.shadows at hshadow
      rw [hnone, hcanonical] at hshadow
      simp only [Option.isNone_none, Option.any_some, hfresh, Bool.true_and,
        Bool.not_eq_false'] at hshadow
      rcases hd with hd | hd
      . exact absurd hd (GraphDb.not_canonicalName_of_find hfresh d)
      . have hnonempty := callerMatches_isEmpty.mpr ⟨d, hd⟩
        rw [hshadow] at hnonempty
        cases hnonempty
    . cases (h.callerNames n hn).1

/-- A caller's declaration stands in the graph afterwards. -/
theorem declared
    (h : DeclaredByNames text db tenantId projectId entity .caller canonical id C A db')
    (hnone : entity.entityId = none) (hcanonical : entity.canonical = some canonical)
    : db'.Declared text tenantId projectId entity id := by
  unfold GraphDb.Declared
  rw [hnone]
  refine ⟨canonical, hcanonical, ?_⟩
  have hsurfaces : ∀ surface ∈ entity.surfaces (trim canonical) .caller, trim surface ≠ ""
      ∧ db'.Names tenantId projectId (text.normalizeEntityName (trim surface)) id := by
    intro surface hsurface
    rcases h.found surface hsurface with ⟨found, hresolve, -⟩
    refine ⟨nonblank_of_resolve (Except.mapError_eq_ok.mp hresolve), ?_⟩
    rw [h.declares.names]
    exact .inr ⟨rfl, rfl, rfl, h.covers rfl surface hsurface⟩
  intro surface hsurface
  rcases List.mem_cons.mp hsurface with rfl | hsurface
  . have hcanonical := hsurfaces (trim surface) ((mem_surfaces_caller ..).mpr (.inl rfl))
    rw [trim_trim] at hcanonical
    exact hcanonical
  . exact hsurfaces surface ((mem_surfaces_caller ..).mpr (.inr hsurface))

/-- An extracted declaration adds no alias that another one could shadow. -/
theorem unshadowed
    (h : DeclaredByNames text db tenantId projectId entity .extracted canonical id C A db')
    (other : StructuredEntity) (hother : other.shadows text db tenantId projectId = false)
    : other.shadows text db' tenantId projectId = false := by
  unfold StructuredEntity.shadows at hother ⊢
  rw [Bool.and_eq_false_imp] at hother ⊢
  intro hid
  have hother := hother hid
  cases hname : other.canonical with
  | none => rfl
  | some name =>
    rw [hname] at hother
    simp only [Option.any_some, Bool.and_eq_false_imp, Option.isNone_iff_eq_none,
      Bool.not_eq_false'] at hother ⊢
    intro hfresh
    have hold : db.findCanonical tenantId projectId (text.normalizeEntityName (trim name))
        = none := by
      cases hfind : db.findCanonical tenantId projectId
          (text.normalizeEntityName (trim name)) with
      | none => rfl
      | some found =>
        have hcanonical := (h.declares.canonical ..).mpr
          (.inl (GraphDb.canonicalName_of_find hfind))
        exact absurd hcanonical (GraphDb.not_canonicalName_of_find hfresh _)
    have hempty := hother hold
    by_contra hnonempty
    rw [Bool.not_eq_true] at hnonempty
    rcases callerMatches_isEmpty.mp hnonempty with ⟨e, he⟩
    rcases (h.declares.caller ..).mp he with he | ⟨-, -, -, hn⟩
    . rw [callerMatches_isEmpty.mpr ⟨e, he⟩] at hempty
      cases hempty
    . cases (h.callerNames _ hn).1

end DeclaredByNames

/-- What a declaration keeps and adds, when it does not shadow an alias. -/
theorem declare_sound (hdb : db.Unambiguous)
    (h : upsertGraphEntityAndAliases text draw tenantId projectId entity path authority db
      = .ok (id, db'))
    (hguard : authority = .extracted → entity.shadows text db tenantId projectId = false)
    : db'.Unambiguous ∧ db.Keeps db'
      ∧ (authority = .caller → db'.Declared text tenantId projectId entity id)
      ∧ (authority = .extracted → ∀ other : StructuredEntity,
        other.shadows text db tenantId projectId = false
          → other.shadows text db' tenantId projectId = false) := by
  rcases upsertGraphEntityAndAliases_cases hdb.linked h with
    ⟨hid, hcanonical, rfl, hplaced⟩ | ⟨canonical, C, A, hnone, hcanonical, hdeclared⟩
  . refine ⟨hdb, .refl db', ?_, fun _ _ hother => hother⟩
    intro _
    unfold GraphDb.Declared
    rw [hid]
    exact ⟨hcanonical, rfl, hplaced⟩
  . have hfree := hdeclared.free hdb hnone hcanonical hguard
    refine ⟨hdeclared.declares.unambiguous hdb hfree, hdeclared.declares.keeps, ?_, ?_⟩
    . rintro rfl
      exact hdeclared.declared hnone hcanonical
    . rintro rfl
      exact hdeclared.unshadowed

theorem GraphDb.SameNames.unshadowed (h : db.SameNames db') (entity : StructuredEntity)
    : entity.shadows text db' tenantId projectId = entity.shadows text db tenantId projectId := by
  unfold StructuredEntity.shadows findCanonical callerMatches
  rw [h.entities, h.entityAliases]

/-- What a run of declarations keeps and adds. -/
theorem names_run (hrun : Run (NameStep text req) db as db') (hdb : db.Unambiguous)
    (hguard : req.authority = .extracted → ∀ entity, some entity ∈ as →
      entity.shadows text db req.tenantId req.projectId = false)
    : db'.Unambiguous ∧ db.Keeps db'
      ∧ (req.authority = .caller → ∀ entity, some entity ∈ as →
        ∃ id, db'.Declared text req.tenantId req.projectId entity id) := by
  induction hrun with
  | nil db => exact ⟨hdb, .refl db, by simp⟩
  | cons head tail ih =>
    cases head with
    | declare h =>
      rcases declare_sound hdb h fun hauthority => hguard hauthority _ (by simp) with
        ⟨hmid, hkeeps, hdeclared, hshadows⟩
      rcases ih hmid (by
        intro hauthority entity hentity
        exact hshadows hauthority entity (hguard hauthority entity (by simp [hentity])))
        with ⟨hlast, hkeeps', hall⟩
      refine ⟨hlast, hkeeps.trans hkeeps', ?_⟩
      intro hauthority entity hentity
      rcases List.mem_cons.mp hentity with hentity | hentity
      . cases hentity
        exact ⟨_, hkeeps'.declared (hdeclared hauthority)⟩
      . exact hall hauthority entity hentity
    | other h =>
      rcases ih (h.unambiguous hdb) (by
        intro hauthority entity hentity
        rw [h.unshadowed]
        exact hguard hauthority entity (by simp [hentity]))
        with ⟨hlast, hkeeps', hall⟩
      refine ⟨hlast, h.keeps.trans hkeeps', ?_⟩
      intro hauthority entity hentity
      exact hall hauthority entity (by simpa using hentity)

/-- What an ingestion keeps and adds. -/
theorem ingestion_sound (hdb : db.Unambiguous) (hguard : req.unshadowing text db = true)
    (h : persistGraphFieldsTx text req db = .ok ((), db'))
    : db'.Unambiguous ∧ db.Keeps db'
      ∧ (req.authority = .caller → ∀ entity ∈ req.mentioned,
        ∃ id, db'.Declared text req.tenantId req.projectId entity id) := by
  rcases persistGraphFieldsTx_names h with ⟨as, hrun, hnamed⟩
  rcases names_run hrun hdb (by
    intro hauthority entity hentity
    unfold GraphIngestion.unshadowing at hguard
    rw [hauthority] at hguard
    simp only [reduceCtorEq, decide_false, Bool.false_or, List.all_eq_true, Bool.not_eq_true']
      at hguard
    exact hguard entity ((hnamed entity).mp hentity)) with ⟨hlast, hkeeps, hall⟩
  refine ⟨hlast, hkeeps, ?_⟩
  intro hauthority entity hentity
  exact hall hauthority entity ((hnamed entity).mpr hentity)

theorem ingests_sound (hdb : db.Unambiguous) (hguard : req.unshadowing text db = true)
    (h : Ingests text db req db') : db'.Unambiguous ∧ db.Keeps db' := by
  unfold Ingests at h
  rcases Transaction.next_cases (persistGraphFieldsTx text req) db with ⟨_, hok⟩ | ⟨err, -, hnext⟩
  . rw [h] at hok
    rcases ingestion_sound hdb hguard hok with ⟨hlast, hkeeps, -⟩
    exact ⟨hlast, hkeeps⟩
  . rw [← h, hnext]
    exact ⟨hdb, .refl db⟩

theorem ingests_run
    (hrun : Run (Run.Guarded (Unshadowed text) (Ingests text)) db as db')
    (hdb : db.Unambiguous) : db'.Unambiguous ∧ db.Keeps db' := by
  induction hrun with
  | nil db => exact ⟨hdb, .refl db⟩
  | cons head tail ih =>
    rcases ingests_sound hdb head.1 head.2 with ⟨hmid, hkeeps⟩
    rcases ih hmid with ⟨hlast, hkeeps'⟩
    exact ⟨hlast, hkeeps.trans hkeeps'⟩

/-! ## Declarations of callers -/

/-- Where only callers declare entities, no name comes to stand for two of them. -/
theorem caller_names_unambiguous (text : GraphText) (reqs : List GraphIngestion)
    (hnew : db.Unnamed) (hcaller : ∀ req ∈ reqs, req.authority = .caller)
    (hrun : Run (Ingests text) db reqs db')
    : (∀ tenantId projectId norm d e, db'.Names tenantId projectId norm d →
        db'.Names tenantId projectId norm e → d = e)
      ∧ (∀ tenantId projectId surface, trim surface ≠ "" →
        ∃ found, resolveEntityBySurface text db' tenantId projectId surface = .ok found)
      ∧ ∀ req err, persistGraphFieldsTx text req db' = .error err →
        (persistGraphFieldsTx text req).next db' = db' := by
  have hguarded : Run (Run.Guarded (Unshadowed text) (Ingests text))
      db reqs db' := by
    clear hnew
    induction hrun with
    | nil db => exact Run.nil db
    | cons head tail ih =>
      apply Run.cons
      . refine ⟨?_, head⟩
        unfold Unshadowed GraphIngestion.unshadowing
        rw [hcaller _ List.mem_cons_self]
        rfl
      . exact ih fun req hreq => hcaller req (by simp [hreq])
  have hdb' := (ingests_run hguarded hnew.unambiguous).1
  refine ⟨?_, ?_, ?_⟩
  . intro tenantId projectId norm d e hd he
    exact hdb'.unique tenantId projectId hd he
  . intro tenantId projectId surface hsurface
    exact resolve_isOk text hdb' tenantId projectId hsurface
  . intro req err herr
    exact Transaction.next_of_error herr

def declareAlice : GraphIngestion :=
  sampleIngestion 1 .caller [sampleEntity "Alice Example" ["AE"]] []

def afterAlice : GraphDb := (persistGraphFieldsTx asciiText declareAlice).next .empty

theorem caller_names_unambiguous_declareAlice
    : (∀ tenantId projectId norm d e, afterAlice.Names tenantId projectId norm d →
        afterAlice.Names tenantId projectId norm e → d = e)
      ∧ (∀ tenantId projectId surface, trim surface ≠ "" →
        ∃ found, resolveEntityBySurface asciiText afterAlice tenantId projectId surface = .ok found)
      ∧ ∀ req err, persistGraphFieldsTx asciiText req afterAlice = .error err →
        (persistGraphFieldsTx asciiText req).next afterAlice = afterAlice := by
  apply caller_names_unambiguous asciiText [declareAlice] (⟨rfl, rfl⟩ : GraphDb.empty.Unnamed)
  . intro req hreq
    rw [List.mem_singleton.mp hreq]
    rfl
  . exact Run.single rfl

/-! ## Extraction beside declarations of callers -/

theorem upsertAliases_succeeds (text : GraphText) (db : GraphDb) (id : Uuid) (path : String)
    (authority : EntityIdentityAuthority) (h : ∀ surface ∈ aliases, trim surface ≠ "") (idx : Nat)
    : ∃ db', upsertAliases text db id path authority aliases idx = .ok db' := by
  induction aliases generalizing db idx with
  | nil => exact ⟨db, rfl⟩
  | cons surface aliases ih =>
    unfold upsertAliases
    apply Except.exists_bind
    . refine ⟨(), Except.rejectIf_eq_ok.mpr ?_⟩
      have := h surface (by simp)
      simpa using this
    . intro _ _
      apply ih
      intro other hother
      exact h other (by simp [hother])

/-- Names of an entity lead to it again. -/
theorem resolveSurface_of_names (hdb : db.Unambiguous) (hsurface : trim surface ≠ "")
    (hnames : db.Names tenantId projectId (text.normalizeEntityName (trim surface)) id)
    : ∃ entity, resolveSurface text db tenantId projectId surface .caller = .ok (some entity)
        ∧ entity.entityId = id := by
  rcases resolve_of_names hdb hsurface hnames with ⟨entity, hresolve, hid⟩
  exact ⟨entity, Except.mapError_eq_ok.mpr hresolve, hid⟩

/-- A declaration that was accepted is accepted again. -/
theorem declaration_repeats (draw : GraphDraw) (path : String) (hdb : db.Unambiguous)
    (h : db.Declared text tenantId projectId entity id)
    : ∃ db', upsertGraphEntityAndAliases text draw tenantId projectId entity path .caller db
        = .ok (id, db') := by
  unfold GraphDb.Declared at h
  unfold upsertGraphEntityAndAliases
  cases hknown : entity.entityId with
  | some known =>
    rw [hknown] at h
    rcases h with ⟨hcanonical, rfl, row, hrow, htenant, hproject⟩
    rcases Option.isSome_iff_exists.mp hcanonical with ⟨canonical, hcanonical⟩
    have hexists : db.entities.rows.any (fun row => row.tenantId = tenantId
        && row.projectId = projectId && row.entityId = known) = true := by
      rw [List.any_eq_true]
      refine ⟨row, Table.mem_of_find? hrow, ?_⟩
      have hid : row.entityId = known := Table.key_of_find? hrow
      simp [htenant, hproject, hid]
    refine ⟨db, ?_⟩
    apply Except.bind_eq_ok.mpr
    refine ⟨canonical, Except.ofOption_eq_ok.mpr hcanonical, ?_⟩
    apply Except.bind_eq_ok.mpr
    refine ⟨(), Except.rejectIf_eq_ok.mpr ?_, rfl⟩
    rw [hexists]
    rfl
  | none =>
    rw [hknown] at h
    rcases h with ⟨canonical, hcanonical, hall⟩
    have hresolved : resolveSurfaces text db tenantId projectId path .caller
        (entity.surfaces (trim canonical) .caller) none = .ok (some id) := by
      apply resolveSurfaces_succeeds
      . intro surface hsurface
        rcases (mem_surfaces_caller ..).mp hsurface with rfl | hsurface
        . have hname := hall canonical (by simp)
          apply resolveSurface_of_names hdb
          . rw [trim_trim]
            exact hname.1
          . rw [trim_trim]
            exact hname.2
        . have hname := hall surface (by simp [hsurface])
          exact resolveSurface_of_names hdb hname.1 hname.2
      . exact .inl rfl
      . apply List.ne_nil_of_mem
        exact (mem_surfaces_caller entity (trim canonical) (trim canonical)).mpr (.inl rfl)
    have hblanks : ∀ surface ∈ entity.aliases.getD [], trim surface ≠ "" := by
      intro surface hsurface
      exact (hall surface (by simp [hsurface])).1
    rcases upsertAliases_succeeds text (upsertEntityAlias text db id (trim canonical) .caller) id
      path .caller hblanks 0 with ⟨db', haliases⟩
    refine ⟨db', ?_⟩
    apply Except.bind_eq_ok.mpr
    refine ⟨canonical, Except.ofOption_eq_ok.mpr hcanonical, ?_⟩
    apply Except.bind_eq_ok.mpr
    refine ⟨some id, hresolved, ?_⟩
    apply Except.bind_eq_ok.mpr
    refine ⟨_, rfl, ?_⟩
    apply Except.bind_eq_ok.mpr
    exact ⟨db', haliases, rfl⟩

/--
Where no extraction shadows an alias of a caller, the names that a caller declared go on to stand for
the entity that they were declared for, and the declaration can be repeated.
-/
theorem extraction_keeps_identity (text : GraphText) (before after : List GraphIngestion)
    (req : GraphIngestion) (entity : StructuredEntity) (hnew : db₀.Unnamed)
    (hbefore : Run (Run.Guarded (Unshadowed text) (Ingests text)) db₀ before db)
    (hcaller : req.authority = .caller)
    (hdeclared : persistGraphFieldsTx text req db = .ok ((), db₁))
    (hafter : Run (Run.Guarded (Unshadowed text) (Ingests text)) db₁ after db₂)
    (hentity : entity ∈ req.mentioned)
    : ∃ id,
      (entity.entityId = none → ∀ surface ∈ entity.canonical.toList ++ entity.aliases.getD [],
        (∃ found, resolveEntityBySurface text db₁ req.tenantId req.projectId surface = .ok (some found)
          ∧ found.entityId = id)
        ∧ ∃ found, resolveEntityBySurface text db₂ req.tenantId req.projectId surface = .ok (some found)
          ∧ found.entityId = id)
      ∧ ∀ draw path, ∃ db₃,
        upsertGraphEntityAndAliases text draw req.tenantId req.projectId entity path .caller db₂
          = .ok (id, db₃) := by
  have hdb := (ingests_run hbefore hnew.unambiguous).1
  have hguard : req.unshadowing text db = true := by
    unfold GraphIngestion.unshadowing
    rw [hcaller]
    rfl
  rcases ingestion_sound hdb hguard hdeclared with ⟨hdb₁, -, hall⟩
  rcases ingests_run hafter hdb₁ with ⟨hdb₂, hkeeps⟩
  rcases hall hcaller entity hentity with ⟨id, hid⟩
  have hid₂ := hkeeps.declared hid
  refine ⟨id, ?_, ?_⟩
  . intro hnone surface hsurface
    unfold GraphDb.Declared at hid hid₂
    rw [hnone] at hid hid₂
    rcases hid with ⟨canonical, hcanonical, hnames⟩
    rcases hid₂ with ⟨_, hsame, hnames₂⟩
    rw [hcanonical] at hsame hsurface
    cases hsame
    have hmem : surface ∈ canonical :: entity.aliases.getD [] := by simpa using hsurface
    constructor
    . exact resolve_of_names hdb₁ (hnames surface hmem).1 (hnames surface hmem).2
    . exact resolve_of_names hdb₂ (hnames₂ surface hmem).1 (hnames₂ surface hmem).2
  . intro draw path
    exact declaration_repeats draw path hdb₂ hid₂

def extractBob : GraphIngestion := sampleIngestion 2 .extracted [sampleEntity "Bob" ["AE"]] []

def afterBob : GraphDb := (persistGraphFieldsTx asciiText extractBob).next afterAlice

theorem extraction_keeps_identity_extractBob
    : ∃ id,
      (none = (none : Option Uuid) → ∀ surface ∈ ["Alice Example", "AE"],
        (∃ found, resolveEntityBySurface asciiText afterAlice "t" "p" surface = .ok (some found)
          ∧ found.entityId = id)
        ∧ ∃ found, resolveEntityBySurface asciiText afterBob "t" "p" surface = .ok (some found)
          ∧ found.entityId = id)
      ∧ ∀ draw path, ∃ db₃,
        upsertGraphEntityAndAliases asciiText draw "t" "p" (sampleEntity "Alice Example" ["AE"]) path
          .caller afterBob = .ok (id, db₃) := by
  apply extraction_keeps_identity asciiText [] [extractBob] declareAlice
    (sampleEntity "Alice Example" ["AE"]) (⟨rfl, rfl⟩ : GraphDb.empty.Unnamed) (Run.nil _) rfl
    (Transaction.eq_ok_next (by decide +kernel))
  . apply Run.single
    refine ⟨?_, rfl⟩
    unfold Unshadowed
    decide +kernel
  . exact List.mem_cons_self

/-- An extraction under the name `AE`, which a caller gave to another entity. -/
def extractAE : GraphIngestion := sampleIngestion 2 .extracted [sampleEntity "AE" []] []

def afterAE : GraphDb := (persistGraphFieldsTx asciiText extractAE).next afterAlice

theorem not_kept_extractAE
    : ¬∃ id,
      (none = (none : Option Uuid) → ∀ surface ∈ ["Alice Example", "AE"],
        (∃ found, resolveEntityBySurface asciiText afterAlice "t" "p" surface = .ok (some found)
          ∧ found.entityId = id)
        ∧ ∃ found, resolveEntityBySurface asciiText afterAE "t" "p" surface = .ok (some found)
          ∧ found.entityId = id)
      ∧ ∀ draw path, ∃ db₃,
        upsertGraphEntityAndAliases asciiText draw "t" "p" (sampleEntity "Alice Example" ["AE"]) path
          .caller afterAE = .ok (id, db₃) := by
  rintro ⟨id, hsurfaces, -⟩
  rcases hsurfaces rfl "AE" (by simp) with ⟨⟨alice, halice, hid⟩, other, hother, hid'⟩
  have hbefore : (resolveEntityBySurface asciiText afterAlice "t" "p" "AE").toOption.map
      (·.map (·.entityId)) = some (some 1022) := by decide +kernel
  have hafter : (resolveEntityBySurface asciiText afterAE "t" "p" "AE").toOption.map
      (·.map (·.entityId)) = some (some 2022) := by decide +kernel
  rw [halice] at hbefore
  rw [hother] at hafter
  simp only [Except.toOption, Option.map_some, Option.some.injEq] at hbefore hafter
  have hsame : (1022 : Uuid) = 2022 := by
    rw [← hbefore, ← hafter, hid, hid']
  exact absurd hsame (by decide)

end Elf
