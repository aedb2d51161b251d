import Elf.Graph.Lemmas.Facts

/-!
This module contains when a relation that is ingested again adds nothing: the indexes that make facts
unique have only the facts without an end, so that a relation with an end, or one whose fact has been
superseded since, is stored a second time.
-/

namespace Elf

variable {text : GraphText} {db db' db'' : GraphDb} {target : RelationTarget} {req : GraphIngestion}
variable {idx : Nat} {relation : StructuredRelation}

/-! ## The records of a relation -/

/-- What the unique indexes of the facts say: of the facts that have no end no two are equal. -/
def GraphDb.OneOpenFact (db : GraphDb) : Prop :=
  ∀ fact ∈ db.facts, ∀ other ∈ db.facts, fact.sameActive other = true → fact = other

/-- The note is recorded as evidence of the fact. -/
def GraphDb.RestsOn (db : GraphDb) (factId noteId : Uuid) : Prop :=
  ∃ row ∈ db.evidence, row.ref = (factId, noteId)

/-- No fact is stored or ended, and nothing is recorded about the facts that there are. -/
structure GainsNothing (db db' : GraphDb) : Prop where
  facts : db'.facts = db.facts
  evidence : ∀ row ∈ db'.evidence, db.RestsOn row.factId row.noteId
  supersessions : db'.supersessions = db.supersessions

theorem sameActive_trans {fact a b : GraphFact} (ha : fact.sameActive a = true)
    (hb : fact.sameActive b = true) : a.sameActive b = true := by
  rw [sameActive_iff] at ha hb ⊢
  rcases ha with ⟨-, hopen, hkey, hentity, hvalue, hfrom⟩
  rcases hb with ⟨-, hopen', hkey', hentity', hvalue', hfrom'⟩
  exact ⟨hopen, hopen', hkey.symm.trans hkey', hentity.symm.trans hentity',
    hvalue.symm.trans hvalue', hfrom.symm.trans hfrom'⟩

theorem upsertFactWithEvidence_records (h : upsertFactWithEvidence fact [noteId] db = .ok (factId, db'))
    : db'.evidence = (db.evidence.upsert ⟨factId, noteId, none⟩ fun row => row)
      ∧ db'.supersessions = db.supersessions := by
  unfold upsertFactWithEvidence at h
  rcases Except.bind_eq_ok.mp h with ⟨_, -, h⟩
  rcases Except.bind_eq_ok.mp h with ⟨_, -, h⟩
  rcases Except.bind_eq_ok.mp h with ⟨_, -, h⟩
  split at h
  . cases h
    exact ⟨rfl, rfl⟩
  . rcases Except.bind_eq_ok.mp h with ⟨facts, -, hpure⟩
    cases hpure
    exact ⟨rfl, rfl⟩

theorem recordSupersessions_evidence (db : GraphDb) (key : FactKey) (toFactId noteId : Uuid)
    (effectiveAt : Int) (superseded : List Uuid)
    : (recordSupersessions db key toFactId noteId effectiveAt superseded).evidence = db.evidence := by
  induction superseded generalizing db with
  | nil => rfl
  | cons fromFactId superseded ih =>
    unfold recordSupersessions
    dsimp only
    rw [ih]

/-- Where there is nothing to end, nothing is done. -/
theorem supersedeConflictingActiveFacts_of_none
    (h : ∀ fact ∈ db.facts, fact.superseded key toFactId effectiveAt = false)
    : supersedeConflictingActiveFacts db key toFactId noteId effectiveAt = db := by
  have hnone : (db.facts.rows.filter fun fact => fact.superseded key toFactId effectiveAt) = [] := by
    rw [List.filter_eq_nil_iff]
    intro fact hfact
    rw [h fact hfact]
    decide
  have hfacts : (db.facts.updateWhere (fun fact => fact.superseded key toFactId effectiveAt)
      (fun fact => { fact with validTo := some effectiveAt }) (factId_ended effectiveAt))
        = db.facts := by
    apply Table.ext
    rw [Table.rows_updateWhere]
    calc
      db.facts.rows.map (fun fact => if fact.superseded key toFactId effectiveAt then
          { fact with validTo := some effectiveAt } else fact)
      _ = db.facts.rows.map id := by
        apply List.map_congr_left
        intro fact hfact
        rw [h fact hfact]
        rfl
      _ = db.facts.rows := List.map_id _
  unfold supersedeConflictingActiveFacts
  dsimp only
  rw [hnone, hfacts]
  rfl

theorem restsOn_iff (factId noteId : Uuid)
    : db.RestsOn factId noteId ↔ (db.evidence.find? (factId, noteId)).isSome = true := by
  unfold GraphDb.RestsOn
  rw [Option.isSome_iff_exists]
  constructor
  . rintro ⟨row, hrow, href⟩
    exact ⟨row, (Table.find?_eq_some_iff ..).mpr ⟨hrow, href⟩⟩
  . rintro ⟨row, hrow⟩
    exact ⟨row, (Table.find?_eq_some_iff ..).mp hrow⟩

theorem restsOn_setEvidenceQuoteIfPresent (db : GraphDb) (factId noteId : Uuid)
    (quote : Option String) (id note : Uuid)
    : (setEvidenceQuoteIfPresent db factId noteId quote).RestsOn id note ↔ db.RestsOn id note := by
  rw [restsOn_iff, restsOn_iff]
  cases quote with
  | none => rfl
  | some quote =>
    have hfind : (setEvidenceQuote db factId noteId quote).evidence.find? (id, note)
        = if (factId, noteId) = (id, note) then
            (db.evidence.find? (id, note)).map fun row => { row with quote := some quote }
          else db.evidence.find? (id, note) :=
      Table.find?_modify db.evidence (factId, noteId) (id, note)
        (fun row => { row with quote := some quote }) fun _ => rfl
    unfold setEvidenceQuoteIfPresent
    rw [hfind]
    split
    . rw [Option.isSome_map]
    . rfl

/-- The evidence after a fact is stored: the note is evidence of it. -/
theorem restsOn_upsertFactWithEvidence
    (h : upsertFactWithEvidence fact [noteId] db = .ok (factId, db')) (id note : Uuid)
    : db'.RestsOn id note ↔ (factId, noteId) = (id, note) ∨ db.RestsOn id note := by
  rw [restsOn_iff, restsOn_iff, (upsertFactWithEvidence_records h).1, Table.find?_upsert]
  split
  next heq =>
    constructor
    . intro _
      exact Or.inl heq
    . intro _
      rfl
  next hne =>
    constructor
    . exact Or.inr
    . intro hor
      exact hor.resolve_left hne

theorem supersessions_setEvidenceQuoteIfPresent (db : GraphDb) (factId noteId : Uuid)
    (quote : Option String)
    : (setEvidenceQuoteIfPresent db factId noteId quote).supersessions = db.supersessions := by
  cases quote with
  | none => rfl
  | some quote => rfl

theorem restsOn_of_evidence (h : db'.evidence = db.evidence) (id note : Uuid)
    : db'.RestsOn id note ↔ db.RestsOn id note := by
  unfold GraphDb.RestsOn
  rw [h]

/-- The evidence after a relation is stored. -/
theorem storeRelation_restsOn (h : storeRelation req idx relation target db = .ok ((), db'))
    (hfact : upsertFactWithEvidence (target.fact req idx relation) [req.noteId] db
      = .ok (factId, mid)) (id note : Uuid)
    : db'.RestsOn id note ↔ (factId, req.noteId) = (id, note) ∨ db.RestsOn id note := by
  rcases storeRelation_eq_ok h with ⟨factId', mid', hfact', hresult⟩
  rw [hfact] at hfact'
  cases hfact'
  rw [← restsOn_upsertFactWithEvidence hfact,
    ← restsOn_setEvidenceQuoteIfPresent mid factId req.noteId relation.evidenceQuote, hresult]
  split
  . unfold supersedeConflictingActiveFacts
    dsimp only
    rw [restsOn_of_evidence (recordSupersessions_evidence ..)]
    exact restsOn_of_evidence rfl id note
  . rfl

/-! ## A relation that is stored already -/

/-- A fact without an end that is equal to the one of the relation is stored, and the note is evidence
of it. -/
def FactRests (db : GraphDb) (target : RelationTarget) (req : GraphIngestion) (idx : Nat)
    (relation : StructuredRelation) : Prop :=
  ∃ existing ∈ db.facts, (target.fact req idx relation).sameActive existing = true
    ∧ db.RestsOn existing.factId req.noteId

/-- No fact without an end starts before the relation where that one is the current truth. -/
def NothingToEnd (db : GraphDb) (target : RelationTarget) (req : GraphIngestion) (idx : Nat)
    (relation : StructuredRelation) : Prop :=
  ∀ start, target.currentTruth req idx relation = some start → ∀ other ∈ db.facts,
    other.key = (target.fact req idx relation).key → other.validTo = none →
    ∀ s, other.validFrom = some s → pgTimestamp start ≤ s

theorem not_superseded_of_nothingToEnd (h : NothingToEnd db target req idx relation)
    (hstart : target.currentTruth req idx relation = some start) (toFactId : Uuid)
    : ∀ fact ∈ db.facts, fact.superseded (target.fact req idx relation).key toFactId
      (pgTimestamp start) = false := by
  intro fact hfact
  rw [Bool.eq_false_iff]
  intro hsuperseded
  rcases (superseded_iff ..).mp hsuperseded with ⟨hkey, hopen, ⟨s, hs, hlt⟩, -⟩
  have := h start hstart fact hfact hkey hopen s hs
  omega

/-- A fact that is ended is not the one that is stored, which starts when the other ends. -/
theorem nothingToEnd_of_facts {existing : GraphFact} (hexisting : existing ∈ db.facts)
    (hsame : (target.fact req idx relation).sameActive existing = true)
    (h : ∀ start, target.currentTruth req idx relation = some start →
      supersedeFacts db.facts (target.fact req idx relation).key existing.factId (pgTimestamp start)
        = db.facts)
    : NothingToEnd db target req idx relation := by
  intro start hstart other hother hkey hopen s hs
  by_contra hlt
  rcases currentTruth_eq_some hstart with ⟨-, -, hfrom, -, -⟩
  have hne : other.factId ≠ existing.factId := by
    intro hid
    have heq := db.facts.eq_of_key_eq hother hexisting hid
    have hexistingfrom := ((sameActive_iff ..).mp hsame).2.2.2.2.2
    rw [hfrom, ← heq, hs, Option.some.injEq] at hexistingfrom
    omega
  have hended : { other with validTo := some (pgTimestamp start) } ∈ db.facts := by
    rw [← h start hstart]
    refine (mem_supersedeFacts ..).mpr ⟨other, hother, ?_⟩
    rw [if_pos]
    exact (superseded_iff ..).mpr ⟨hkey, hopen, ⟨s, hs, by omega⟩, hne⟩
  have heq := db.facts.eq_of_key_eq hended hother rfl
  have hto := congrArg GraphFact.validTo heq
  rw [hopen] at hto
  cases hto

theorem length_supersedeFacts (facts : FactTable) (key : FactKey) (toFactId : Uuid)
    (effectiveAt : Int)
    : (supersedeFacts facts key toFactId effectiveAt).rows.length = facts.rows.length := by
  unfold supersedeFacts
  rw [Table.rows_updateWhere, List.length_map]

/-- Storing a relation adds nothing exactly when its fact rests on the note already and there is
nothing that it ends. -/
theorem storeRelation_addsNothing_iff (hunique : db.OneOpenFact)
    (h : storeRelation req idx relation target db = .ok ((), db'))
    : GainsNothing db db'
      ↔ FactRests db target req idx relation ∧ NothingToEnd db target req idx relation := by
  rcases storeRelation_eq_ok h with ⟨factId, mid, hfact, hresult⟩
  have hrests := storeRelation_restsOn h hfact
  rcases upsertFactWithEvidence_cases hfact with ⟨-, hstored⟩
  have hquote := (setEvidenceQuoteIfPresent_frame mid factId req.noteId relation.evidenceQuote).1
  have hrecords := (upsertFactWithEvidence_records hfact).2
  have hfacts : db'.facts = (target.currentTruth req idx relation).elim mid.facts fun start =>
      supersedeFacts mid.facts (target.fact req idx relation).key factId (pgTimestamp start) := by
    rw [hresult]
    cases target.currentTruth req idx relation with
    | some start =>
      dsimp only
      rw [supersedeConflictingActiveFacts_facts, hquote, Option.elim_some]
    | none => exact hquote
  generalize hmid : mid.facts = stored at hstored hfacts
  constructor
  . intro hnothing
    cases hstored with
    | inserted hnew hinsert =>
      have hlength : db'.facts.rows.length = stored.rows.length := by
        rw [hfacts]
        cases target.currentTruth req idx relation with
        | some start => exact length_supersedeFacts ..
        | none => rfl
      rw [hnothing.facts, Table.rows_insert? hinsert, List.length_append,
        List.length_singleton] at hlength
      omega
    | @reused existing hmem hsame =>
      have hon : db.RestsOn existing.factId req.noteId := by
        rcases (hrests existing.factId req.noteId).mpr (Or.inl rfl) with ⟨row, hrow, href⟩
        rcases Prod.mk.inj href with ⟨hfactId, hnoteId⟩
        rw [← hfactId, ← hnoteId]
        exact hnothing.evidence row hrow
      refine ⟨⟨existing, hmem, hsame, hon⟩, ?_⟩
      apply nothingToEnd_of_facts hmem hsame
      intro start hstart
      rw [hstart] at hfacts
      exact hfacts.symm.trans hnothing.facts
  . rintro ⟨⟨existing, hexisting, hsame, hon⟩, hend⟩
    cases hstored with
    | inserted hnew hinsert =>
      rw [hnew existing hexisting] at hsame
      cases hsame
    | @reused found hmem hfound =>
      have heq := hunique _ hmem _ hexisting (sameActive_trans hfound hsame)
      subst heq
      have hsuperseded : ∀ start, target.currentTruth req idx relation = some start →
          ∀ fact ∈ (setEvidenceQuoteIfPresent mid found.factId req.noteId
            relation.evidenceQuote).facts, fact.superseded (target.fact req idx relation).key
              found.factId (pgTimestamp start) = false := by
        intro start hstart
        rw [hquote, hmid]
        exact not_superseded_of_nothingToEnd hend hstart found.factId
      have hsame' : db' = setEvidenceQuoteIfPresent mid found.factId req.noteId
          relation.evidenceQuote := by
        rw [hresult]
        split
        next start hstart =>
          exact supersedeConflictingActiveFacts_of_none (hsuperseded start hstart)
        . rfl
      constructor
      . rw [hsame', hquote, hmid]
      . intro row hrow
        rcases (hrests row.factId row.noteId).mp ⟨row, hrow, rfl⟩ with hnew | hold
        . rcases Prod.mk.inj hnew with ⟨hfactId, hnoteId⟩
          rw [← hfactId, ← hnoteId]
          exact hon
        . exact hold
      . rw [hsame', supersessions_setEvidenceQuoteIfPresent, hrecords]

/-! ## Steps and runs -/

theorem GraphDb.SameRecords.restsOn (h : db.SameRecords db') (id note : Uuid)
    : db'.RestsOn id note ↔ db.RestsOn id note :=
  restsOn_of_evidence h.evidence id note

/-- The names and the predicate that a relation is resolved to are no records. -/
theorem persistRelation_addsNothing_iff (hunique : db.OneOpenFact)
    (h : GraphSteps text db (.relate req idx relation) db')
    (htarget : resolveRelation text req idx relation db = .ok (target, db''))
    : GainsNothing db db'
      ↔ FactRests db target req idx relation ∧ NothingToEnd db target req idx relation := by
  have hstep : persistRelation text req idx relation db = .ok ((), db') := h
  unfold persistRelation at hstep
  rcases Except.bind_eq_ok.mp hstep with ⟨⟨target', mid⟩, htarget', hstore⟩
  rw [htarget] at htarget'
  cases htarget'
  have hrecords := resolveRelation_records htarget
  have hmid : db''.OneOpenFact := by
    unfold GraphDb.OneOpenFact
    rw [hrecords.facts]
    exact hunique
  have hiff := storeRelation_addsNothing_iff hmid hstore
  have hrests : FactRests db'' target req idx relation ↔ FactRests db target req idx relation := by
    unfold FactRests
    simp only [hrecords.facts, hrecords.restsOn]
  have hend : NothingToEnd db'' target req idx relation ↔ NothingToEnd db target req idx relation := by
    unfold NothingToEnd
    rw [hrecords.facts]
  rw [hrests, hend] at hiff
  rw [← hiff]
  constructor
  . intro hnothing
    refine ⟨hnothing.facts.trans hrecords.facts.symm, ?_,
      hnothing.supersessions.trans hrecords.supersessions.symm⟩
    intro row hrow
    rw [hrecords.restsOn]
    exact hnothing.evidence row hrow
  . intro hnothing
    refine ⟨hnothing.facts.trans hrecords.facts, ?_,
      hnothing.supersessions.trans hrecords.supersessions⟩
    intro row hrow
    rw [← hrecords.restsOn]
    exact hnothing.evidence row hrow

theorem sameActive_comm (fact other : GraphFact) : fact.sameActive other = other.sameActive fact := by
  rw [Bool.eq_iff_iff, sameActive_iff, sameActive_iff]
  constructor
  . rintro ⟨hopen, hopen', hkey, hentity, hvalue, hfrom⟩
    exact ⟨hopen', hopen, hkey.symm, hentity.symm, hvalue.symm, hfrom.symm⟩
  . rintro ⟨hopen, hopen', hkey, hentity, hvalue, hfrom⟩
    exact ⟨hopen', hopen, hkey.symm, hentity.symm, hvalue.symm, hfrom.symm⟩

theorem Stored.oneOpenFact {facts stored : FactTable} {fact : GraphFact}
    (h : Stored facts fact stored factId)
    (hunique : ∀ a ∈ facts, ∀ b ∈ facts, a.sameActive b = true → a = b)
    : ∀ a ∈ stored, ∀ b ∈ stored, a.sameActive b = true → a = b := by
  cases h with
  | reused hmem hsame => exact hunique
  | inserted hnew hinsert =>
    intro a ha b hb hsame
    rcases (Table.mem_insert? hinsert a).mp ha with ha | ha
    . rcases (Table.mem_insert? hinsert b).mp hb with hb | hb
      . exact hunique a ha b hb hsame
      . rw [hb, sameActive_comm, hnew a ha] at hsame
        cases hsame
    . rcases (Table.mem_insert? hinsert b).mp hb with hb | hb
      . rw [ha, hnew b hb] at hsame
        cases hsame
      . exact ha.trans hb.symm

/-- An open fact among those that are left was open before. -/
theorem open_of_supersedeFacts {facts : FactTable} {fact : GraphFact}
    (h : fact ∈ supersedeFacts facts key toFactId effectiveAt) (hopen : fact.validTo = none)
    : fact ∈ facts := by
  rcases (mem_supersedeFacts ..).mp h with ⟨old, hold, heq⟩
  split at heq
  . rw [heq] at hopen
    cases hopen
  . rw [heq]
    exact hold

theorem oneOpenFact_step (h : GraphSteps text db event db') (hdb : db.OneOpenFact)
    : db'.OneOpenFact := by
  unfold GraphDb.OneOpenFact
  rcases graphSteps_cases h with hsame | ⟨req, idx, relation, target, db₁, stored, factId, -, -, hstored⟩
  . rw [hsame]
    exact hdb
  . have hunique := hstored.storing.oneOpenFact hdb
    rw [hstored.result]
    split
    . intro a ha b hb hactive
      have hopen := (sameActive_iff ..).mp hactive
      exact hunique a (open_of_supersedeFacts ha hopen.1) b
        (open_of_supersedeFacts hb hopen.2.1) hactive
    . exact hunique

/-- Evidence stays. -/
theorem restsOn_step {id note : Uuid} (h : GraphSteps text db event db') (hon : db.RestsOn id note)
    : db'.RestsOn id note := by
  cases event with
  | declare req idx entity =>
    unfold GraphSteps GraphEvent.exec at h
    rcases Except.bind_eq_ok.mp h with ⟨⟨entityId, mid⟩, hdeclare, hpure⟩
    cases hpure
    exact ((upsertGraphEntityAndAliases_frame hdeclare).1.restsOn _ _).mpr hon
  | relate req idx relation =>
    have h : persistRelation text req idx relation db = .ok ((), db') := h
    unfold persistRelation at h
    rcases Except.bind_eq_ok.mp h with ⟨⟨target, mid⟩, htarget, hstore⟩
    rcases storeRelation_eq_ok hstore with ⟨factId, stored, hfact, -⟩
    rw [storeRelation_restsOn hstore hfact]
    exact Or.inr (((resolveRelation_records htarget).restsOn _ _).mpr hon)

theorem restsOn_run {id note : Uuid} (h : Run (GraphSteps text) db events db')
    (hon : db.RestsOn id note) : db'.RestsOn id note := by
  induction h with
  | nil => exact hon
  | cons head tail ih => exact ih (restsOn_step head hon)

/-! ## The same relation again -/

/-- The facts of two relations have the subject, the predicate, the object and the times in common. -/
structure SameFact (fact fact' : GraphFact) : Prop where
  key : fact.key = fact'.key
  objectEntityId : fact.objectEntityId = fact'.objectEntityId
  objectValue : fact.objectValue = fact'.objectValue
  validFrom : fact.validFrom = fact'.validFrom
  validTo : fact.validTo = fact'.validTo

/-- The fact that a relation was stored as is equal to it, and it rests on the note. -/
theorem relate_stores (h : GraphSteps text db (.relate req idx relation) db')
    (htarget : resolveRelation text req idx relation db = .ok (target, db''))
    : ∃ fact ∈ db'.facts, SameFact fact (target.fact req idx relation)
        ∧ db'.RestsOn fact.factId req.noteId := by
  have hstep : persistRelation text req idx relation db = .ok ((), db') := h
  unfold persistRelation at hstep
  rcases Except.bind_eq_ok.mp hstep with ⟨⟨target', mid⟩, htarget', hstore⟩
  rw [htarget] at htarget'
  cases htarget'
  rcases storeRelation_eq_ok hstore with ⟨factId, stored, hfact, hresult⟩
  have hon := (storeRelation_restsOn hstore hfact factId req.noteId).mpr (Or.inl rfl)
  have hquote := (setEvidenceQuoteIfPresent_frame stored factId req.noteId relation.evidenceQuote).1
  have hkept : ∀ fact ∈ stored.facts, fact.factId = factId → fact ∈ db'.facts := by
    intro fact hfact hid
    rw [hresult]
    split
    next start hstart =>
      rw [supersedeConflictingActiveFacts_facts, hquote]
      refine (mem_supersedeFacts ..).mpr ⟨fact, hfact, ?_⟩
      rw [if_neg]
      intro hsuperseded
      exact ((superseded_iff ..).mp hsuperseded).2.2.2 hid
    . rw [hquote]
      exact hfact
  rcases upsertFactWithEvidence_cases hfact with ⟨-, hstored⟩
  generalize hmid : stored.facts = facts at hstored hkept
  cases hstored with
  | @reused existing hmem hsame =>
    rcases (sameActive_iff ..).mp hsame with ⟨hto, hto', hkey, hentity, hvalue, hfrom⟩
    exact ⟨existing, hkept existing hmem rfl,
      ⟨hkey.symm, hentity.symm, hvalue.symm, hfrom.symm, hto'.trans hto.symm⟩, hon⟩
  | inserted hnew hinsert =>
    have hmem := (Table.mem_insert? hinsert (target.fact req idx relation)).mpr (Or.inr rfl)
    exact ⟨_, hkept _ hmem rfl, ⟨rfl, rfl, rfl, rfl, rfl⟩, hon⟩

/--
A relation that was ingested is ingested again from the same note, after any others. That adds nothing
exactly when its fact, open and with the note as evidence, is there and no older open fact is to be
ended; and the fact is there if it is open and was not ended in between.
-/
theorem ingestAgain_addsNothing_iff {db₀ db₁ db₂ db₃ mid mid' : GraphDb} {events : List GraphEvent}
    {first again : GraphIngestion} {idx' : Nat} {relation' : StructuredRelation}
    {target' : RelationTarget} (hunique : db₀.OneOpenFact)
    (hfirst : GraphSteps text db₀ (.relate first idx relation) db₁)
    (htarget : resolveRelation text first idx relation db₀ = .ok (target, mid))
    (hbetween : Run (GraphSteps text) db₁ events db₂)
    (hagain : GraphSteps text db₂ (.relate again idx' relation') db₃)
    (htarget' : resolveRelation text again idx' relation' db₂ = .ok (target', mid'))
    (hnote : again.noteId = first.noteId)
    (hsame : SameFact (target.fact first idx relation) (target'.fact again idx' relation'))
    : (GainsNothing db₂ db₃
        ↔ FactRests db₂ target' again idx' relation' ∧ NothingToEnd db₂ target' again idx' relation')
      ∧ ∃ fact ∈ db₁.facts, SameFact fact (target'.fact again idx' relation')
        ∧ (fact.validTo = none → fact ∈ db₂.facts → FactRests db₂ target' again idx' relation') := by
  have hsecond : db₂.OneOpenFact := by
    apply Run.invariant (fun _ _ _ hdb hstep => oneOpenFact_step hstep hdb) hbetween
    exact oneOpenFact_step hfirst hunique
  refine ⟨persistRelation_addsNothing_iff hsecond hagain htarget', ?_⟩
  rcases relate_stores hfirst htarget with ⟨fact, hfact, hsamefact, hon⟩
  have hequal : SameFact fact (target'.fact again idx' relation') :=
    ⟨hsamefact.key.trans hsame.key, hsamefact.objectEntityId.trans hsame.objectEntityId,
      hsamefact.objectValue.trans hsame.objectValue, hsamefact.validFrom.trans hsame.validFrom,
      hsamefact.validTo.trans hsame.validTo⟩
  refine ⟨fact, hfact, hequal, ?_⟩
  intro hopen hstill
  refine ⟨fact, hstill, ?_, ?_⟩
  . rw [sameActive_iff]
    exact ⟨hequal.validTo.symm.trans hopen, hopen, hequal.key.symm, hequal.objectEntityId.symm,
      hequal.objectValue.symm, hequal.validFrom.symm⟩
  . rw [hnote]
    exact restsOn_run hbetween hon

/-! ## A relation with an end -/

/-- The relation that Alice works at Acme from 1000 on, until `stop` if that is given. -/
def employment (stop : Option Int) : StructuredRelation :=
  ⟨none, some (sampleEntity "Alice" []), some "works_at", some ⟨none, some "Acme"⟩, some 1000, stop⟩

/-- The `n`th ingestion of the note 1. -/
def noteIngestion (n : Nat) : GraphIngestion := { sampleIngestion n .caller [] [] with noteId := 1 }

/-- The graph memory after the employment is ingested `n` times. -/
def employed (stop : Option Int) : Nat → GraphDb
  | 0 => .empty
  | n + 1 => (persistRelation asciiText (noteIngestion n) 0 (employment stop)).next (employed stop n)

/-- What the employment is resolved to. -/
def employmentFact (stop : Option Int) (n : Nat) : Option GraphFact :=
  (resolveRelation asciiText (noteIngestion n) 0 (employment stop) (employed stop n)).toOption.map
    fun resolved => resolved.1.fact (noteIngestion n) 0 (employment stop)

theorem employed_step (h : (persistRelation asciiText (noteIngestion n) 0 (employment stop)
      (employed stop n)).isOk = true)
    : GraphSteps asciiText (employed stop n) (.relate (noteIngestion n) 0 (employment stop))
      (employed stop (n + 1)) := by
  show persistRelation asciiText (noteIngestion n) 0 (employment stop) (employed stop n)
    = .ok ((), employed stop (n + 1))
  rw [employed]
  cases hresult : persistRelation asciiText (noteIngestion n) 0 (employment stop) (employed stop n) with
  | error e =>
    rw [hresult] at h
    cases h
  | ok result => rw [Transaction.next_of_ok hresult]

theorem employmentFact_eq_some (h : employmentFact stop n = some fact)
    : ∃ target mid, resolveRelation asciiText (noteIngestion n) 0 (employment stop)
        (employed stop n) = .ok (target, mid)
      ∧ target.fact (noteIngestion n) 0 (employment stop) = fact := by
  unfold employmentFact at h
  rcases Option.map_eq_some_iff.mp h with ⟨⟨target, mid⟩, hresolved, hfact⟩
  refine ⟨target, mid, ?_, hfact⟩
  cases hresult : resolveRelation asciiText (noteIngestion n) 0 (employment stop)
      (employed stop n) with
  | error e =>
    rw [hresult] at hresolved
    cases hresolved
  | ok result =>
    rw [hresult] at hresolved
    cases hresolved
    rfl

/-- The fact of the employment, under the identifier `factId`. -/
def acmeFact (factId : Uuid) (stop : Option Int) : GraphFact :=
  ⟨factId, "t", "p", "a", "agent_private", 31, "works_at", 0, none, some "Acme", some 1000, stop⟩

theorem employed_oneOpenFact (stop : Option Int) : (employed stop 0).OneOpenFact := by
  intro fact hfact
  exact absurd hfact (Table.not_mem_empty fact)

/-- Without an end the employment is found again. -/
theorem ingestAgain_addsNothing_iff_employment
    : ∃ target', (GainsNothing (employed none 1) (employed none 2)
        ↔ FactRests (employed none 1) target' (noteIngestion 1) 0 (employment none)
          ∧ NothingToEnd (employed none 1) target' (noteIngestion 1) 0 (employment none))
      ∧ ∃ fact ∈ (employed none 1).facts,
        SameFact fact (target'.fact (noteIngestion 1) 0 (employment none))
        ∧ (fact.validTo = none → fact ∈ (employed none 1).facts →
          FactRests (employed none 1) target' (noteIngestion 1) 0 (employment none)) := by
  have hfirst : employmentFact none 0 = some (acmeFact 0 none) := by decide +kernel
  have hagain : employmentFact none 1 = some (acmeFact 1000 none) := by decide +kernel
  rcases employmentFact_eq_some hfirst with ⟨target, mid, htarget, hfact⟩
  rcases employmentFact_eq_some hagain with ⟨target', mid', htarget', hfact'⟩
  have hstep := @employed_step 0 none (by decide +kernel)
  have hstep' := @employed_step 1 none (by decide +kernel)
  have hsame : SameFact (target.fact (noteIngestion 0) 0 (employment none))
      (target'.fact (noteIngestion 1) 0 (employment none)) := by
    rw [hfact, hfact']
    exact ⟨rfl, rfl, rfl, rfl, rfl⟩
  exact ⟨target', ingestAgain_addsNothing_iff (employed_oneOpenFact none) hstep htarget
    (Run.nil _) hstep' htarget' rfl hsame⟩

/-- With an end, which is to come, the employment is stored twice. -/
theorem not_ingestAgain_addsNothing
    : ¬∀ (db₀ db₁ db₂ db₃ mid mid' : GraphDb) (events : List GraphEvent)
        (first again : GraphIngestion) (idx idx' : Nat) (relation relation' : StructuredRelation)
        (target target' : RelationTarget), db₀.OneOpenFact →
        GraphSteps asciiText db₀ (.relate first idx relation) db₁ →
        resolveRelation asciiText first idx relation db₀ = .ok (target, mid) →
        Run (GraphSteps asciiText) db₁ events db₂ →
        GraphSteps asciiText db₂ (.relate again idx' relation') db₃ →
        resolveRelation asciiText again idx' relation' db₂ = .ok (target', mid') →
        again.noteId = first.noteId →
        SameFact (target.fact first idx relation) (target'.fact again idx' relation') →
        GainsNothing db₂ db₃ := by
  intro hall
  let stop : Option Int := some 1000000000000000
  have hfirst : employmentFact stop 0 = some (acmeFact 0 stop) := by decide +kernel
  have hagain : employmentFact stop 1 = some (acmeFact 1000 stop) := by decide +kernel
  rcases employmentFact_eq_some hfirst with ⟨target, mid, htarget, hfact⟩
  rcases employmentFact_eq_some hagain with ⟨target', mid', htarget', hfact'⟩
  have hstep := @employed_step 0 stop (by decide +kernel)
  have hstep' := @employed_step 1 stop (by decide +kernel)
  have hsame : SameFact (target.fact (noteIngestion 0) 0 (employment stop))
      (target'.fact (noteIngestion 1) 0 (employment stop)) := by
    rw [hfact, hfact']
    exact ⟨rfl, rfl, rfl, rfl, rfl⟩
  have hnothing := hall _ _ _ _ _ _ _ _ _ _ _ _ _ _ _ (employed_oneOpenFact stop) hstep htarget
    (Run.nil _) hstep' htarget' rfl hsame
  have hlength : (employed stop 2).facts.rows.length ≠ (employed stop 1).facts.rows.length := by
    decide +kernel
  exact hlength (by rw [hnothing.facts])

end Elf
