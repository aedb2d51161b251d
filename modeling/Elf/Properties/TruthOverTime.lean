import Elf.Graph.Lemmas.Facts
import Elf.Lib.Succession
import Elf.Docs.Service
import Elf.Graph.Models
import Elf.Knowledge.Sections

/-!
This module contains which facts hold at a time. A relation that is the current truth of a
single-valued predicate ends the open facts that started before it, for good. Where the relations of
a subject arrive in the order of their starts, at most one of its facts holds at any time. The status of
a readback, the relation context of a search and the window of a graph query agree on every fact, but
the label of a page snapshot only looks at whether the fact has an end.
-/

namespace Elf

variable {text : GraphText} {db db' : GraphDb} {key : FactKey}

/-- The fact has started at `t` and has not ended. -/
def GraphFact.TrueAt (fact : GraphFact) (t : Int) : Prop :=
  HoldsAt GraphFact.validFrom GraphFact.validTo fact t

/-! ## Validity windows -/

def GraphDb.ValidWindows (db : GraphDb) : Prop :=
  ∀ fact ∈ db.facts, fact.validWindow = true

theorem Stored.mem_or (h : Stored facts fact facts' factId) (hmem : other ∈ facts')
    : other ∈ facts ∨ other = fact := by
  cases h with
  | reused hexisting hsame => exact .inl hmem
  | inserted hnew hinsert => exact (Table.mem_insert? hinsert other).mp hmem

theorem Stored.mem (h : Stored facts fact facts' factId) (hmem : other ∈ facts) : other ∈ facts' := by
  cases h with
  | reused hexisting hsame => exact hmem
  | inserted hnew hinsert => exact (Table.mem_insert? hinsert other).mpr (.inl hmem)

theorem validWindows_step (h : GraphSteps text db event db') (hdb : db.ValidWindows)
    : db'.ValidWindows := by
  intro fact hfact
  rcases graphSteps_cases h with hsame | ⟨req, idx, relation, target, db₁, stored, factId, -, -, hstored⟩
  . rw [hsame] at hfact
    exact hdb fact hfact
  . have hall : ∀ other ∈ stored, other.validWindow = true := by
      intro other hother
      rcases hstored.storing.mem_or hother with hother | rfl
      . exact hdb other hother
      . exact hstored.window
    rw [hstored.result] at hfact
    split at hfact
    next start hstart =>
      rcases (mem_supersedeFacts ..).mp hfact with ⟨old, hold, rfl⟩
      split
      next hsuperseded =>
        rcases ((superseded_iff ..).mp hsuperseded).2.2.1 with ⟨s, hs, hlt⟩
        unfold GraphFact.validWindow
        rw [hs]
        simpa using hlt
      next => exact hall old hold
    next => exact hall fact hfact

/-! ## Facts that ended -/

/-- A fact that has an end is never changed again. -/
theorem ended_stays_step (h : GraphSteps text db event db') (hfact : fact ∈ db.facts)
    (hended : fact.validTo = some e) : fact ∈ db'.facts := by
  rcases graphSteps_cases h with hsame | ⟨req, idx, relation, target, db₁, stored, factId, -, -, hstored⟩
  . rw [hsame]
    exact hfact
  . have hmem := hstored.storing.mem hfact
    rw [hstored.result]
    split
    next start hstart =>
      refine (mem_supersedeFacts ..).mpr ⟨fact, hmem, ?_⟩
      rw [if_neg]
      intro hsuperseded
      have := ((superseded_iff ..).mp hsuperseded).2.1
      rw [hended] at this
      cases this
    next => exact hmem

theorem ended_stays (h : Run (GraphSteps text) db events db') (hfact : fact ∈ db.facts)
    (hended : fact.validTo = some e) : fact ∈ db'.facts := by
  induction h with
  | nil db => exact hfact
  | cons head tail ih => exact ih (ended_stays_step head hfact hended)

/-- A relation that is the current truth ends an open fact that started before it. -/
theorem superseded_step (h : GraphSteps text db (.relate req idx relation) db')
    (htarget : resolveRelation text req idx relation db = .ok (target, db₁))
    (hstart : target.currentTruth req idx relation = some start) (hold : old ∈ db.facts)
    (hkey : old.key = (target.fact req idx relation).key) (hopen : old.validTo = none)
    (hs : old.validFrom = some s) (hlt : s < pgTimestamp start)
    : { old with validTo := some (pgTimestamp start) } ∈ db'.facts := by
  rcases currentTruth_eq_some hstart with ⟨-, -, hfrom, -, -⟩
  rcases graphSteps_relate h with ⟨target', db₂, stored, factId, htarget', hstored⟩
  rw [htarget] at htarget'
  cases htarget'
  have hresult := hstored.result
  rw [hstart] at hresult
  rw [hresult]
  refine (mem_supersedeFacts ..).mpr ⟨old, hstored.storing.mem hold, ?_⟩
  rw [if_pos]
  refine (superseded_iff ..).mpr ⟨hkey, hopen, ⟨s, hs, hlt⟩, ?_⟩
  intro hid
  rcases hstored.storing with ⟨hexisting, hsame⟩ | ⟨hnew, hinsert⟩
  . have hsame := (sameActive_iff ..).mp hsame
    have heq := db.facts.eq_of_key_eq hold hexisting hid
    rw [← heq, hs, hfrom] at hsame
    have hs := Option.some.inj hsame.2.2.2.2.2
    omega
  . have hfresh := (Table.find?_eq_none_iff ..).mp (Table.insert?_fresh hinsert)
    exact hfresh old hold hid

/-! ## One fact at a time -/

/-- The facts that exclude one another. -/
def GraphDb.factsOf (db : GraphDb) (key : FactKey) : Set GraphFact :=
  { fact | fact ∈ db.facts ∧ fact.key = key }

/--
A relation of these facts is the current truth, and it starts after all of them or repeats one that
is open.
-/
def InOrder (text : GraphText) (key : FactKey) (db : GraphDb) (event : GraphEvent) : Prop :=
  ∀ req idx relation target db₁, event = .relate req idx relation →
    resolveRelation text req idx relation db = .ok (target, db₁) →
    (target.fact req idx relation).key = key →
    ∃ start, target.currentTruth req idx relation = some start ∧ ∀ fact ∈ db.facts, fact.key = key →
      (∃ s, fact.validFrom = some s ∧ s < pgTimestamp start)
        ∨ (target.fact req idx relation).sameActive fact = true

def GraphDb.OneAtATime (db : GraphDb) (key : FactKey) : Prop :=
  Succession GraphFact.validFrom GraphFact.validTo (db.factsOf key)

/-- A relation of another subject or predicate leaves the facts alone. -/
theorem factsOf_of_ne {facts facts' : FactTable} (hkey : (target.fact req idx relation).key ≠ key)
    (h : RelationStored target req idx relation facts facts' stored factId) (fact : GraphFact)
    (hfact : fact.key = key) : fact ∈ facts' ↔ fact ∈ facts := by
  have hstored : ∀ other : GraphFact, other.key = key → (other ∈ stored ↔ other ∈ facts) := by
    intro other hother
    constructor
    . intro hmem
      rcases h.storing.mem_or hmem with hmem | rfl
      . exact hmem
      . exact absurd hother hkey
    . exact h.storing.mem
  rw [h.result]
  split
  next start hstart =>
    rw [mem_supersedeFacts]
    constructor
    . rintro ⟨old, hold, heq⟩
      split at heq
      next hsuperseded =>
        have hold := ((superseded_iff ..).mp hsuperseded).1
        rw [heq] at hfact
        exact absurd (hold.symm.trans hfact) hkey
      next =>
        rw [heq] at hfact ⊢
        exact (hstored old hfact).mp hold
    . intro hmem
      refine ⟨fact, (hstored fact hfact).mpr hmem, ?_⟩
      rw [if_neg]
      intro hsuperseded
      exact absurd (((superseded_iff ..).mp hsuperseded).1.symm.trans hfact) hkey
  next => exact hstored fact hfact

theorem oneAtATime_of_mem (hdb : db.OneAtATime key)
    (h : ∀ fact : GraphFact, fact.key = key → (fact ∈ db'.facts ↔ fact ∈ db.facts))
    : db'.OneAtATime key := by
  have hsame : db'.factsOf key = db.factsOf key := by
    ext fact
    constructor
    . rintro ⟨hmem, hkey⟩
      exact ⟨(h fact hkey).mp hmem, hkey⟩
    . rintro ⟨hmem, hkey⟩
      exact ⟨(h fact hkey).mpr hmem, hkey⟩
  unfold GraphDb.OneAtATime
  rw [hsame]
  exact hdb

/-- A fact that is found again supersedes nothing. -/
theorem reused_supersedes_none (hdb : db.OneAtATime key) (hexisting : existing ∈ db.facts)
    (hkey : existing.key = key)
    (hfrom : existing.validFrom = some s) (fact : GraphFact) (hfact : fact ∈ db.facts)
    : fact.superseded key existing.factId s = false := by
  by_contra hne
  rw [Bool.not_eq_false] at hne
  rcases (superseded_iff ..).mp hne with ⟨hfactKey, hfactOpen, ⟨r, hr, hlt⟩, hid⟩
  have hne : existing ≠ fact := by
    rintro rfl
    exact hid rfl
  have hlast := Succession.open_last hdb (a := fact) (b := existing) ⟨hfact, hfactKey⟩
    ⟨hexisting, hkey⟩ hne.symm hfactOpen hr hfrom
  omega

theorem factsOf_inserted {facts : FactTable} {new : GraphFact} (hinsert : db.facts.insert? new = some facts)
    (hkey : new.key = key) (hresult : db'.facts = supersedeFacts facts key new.factId s)
    : db'.factsOf key = insert new ((fun old => if old.superseded key new.factId s then
        { old with validTo := some s } else old) '' db.factsOf key) := by
  have hself : new.superseded key new.factId s = false := by
    by_contra hne
    rw [Bool.not_eq_false] at hne
    exact ((superseded_iff ..).mp hne).2.2.2 rfl
  have hkeep : ∀ old : GraphFact, (if old.superseded key new.factId s then
      { old with validTo := some s } else old).key = old.key := by
    intro old
    split
    . rfl
    . rfl
  ext fact
  unfold GraphDb.factsOf
  rw [hresult, Set.mem_ofPred_eq, mem_supersedeFacts, Set.mem_insert_iff, Set.mem_image]
  constructor
  . rintro ⟨⟨old, hold, rfl⟩, hfact⟩
    rw [hkeep] at hfact
    rcases (Table.mem_insert? hinsert old).mp hold with hold | rfl
    . exact .inr ⟨old, ⟨hold, hfact⟩, rfl⟩
    . left
      rw [hself]
      rfl
  . rintro (rfl | ⟨old, ⟨hold, hfact⟩, rfl⟩)
    . refine ⟨⟨fact, (Table.mem_insert? hinsert fact).mpr (.inr rfl), ?_⟩, hkey⟩
      rw [hself]
      rfl
    . refine ⟨⟨old, (Table.mem_insert? hinsert old).mpr (.inl hold), rfl⟩, ?_⟩
      rw [hkeep]
      exact hfact

theorem oneAtATime_step (h : GraphSteps text db event db') (hguard : InOrder text key db event)
    (hdb : db.OneAtATime key) : db'.OneAtATime key := by
  rcases graphSteps_cases h with
    hsame | ⟨req, idx, relation, target, db₁, stored, factId, hevent, htarget, hstored⟩
  . apply oneAtATime_of_mem hdb
    intro fact _
    rw [hsame]
  . by_cases hkey : (target.fact req idx relation).key = key
    . rcases hguard req idx relation target db₁ hevent htarget hkey with ⟨start, hstart, horder⟩
      rcases currentTruth_eq_some hstart with ⟨-, -, hfrom, hto, -⟩
      have hresult := hstored.result
      rw [hstart, hkey] at hresult
      dsimp only at hresult
      rcases hstored.storing with ⟨hexisting, hsame⟩ | ⟨hnew, hinsert⟩
      next existing =>
        rcases (sameActive_iff ..).mp hsame with ⟨-, -, hsameKey, -, -, hsameFrom⟩
        apply oneAtATime_of_mem hdb
        intro fact _
        rw [hresult]
        apply mem_supersedeFacts_of_none
        apply reused_supersedes_none hdb hexisting (hsameKey.symm.trans hkey)
        rw [← hsameFrom, hfrom]
      next =>
        have hlate : ∀ old ∈ db.factsOf key, ∃ s, old.validFrom = some s ∧ s < pgTimestamp start := by
          intro old hold
          rcases horder old hold.1 hold.2 with hlate | hsame
          . exact hlate
          . rw [hnew old hold.1] at hsame
            cases hsame
        have hchain := Succession.supersede hdb (target.fact req idx relation)
          (fun old => if old.superseded key (target.fact req idx relation).factId (pgTimestamp start)
            then { old with validTo := some (pgTimestamp start) } else old) hfrom hto
          (by
            intro old hold r hr
            rcases hlate old hold with ⟨s, hs, hlt⟩
            rw [hr] at hs
            cases hs
            exact hlt)
          (by
            intro old hold e he
            rw [if_neg]
            intro hsuperseded
            rw [((superseded_iff ..).mp hsuperseded).2.1] at he
            cases he)
          (by
            intro old hold hopen
            have hid := (Table.find?_eq_none_iff ..).mp (Table.insert?_fresh hinsert) old hold.1
            rw [if_pos ((superseded_iff ..).mpr ⟨hold.2, hopen, hlate old hold, hid⟩)]
            exact ⟨rfl, rfl⟩)
        unfold GraphDb.OneAtATime
        rw [factsOf_inserted hinsert hkey hresult]
        exact hchain
    . apply oneAtATime_of_mem hdb
      exact factsOf_of_ne hkey hstored

theorem oneAtATime_run (h : Run (Run.Guarded (InOrder text key) (GraphSteps text)) db events db')
    (hdb : db.OneAtATime key) : db'.OneAtATime key := by
  induction h with
  | nil db => exact hdb
  | cons head tail ih => exact ih (oneAtATime_step head.2 head.1 hdb)

/-- A run of ingestions goes through the steps of those that are not rolled back. -/
theorem ingests_steps (h : Run (Ingests text) db reqs db')
    : ∃ accepted : List GraphIngestion, accepted.Sublist reqs
        ∧ Run (GraphSteps text) db (accepted.flatMap GraphIngestion.events) db' := by
  induction h with
  | nil db => exact ⟨[], .refl [], .nil db⟩
  | @cons db mid db' req reqs head tail ih =>
    rcases ih with ⟨accepted, hsublist, hrun⟩
    unfold Ingests at head
    rcases Transaction.next_cases (persistGraphFieldsTx text req) db with
      ⟨_, hok⟩ | ⟨err, -, hnext⟩
    . rw [head] at hok
      refine ⟨req :: accepted, hsublist.cons_cons req, ?_⟩
      rw [List.flatMap_cons]
      exact (persistGraphFieldsTx_events hok).append hrun
    . rw [hnext] at head
      subst head
      exact ⟨accepted, hsublist.cons req, hrun⟩

/-- Where single-valued predicates have one truth at a time. -/
theorem truth_over_time (text : GraphText) (hnew : db₀.facts = .empty)
    : (∀ reqs db, Run (Ingests text) db₀ reqs db → db.ValidWindows
        ∧ ∃ accepted : List GraphIngestion, accepted.Sublist reqs
          ∧ Run (GraphSteps text) db₀ (accepted.flatMap GraphIngestion.events) db)
      ∧ (∀ db req idx relation target db₁ db₂ events db₃ old s start,
        resolveRelation text req idx relation db = .ok (target, db₁) →
        target.currentTruth req idx relation = some start →
        GraphSteps text db (.relate req idx relation) db₂ → Run (GraphSteps text) db₂ events db₃ →
        old ∈ db.facts → old.key = (target.fact req idx relation).key → old.validTo = none →
        old.validFrom = some s → s < pgTimestamp start →
        { old with validTo := some (pgTimestamp start) } ∈ db₃.facts
          ∧ ∀ new ∈ db₃.facts, new.validFrom = some (pgTimestamp start) → ∀ t, new.TrueAt t →
            ¬{ old with validTo := some (pgTimestamp start) }.TrueAt t)
      ∧ ∀ key events db, Run (Run.Guarded (InOrder text key) (GraphSteps text)) db₀ events db →
        ∀ t, ∀ fact ∈ db.facts, ∀ other ∈ db.facts, fact.key = key → other.key = key →
          fact.TrueAt t → other.TrueAt t → fact = other := by
  refine ⟨?_, ?_, ?_⟩
  . intro reqs db hrun
    rcases ingests_steps hrun with ⟨accepted, hsublist, hsteps⟩
    refine ⟨?_, accepted, hsublist, hsteps⟩
    apply Run.invariant (fun _ _ _ hinv hstep => validWindows_step hstep hinv) hsteps
    intro fact hfact
    rw [hnew] at hfact
    exact absurd hfact (Table.not_mem_empty fact)
  . intro db req idx relation target db₁ db₂ events db₃ old s start htarget hstart hstep hrun hold hkey
      hopen hs hlt
    refine ⟨ended_stays hrun (superseded_step hstep htarget hstart hold hkey hopen hs hlt) rfl, ?_⟩
    intro new _ hfrom t ht hat
    exact HoldsAt.not_of_ended hat rfl hfrom ht
  . intro key events db hrun t fact hfact other hother hkey hkey' ht ht'
    have hempty : db₀.OneAtATime key := by
      unfold GraphDb.OneAtATime
      have hfacts : db₀.factsOf key = ∅ := by
        ext fact
        simp [GraphDb.factsOf, hnew]
      rw [hfacts]
      exact Succession.empty
    exact Succession.unique (oneAtATime_run hrun hempty) ⟨hfact, hkey⟩ ⟨hother, hkey'⟩ ht ht'

/-! ## An employer at a time -/

/-- A registry with the predicate `works_at`, which an operator made single-valued. -/
def worksAtDb : GraphDb := { GraphDb.empty with
  predicates := ⟨[⟨7, "t:p", some "t", some "p", "works_at", "works_at", .single, .active, 0, 0⟩],
    List.nodup_singleton _⟩
  predicateAliases := ⟨[⟨8, 7, "t:p", "works_at", "works_at", 0⟩], List.nodup_singleton _⟩ }

/-- The `n`th ingestion: Alice has worked at `employer` from `start` on. -/
def worksAt (n : Nat) (employer : String) (start : Int) : GraphIngestion :=
  sampleIngestion n .caller [] [⟨none, some (sampleEntity "Alice" []), some "works_at",
    some ⟨none, some employer⟩, some start, none⟩]

def afterAcme : GraphDb := (persistGraphFieldsTx asciiText (worksAt 1 "Acme" 1000)).next worksAtDb

def afterBolt (start : Int) : GraphDb :=
  (persistGraphFieldsTx asciiText (worksAt 2 "Bolt" start)).next afterAcme

theorem afterBolt_run (start : Int)
    : Run (Ingests asciiText) worksAtDb [worksAt 1 "Acme" 1000, worksAt 2 "Bolt" start]
        (afterBolt start) := by
  exact Run.cons rfl (Run.single rfl)

theorem truth_over_time_afterBolt
    : (afterBolt 2000).ValidWindows
      ∧ (afterBolt 2000).facts.rows.map (fun fact => (fact.validFrom, fact.validTo))
        = [(some 1000, some 2000), (some 2000, none)] := by
  constructor
  . exact ((truth_over_time asciiText (rfl : worksAtDb.facts = .empty)).1 _ _ (afterBolt_run 2000)).1
  . decide +kernel

/-- Of two employers with the same start, neither ends the other. -/
theorem not_one_truth_afterBolt
    : ¬∀ reqs db, Run (Ingests asciiText) worksAtDb reqs db →
        ∀ t, ∀ fact ∈ db.facts, ∀ other ∈ db.facts,
          fact.key = other.key → fact.TrueAt t → other.TrueAt t → fact = other := by
  intro hall
  have h := hall _ _ (afterBolt_run 1000)
  have hrows : ∃ acme bolt, (afterBolt 1000).facts.rows = [acme, bolt] ∧ acme.key = bolt.key
      ∧ acme.validFrom = some 1000 ∧ bolt.validFrom = some 1000 ∧ acme.validTo = none
      ∧ bolt.validTo = none ∧ acme ≠ bolt := by
    refine ⟨(afterBolt 1000).facts.rows.get ⟨0, by decide +kernel⟩,
      (afterBolt 1000).facts.rows.get ⟨1, by decide +kernel⟩, ?_⟩
    decide +kernel
  rcases hrows with ⟨acme, bolt, hrows, hkey, hfrom, hfrom', hto, hto', hne⟩
  have htrue : ∀ fact : GraphFact, fact.validFrom = some 1000 → fact.validTo = none
      → fact.TrueAt 1000 := by
    intro fact hfrom hto
    refine ⟨⟨1000, hfrom, le_refl _⟩, ?_⟩
    rw [hto]
    simp
  apply hne
  apply h 1000 acme _ bolt _ hkey (htrue acme hfrom hto) (htrue bolt hfrom' hto')
  . rw [Table.mem_def, hrows]
    simp
  . rw [Table.mem_def, hrows]
    simp

end Elf

/-! ## Status of a fact -/

namespace Elf

/-- A page snapshot labels a fact by whether it has an end. -/
theorem status_relationSourceSnapshot (svc : KnowledgeService) (row : KnowledgeRelationSource)
    : (relationSourceSnapshot svc row).status = some "current" ↔ row.validTo = none := by
  unfold relationSourceSnapshot
  cases row.validTo <;> simp

section

variable (svc : KnowledgeService) (row : GraphFactRow) (subject : GraphEntity)
  (object : Option GraphEntity) (evidenceNotes : Json) (readAt : Int)

/-- Every path takes the fact to be current exactly if it is. -/
structure TemporalStatusAgrees : Prop where
  status : row.fact.temporalStatus readAt = .current ↔ row.fact.CurrentAt readAt
  relationContext : row.fact.isCurrent readAt = true ↔ row.fact.CurrentAt readAt
  queryWindow
    : row.fact.inQueryWindow readAt = true
        ↔ row.fact.CurrentAt readAt ∨ row.fact.temporalStatus readAt = .unknown
  graphQuery : row.fact.graphQueryStatus readAt = some .current ↔ row.fact.CurrentAt readAt
  snapshot
    : (relationSourceSnapshot svc (row.knowledgeSource subject object evidenceNotes)).status
          = some "current"
        ↔ row.fact.CurrentAt readAt

/--
A fact without an end has started, and the time of the read is outside the window of a fact that has
one.
-/
def GraphFact.SettledAt (fact : GraphFact) (readAt : Int) : Prop :=
  match fact.validTo with
  | none => ∃ start ∈ fact.validFrom, start ≤ readAt
  | some stop => stop ≤ readAt ∨ ∀ start ∈ fact.validFrom, readAt < start

theorem GraphFact.settledAt_iff (fact : GraphFact)
    : fact.SettledAt readAt ↔ (fact.validTo = none ↔ fact.CurrentAt readAt) := by
  unfold SettledAt CurrentAt
  cases fact.validTo with
  | none => simp
  | some stop =>
    cases fact.validFrom with
    | none => simp
    | some start =>
      simp only [Option.mem_some_iff, exists_eq_left', forall_eq', reduceCtorEq, false_iff]
      omega

end

def sampleFactRow (validFrom validTo : Option Int) : GraphFactRow := {
  fact := {
    factId := 30
    tenantId := "t"
    projectId := "p"
    agentId := "a"
    scope := "agent_private"
    subjectEntityId := 10
    predicate := "works at"
    predicateId := 20
    objectEntityId := none
    objectValue := some "Acme"
    validFrom
    validTo }
  updatedAt := 1 }

def sampleSubject : GraphEntity := ⟨10, "t", "p", "Ada", "ada", none⟩

end Elf
