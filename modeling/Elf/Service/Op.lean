import Elf.Lib.Run
import Elf.Service.AddEvent
import Elf.Service.MemoryCorrections
import Elf.Service.Review
import Elf.Service.Sharing

/-!
This module contains the steps of the service: every transaction that writes notes, grants or
proposals, and what a run of them does to the tables. A transaction that fails is rolled back.
-/

namespace Elf

/-- One transaction of a request. -/
inductive Op where
  | addNote (req : AddNoteRequest) (now : Nat) (note : AddNoteInput) (withinBudget : Bool)
  | addEvent (event : EventIngestion) (req : AddEventRequest) (note : ExtractedNote) (now : Nat)
    (withinBudget : Bool)
  | update (req : UpdateRequest)
  | delete (req : DeleteRequest)
  | publish (req : PublishNoteRequest)
  | unpublish (req : UnpublishNoteRequest)
  | grantUpsert (req : SpaceGrantRequest)
  | grantRevoke (req : SpaceGrantRequest)
  | correct (req : MemoryCorrectionRequest)
  | propose (owner : ConsolidationJobOwner) (proposalId : Uuid)
    (proposal : ConsolidationProposalContract)
  | review (req : ConsolidationProposalReviewRequest)
  | recordHits (noteIds : List Uuid)

/-- A worker stores a proposal of a run. -/
def insertConsolidationProposal (owner : ConsolidationJobOwner) (proposalId : Uuid)
    (proposal : ConsolidationProposalContract) (draw : Draw)
    : Transaction Error Store ConsolidationProposal := fun s => do
  let row ← proposalRowFromContract owner proposalId (draw.clock 0) proposal
  let proposals ← s.proposals.insert row duplicateKey
  return (row, { s with proposals })

/-- A search counts the notes it returns. -/
def recordHits (noteIds : List Uuid) (draw : Draw) : Transaction Error Store Unit := fun s =>
  .ok ((), { s with
    notes := s.notes.updateWhere (fun row => noteIds.contains row.noteId) fun row =>
      { row with hitCount := row.hitCount + 1, lastHitAt := some (timestamptz (draw.clock 0)) } })

/-- Forget the response of a transaction but for what it says was done to the note. -/
def Transaction.reports (tx : Transaction Error Store α) (op : α → Option NoteOp)
    : Transaction Error Store (Option NoteOp) := fun s =>
  match tx s with
  | .ok (a, s) => .ok (op a, s)
  | .error err => .error err

def Op.exec (svc : ElfService) (draw : Draw) : Op → Transaction Error Store (Option NoteOp)
  | addNote req now note withinBudget =>
    Transaction.reports (processAddNoteInput svc (req.context svc now) note withinBudget draw)
      fun result => some result.op
  | addEvent event req note now withinBudget =>
    Transaction.reports (processExtractedNote svc event req note now withinBudget draw)
      fun result => some result.op
  | update req => Transaction.reports (Elf.update svc req draw) fun response => some response.op
  | delete req => Transaction.reports (Elf.delete svc req draw) fun response => some response.op
  | publish req => Transaction.reports (publishNote svc req draw) fun _ => none
  | unpublish req => Transaction.reports (unpublishNote svc req draw) fun _ => none
  | grantUpsert req => Transaction.reports (spaceGrantUpsert svc req draw) fun _ => none
  | grantRevoke req => Transaction.reports (spaceGrantRevoke svc req draw) fun _ => none
  | correct req =>
    Transaction.reports (memoryCorrectionApply svc req draw) fun response => some response.op
  | propose owner proposalId proposal =>
    Transaction.reports (insertConsolidationProposal owner proposalId proposal draw) fun _ => none
  | review req => Transaction.reports (consolidationProposalReview svc req draw) fun _ => none
  | recordHits noteIds => Transaction.reports (Elf.recordHits noteIds draw) fun _ => none

theorem Transaction.reports_eq_ok {tx : Transaction Error Store α} {op : α → Option NoteOp}
    : Transaction.reports tx op s = .ok (r, t) ↔ ∃ a, tx s = .ok (a, t) ∧ r = op a := by
  unfold reports
  cases tx s with
  | ok out =>
    rcases out with ⟨a, u⟩
    simp only [Except.ok.injEq, Prod.mk.injEq]
    constructor
    . rintro ⟨rfl, rfl⟩
      exact ⟨a, ⟨rfl, rfl⟩, rfl⟩
    . rintro ⟨b, ⟨rfl, rfl⟩, rfl⟩
      exact ⟨rfl, rfl⟩
  | error err => simp

/-- A transaction with the configuration it runs under and what it draws. -/
structure Step where
  svc : ElfService
  draw : Draw
  op : Op

def Step.exec (a : Step) : Transaction Error Store (Option NoteOp) := a.op.exec a.svc a.draw

/-- The step relation of the service. -/
def Steps (s : Store) (a : Step) (t : Store) : Prop := a.exec.next s = t

theorem Steps.cases (h : Steps s a t) : t = s ∨ ∃ r, a.exec s = .ok (r, t) := by
  unfold Steps at h
  rcases Transaction.next_cases a.exec s with ⟨r, hok⟩ | ⟨err, -, hnext⟩
  . right
    rw [h] at hok
    exact ⟨r, hok⟩
  . left
    rw [← h, hnext]

theorem Steps.of_ok (h : a.exec s = .ok (r, t)) : Steps s a t := Transaction.next_of_ok h

/-- The store after the steps. -/
def Store.run (s : Store) : List Step → Store
  | [] => s
  | a :: as => (a.exec.next s).run as

theorem run_iff : Run Steps s as t ↔ s.run as = t := by
  constructor
  . intro h
    induction h with
    | nil s => rfl
    | cons head tail ih =>
      unfold Steps at head
      unfold Store.run
      rw [head, ih]
  . intro h
    induction as generalizing s with
    | nil =>
      subst h
      apply Run.nil
    | cons a as ih =>
      apply Run.cons rfl
      exact ih h

/-- The steps meet a guard, each in the state that it starts from. -/
def Store.Meets (guard : Store → Step → Prop) (s : Store) : List Step → Prop
  | [] => True
  | a :: as => guard s a ∧ (a.exec.next s).Meets guard as

/-- The steps all stand in a relation, each with the states before and after it. -/
def Store.AllSteps (P : Store → Step → Store → Prop) (s : Store) : List Step → Prop
  | [] => True
  | a :: as => P s a (a.exec.next s) ∧ (a.exec.next s).AllSteps P as

theorem run_of_meets {guard : Store → Step → Prop} (h : s.Meets guard as)
    : Run (Run.Guarded guard Steps) s as (s.run as) := by
  induction as generalizing s with
  | nil => exact Run.nil s
  | cons a as ih =>
    apply Run.cons
    . exact ⟨h.1, rfl⟩
    . exact ih h.2

/-- An `add_note` request is a run of one step for each of its notes, up to the first error. -/
theorem processAddNotes_run (svc : ElfService) (req : AddNoteRequest) (baseNow : Nat)
    (draws : Nat → Draw) (notes : List AddNoteInput) (idx remaining : Nat) (s : Store)
    : ∃ as, Run Steps s as (processAddNotes svc req baseNow draws notes idx remaining s).2
      ∧ ∀ a ∈ as, a.svc = svc ∧ ∃ now note withinBudget, a.op = .addNote req now note withinBudget := by
  induction notes generalizing idx remaining s with
  | nil => exact ⟨[], .nil s, by simp⟩
  | cons note notes ih =>
    unfold processAddNotes
    dsimp only
    split
    next => exact ⟨[], .nil s, by simp⟩
    next result t hok =>
      rcases ih (idx + 1) _ t with ⟨as, hrun, hops⟩
      have hstep : Steps s ⟨svc, draws idx, .addNote req (baseNow + 1000 * idx) note
          (decide (svc.addNoteBytes note ≤ remaining))⟩ t :=
        Steps.of_ok (Transaction.reports_eq_ok.mpr ⟨result, hok, rfl⟩)
      refine ⟨_, .cons hstep hrun, ?_⟩
      intro a hmem
      rcases List.mem_cons.mp hmem with rfl | hmem
      . exact ⟨rfl, _, note, _, rfl⟩
      . exact hops a hmem

theorem addNote_run (svc : ElfService) (req : AddNoteRequest) (baseNow : Nat) (draws : Nat → Draw)
    (s : Store) : ∃ as, Run Steps s as (addNote svc req baseNow draws s).2 := by
  unfold addNote
  dsimp only
  split
  . exact ⟨[], .nil s⟩
  . rcases processAddNotes_run svc (normalizeAddNoteRequest req) baseNow draws
      (normalizeAddNoteRequest req).notes 0 svc.cfg.ingestMaxBytes s with ⟨as, hrun, -⟩
    exact ⟨as, hrun⟩

/-! ## Runs on given inputs -/

def sampleConfig : Config := {
  scopes := {
    allowed := ["agent_private", "project_shared", "org_shared"]
    writeAllowed := ⟨true, true, true⟩ }
  ttlDays := ⟨0, 0, 0, 0, 0, 0⟩
  policyRules := []
  ingestMaxBytes := 65536
  embeddingVersion := "embed/v1" }

/-- A service that finds nothing wrong with what it does not look into. -/
def sampleService : ElfService := {
  cfg := sampleConfig
  containsSecrets := fun _ => false
  validateStructuredFields := fun _ _ _ => .ok ()
  persistGraphFields := fun _ _ => .ok ()
  addNoteBytes := fun _ => 0
  updateBytes := fun _ => 0 }

/-- What the `n`th request draws, a second after the one before it. -/
def sampleDraw (n : Nat) : Draw := {
  clock := fun reading => 1000000000 * n + 1000 * reading
  noteId := n
  versionId := n
  outboxId := n
  grantId := n
  decisionId := n
  fieldId := fun kind idx => 1000 * n + 100 * kind.length + idx
  reviewId := fun step => 10 * n + step }

def sampleStep (n : Nat) (op : Op) : Step := ⟨sampleService, sampleDraw n, op⟩

def sampleNote (key : Option String) (text : String) : AddNoteInput := {
  type := "fact"
  key
  text
  structured := none
  importance := .fin (1 / 2)
  confidence := .fin (1 / 2)
  ttlDays := none
  sourceRef := .obj []
  writePolicy := none }

def sampleAddNote (projectId scope : String) (notes : List AddNoteInput) : AddNoteRequest :=
  ⟨"t", projectId, "a", scope, notes⟩

/-- The request that stores one note, as the `n`th one. -/
def sampleAdd (n : Nat) (projectId scope : String) (note : AddNoteInput) : Step :=
  sampleStep n (.addNote (sampleAddNote projectId scope [note]) (1000000000 * n) note true)

def sampleCorrection (noteId : Uuid) (action : MemoryCorrectionAction)
    (restoreVersionId : Option Uuid) : MemoryCorrectionRequest := {
  tenantId := "t"
  projectId := "p"
  actorAgentId := "a"
  noteId
  action
  reason := "r"
  sourceRef := .obj [("by", .str "a")]
  restoreVersionId }

end Elf
