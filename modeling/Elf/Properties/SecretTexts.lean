import Elf.Graph.Lemmas.Texts
import Elf.Lib.Json
import Elf.Service.Lemmas.AddEvent
import Elf.Service.Lemmas.Review
import Elf.Service.Op

/-!
This module contains which of the texts that a request stores with a note may be secrets. The write
gate looks at the text of the note only, so a request stores no secret if and only if there is none in
its key, in its structured fields and in its source reference.
-/

namespace Elf

open Text

/-- The requests that store notes. -/
inductive NoteRequest where
  | addNote (ctx : AddNoteContext) (note : AddNoteInput) (withinBudget : Bool)
  | addEvent (event : EventIngestion) (req : AddEventRequest) (note : ExtractedNote) (now : Nat)
    (withinBudget : Bool)
  | promotion (proposal : ConsolidationProposal) (args : PromotionArgs)

namespace NoteRequest

def exec (svc : ElfService) (draw : Draw) : NoteRequest → Transaction Error Store Unit
  | addNote ctx note withinBudget => fun s => do
    let (_, s) ← processAddNoteInput svc ctx note withinBudget draw s
    return ((), s)
  | addEvent event req note now withinBudget => fun s => do
    let (_, s) ← processExtractedNote svc event req note now withinBudget draw s
    return ((), s)
  | promotion proposal args => fun s => do
    let (_, s) ← promoteProposal svc draw s proposal args
    return ((), s)

/-- The structured fields of the request. A promotion has none. -/
def structured : NoteRequest → Option StructuredFields
  | addNote _ note _ => note.structured
  | addEvent _ _ note _ _ => note.structured
  | promotion _ _ => none

end NoteRequest

/-- The items of structured fields under the kinds that they are stored as. -/
def StructuredFields.kindItems (structured : StructuredFields) : List (String × List String) :=
  (structured.summary.map fun summary => ("summary", [summary])).toList
    ++ (structured.facts.map fun facts => ("fact", facts)).toList
    ++ (structured.concepts.map fun concepts => ("concept", concepts)).toList

/-- The kinds of rows that are stored for a request, with the items of each. -/
def contentItems (structured : Option StructuredFields) : List (String × List String) :=
  (structured.filter (!·.isEffectivelyEmpty)).toList.flatMap StructuredFields.kindItems

/-- The items as they are stored. -/
def storedItems (items : List String) : List String := (items.filter (!isBlank ·)).map trim

/-- The texts of the rows of one kind that a note has. -/
def kindTexts (fields : FieldTable) (noteId : Uuid) (kind : String) : List String :=
  ((noteFields fields noteId).filter fun row => row.fieldKind = kind).map NoteField.text

/-- The free texts of the row of a note. -/
def MemoryNote.freeTexts (note : MemoryNote) : List String :=
  note.text :: (note.key.toList ++ note.sourceRef.texts)

/-- The texts that are stored for a note after a request. -/
def NoteRequest.storedTexts (req : NoteRequest) (t : Store) (noteId : Uuid) : List String :=
  (t.notes.find? noteId).toList.flatMap MemoryNote.freeTexts
    ++ (contentItems req.structured).flatMap fun kind => kindTexts t.fields noteId kind.1

/-- The key of the row that the request writes. That of a stored row is not changed by `add_note`. -/
def NoteRequest.key (s : Store) (noteId : Uuid) : NoteRequest → Option String
  | addNote _ note _ =>
    match s.notes.find? noteId with
    | some prev => prev.key
    | none => note.key
  | addEvent _ _ _ _ _ => none
  | promotion proposal _ =>
    match decodePromotedMemoryPayload proposal with
    | .ok payload => normalizedOptionalString payload.key
    | .error _ => none

/-- The source reference that a request gives its note. -/
def NoteRequest.sourceRef : NoteRequest → Json
  | addNote _ note _ => note.sourceRef
  | addEvent event req note _ _ =>
    match event.sourceRef note (.fromRequestAndNote req note) with
    | .ok sourceRef => sourceRef
    | .error _ => .null
  | promotion proposal args =>
    match decodePromotedMemoryPayload proposal with
    | .ok payload => promotionSourceRef proposal payload.sourceRef args.reviewerAgentId
      args.reviewComment args.now
    | .error _ => .null

/-- The texts that a request stores besides the text of the note. -/
def NoteRequest.ungatedTexts (req : NoteRequest) (s : Store) (noteId : Uuid) : List String :=
  (req.key s noteId).toList ++ req.sourceRef.texts
    ++ (contentItems req.structured).flatMap fun kind => storedItems kind.2

variable {svc : ElfService} {draw : Draw} {s t : Store} {noteId : Uuid} {kind : String}

/-! ## Field rows -/

section Fields

variable {fields fields' : FieldTable} {fieldId : String → Nat → Uuid} {structured : StructuredFields}

theorem map_text_fieldRows (items : List String)
    : (fieldRows fieldId noteId kind items now).map NoteField.text = storedItems items := by
  have hgo : ∀ start, ((items.zipIdx start).filterMap fun item =>
      if isBlank item.1 then
        none
      else
        some ({
          fieldId := fieldId kind item.2
          noteId
          fieldKind := kind
          itemIndex := item.2
          text := trim item.1
          createdAt := timestamptz now
          updatedAt := timestamptz now } : NoteField)).map NoteField.text = storedItems items := by
    induction items with
    | nil =>
      intro start
      rfl
    | cons value items ih =>
      intro start
      unfold storedItems at ih ⊢
      rw [List.zipIdx_cons, List.filterMap_cons, List.filter_cons]
      cases hblank : isBlank value with
      | true => simp [ih]
      | false => simp [ih]
  exact hgo 0

theorem kindTexts_replaceKind
    (h : replaceKind fields fieldId noteId kind items now = .ok fields')
    : kindTexts fields' noteId kind = storedItems items := by
  have hold : ((fields.deleteWhere fun row => row.noteId = noteId && row.fieldKind = kind).rows.filter
      fun row => row.noteId = noteId).filter (fun row => row.fieldKind = kind) = [] := by
    rw [Table.rows_deleteWhere, List.filter_filter, List.filter_filter, List.filter_eq_nil_iff]
    intro row hrow
    simpa using fun hkind hid => ⟨hid, hkind⟩
  have hnew : ((fieldRows fieldId noteId kind items now).filter fun row => row.noteId = noteId).filter
      (fun row => row.fieldKind = kind) = fieldRows fieldId noteId kind items now := by
    rw [List.filter_filter, List.filter_eq_self]
    intro row hrow
    simp [mem_fieldRows hrow]
  unfold kindTexts noteFields
  rw [insertFields_rows h, List.filter_append, List.filter_append, hold, hnew, List.nil_append]
  exact map_text_fieldRows items

theorem kindTexts_replaceKindIfPresent_of_ne {other : String}
    (h : replaceKindIfPresent fields fieldId noteId other items now = .ok fields')
    (hne : other ≠ kind) : kindTexts fields' noteId kind = kindTexts fields noteId kind := by
  unfold replaceKindIfPresent at h
  split at h
  next items =>
    have hnew : ((fieldRows fieldId noteId other items now).filter fun row => row.noteId = noteId).filter
        (fun row => row.fieldKind = kind) = [] := by
      rw [List.filter_filter, List.filter_eq_nil_iff]
      intro row hrow
      simp [mem_fieldRows hrow, hne]
    unfold kindTexts noteFields
    rw [insertFields_rows h, List.filter_append, List.filter_append, hnew, List.append_nil,
      Table.rows_deleteWhere, List.filter_filter, List.filter_filter, List.filter_filter]
    congr 1
    apply List.filter_congr
    intro row hrow
    by_cases hkind : row.fieldKind = kind
    . have : kind ≠ other := fun h => hne h.symm
      simp [hkind, this]
    . simp [hkind]
  next =>
    cases h
    rfl

/-- Each kind of rows that structured fields have items of holds these items. -/
theorem kindTexts_upsertStructuredFieldsTx {items : List String}
    (h : upsertStructuredFieldsTx fields fieldId noteId structured now = .ok fields')
    (hkind : (kind, items) ∈ structured.kindItems)
    : kindTexts fields' noteId kind = storedItems items := by
  simp only [upsertStructuredFieldsTx, Except.bind_eq_ok] at h
  rcases h with ⟨fields₁, hsummary, fields₂, hfact, hconcept⟩
  simp only [StructuredFields.kindItems, List.mem_append, Option.mem_toList, Option.map_eq_some_iff,
    Prod.mk.injEq] at hkind
  rcases hkind with (⟨summary, hsome, rfl, rfl⟩ | ⟨facts, hsome, rfl, rfl⟩) | ⟨concepts, hsome, rfl, rfl⟩
  . rw [kindTexts_replaceKindIfPresent_of_ne hconcept (by decide),
      kindTexts_replaceKindIfPresent_of_ne hfact (by decide)]
    rw [hsome] at hsummary
    exact kindTexts_replaceKind hsummary
  . rw [kindTexts_replaceKindIfPresent_of_ne hconcept (by decide)]
    rw [hsome] at hfact
    exact kindTexts_replaceKind hfact
  . rw [hsome] at hconcept
    exact kindTexts_replaceKind hconcept

theorem kindTexts_upsertStructuredIfPresent {note : AddNoteInput}
    (h : upsertStructuredIfPresent fields draw note noteId now = .ok fields')
    : ∀ item ∈ contentItems note.structured,
        kindTexts fields' noteId item.1 = storedItems item.2 := by
  rintro ⟨kind, items⟩ hitem
  rcases List.mem_flatMap.mp hitem with ⟨structured, hsome, hkind⟩
  rw [Option.mem_toList] at hsome
  have hcontent : note.structuredContent = some structured := hsome
  unfold upsertStructuredIfPresent at h
  rw [hcontent] at h
  exact kindTexts_upsertStructuredFieldsTx h hkind

end Fields

theorem kindTexts_upsertExtractedFields {data : NoteProcessingData}
    (h : upsertExtractedFields s draw data noteId now = .ok t)
    : ∀ item ∈ contentItems data.structured,
        kindTexts t.fields noteId item.1 = storedItems item.2 := by
  rintro ⟨kind, items⟩ hitem
  rcases List.mem_flatMap.mp hitem with ⟨structured, hsome, hkind⟩
  rw [Option.mem_toList] at hsome
  unfold upsertExtractedFields at h
  rw [hsome] at h
  simp only [Except.bind_eq_ok, Except.pure_eq_ok] at h
  rcases h with ⟨fields, hfields, rfl⟩
  exact kindTexts_upsertStructuredFieldsTx hfields hkind

/-! ## Extracted notes -/

theorem persistExtractedNoteAdd_fields {args : PersistExtractedNoteArgs}
    (h : persistExtractedNoteAdd svc draw s args noteId = .ok t)
    : ∀ item ∈ contentItems args.data.structured,
        kindTexts t.fields noteId item.1 = storedItems item.2 := by
  simp only [persistExtractedNoteAdd, Except.bind_eq_ok, Except.pure_eq_ok] at h
  rcases h with ⟨s₁, -, s₂, -, s₃, -, s₄, -, s₅, hfields, -, -, rfl⟩
  exact kindTexts_upsertExtractedFields hfields

/-- An extracted note that is written gets the field rows of its request. -/
theorem processExtractedNote_fields {event : EventIngestion} {req : AddEventRequest}
    {note : ExtractedNote}
    (h : processExtractedNote svc event req note now withinBudget draw s = .ok (r, t))
    : t.versions = s.versions ∨ ∀ item ∈ contentItems note.structured,
        kindTexts t.fields draw.noteId item.1 = storedItems item.2 := by
  simp only [processExtractedNote] at h
  split at h
  . simp only [Except.bind_eq_ok, Except.pure_eq_ok, Prod.mk.injEq] at h
    rcases h with ⟨s', haudit, -, rfl⟩
    rcases recordIngestDecision_frame haudit with ⟨ingestDecisions, rfl⟩
    exact .inl rfl
  . rcases Except.bind_eq_ok.mp h with ⟨⟨⟩, -, h⟩
    split at h
    . simp only [Except.bind_eq_ok, Except.pure_eq_ok, Prod.mk.injEq] at h
      rcases h with ⟨s', haudit, -, rfl⟩
      rcases recordIngestDecision_frame haudit with ⟨ingestDecisions, rfl⟩
      exact .inl rfl
    . simp only [applyExtractedNoteDecision, Except.bind_eq_ok, Except.pure_eq_ok,
        Prod.mk.injEq] at h
      rcases h with ⟨sourceRef, -, ⟨⟨result, versionId⟩, s₁⟩, hpersist, s₂, haudit, -, rfl⟩
      rcases recordIngestDecision_frame haudit with ⟨ingestDecisions, rfl⟩
      split at hpersist
      . rcases resolveUpdate_keyless s (NoteProcessingData.resolveArgs _ _ sourceRef) draw.noteId rfl with
          ⟨other, metadata, hres⟩ | ⟨metadata, hres⟩
        . rw [hres] at hpersist
          cases hpersist
          exact .inl rfl
        . rw [hres] at hpersist
          simp only [persistExtractedNoteDecision, Except.bind_eq_ok, Except.pure_eq_ok,
            Prod.mk.injEq] at hpersist
          rcases hpersist with ⟨s', hadd, -, rfl⟩
          exact .inr (persistExtractedNoteAdd_fields hadd)
      . cases hpersist
        exact .inl rfl

/-! ## Writes -/

theorem Store.Writes.freeTexts {w : NoteWrite} (h : s.Writes t w)
    : (t.notes.find? w.next.noteId).toList.flatMap MemoryNote.freeTexts = w.next.freeTexts := by
  rw [h.notes_eq, if_pos rfl]
  simp [MemoryNote.freeTexts, MemoryNote.stored]

/-- The write that a version was recorded for. -/
theorem Store.Writes.version_noteId {w : NoteWrite} {version : NoteVersion} (h : s.Writes t w)
    (hversion : t.versions.rows = s.versions.rows ++ [version])
    : version.noteId = w.next.noteId := by
  rcases h.versions_eq with ⟨version', hrows, hid, -⟩
  rw [hversion] at hrows
  have heq : version = version' := by simpa using hrows
  rw [heq, hid]

/-- What is stored for the note of a request is its text, which passed the gate, and the rest. -/
theorem NoteRequest.storedTexts_eq {req : NoteRequest} {version : NoteVersion}
    (h : req.exec svc draw s = .ok ((), t))
    (hversion : t.versions.rows = s.versions.rows ++ [version])
    : ∃ text, svc.containsSecrets text = false
      ∧ req.storedTexts t version.noteId = text :: req.ungatedTexts s version.noteId := by
  have hquiet : t.versions ≠ s.versions := by
    intro heq
    rw [heq] at hversion
    simp at hversion
  -- The row and the field rows of the note that was written.
  suffices ∃ w, s.Writes t w ∧ svc.containsSecrets w.next.text = false
      ∧ (req.key s w.next.noteId = w.next.key ∧ req.sourceRef = w.next.sourceRef)
      ∧ ∀ item ∈ contentItems req.structured,
        kindTexts t.fields w.next.noteId item.1 = storedItems item.2 by
    rcases this with ⟨w, hwrites, htext, ⟨hkey, hsource⟩, hitems⟩
    refine ⟨w.next.text, htext, ?_⟩
    unfold storedTexts ungatedTexts
    rw [hwrites.version_noteId hversion, hwrites.freeTexts, hkey, hsource,
      List.flatMap_congr hitems]
    rfl
  cases req with
  | addNote ctx note withinBudget =>
    rcases Except.bind_eq_ok.mp h with ⟨⟨result, t'⟩, hok, hpure⟩
    cases hpure
    rcases processAddNoteInput_cases hok with
      ⟨text, -, ⟨⟨decisions, rfl⟩, -⟩ | ⟨-, hadd⟩ | ⟨prev, -, hrep⟩⟩
    . exact absurd rfl hquiet
    . refine ⟨_, hadd.writes, (writegate_ok hadd.gate).2.2.2.2.2, ⟨?_, rfl⟩, ?_⟩
      . unfold key
        rw [hadd.writes.prev_eq]
        rfl
      . exact kindTexts_upsertStructuredIfPresent hadd.fields
    . refine ⟨_, hrep.writes, (writegate_ok hrep.gate).2.2.2.2.2, ⟨?_, rfl⟩, ?_⟩
      . unfold key
        rw [hrep.writes.prev_eq]
        rfl
      . exact kindTexts_upsertStructuredIfPresent hrep.fields
  | addEvent event req note now withinBudget =>
    rcases Except.bind_eq_ok.mp h with ⟨⟨result, t'⟩, hok, hpure⟩
    cases hpure
    rcases processExtractedNote_cases hok with ⟨decisions, rfl⟩ | hadd
    . exact absurd rfl hquiet
    . rcases hadd with ⟨sourceRef, expiresAt, hsources, -, hadded⟩
      refine ⟨_, hadded.writes, (writegate_ok hadded.gate).2.2.2.2.2, ⟨rfl, ?_⟩, ?_⟩
      . dsimp only [NoteRequest.sourceRef]
        rw [hsources.recorded]
        rfl
      . exact (processExtractedNote_fields hok).resolve_left hquiet
  | promotion proposal args =>
    rcases Except.bind_eq_ok.mp h with ⟨⟨result, t'⟩, hok, hpure⟩
    cases hpure
    have hnone : contentItems (promotion proposal args).structured = [] := rfl
    rw [hnone]
    unfold promoteProposal at hok
    cases hintent : proposal.applyIntent with
    | createDerivedNote =>
      simp only [hintent, Except.bind_eq_ok, Except.pure_eq_ok, Prod.mk.injEq] at hok
      rcases hok with ⟨⟨id, t'⟩, hcreate, -, rfl⟩
      rcases createPromotedMemoryNote_cases hcreate hintent with ⟨payload, scope, hpayload, -, hprom⟩
      refine ⟨_, hprom.writes, (writegate_ok hprom.gate).2.2.2.2.2, ⟨?_, ?_⟩, by simp⟩
      . dsimp only [key]
        rw [hpayload]
        rfl
      . dsimp only [sourceRef]
        rw [hpayload]
        rfl
    | updateDerivedNote =>
      simp only [hintent, Except.bind_eq_ok, Except.pure_eq_ok, Prod.mk.injEq] at hok
      rcases hok with ⟨⟨id, t'⟩, hupdate, -, rfl⟩
      rcases updatePromotedMemoryNote_cases hupdate hintent with
        ⟨payload, scope, prev, hpayload, -, hprom⟩
      refine ⟨_, hprom.writes, (writegate_ok hprom.gate).2.2.2.2.2, ⟨?_, ?_⟩, by simp⟩
      . dsimp only [key]
        rw [hpayload]
        rfl
      . dsimp only [sourceRef]
        rw [hpayload]
        rfl
    | createDerivedKnowledgePage | updateDerivedKnowledgePage | createDerivedGraphView | noOp =>
      simp only [hintent] at hok
      cases hok
      exact absurd rfl hquiet

/-- The detector finds no secret in any of the texts. -/
def ElfService.Clean (svc : ElfService) (texts : List String) : Prop :=
  ∀ x ∈ texts, svc.containsSecrets x = false

/--
A request that is accepted stores no secret with its note if and only if there is none in the key, in
the source reference and in the summary, facts and concepts. It adds none to the graph tables if there
is none in the names, kinds, predicates, values and quotes of its entities and relations.
-/
theorem noteRequest_clean_iff {req : NoteRequest} {version : NoteVersion}
    (h : req.exec svc draw s = .ok ((), t))
    (hversion : t.versions.rows = s.versions.rows ++ [version])
    : (svc.Clean (req.storedTexts t version.noteId)
        ↔ svc.Clean (req.ungatedTexts s version.noteId))
      ∧ ∀ (text : GraphText) (ingestion : GraphIngestion) (db db' : GraphDb),
        req.structured = some ingestion.structured → Ingests text db ingestion db'
          → svc.Clean (ingestion.structured.graphTexts text)
          → ∀ x ∈ db'.texts, x ∈ db.texts ∨ svc.containsSecrets x = false := by
  constructor
  . rcases NoteRequest.storedTexts_eq h hversion with ⟨text, htext, hstored⟩
    unfold ElfService.Clean
    rw [hstored, List.forall_mem_cons]
    constructor
    . intro hclean
      exact hclean.2
    . intro hclean
      exact ⟨htext, hclean⟩
  . intro text ingestion db db' _ hingests hclean x hx
    rcases hingests.texts hx with hx | hx
    . exact .inl hx
    . exact .inr (hclean x hx)

/-! ## A secret in a key -/

/-- A service that knows the pattern `seed phrase`. -/
def seedPhraseService : ElfService :=
  { sampleService with
    containsSecrets := fun text => decide ("seed phrase".toList <:+: text.toList) }

def seedPhraseRequest (key : Option String) : NoteRequest :=
  .addNote ((sampleAddNote "p" "agent_private" []).context seedPhraseService 1000000000)
    (sampleNote key "The wallet was restored.") true

theorem noteRequest_clean_keyless
    : ∃ t version, (seedPhraseRequest (some "wallet")).exec seedPhraseService (sampleDraw 1) Store.empty
        = .ok ((), t)
      ∧ t.versions.rows = Store.empty.versions.rows ++ [version]
      ∧ seedPhraseService.Clean
        ((seedPhraseRequest (some "wallet")).storedTexts t version.noteId) := by
  refine ⟨_, _, rfl, rfl, ?_⟩
  apply (@noteRequest_clean_iff _ (sampleDraw 1) Store.empty _ _ _ rfl rfl).1.mpr
  unfold ElfService.Clean
  decide

theorem noteRequest_stores_secret
    : ∃ t version, (seedPhraseRequest (some "seed phrase")).exec seedPhraseService (sampleDraw 1)
        Store.empty = .ok ((), t)
      ∧ t.versions.rows = Store.empty.versions.rows ++ [version]
      ∧ ¬ seedPhraseService.Clean
        ((seedPhraseRequest (some "seed phrase")).storedTexts t version.noteId) := by
  refine ⟨_, _, rfl, rfl, ?_⟩
  unfold ElfService.Clean
  decide

end Elf
