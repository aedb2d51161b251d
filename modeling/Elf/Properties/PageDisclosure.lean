import Elf.Knowledge.Lemmas.Search
import Elf.Properties.Visibility

/-!
This module contains what a search of the pages gives away: the sections that it returns, and what
the texts of the other sections have to do with the response.
-/

namespace Elf

open Sorting

/-! ## Visible sources -/

section

variable (sources : SourceDb) (reader : SourceReader) (clock : SourceClock) (agentId : String)

/-- Documents are visible as they are to a reader of documents. -/
structure DocVisible (doc : DocDocument) : Prop where
  project : reader.reachesProject doc.tenantId doc.projectId = true
  active : doc.status = "active"
  allowed : docReadAllowed agentId reader.allowedScopes reader.sharedGrants doc.agentId doc.scope
    = true

/-- Notes are visible as they are to a reader of notes. -/
structure NoteVisible (now : Nat) (note : MemoryNote) : Prop where
  project : reader.reachesProject note.tenantId note.projectId = true
  allowed : noteReadAllowed note agentId reader.allowedScopes reader.sharedGrants now = true

/-- The audit of an event that made a note, in a space that the reader sees. -/
structure AuditVisible (row : IngestAudit) : Prop where
  project : reader.reachesProject row.decision.tenantId row.decision.projectId = true
  pipeline : row.pipeline = "add_event"
  accepted : row.decision.policyDecision = .remember ∨ row.decision.policyDecision = .update
  shared : row.decision.scope = "agent_private" ∨ isSharedScope row.decision.scope = true
  allowed : docReadAllowed agentId reader.allowedScopes reader.sharedGrants row.decision.agentId
    row.decision.scope = true

/-- The space of a fact or of a note that it rests on, as the queries on the graph check it. -/
structure SpaceVisible (ownerAgentId scope : String) : Prop where
  allowed : scope ∈ reader.allowedScopes
  owner : ownerAgentId = agentId ∨ scope ≠ "agent_private" ∧ ∃ grant ∈ reader.sharedGrants,
    grant.keyString = scope ++ ":" ++ ownerAgentId

/-- A note that a fact rests on. -/
structure EvidenceVisible (now : Nat) (fact : GraphFact) (note : MemoryNote) : Prop where
  project : note.tenantId = fact.tenantId ∧ note.projectId = fact.projectId
  active : note.status = "active"
  unexpired : note.expired now = false
  space : SpaceVisible reader agentId note.agentId note.scope

/-- A fact in a space that the reader sees, with a note that it rests on. -/
structure FactVisible (fact : GraphFact) : Prop where
  project : reader.reachesProject fact.tenantId fact.projectId = true
  space : SpaceVisible reader agentId fact.agentId fact.scope
  evidence : ∃ row ∈ sources.evidence, row.evidence.factId = fact.factId
    ∧ ∃ note ∈ sources.notes, note.noteId = row.evidence.noteId
      ∧ EvidenceVisible reader agentId clock.relations fact note

/-- The source of a kind is visible to the agent, by the rule of its kind. -/
inductive SourceVisible : KnowledgeSourceKind → Uuid → Prop where
  | doc {doc : DocDocument} : doc ∈ sources.docs.documents → DocVisible reader agentId doc →
    SourceVisible .doc doc.docId
  | docChunk {chunk : DocChunk} {doc : DocDocument} : chunk ∈ sources.docs.chunks →
    doc ∈ sources.docs.documents → doc.docId = chunk.docId → DocVisible reader agentId doc →
    SourceVisible .docChunk chunk.chunkId
  | note {note : MemoryNote} : note ∈ sources.notes →
    NoteVisible reader agentId clock.notes note → SourceVisible .note note.noteId
  | event {row : IngestAudit} {note : MemoryNote} : row ∈ sources.ingestDecisions →
    AuditVisible reader agentId row → note ∈ sources.notes →
    row.decision.noteId = some note.noteId → NoteVisible reader agentId clock.events note →
    SourceVisible .event row.decisionId
  | relation {row : GraphFactRow} : row ∈ sources.facts →
    FactVisible sources reader clock agentId row.fact → SourceVisible .relation row.factId
  | proposal {proposal : ConsolidationProposal} : proposal ∈ sources.proposals →
    reader.reachesProject proposal.tenantId proposal.projectId = true →
    proposal.reviewState = .applied → SourceVisible .proposal proposal.proposalId

/-- The source that a page refers to is visible. -/
def RefVisible (sourceRef : KnowledgePageSourceRef) : Prop :=
  ∃ kind, KnowledgeSourceKind.parse sourceRef.sourceKind = some kind
    ∧ SourceVisible sources reader clock agentId kind sourceRef.sourceId

end

variable {lower : Char → Char} {read : ReadService} {svc : KnowledgeService} {sources : SourceDb}
variable {clock : SourceClock} {reader : SourceReader} {agentId : String} {db db' : KnowledgeDb}
variable {req : KnowledgePageSearchRequest} {allowedScopes : List String} {now : Nat} {id : Uuid}

/-! ## Rows that are read -/

theorem sourceRowReadAllowed_iff (hagent : reader.agentId = some agentId) (owner scope : String)
    : sourceRowReadAllowed reader owner scope = true
        ↔ (scope = "agent_private" ∨ isSharedScope scope = true)
          ∧ docReadAllowed agentId reader.allowedScopes reader.sharedGrants owner scope = true := by
  unfold sourceRowReadAllowed docReadAllowed
  rw [hagent]
  by_cases hallowed : reader.allowedScopes.contains scope = true
  . by_cases hprivate : scope = "agent_private"
    . simp [hprivate]
    . by_cases hshared : isSharedScope scope = true
      . simp [hprivate, hshared]
      . simp [hprivate, hshared]
  . rw [Bool.not_eq_true] at hallowed
    rw [hallowed]
    simp

theorem docVisible_of_docSource (hagent : reader.agentId = some agentId) {doc : DocDocument}
    {source : KnowledgeDocSource} (h : docSource reader doc = some source)
    (hallowed : sourceRowReadAllowed reader source.agentId source.scope = true)
    : DocVisible reader agentId doc := by
  unfold docSource at h
  rw [Option.ite_none_right_eq_some] at h
  rcases h with ⟨hselected, heq⟩
  cases heq
  simp only [Bool.and_eq_true, decide_eq_true_eq] at hselected
  exact ⟨hselected.1.1, hselected.2, ((sourceRowReadAllowed_iff hagent _ _).mp hallowed).2⟩

theorem exists_docVisible_of_docChunkSource (hagent : reader.agentId = some agentId)
    {chunk : DocChunk} {source : KnowledgeDocChunkSource}
    (h : docChunkSource sources reader chunk = some source)
    (hallowed : sourceRowReadAllowed reader source.agentId source.scope = true)
    : ∃ doc ∈ sources.docs.documents, doc.docId = chunk.docId ∧ DocVisible reader agentId doc := by
  rcases Option.map_eq_some_iff.mp h with ⟨doc, hdoc, rfl⟩
  rw [Option.filter_eq_some_iff] at hdoc
  rcases hdoc with ⟨hfind, hselected⟩
  simp only [Bool.and_eq_true, decide_eq_true_eq] at hselected
  refine ⟨doc, Table.mem_of_find? hfind, Table.key_of_find? hfind, ?_⟩
  exact ⟨hselected.1.1, hselected.2, ((sourceRowReadAllowed_iff hagent _ _).mp hallowed).2⟩

theorem noteVisible_of_noteSource (hagent : reader.agentId = some agentId) {note : MemoryNote}
    {source : KnowledgeNoteSource} (h : noteSource reader now note = some source)
    (hallowed : sourceRowReadAllowed reader source.agentId source.scope = true)
    : NoteVisible reader agentId now note := by
  unfold noteSource at h
  rw [Option.ite_none_right_eq_some] at h
  rcases h with ⟨hselected, heq⟩
  cases heq
  simp only [Bool.and_eq_true, decide_eq_true_eq, Bool.not_eq_true'] at hselected
  rcases hselected with ⟨⟨⟨hproject, _⟩, hactive⟩, hexpired⟩
  refine ⟨hproject, ?_⟩
  unfold noteReadAllowed
  rw [if_neg (by simp [hactive]), if_neg (by simp [hexpired])]
  unfold sourceRowReadAllowed at hallowed
  rw [hagent] at hallowed
  exact hallowed

theorem auditVisible_of_eventSource (hagent : reader.agentId = some agentId) {row : IngestAudit}
    {source : KnowledgeEventSource} (h : eventSource sources reader now row = some source)
    (hallowed : sourceRowReadAllowed reader source.agentId source.scope = true)
    : AuditVisible reader agentId row ∧ ∃ note ∈ sources.notes,
      row.decision.noteId = some note.noteId
        ∧ reader.reachesProject note.tenantId note.projectId = true := by
  rcases Option.map_eq_some_iff.mp h with ⟨note, hnote, rfl⟩
  rw [Option.filter_eq_some_iff, Option.bind_eq_some_iff] at hnote
  rcases hnote with ⟨⟨noteId, hnoteId, hfind⟩, hselected⟩
  simp only [Bool.and_eq_true, decide_eq_true_eq] at hselected
  rcases hselected with
    ⟨⟨⟨⟨⟨⟨⟨⟨hproject, _⟩, hpipeline⟩, haccepted⟩, htenant⟩, hnoteProject⟩, _⟩, _⟩, _⟩
  rw [sourceRowReadAllowed_iff hagent] at hallowed
  have hdecision : row.decision.policyDecision = .remember
      ∨ row.decision.policyDecision = .update := by
    cases hdecided : row.decision.policyDecision with
    | remember => exact Or.inl rfl
    | update => exact Or.inr rfl
    | ignore =>
      rw [hdecided] at haccepted
      revert haccepted
      decide
    | reject =>
      rw [hdecided] at haccepted
      revert haccepted
      decide
  refine ⟨⟨hproject, hpipeline, hdecision, hallowed.1, hallowed.2⟩, note,
    Table.mem_of_find? hfind, ?_, ?_⟩
  . rw [hnoteId, ← Table.key_of_find? hfind]
  . rw [htenant, hnoteProject]
    exact hproject

theorem spaceVisible_of_selectsShared (hagent : reader.agentId = some agentId) {owner scope : String}
    (h : reader.selectsShared owner scope = true) : SpaceVisible reader agentId owner scope := by
  unfold SourceReader.selectsShared at h
  rw [hagent] at h
  simp only [Option.isNone_some, Bool.false_or, Bool.and_eq_true, Bool.or_eq_true,
    decide_eq_true_eq, Option.some.injEq, List.contains_iff_mem, mem_sharedScopeKeyStrings] at h
  rcases h with ⟨hscope, ⟨_, howner⟩ | ⟨hprivate, howner | hgrant⟩⟩
  . exact ⟨hscope, Or.inl howner.symm⟩
  . exact ⟨hscope, Or.inl howner.symm⟩
  . exact ⟨hscope, Or.inr ⟨hprivate, hgrant⟩⟩

theorem factVisible_of_relationSource (hagent : reader.agentId = some agentId) {row : GraphFactRow}
    {source : KnowledgeRelationSource}
    (h : relationSource sources reader clock.relations row = some source)
    : FactVisible sources reader clock agentId row.fact := by
  unfold relationSource at h
  rw [Option.ite_none_right_eq_some] at h
  simp only [Bool.and_eq_true, Bool.not_eq_true', List.isEmpty_eq_false_iff] at h
  rcases h with ⟨⟨⟨hproject, hspace⟩, hevidence⟩, _⟩
  refine ⟨hproject, spaceVisible_of_selectsShared hagent hspace, ?_⟩
  rcases List.exists_mem_of_ne_nil _ hevidence with ⟨entry, hentry⟩
  rcases List.mem_filterMap.mp hentry with ⟨evidence, hmem, hnote⟩
  rcases Option.map_eq_some_iff.mp hnote with ⟨note, hfound, _⟩
  rw [Option.filter_eq_some_iff] at hfound
  rcases hfound with ⟨hfind, hreadable⟩
  have hfact := List.mem_filter.mp hmem
  unfold evidenceReadable at hreadable
  simp only [Bool.and_eq_true, decide_eq_true_eq, Bool.not_eq_true'] at hreadable
  rcases hreadable with ⟨⟨⟨⟨htenant, hnoteProject⟩, hactive⟩, hexpired⟩, hshared⟩
  refine ⟨evidence, hfact.1, decide_eq_true_eq.mp hfact.2, note, Table.mem_of_find? hfind,
    Table.key_of_find? hfind, ?_⟩
  exact ⟨⟨htenant, hnoteProject⟩, hactive, hexpired, spaceVisible_of_selectsShared hagent hshared⟩

/-! ## References -/

/--
The note behind an event that is cited is readable as a note. The query on the events does not look
at the grants on the space of the note.
-/
def CitedNoteReadable (sources : SourceDb) (reader : SourceReader) (clock : SourceClock)
    (agentId : String) (sourceRef : KnowledgePageSourceRef) : Prop :=
  sourceRef.sourceKind = KnowledgeSourceKind.event.asStr →
    ∀ row ∈ sources.ingestDecisions, row.decisionId = sourceRef.sourceId →
      ∀ note ∈ sources.notes, row.decision.noteId = some note.noteId →
        noteReadAllowed note agentId reader.allowedScopes reader.sharedGrants clock.events = true

theorem sourceVisible_of_source (hagent : reader.agentId = some agentId)
    {kind : KnowledgeSourceKind} {snapshot : SourceSnapshot}
    (h : sources.source svc reader clock kind id = some snapshot)
    (hnote : kind = .event → ∀ row ∈ sources.ingestDecisions, row.decisionId = id →
      ∀ note ∈ sources.notes, row.decision.noteId = some note.noteId →
        noteReadAllowed note agentId reader.allowedScopes reader.sharedGrants clock.events = true)
    : SourceVisible sources reader clock agentId kind id := by
  cases kind with
  | doc =>
    simp only [SourceDb.source, Option.map_eq_some_iff, Option.filter_eq_some_iff,
      Option.bind_eq_some_iff] at h
    rcases h with ⟨source, ⟨⟨doc, hfind, hsource⟩, hallowed⟩, _⟩
    rw [← Table.key_of_find? hfind]
    exact .doc (Table.mem_of_find? hfind) (docVisible_of_docSource hagent hsource hallowed)
  | docChunk =>
    simp only [SourceDb.source, Option.map_eq_some_iff, Option.filter_eq_some_iff,
      Option.bind_eq_some_iff] at h
    rcases h with ⟨source, ⟨⟨chunk, hfind, hsource⟩, hallowed⟩, _⟩
    rcases exists_docVisible_of_docChunkSource hagent hsource hallowed with ⟨doc, hdoc, hid, hvisible⟩
    rw [← Table.key_of_find? hfind]
    exact .docChunk (Table.mem_of_find? hfind) hdoc hid hvisible
  | note =>
    simp only [SourceDb.source, Option.map_eq_some_iff, Option.filter_eq_some_iff,
      Option.bind_eq_some_iff] at h
    rcases h with ⟨source, ⟨⟨note, hfind, hsource⟩, hallowed⟩, _⟩
    rw [← Table.key_of_find? hfind]
    exact .note (Table.mem_of_find? hfind) (noteVisible_of_noteSource hagent hsource hallowed)
  | event =>
    simp only [SourceDb.source, Option.map_eq_some_iff, Option.filter_eq_some_iff,
      Option.bind_eq_some_iff] at h
    rcases h with ⟨source, ⟨⟨row, hfind, hsource⟩, hallowed⟩, _⟩
    rcases auditVisible_of_eventSource hagent hsource hallowed
      with ⟨hvisible, note, hmem, hlink, hproject⟩
    have hreadable := hnote rfl row (Table.mem_of_find? hfind) (Table.key_of_find? hfind) note hmem
      hlink
    rw [← Table.key_of_find? hfind]
    exact .event (Table.mem_of_find? hfind) hvisible hmem hlink ⟨hproject, hreadable⟩
  | relation =>
    simp only [SourceDb.source, Option.map_eq_some_iff, Option.bind_eq_some_iff] at h
    rcases h with ⟨source, ⟨row, hfind, hsource⟩, _⟩
    rw [← Table.key_of_find? hfind]
    exact .relation (Table.mem_of_find? hfind) (factVisible_of_relationSource hagent hsource)
  | proposal =>
    simp only [SourceDb.source, Option.map_eq_some_iff, Option.bind_eq_some_iff] at h
    rcases h with ⟨source, ⟨proposal, hfind, hsource⟩, _⟩
    unfold proposalSource at hsource
    rw [Option.ite_none_right_eq_some] at hsource
    simp only [Bool.and_eq_true, decide_eq_true_eq] at hsource
    rw [← Table.key_of_find? hfind]
    exact .proposal (Table.mem_of_find? hfind) hsource.1.1 hsource.1.2

/-- A current source is visible exactly if the note behind it, where it is an event, is readable. -/
theorem refVisible_iff (hagent : reader.agentId = some agentId) {sourceRef : KnowledgePageSourceRef}
    (h : sourceRefCurrent svc sources reader clock sourceRef = true)
    : RefVisible sources reader clock agentId sourceRef
        ↔ CitedNoteReadable sources reader clock agentId sourceRef := by
  constructor
  . rintro ⟨kind, hkind, hvisible⟩ hevent row hrow hid note hnote hlink
    rw [hevent, KnowledgeSourceKind.parse_asStr] at hkind
    cases hkind
    generalize hsource : sourceRef.sourceId = sourceId at hvisible hid
    cases hvisible with
    | @event row' note' hrow' haudit hnote' hlink' hvisible' =>
      have hsame : row = row' := Table.eq_of_key_eq sources.ingestDecisions hrow hrow' hid
      subst hsame
      rw [hlink, Option.some.injEq] at hlink'
      have hsame : note = note' := Table.eq_of_key_eq sources.notes hnote hnote' hlink'
      subst hsame
      exact hvisible'.allowed
  . intro hnotes
    unfold sourceRefCurrent at h
    rw [Option.any_eq_true] at h
    rcases h with ⟨kind, hkind, hsome⟩
    rcases Option.isSome_iff_exists.mp hsome with ⟨snapshot, hsource⟩
    refine ⟨kind, hkind, sourceVisible_of_source hagent hsource ?_⟩
    intro hevent
    subst hevent
    exact hnotes (KnowledgeSourceKind.asStr_of_parse hkind).symm

/-! ## Sections that are returned -/

section

variable (lower : Char → Char) (read : ReadService) (svc : KnowledgeService) (sources : SourceDb)
variable (clock : SourceClock) (req : KnowledgePageSearchRequest) (allowedScopes : List String)
variable (db : KnowledgeDb)

/-- Every section that is returned cites a source, and only sources that are visible. -/
def ShowsVisible : Prop :=
  ∀ resp, knowledgePagesSearch lower read svc sources clock db req = .ok resp →
    ∀ item ∈ resp.items,
      (∃ sourceRef ∈ db.sourceRefs, sourceRef.sectionId = some item.sectionId)
        ∧ ∀ sourceRef ∈ db.sourceRefs, sourceRef.sectionId = some item.sectionId →
          RefVisible sources (req.reader sources allowedScopes) clock req.agentId sourceRef

/-- Of the rows that are recallable, the notes behind the events that they cite are readable. -/
def CitesReadableNotes : Prop :=
  ∀ row ∈ req.rows lower db,
    sectionRecallable svc sources (req.reader sources allowedScopes) clock db row.sectionId = true →
      ∀ sourceRef ∈ db.sourceRefs, sourceRef.sectionId = some row.sectionId →
        CitedNoteReadable sources (req.reader sources allowedScopes) clock req.agentId sourceRef

/-- The number of matching sections stays within the limit. -/
def WithinLimit : Prop :=
  (matchingSections lower db req.tenantId req.projectId (req.pageKind.map KnowledgePageKind.asStr)
    (Like.containing req.needle)).length ≤ boundedLimit req.limit

end

theorem showsVisible_iff (hdb : db.WellFormed) (h : SearchAccepted read req allowedScopes)
    : ShowsVisible lower read svc sources clock req allowedScopes db
        ↔ CitesReadableNotes lower svc sources clock req allowedScopes db := by
  unfold ShowsVisible
  rw [knowledgePagesSearch_eq hdb h]
  constructor
  . intro hshows row hrow hrecallable sourceRef href hsection
    have hreturned : row ∈ (req.rows lower db).filter fun row => sectionRecallable svc sources
        (req.reader sources allowedScopes) clock db row.sectionId :=
      List.mem_filter.mpr ⟨hrow, hrecallable⟩
    have hvisible := (hshows _ rfl _ (List.mem_map_of_mem hreturned)).2 sourceRef href hsection
    have hcurrent := (sectionRecallable_iff.mp hrecallable).2 sourceRef href hsection
    exact (refVisible_iff rfl hcurrent.1).mp hvisible
  . intro hnotes resp hresp item hitem
    cases hresp
    rcases List.mem_map.mp hitem with ⟨row, hrow, rfl⟩
    rcases List.mem_filter.mp hrow with ⟨hrow, hrecallable⟩
    have hrefs := sectionRecallable_iff.mp hrecallable
    refine ⟨hrefs.1, ?_⟩
    intro sourceRef href hsection
    rw [refVisible_iff rfl (hrefs.2 sourceRef href hsection).1]
    exact hnotes row hrow hrecallable sourceRef href hsection

/-! ## Texts that are hidden -/

/-- The section cites a source that is not visible. -/
def SectionHidden (sources : SourceDb) (reader : SourceReader) (clock : SourceClock)
    (agentId : String) (db : KnowledgeDb) (row : KnowledgePageSection) : Prop :=
  ∃ sourceRef ∈ db.sourceRefs, sourceRef.sectionId = some row.sectionId
    ∧ ¬RefVisible sources reader clock agentId sourceRef

/-- The tables differ at most in the headings and the contents of hidden sections. -/
structure SameButHidden (sources : SourceDb) (reader : SourceReader) (clock : SourceClock)
    (agentId : String) (db db' : KnowledgeDb) : Prop where
  pages : db'.pages = db.pages
  sourceRefs : db'.sourceRefs = db.sourceRefs
  lintFindings : db'.lintFindings = db.lintFindings
  sections : ∃ retext : KnowledgePageSection → KnowledgePageSection,
    db'.sections.rows = db.sections.rows.map retext
      ∧ ∀ row ∈ db.sections, retext row = row
        ∨ SectionHidden sources reader clock agentId db row
          ∧ ∃ heading content, retext row = { row with heading, content }

theorem searchableRow_congr (hpages : db'.pages = db.pages) (hrefs : db'.sourceRefs = db.sourceRefs)
    (hlint : db'.lintFindings = db.lintFindings) (tenantId projectId : String)
    (pageKind : Option String) (pageSection : KnowledgePageSection)
    : searchableRow db' tenantId projectId pageKind pageSection
        = searchableRow db tenantId projectId pageKind pageSection := by
  unfold searchableRow knowledgePageSearchRow lintCount
  rw [hpages, hrefs, hlint]

theorem sectionRecallable_congr (hrefs : db'.sourceRefs = db.sourceRefs) (sectionId : Uuid)
    : sectionRecallable svc sources reader clock db' sectionId
        = sectionRecallable svc sources reader clock db sectionId := by
  unfold sectionRecallable KnowledgeDb.sectionRefs
  rw [hrefs]

theorem rows_of_withinLimit (h : WithinLimit lower req db)
    : req.rows lower db = sortBy (searchOrder lower (Like.containing req.needle))
      (matchingSections lower db req.tenantId req.projectId
        (req.pageKind.map KnowledgePageKind.asStr) (Like.containing req.needle)) := by
  unfold KnowledgePageSearchRequest.rows searchKnowledgePageSections
  apply List.take_of_length_le
  rw [length_sortBy]
  exact h

/-- A hidden section is not among the rows that are recallable. -/
theorem not_recallable_of_hidden (hwithin : WithinLimit lower req db)
    (hnotes : CitesReadableNotes lower svc sources clock req allowedScopes db)
    {pageSection : KnowledgePageSection} (hmem : pageSection ∈ db.sections)
    (hhidden : SectionHidden sources (req.reader sources allowedScopes) clock req.agentId db
      pageSection)
    : ((searchableRow db req.tenantId req.projectId (req.pageKind.map KnowledgePageKind.asStr)
        pageSection).filter fun row => row.matches lower (Like.containing req.needle)
          && sectionRecallable svc sources (req.reader sources allowedScopes) clock db
            row.sectionId) = none := by
  rw [Option.filter_eq_none_iff]
  intro row hrow hselected
  rw [Bool.and_eq_true] at hselected
  have hmatching : row ∈ matchingSections lower db req.tenantId req.projectId
      (req.pageKind.map KnowledgePageKind.asStr) (Like.containing req.needle) :=
    List.mem_filter.mpr ⟨List.mem_filterMap.mpr ⟨pageSection, hmem, hrow⟩, hselected.1⟩
  have hrows : row ∈ req.rows lower db := by
    rw [rows_of_withinLimit hwithin]
    exact mem_sortBy.mpr hmatching
  have hsection : row.sectionId = pageSection.sectionId := by
    rcases Option.map_eq_some_iff.mp hrow with ⟨page, _, rfl⟩
    rfl
  rcases hhidden with ⟨sourceRef, href, hid, hinvisible⟩
  rw [← hsection] at hid
  have hcurrent := (sectionRecallable_iff.mp hselected.2).2 sourceRef href hid
  apply hinvisible
  rw [refVisible_iff rfl hcurrent.1]
  exact hnotes row hrows hselected.2 sourceRef href hid

/-- The recallable rows of a request, as long as the limit cuts none off. -/
theorem filter_rows_of_withinLimit (h : WithinLimit lower req db)
    : (req.rows lower db).filter (fun row => sectionRecallable svc sources reader clock db
        row.sectionId)
      = sortBy (searchOrder lower (Like.containing req.needle))
        (db.sections.rows.filterMap fun pageSection =>
          (searchableRow db req.tenantId req.projectId (req.pageKind.map KnowledgePageKind.asStr)
            pageSection).filter fun row => row.matches lower (Like.containing req.needle)
              && sectionRecallable svc sources reader clock db row.sectionId) := by
  rw [rows_of_withinLimit h, sortBy_filter]
  unfold matchingSections
  rw [List.filter_filter, List.filter_filterMap]
  simp only [Bool.and_comm]

theorem search_eq_of_hidden (hdb : db.WellFormed) (hdb' : db'.WellFormed)
    (h : SearchAccepted read req allowedScopes)
    (hsame : SameButHidden sources (req.reader sources allowedScopes) clock req.agentId db db')
    (hnotes : CitesReadableNotes lower svc sources clock req allowedScopes db)
    (hnotes' : CitesReadableNotes lower svc sources clock req allowedScopes db')
    (hwithin : WithinLimit lower req db) (hwithin' : WithinLimit lower req db')
    : knowledgePagesSearch lower read svc sources clock db req
        = knowledgePagesSearch lower read svc sources clock db' req := by
  rcases hsame.sections with ⟨retext, hrows, hretext⟩
  have hrefs : ∀ sectionId, db'.sectionRefs sectionId = db.sectionRefs sectionId := by
    intro sectionId
    unfold KnowledgeDb.sectionRefs
    rw [hsame.sourceRefs]
  have hselected : ∀ pageSection ∈ db.sections,
      ((searchableRow db req.tenantId req.projectId (req.pageKind.map KnowledgePageKind.asStr)
          pageSection).filter fun row => row.matches lower (Like.containing req.needle)
            && sectionRecallable svc sources (req.reader sources allowedScopes) clock db
              row.sectionId)
        = (searchableRow db' req.tenantId req.projectId
          (req.pageKind.map KnowledgePageKind.asStr) (retext pageSection)).filter fun row =>
            row.matches lower (Like.containing req.needle)
              && sectionRecallable svc sources (req.reader sources allowedScopes) clock db'
                row.sectionId := by
    intro pageSection hmem
    rcases hretext pageSection hmem with heq | ⟨hhidden, heading, content, heq⟩
    . rw [heq, searchableRow_congr hsame.pages hsame.sourceRefs hsame.lintFindings]
      simp only [sectionRecallable_congr hsame.sourceRefs]
    . rw [not_recallable_of_hidden hwithin hnotes hmem hhidden]
      have hmem' : retext pageSection ∈ db'.sections := by
        rw [Table.mem_def, hrows]
        exact List.mem_map_of_mem hmem
      have hhidden' : SectionHidden sources (req.reader sources allowedScopes) clock req.agentId db'
          (retext pageSection) := by
        rcases hhidden with ⟨sourceRef, href, hid, hinvisible⟩
        rw [← hsame.sourceRefs] at href
        rw [heq]
        exact ⟨sourceRef, href, hid, hinvisible⟩
      rw [not_recallable_of_hidden hwithin' hnotes' hmem' hhidden']
  rw [knowledgePagesSearch_eq hdb h, knowledgePagesSearch_eq hdb' h,
    filter_rows_of_withinLimit hwithin, filter_rows_of_withinLimit hwithin', hrows,
    List.filterMap_map, List.filterMap_congr hselected]
  simp only [hrefs]
  rfl

/--
A search shows visible sources only, and hides the texts of the other sections, exactly if the notes
behind the events that the recallable sections cite are readable as notes.
-/
theorem pageSearch_conceals_iff (hdb : db.WellFormed) (hdb' : db'.WellFormed)
    (h : SearchAccepted read req allowedScopes)
    (hsame : SameButHidden sources (req.reader sources allowedScopes) clock req.agentId db db')
    : (ShowsVisible lower read svc sources clock req allowedScopes db
        ∧ ShowsVisible lower read svc sources clock req allowedScopes db'
        ∧ (WithinLimit lower req db → WithinLimit lower req db' →
          knowledgePagesSearch lower read svc sources clock db req
            = knowledgePagesSearch lower read svc sources clock db' req))
      ↔ CitesReadableNotes lower svc sources clock req allowedScopes db
        ∧ CitesReadableNotes lower svc sources clock req allowedScopes db' := by
  rw [showsVisible_iff hdb h, showsVisible_iff hdb' h]
  constructor
  . rintro ⟨hnotes, hnotes', _⟩
    exact ⟨hnotes, hnotes'⟩
  . rintro ⟨hnotes, hnotes'⟩
    exact ⟨hnotes, hnotes', search_eq_of_hidden hdb hdb' h hsame hnotes hnotes'⟩

/-! ## An event whose note moved -/

/-- A note that was restored to a scope that its readers are not granted. -/
def movedNote : MemoryNote := {
  noteId := 1
  tenantId := "t"
  projectId := "p"
  agentId := "a"
  scope := "org_shared"
  type := "fact"
  key := none
  text := "The launch is in May."
  importance := .fin 0
  confidence := .fin 0
  status := "active"
  createdAt := 0
  updatedAt := 0
  expiresAt := none
  embeddingVersion := "embed/v1"
  sourceRef := .obj []
  hitCount := 0
  lastHitAt := none }

def movedAudit : IngestAudit := {
  decision := {
    decisionId := 2
    tenantId := "t"
    projectId := "p"
    agentId := "a"
    scope := "project_shared"
    noteType := "fact"
    noteKey := none
    noteId := some 1
    noteVersionId := none
    baseDecision := .remember
    policyDecision := .remember
    noteOp := .add
    reasonCode := none
    ts := 0 }
  pipeline := "add_event"
  details := .obj [] }

def projectGrant : SpaceGrant := {
  grantId := 3
  tenantId := "t"
  projectId := "p"
  scope := "project_shared"
  spaceOwnerAgentId := "a"
  granteeKind := .project
  granteeAgentId := none
  grantedByAgentId := "a"
  grantedAt := 0
  revokedByAgentId := none
  revokedAt := none }

def movedSources : SourceDb := {
  docs := { DocStore.empty with
    memory := { Store.empty with
      notes := ⟨[movedNote], by decide⟩
      grants := ⟨[projectGrant], by decide⟩ } }
  ingestDecisions := ⟨[movedAudit], by decide⟩
  entities := .empty
  facts := .empty
  evidence := .empty }

def launchPage : KnowledgePage := {
  pageId := 4
  tenantId := "t"
  projectId := "p"
  pageKind := "project"
  pageKey := "launch"
  title := "Launch"
  contractSchema := "elf.knowledge_page/v1"
  status := "active"
  rebuildSourceHash := ""
  contentHash := ""
  sourceCoverage := .obj []
  sourceSnapshot := .obj []
  rebuildMetadata := {
    sourceSnapshotHash := ""
    deterministic := true
    providerMetadata := .obj []
    generatedBy := ⟨"a", "deterministic_service", []⟩
    allowedVariance := []
    previousVersionDiff := none
    versionIdentity := ⟨"project", "launch", "", "", []⟩ }
  createdAt := 0
  updatedAt := 0
  rebuiltAt := 0 }

def launchSection (content : String) : KnowledgePageSection := {
  sectionId := 5
  pageId := 4
  sectionKey := "event-audits"
  heading := "Event Audits"
  role := "history"
  content
  ordinal := 0
  citations := .arr []
  unsupportedReason := none
  contentHash := ""
  createdAt := 0
  updatedAt := 0 }

def launchRef : KnowledgePageSourceRef := {
  refId := 6
  pageId := 4
  sectionId := some 5
  sourceKind := "event"
  sourceId := 2
  sourceStatus := some "remember"
  sourceUpdatedAt := none
  sourceContentHash := none
  sourceSnapshot := .obj []
  citationMetadata := .obj []
  createdAt := 0 }

def launchPages (content : String) : KnowledgeDb := {
  pages := ⟨[launchPage], by decide⟩
  sections := ⟨[launchSection content], List.nodup_singleton _⟩
  sourceRefs := ⟨[launchRef], by decide⟩
  lintFindings := .empty }

/-- Another agent looks for the page. -/
def launchRequest : KnowledgePageSearchRequest := {
  tenantId := "t"
  projectId := "p"
  agentId := "b"
  readProfile := "all_scopes"
  query := "launch"
  pageKind := none
  limit := none }

def launchScopes : List String := ["agent_private", "project_shared", "org_shared"]

def launchReader : SourceReader := launchRequest.reader movedSources launchScopes

/-- The sections that the reader gets, with their snippets. -/
def launchItems (content : String) : Option (List (Uuid × String)) :=
  (knowledgePagesSearch Char.toLower sampleReadService sampleKnowledgeService movedSources
    ⟨0, 0, 0⟩ (launchPages content) launchRequest).toOption.map fun resp =>
    resp.items.map fun item => (item.sectionId, item.snippet)

theorem launchPages_wellFormed (content : String) : (launchPages content).WellFormed where
  kinds := by
    intro sourceRef href
    rw [List.mem_singleton.mp href]
    decide
  sections := by
    intro sourceRef href sectionId hsection
    rw [List.mem_singleton.mp href] at hsection ⊢
    cases hsection
    exact ⟨launchSection content, rfl, rfl⟩

theorem launchRequest_accepted : SearchAccepted sampleReadService launchRequest launchScopes where
  valid := by decide +kernel
  scopes := by decide

theorem launchRef_not_visible : ¬RefVisible movedSources launchReader ⟨0, 0, 0⟩ "b" launchRef := by
  rintro ⟨kind, hkind, hvisible⟩
  cases hkind
  generalize hid : launchRef.sourceId = sourceId at hvisible
  cases hvisible with
  | event hrow haudit hnote hlink hvisible =>
    have hallowed := hvisible.allowed
    rw [List.mem_singleton.mp hnote] at hallowed
    exact absurd hallowed (by decide)

theorem launchPages_sameButHidden (content content' : String)
    : SameButHidden movedSources launchReader ⟨0, 0, 0⟩ "b" (launchPages content)
      (launchPages content') where
  pages := rfl
  sourceRefs := rfl
  lintFindings := rfl
  sections := by
    refine ⟨fun row => { row with content := content' }, rfl, ?_⟩
    intro row hrow
    have hhidden : SectionHidden movedSources launchReader ⟨0, 0, 0⟩ "b" (launchPages content)
        (launchSection content) :=
      ⟨launchRef, List.mem_singleton_self _, rfl, launchRef_not_visible⟩
    rw [List.mem_singleton.mp hrow]
    exact Or.inr ⟨hhidden, "Event Audits", content', rfl⟩

theorem pageSearch_conceals_iff_launch
    : (ShowsVisible Char.toLower sampleReadService sampleKnowledgeService movedSources ⟨0, 0, 0⟩
          launchRequest launchScopes (launchPages "May")
        ∧ ShowsVisible Char.toLower sampleReadService sampleKnowledgeService movedSources ⟨0, 0, 0⟩
          launchRequest launchScopes (launchPages "June")
        ∧ (WithinLimit Char.toLower launchRequest (launchPages "May") →
          WithinLimit Char.toLower launchRequest (launchPages "June") →
          knowledgePagesSearch Char.toLower sampleReadService sampleKnowledgeService movedSources
              ⟨0, 0, 0⟩ (launchPages "May") launchRequest
            = knowledgePagesSearch Char.toLower sampleReadService sampleKnowledgeService
              movedSources ⟨0, 0, 0⟩ (launchPages "June") launchRequest))
      ↔ CitesReadableNotes Char.toLower sampleKnowledgeService movedSources ⟨0, 0, 0⟩ launchRequest
          launchScopes (launchPages "May")
        ∧ CitesReadableNotes Char.toLower sampleKnowledgeService movedSources ⟨0, 0, 0⟩
          launchRequest launchScopes (launchPages "June") :=
  pageSearch_conceals_iff (launchPages_wellFormed "May") (launchPages_wellFormed "June")
    launchRequest_accepted (launchPages_sameButHidden "May" "June")

/--
The reader may read no note of the space that the note moved to. The text that is made of the note is
shown all the same.
-/
theorem moved_note_disclosed
    : ¬ShowsVisible Char.toLower sampleReadService sampleKnowledgeService movedSources ⟨0, 0, 0⟩
          launchRequest launchScopes (launchPages "May")
        ∧ SameButHidden movedSources launchReader ⟨0, 0, 0⟩ "b" (launchPages "May")
          (launchPages "June")
        ∧ WithinLimit Char.toLower launchRequest (launchPages "May")
        ∧ WithinLimit Char.toLower launchRequest (launchPages "June")
        ∧ launchItems "May" = some [(5, "May")] ∧ launchItems "June" = some [(5, "June")] := by
  have hitems : launchItems "May" = some [(5, "May")] := by decide +kernel
  refine ⟨?_, launchPages_sameButHidden "May" "June", ?_, ?_, hitems, by decide +kernel⟩
  . intro hshows
    unfold launchItems at hitems
    cases hsearch : knowledgePagesSearch Char.toLower sampleReadService sampleKnowledgeService
        movedSources ⟨0, 0, 0⟩ (launchPages "May") launchRequest with
    | error e =>
      rw [hsearch] at hitems
      cases hitems
    | ok resp =>
      rw [hsearch] at hitems
      simp only [Except.toOption, Option.map_some, Option.some.injEq,
        List.map_eq_singleton_iff, Prod.mk.injEq] at hitems
      rcases hitems with ⟨item, hitem, hsection, _⟩
      have hmem : item ∈ resp.items := by
        rw [hitem]
        exact List.mem_singleton_self item
      have hvisible := (hshows resp hsearch item hmem).2 launchRef (List.mem_singleton_self _)
        (by rw [hsection]; rfl)
      exact launchRef_not_visible hvisible
  . unfold WithinLimit
    decide +kernel
  . unfold WithinLimit
    decide +kernel

end Elf
