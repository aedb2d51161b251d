import Elf.Knowledge.Rebuild

/-!
This module contains what the sources of a page are: for each identifier that is asked for, the
source that its row makes for the reader.
-/

namespace Elf

open Sorting Except

variable {svc : KnowledgeService} {db : SourceDb} {reader : SourceReader} {clock : SourceClock}
variable {ids : SourceIds} {kind : KnowledgeSourceKind} {id : Uuid} {snapshot : SourceSnapshot}

/-! ## Identifiers -/

theorem KnowledgeSourceKind.asStr_of_parse {text : String} (h : parse text = some kind)
    : kind.asStr = text := by
  unfold parse at h
  split at h
  . cases h; rfl
  . cases h; rfl
  . cases h; rfl
  . cases h; rfl
  . cases h; rfl
  . cases h; rfl
  . cases h

namespace SourceIds

@[simp]
theorem mem_sortedUnique {l : List Uuid} : id ∈ sortedUnique l ↔ id ∈ l := by
  unfold sortedUnique
  rw [List.mem_insertionSort, List.mem_dedup]

theorem nodup_sortedUnique (l : List Uuid) : (sortedUnique l).Nodup := by
  unfold sortedUnique
  rw [(List.perm_insertionSort _ _).nodup_iff]
  exact List.nodup_dedup l

theorem sortedUnique_congr {l l' : List Uuid} (h : ∀ id, id ∈ l ↔ id ∈ l')
    : sortedUnique l = sortedUnique l' := by
  exact SortDedup.insertionSort_dedup_congr h

theorem mem_citedIds {sourceRefs : List KnowledgePageSourceRef}
    : id ∈ citedIds sourceRefs kind
        ↔ ∃ sourceRef ∈ sourceRefs, KnowledgeSourceKind.parse sourceRef.sourceKind = some kind
          ∧ sourceRef.sourceId = id := by
  unfold citedIds
  simp [and_assoc]

theorem ofKind_fromSourceRefs {ids : SourceIds} {sourceRefs : List KnowledgePageSourceRef}
    (h : fromSourceRefs sourceRefs = .ok ids)
    : ids.ofKind kind = citedIds sourceRefs kind := by
  unfold fromSourceRefs at h
  split at h
  . cases h
  . cases h
    cases kind <;> rfl

theorem fromSourceRefs_ok {sourceRefs : List KnowledgePageSourceRef}
    (h : ∀ sourceRef ∈ sourceRefs, (KnowledgeSourceKind.parse sourceRef.sourceKind).isSome)
    : ∃ ids, fromSourceRefs sourceRefs = .ok ids := by
  unfold fromSourceRefs
  rw [if_neg]
  . exact ⟨_, rfl⟩
  . simp only [List.any_eq_true, not_exists, not_and]
    intro sourceRef href hnone
    have hsome := h sourceRef href
    rw [Option.isNone_iff_eq_none.mp hnone] at hsome
    cases hsome

end SourceIds

/-! ## Queries -/

section Fetch

variable {α β : Type} {key : α → Uuid} {table : Table α key} {order : β → β → Ordering}
variable {wanted : List Uuid} {pick : α → Option β}

theorem mem_fetchSources {source : β}
    : source ∈ fetchSources table order wanted pick
        ↔ ∃ row ∈ table, key row ∈ wanted ∧ pick row = some source := by
  unfold fetchSources
  cases wanted with
  | nil => simp
  | cons first rest =>
    simp only [List.isEmpty_cons, Bool.false_eq_true, if_false, mem_sortBy, List.mem_filterMap,
      List.mem_filter, List.contains_iff_mem, Table.mem_def, and_assoc]

/-- The rows that are fetched have the keys of their table, each once. -/
theorem nodup_fetchSources {idOf : β → Uuid}
    (hid : ∀ row source, pick row = some source → idOf source = key row)
    : ((fetchSources table order wanted pick).map idOf).Nodup := by
  unfold fetchSources
  split
  . exact List.nodup_nil
  . rw [((sortBy_perm _).map idOf).nodup_iff]
    have hsublist : ∀ rows : List α, ((rows.filterMap pick).map idOf).Sublist (rows.map key) := by
      intro rows
      induction rows with
      | nil => exact List.Sublist.slnil
      | cons row rows ih =>
        rw [List.filterMap_cons, List.map_cons]
        cases hpick : pick row with
        | none => exact ih.cons _
        | some source =>
          rw [List.map_cons, hid row source hpick]
          exact ih.cons_cons _
    exact (hsublist _).nodup ((List.filter_sublist.map key).nodup table.nodup)

end Fetch

/-- As many rows as identifiers, each of another one, leave none out. -/
theorem exists_of_length_eq {β : Type} {rows : List β} {idOf : β → Uuid} {wanted : List Uuid}
    (hnodup : (rows.map idOf).Nodup) (hmem : ∀ row ∈ rows, idOf row ∈ wanted)
    (hlen : rows.length = wanted.length) (hid : id ∈ wanted) : ∃ row ∈ rows, idOf row = id := by
  have hsubset : rows.map idOf ⊆ wanted := by
    intro x hx
    have ⟨row, hrow, heq⟩ := List.mem_map.mp hx
    rw [← heq]
    exact hmem row hrow
  have hperm := (List.subperm_of_subset hnodup hsubset).perm_of_length_le (by simp [hlen])
  exact List.mem_map.mp (hperm.mem_iff.mpr hid)

/-! ## Sources one by one -/

/-- The source of a kind under an identifier, as its row makes it for the reader. -/
def SourceDb.source (svc : KnowledgeService) (db : SourceDb) (reader : SourceReader)
    (clock : SourceClock) (kind : KnowledgeSourceKind) (id : Uuid) : Option SourceSnapshot :=
  match kind with
  | .doc => (((db.docs.documents.find? id).bind (docSource reader)).filter fun source =>
      sourceRowReadAllowed reader source.agentId source.scope).map docSourceSnapshot
  | .docChunk => (((db.docs.chunks.find? id).bind (docChunkSource db reader)).filter fun source =>
      sourceRowReadAllowed reader source.agentId source.scope).map (docChunkSourceSnapshot svc)
  | .note => (((db.notes.find? id).bind (noteSource reader clock.notes)).filter fun source =>
      sourceRowReadAllowed reader source.agentId source.scope).map (noteSourceSnapshot svc)
  | .event => (((db.ingestDecisions.find? id).bind (eventSource db reader clock.events)).filter
      fun source => sourceRowReadAllowed reader source.agentId source.scope).map
        (eventSourceSnapshot svc)
  | .relation => ((db.facts.find? id).bind (relationSource db reader clock.relations)).map
      (relationSourceSnapshot svc)
  | .proposal => ((db.proposals.find? id).bind (proposalSource reader)).map
      (proposalSourceSnapshot svc)

theorem docSource_docId (doc : DocDocument) (source : KnowledgeDocSource)
    (h : docSource reader doc = some source) : source.docId = doc.docId := by
  unfold docSource at h
  split at h
  . cases h
    rfl
  . cases h

theorem docChunkSource_chunkId (chunk : DocChunk) (source : KnowledgeDocChunkSource)
    (h : docChunkSource db reader chunk = some source) : source.chunkId = chunk.chunkId := by
  have ⟨doc, _, heq⟩ := Option.map_eq_some_iff.mp h
  rw [← heq]
  rfl

theorem noteSource_noteId (note : MemoryNote) (source : KnowledgeNoteSource)
    (h : noteSource reader now note = some source) : source.noteId = note.noteId := by
  unfold noteSource at h
  split at h
  . cases h
    rfl
  . cases h

theorem eventSource_decisionId (row : IngestAudit) (source : KnowledgeEventSource)
    (h : eventSource db reader now row = some source) : source.decisionId = row.decisionId := by
  have ⟨note, _, heq⟩ := Option.map_eq_some_iff.mp h
  rw [← heq]
  rfl

theorem relationSource_factId (row : GraphFactRow) (source : KnowledgeRelationSource)
    (h : relationSource db reader now row = some source) : source.factId = row.factId := by
  unfold relationSource at h
  split at h
  . rcases Option.map_eq_some_iff.mp h with ⟨subject, _, heq⟩
    rw [← heq]
    rfl
  . cases h

theorem proposalSource_proposalId (proposal : ConsolidationProposal)
    (source : KnowledgeProposalSource) (h : proposalSource reader proposal = some source)
    : source.proposalId = proposal.proposalId := by
  unfold proposalSource at h
  split at h
  . cases h
    rfl
  . cases h

theorem Option.filter_true_eq {β : Type} (o : Option β) : (o.filter fun _ => true) = o := by
  cases o <;> rfl

section Pick

variable {α β : Type} {key : α → Uuid} {table : Table α key} {order : β → β → Ordering}
variable {wanted : List Uuid} {pick : α → Option β} {allowed : β → Bool}
variable {snap : β → SourceSnapshot}

/-- What is fetched under many identifiers is what each row makes by itself. -/
theorem mem_map_fetchSources (idOf : β → Uuid) (hsnap : ∀ source, (snap source).id = idOf source)
    (hid : ∀ row source, pick row = some source → idOf source = key row)
    : snapshot ∈ ((fetchSources table order wanted pick).filter allowed).map snap
        ↔ snapshot.id ∈ wanted
          ∧ (((table.find? snapshot.id).bind pick).filter allowed).map snap = some snapshot := by
  simp only [List.mem_map, List.mem_filter, mem_fetchSources, Option.map_eq_some_iff,
    Option.filter_eq_some_iff, Option.bind_eq_some_iff, Table.find?_eq_some_iff]
  constructor
  . rintro ⟨source, ⟨⟨row, hrow, hwanted, hpick⟩, hallowed⟩, rfl⟩
    rw [hsnap, hid row source hpick]
    exact ⟨hwanted, source, ⟨⟨row, ⟨hrow, rfl⟩, hpick⟩, hallowed⟩, rfl⟩
  . rintro ⟨hwanted, source, ⟨⟨row, ⟨hrow, hkey⟩, hpick⟩, hallowed⟩, heq⟩
    exact ⟨source, ⟨⟨row, hrow, hkey ▸ hwanted, hpick⟩, hallowed⟩, heq⟩

theorem key_of_pick {source : β} (idOf : β → Uuid)
    (hid : ∀ row source, pick row = some source → idOf source = key row)
    (h : (table.find? id).bind pick = some source) : idOf source = id := by
  rcases Option.bind_eq_some_iff.mp h with ⟨row, hrow, hpick⟩
  rw [hid row source hpick]
  exact Table.key_of_find? hrow

/-- As many sources as identifiers leave no identifier without its source. -/
theorem exists_pick_of_length (idOf : β → Uuid) (hsnap : ∀ source, (snap source).id = idOf source)
    (hid : ∀ row source, pick row = some source → idOf source = key row)
    (hlen : ((fetchSources table order wanted pick).filter allowed).length = wanted.length)
    (hwanted : id ∈ wanted)
    : ∃ snapshot, (((table.find? id).bind pick).filter allowed).map snap = some snapshot := by
  have hmem : ∀ source ∈ (fetchSources table order wanted pick).filter allowed,
      idOf source ∈ wanted := by
    intro source hsource
    rcases mem_fetchSources.mp (List.mem_filter.mp hsource).1 with ⟨row, -, hrow, hpick⟩
    rw [hid row source hpick]
    exact hrow
  have hnodup : (((fetchSources table order wanted pick).filter allowed).map idOf).Nodup :=
    (List.filter_sublist.map idOf).nodup (nodup_fetchSources hid)
  rcases exists_of_length_eq hnodup hmem hlen hwanted with ⟨source, hsource, heq⟩
  have hfetched : snap source ∈ ((fetchSources table order wanted pick).filter allowed).map snap :=
    List.mem_map_of_mem hsource
  rcases (mem_map_fetchSources idOf hsnap hid).mp hfetched with ⟨-, hpicked⟩
  rw [hsnap, heq] at hpicked
  exact ⟨snap source, hpicked⟩

/-- Identifiers that all have a source are as many as the sources. -/
theorem length_of_exists_pick (idOf : β → Uuid) (hsnap : ∀ source, (snap source).id = idOf source)
    (hid : ∀ row source, pick row = some source → idOf source = key row) (hnodup : wanted.Nodup)
    (h : ∀ id ∈ wanted, ∃ snapshot,
      (((table.find? id).bind pick).filter allowed).map snap = some snapshot)
    : ((fetchSources table order wanted pick).filter allowed).length = wanted.length := by
  have hfetched : (((fetchSources table order wanted pick).filter allowed).map idOf).Nodup :=
    (List.filter_sublist.map idOf).nodup (nodup_fetchSources hid)
  have hperm : (((fetchSources table order wanted pick).filter allowed).map idOf).Perm wanted := by
    rw [List.perm_ext_iff_of_nodup hfetched hnodup]
    intro id
    constructor
    . intro hmem
      rcases List.mem_map.mp hmem with ⟨source, hsource, rfl⟩
      rcases mem_fetchSources.mp (List.mem_filter.mp hsource).1 with ⟨row, -, hrow, hpick⟩
      rw [hid row source hpick]
      exact hrow
    . intro hwanted
      rcases h id hwanted with ⟨snapshot, hpicked⟩
      rcases Option.map_eq_some_iff.mp hpicked with ⟨source, hsource, rfl⟩
      have hkey : idOf source = id := key_of_pick idOf hid (Option.filter_eq_some_iff.mp hsource).1
      have hmem : snap source ∈ ((fetchSources table order wanted pick).filter allowed).map snap := by
        rw [mem_map_fetchSources idOf hsnap hid, hsnap, hkey]
        exact ⟨hwanted, hpicked⟩
      rcases List.mem_map.mp hmem with ⟨other, hother, heq⟩
      apply List.mem_map.mpr ⟨other, hother, _⟩
      rw [← hkey, ← hsnap, ← hsnap, heq]
  rw [← List.length_map (f := idOf), hperm.length_eq]

/-- A reading that picks and allows more makes the same source of a row. -/
theorem map_pick_mono {pick' : α → Option β} {allowed' : β → Bool}
    (hpick : ∀ row source, pick row = some source → pick' row = some source)
    (hallowed : ∀ source, allowed source = true → allowed' source = true)
    (h : (((table.find? id).bind pick).filter allowed).map snap = some snapshot)
    : (((table.find? id).bind pick').filter allowed').map snap = some snapshot := by
  rcases Option.map_eq_some_iff.mp h with ⟨source, hfilter, heq⟩
  rcases Option.filter_eq_some_iff.mp hfilter with ⟨hbind, hsource⟩
  rcases Option.bind_eq_some_iff.mp hbind with ⟨row, hrow, hpicked⟩
  apply Option.map_eq_some_iff.mpr ⟨source, _, heq⟩
  apply Option.filter_eq_some_iff.mpr ⟨_, hallowed source hsource⟩
  exact Option.bind_eq_some_iff.mpr ⟨row, hrow, hpick row source hpicked⟩

end Pick

theorem mem_map_kind {β : Type} (snap : β → SourceSnapshot) (kind : KnowledgeSourceKind)
    {rows : List β} (h : ∀ source, (snap source).kind = kind)
    : snapshot ∈ rows.map snap ↔ snapshot.kind = kind ∧ snapshot ∈ rows.map snap := by
  constructor
  . intro hmem
    have ⟨source, _, heq⟩ := List.mem_map.mp hmem
    exact ⟨heq ▸ h source, hmem⟩
  . intro hmem
    exact hmem.2

/-- The sources of a page are those of its identifiers, one by one. -/
theorem mem_sourceSnapshots
    : snapshot ∈ sourceSnapshots svc (resolveExistingSourceRows db reader clock ids)
        ↔ snapshot.id ∈ ids.ofKind snapshot.kind
          ∧ db.source svc reader clock snapshot.kind snapshot.id = some snapshot := by
  have hrelation := @mem_map_fetchSources snapshot _ _ _ db.facts
    (compareLex (compareOn (·.updatedAt)) (compareOn (·.factId))) ids.relationIds
    (relationSource db reader clock.relations) (fun _ => true) (relationSourceSnapshot svc)
    (·.factId) (fun _ => rfl) relationSource_factId
  have hproposal := @mem_map_fetchSources snapshot _ _ _ db.proposals
    (compareLex (compareOn (·.updatedAt)) (compareOn (·.proposalId))) ids.proposalIds
    (proposalSource reader) (fun _ => true) (proposalSourceSnapshot svc)
    (·.proposalId) (fun _ => rfl) proposalSource_proposalId
  simp only [List.filter_true, Option.filter_true_eq] at hrelation hproposal
  unfold sourceSnapshots resolveExistingSourceRows
  rw [mem_sortBy, List.mem_append, List.mem_append, List.mem_append, List.mem_append,
    List.mem_append, mem_map_kind docSourceSnapshot .doc (fun _ => rfl),
    mem_map_kind (docChunkSourceSnapshot svc) .docChunk (fun _ => rfl),
    mem_map_kind (noteSourceSnapshot svc) .note (fun _ => rfl),
    mem_map_kind (eventSourceSnapshot svc) .event (fun _ => rfl),
    mem_map_kind (relationSourceSnapshot svc) .relation (fun _ => rfl),
    mem_map_kind (proposalSourceSnapshot svc) .proposal (fun _ => rfl)]
  cases hkind : snapshot.kind with
  | doc =>
    simp only [reduceCtorEq, false_and, or_false, true_and]
    exact mem_map_fetchSources (·.docId) (fun _ => rfl) docSource_docId
  | docChunk =>
    simp only [reduceCtorEq, false_and, or_false, false_or, true_and]
    exact mem_map_fetchSources (·.chunkId) (fun _ => rfl) docChunkSource_chunkId
  | note =>
    simp only [reduceCtorEq, false_and, or_false, false_or, true_and]
    exact mem_map_fetchSources (·.noteId) (fun _ => rfl) noteSource_noteId
  | event =>
    simp only [reduceCtorEq, false_and, or_false, false_or, true_and]
    exact mem_map_fetchSources (·.decisionId) (fun _ => rfl) eventSource_decisionId
  | relation =>
    simp only [reduceCtorEq, false_and, or_false, false_or, true_and]
    exact hrelation
  | proposal =>
    simp only [reduceCtorEq, false_and, false_or, true_and]
    exact hproposal

/-- The source under an identifier has it, and is of the kind that is looked for. -/
theorem source_key (h : db.source svc reader clock kind id = some snapshot)
    : snapshot.kind = kind ∧ snapshot.id = id := by
  unfold SourceDb.source at h
  cases kind with
  | doc =>
    rcases Option.map_eq_some_iff.mp h with ⟨source, hsource, rfl⟩
    exact ⟨rfl, key_of_pick (·.docId) docSource_docId (Option.filter_eq_some_iff.mp hsource).1⟩
  | docChunk =>
    rcases Option.map_eq_some_iff.mp h with ⟨source, hsource, rfl⟩
    exact ⟨rfl, key_of_pick (·.chunkId) docChunkSource_chunkId (Option.filter_eq_some_iff.mp hsource).1⟩
  | note =>
    rcases Option.map_eq_some_iff.mp h with ⟨source, hsource, rfl⟩
    exact ⟨rfl, key_of_pick (·.noteId) noteSource_noteId (Option.filter_eq_some_iff.mp hsource).1⟩
  | event =>
    rcases Option.map_eq_some_iff.mp h with ⟨source, hsource, rfl⟩
    exact ⟨rfl, key_of_pick (·.decisionId) eventSource_decisionId (Option.filter_eq_some_iff.mp hsource).1⟩
  | relation =>
    rcases Option.map_eq_some_iff.mp h with ⟨source, hsource, rfl⟩
    exact ⟨rfl, key_of_pick (·.factId) relationSource_factId hsource⟩
  | proposal =>
    rcases Option.map_eq_some_iff.mp h with ⟨source, hsource, rfl⟩
    exact ⟨rfl, key_of_pick (·.proposalId) proposalSource_proposalId hsource⟩

/-- The source that a reference names, among those of all the references. -/
theorem mem_sourceSnapshots_of_ref {sourceRefs : List KnowledgePageSourceRef}
    {sourceRef : KnowledgePageSourceRef} (hids : SourceIds.fromSourceRefs sourceRefs = .ok ids)
    (href : sourceRef ∈ sourceRefs)
    (hkind : KnowledgeSourceKind.parse sourceRef.sourceKind = some kind)
    : (snapshot ∈ sourceSnapshots svc (resolveExistingSourceRows db reader clock ids)
          ∧ sourceKey snapshot = currentKey sourceRef.sourceKind sourceRef.sourceId)
        ↔ db.source svc reader clock kind sourceRef.sourceId = some snapshot := by
  unfold sourceKey currentKey
  rw [mem_sourceSnapshots, Prod.mk.injEq, ← KnowledgeSourceKind.asStr_of_parse hkind]
  constructor
  . rintro ⟨⟨-, hsource⟩, hsourceKind, hsourceId⟩
    rw [KnowledgeSourceKind.asStr_inj hsourceKind, hsourceId] at hsource
    exact hsource
  . intro hsource
    rcases source_key hsource with ⟨hsourceKind, hsourceId⟩
    rw [hsourceKind, hsourceId, SourceIds.ofKind_fromSourceRefs hids, SourceIds.mem_citedIds]
    exact ⟨⟨⟨sourceRef, href, hkind, rfl⟩, hsource⟩, rfl, rfl⟩

/-- The check of the counts makes sure that there is a source for every identifier. -/
theorem exists_source_of_requireCounts {u : Unit}
    (h : ids.requireCounts (resolveExistingSourceRows db reader clock ids) = .ok u)
    (hid : id ∈ ids.ofKind kind) : ∃ snapshot, db.source svc reader clock kind id = some snapshot := by
  unfold SourceIds.requireCounts at h
  have hcounts := rejectIf_eq_ok.mp h
  simp only [Bool.or_eq_false_iff, decide_eq_false_iff_not, not_not] at hcounts
  rcases hcounts with ⟨⟨⟨⟨⟨hdocs, hchunks⟩, hnotes⟩, hevents⟩, hrelations⟩, hproposals⟩
  unfold SourceDb.source
  cases kind with
  | doc => exact exists_pick_of_length (·.docId) (fun _ => rfl) docSource_docId hdocs hid
  | docChunk =>
    exact exists_pick_of_length (·.chunkId) (fun _ => rfl) docChunkSource_chunkId hchunks hid
  | note => exact exists_pick_of_length (·.noteId) (fun _ => rfl) noteSource_noteId hnotes hid
  | event =>
    exact exists_pick_of_length (·.decisionId) (fun _ => rfl) eventSource_decisionId hevents hid
  | relation =>
    have hlen : ((fetchSources db.facts (compareLex (compareOn (·.updatedAt)) (compareOn (·.factId)))
        ids.relationIds (relationSource db reader clock.relations)).filter fun _ => true).length
          = ids.relationIds.length := by
      rw [List.filter_true]
      exact hrelations
    rw [← Option.filter_true_eq ((db.facts.find? id).bind _)]
    exact exists_pick_of_length (·.factId) (fun _ => rfl) relationSource_factId hlen hid
  | proposal =>
    have hlen : ((fetchSources db.proposals (compareLex (compareOn (·.updatedAt))
        (compareOn (·.proposalId))) ids.proposalIds (proposalSource reader)).filter
          fun _ => true).length = ids.proposalIds.length := by
      rw [List.filter_true]
      exact hproposals
    rw [← Option.filter_true_eq ((db.proposals.find? id).bind _)]
    exact exists_pick_of_length (·.proposalId) (fun _ => rfl) proposalSource_proposalId hlen hid

theorem requireCounts_of_exists (hnodup : ∀ kind, (ids.ofKind kind).Nodup)
    (h : ∀ kind, ∀ id ∈ ids.ofKind kind, ∃ snapshot,
      db.source svc reader clock kind id = some snapshot)
    : ids.requireCounts (resolveExistingSourceRows db reader clock ids) = .ok () := by
  have hrelations : ∀ id ∈ ids.relationIds, ∃ snapshot, (((db.facts.find? id).bind
      (relationSource db reader clock.relations)).filter fun _ => true).map
        (relationSourceSnapshot svc) = some snapshot := by
    intro id hid
    rw [Option.filter_true_eq]
    exact h .relation id hid
  have hproposals : ∀ id ∈ ids.proposalIds, ∃ snapshot, (((db.proposals.find? id).bind
      (proposalSource reader)).filter fun _ => true).map (proposalSourceSnapshot svc)
        = some snapshot := by
    intro id hid
    rw [Option.filter_true_eq]
    exact h .proposal id hid
  unfold SourceIds.requireCounts
  apply rejectIf_eq_ok.mpr
  simp only [Bool.or_eq_false_iff, decide_eq_false_iff_not, not_not]
  refine ⟨⟨⟨⟨⟨?_, ?_⟩, ?_⟩, ?_⟩, ?_⟩, ?_⟩
  . exact length_of_exists_pick (·.docId) (fun _ => rfl) docSource_docId (hnodup .doc) (h .doc)
  . exact length_of_exists_pick (·.chunkId) (fun _ => rfl) docChunkSource_chunkId (hnodup .docChunk)
      (h .docChunk)
  . exact length_of_exists_pick (·.noteId) (fun _ => rfl) noteSource_noteId (hnodup .note) (h .note)
  . exact length_of_exists_pick (·.decisionId) (fun _ => rfl) eventSource_decisionId (hnodup .event)
      (h .event)
  . have hlen : ((fetchKnowledgeRelationSources db reader clock.relations ids.relationIds).filter
        fun _ => true).length = ids.relationIds.length :=
      length_of_exists_pick (·.factId) (fun _ => rfl) relationSource_factId (hnodup .relation)
        hrelations
    rw [List.filter_true] at hlen
    exact hlen
  . have hlen : ((fetchKnowledgeProposalSources db reader ids.proposalIds).filter
        fun _ => true).length = ids.proposalIds.length :=
      length_of_exists_pick (·.proposalId) (fun _ => rfl) proposalSource_proposalId
        (hnodup .proposal) hproposals
    rw [List.filter_true] at hlen
    exact hlen

/-! ## Order -/

instance : Std.TransCmp snapshotOrder :=
  inferInstanceAs (Std.TransCmp (compareLex (compareOn fun source : SourceSnapshot => source.kind.asStr)
    (compareOn SourceSnapshot.id)))

theorem sourceKey_of_snapshotOrder {a b : SourceSnapshot} (h : snapshotOrder a b = .eq)
    : a.kind = b.kind ∧ a.id = b.id := by
  unfold snapshotOrder compareLex compareOn at h
  rw [Ordering.then_eq_eq, compare_eq_iff_eq, compare_eq_iff_eq] at h
  exact ⟨KnowledgeSourceKind.asStr_inj h.1, h.2⟩

theorem nodup_map_snap {α β : Type} {key : α → Uuid} {table : Table α key}
    {order : β → β → Ordering} {wanted : List Uuid} {pick : α → Option β} {allowed : β → Bool}
    {snap : β → SourceSnapshot} (idOf : β → Uuid) (hsnap : ∀ source, (snap source).id = idOf source)
    (hid : ∀ row source, pick row = some source → idOf source = key row)
    : (((fetchSources table order wanted pick).filter allowed).map snap).Nodup := by
  have hids : ((((fetchSources table order wanted pick).filter allowed).map snap).map
      SourceSnapshot.id).Nodup := by
    rw [List.map_map]
    have hcomp : SourceSnapshot.id ∘ snap = idOf := funext hsnap
    rw [hcomp]
    exact (List.filter_sublist.map idOf).nodup (nodup_fetchSources hid)
  exact hids.of_map SourceSnapshot.id

/-- Two readings that give the same source for every identifier have the same sources. -/
theorem perm_map_snap {α β : Type} {key : α → Uuid} {table table' : Table α key}
    {order : β → β → Ordering} {wanted : List Uuid} {pick pick' : α → Option β}
    {allowed allowed' : β → Bool} {snap : β → SourceSnapshot} (idOf : β → Uuid)
    (hsnap : ∀ source, (snap source).id = idOf source)
    (hid : ∀ row source, pick row = some source → idOf source = key row)
    (hid' : ∀ row source, pick' row = some source → idOf source = key row)
    (h : ∀ id ∈ wanted, (((table.find? id).bind pick).filter allowed).map snap
      = (((table'.find? id).bind pick').filter allowed').map snap)
    : (((fetchSources table order wanted pick).filter allowed).map snap).Perm
        (((fetchSources table' order wanted pick').filter allowed').map snap) := by
  rw [List.perm_ext_iff_of_nodup (nodup_map_snap idOf hsnap hid) (nodup_map_snap idOf hsnap hid')]
  intro snapshot
  rw [mem_map_fetchSources idOf hsnap hid, mem_map_fetchSources idOf hsnap hid']
  constructor
  . rintro ⟨hwanted, hsource⟩
    rw [h snapshot.id hwanted] at hsource
    exact ⟨hwanted, hsource⟩
  . rintro ⟨hwanted, hsource⟩
    rw [← h snapshot.id hwanted] at hsource
    exact ⟨hwanted, hsource⟩

section

variable {db' : SourceDb} {reader' : SourceReader} {clock' : SourceClock}

theorem sourceSnapshots_congr
    (h : ∀ kind, ∀ id ∈ ids.ofKind kind,
      db'.source svc reader' clock' kind id = db.source svc reader clock kind id)
    : sourceSnapshots svc (resolveExistingSourceRows db' reader' clock' ids)
        = sourceSnapshots svc (resolveExistingSourceRows db reader clock ids) := by
  have heq : ∀ a ∈ sourceSnapshots svc (resolveExistingSourceRows db reader clock ids),
      ∀ b ∈ sourceSnapshots svc (resolveExistingSourceRows db reader clock ids),
      snapshotOrder a b = .eq → a = b := by
    intro a ha b hb hab
    rcases sourceKey_of_snapshotOrder hab with ⟨hkind, hid⟩
    have ha := (mem_sourceSnapshots.mp ha).2
    have hb := (mem_sourceSnapshots.mp hb).2
    rw [hkind, hid, hb] at ha
    exact (Option.some.inj ha).symm
  have hrelations : ((fetchKnowledgeRelationSources db' reader' clock'.relations
      ids.relationIds).map (relationSourceSnapshot svc)).Perm
        ((fetchKnowledgeRelationSources db reader clock.relations ids.relationIds).map
          (relationSourceSnapshot svc)) := by
    rw [← List.filter_true (fetchKnowledgeRelationSources db' reader' clock'.relations _),
      ← List.filter_true (fetchKnowledgeRelationSources db reader clock.relations _)]
    apply perm_map_snap (·.factId) (fun _ => rfl) relationSource_factId relationSource_factId
    intro id hid
    rw [Option.filter_true_eq, Option.filter_true_eq]
    exact h .relation id hid
  have hproposals : ((fetchKnowledgeProposalSources db' reader' ids.proposalIds).map
      (proposalSourceSnapshot svc)).Perm
        ((fetchKnowledgeProposalSources db reader ids.proposalIds).map
          (proposalSourceSnapshot svc)) := by
    rw [← List.filter_true (fetchKnowledgeProposalSources db' reader' _),
      ← List.filter_true (fetchKnowledgeProposalSources db reader _)]
    apply perm_map_snap (·.proposalId) (fun _ => rfl) proposalSource_proposalId
      proposalSource_proposalId
    intro id hid
    rw [Option.filter_true_eq, Option.filter_true_eq]
    exact h .proposal id hid
  unfold sourceSnapshots at heq ⊢
  apply sortBy_eq_of_perm
  . intro a ha b hb
    exact heq a (mem_sortBy.mpr ha) b (mem_sortBy.mpr hb)
  . apply List.Perm.append _ hproposals
    apply List.Perm.append _ hrelations
    apply List.Perm.append
    . apply List.Perm.append
      . apply List.Perm.append
        . exact perm_map_snap (·.docId) (fun _ => rfl) docSource_docId docSource_docId (h .doc)
        . exact perm_map_snap (·.chunkId) (fun _ => rfl) docChunkSource_chunkId
            docChunkSource_chunkId (h .docChunk)
      . exact perm_map_snap (·.noteId) (fun _ => rfl) noteSource_noteId noteSource_noteId (h .note)
    . exact perm_map_snap (·.decisionId) (fun _ => rfl) eventSource_decisionId
        eventSource_decisionId (h .event)

end

/-! ## Readers without an agent -/

/-- The reader reads for nobody in particular, but in the same place. -/
structure SourceReader.Widens (wide reader : SourceReader) : Prop where
  tenantId : wide.tenantId = reader.tenantId
  projectId : wide.projectId = reader.projectId
  allowedScopes : wide.allowedScopes = reader.allowedScopes
  agentId : wide.agentId = none

/-- What tells whether a source changed is the same. -/
structure SourceSnapshot.SameState (current source : SourceSnapshot) : Prop where
  status : current.status = source.status
  updatedAt : current.updatedAt = source.updatedAt
  contentHash : current.contentHash = source.contentHash

theorem SourceSnapshot.SameState.refl (source : SourceSnapshot) : source.SameState source :=
  ⟨rfl, rfl, rfl⟩

section

variable {wide : SourceReader} {agentId scope : String} {now : Nat}

theorem reachesProject_widens (h : wide.Widens reader) (tenantId projectId : String)
    : wide.reachesProject tenantId projectId = reader.reachesProject tenantId projectId := by
  unfold SourceReader.reachesProject
  rw [h.tenantId, h.projectId]

theorem selects_widens (h : wide.Widens reader) (hselects : reader.selects agentId scope = true)
    : wide.selects agentId scope = true := by
  unfold SourceReader.selects at hselects ⊢
  rw [Bool.and_eq_true] at hselects
  rw [h.agentId, h.allowedScopes, hselects.2]
  rfl

theorem selectsShared_widens (h : wide.Widens reader)
    (hselects : reader.selectsShared agentId scope = true)
    : wide.selectsShared agentId scope = true := by
  unfold SourceReader.selectsShared at hselects ⊢
  rw [Bool.and_eq_true] at hselects
  rw [h.agentId, h.allowedScopes, hselects.1]
  rfl

theorem sourceRowReadAllowed_widens (h : wide.Widens reader)
    (hallowed : sourceRowReadAllowed reader agentId scope = true)
    : sourceRowReadAllowed wide agentId scope = true := by
  unfold sourceRowReadAllowed at hallowed ⊢
  rw [h.agentId, h.allowedScopes]
  split
  next hscope =>
    rw [if_pos hscope] at hallowed
    cases hallowed
  . rfl

theorem docSource_widens (h : wide.Widens reader) {doc : DocDocument} {source : KnowledgeDocSource}
    (hsource : docSource reader doc = some source) : docSource wide doc = some source := by
  unfold docSource at hsource ⊢
  split at hsource
  next hcond =>
    rw [Bool.and_eq_true, Bool.and_eq_true] at hcond
    rw [reachesProject_widens h, hcond.1.1, selects_widens h hcond.1.2, hcond.2]
    exact hsource
  . cases hsource

theorem docChunkSource_widens (h : wide.Widens reader) {chunk : DocChunk}
    {source : KnowledgeDocChunkSource} (hsource : docChunkSource db reader chunk = some source)
    : docChunkSource db wide chunk = some source := by
  unfold docChunkSource at hsource ⊢
  rcases Option.map_eq_some_iff.mp hsource with ⟨doc, hdoc, heq⟩
  rcases Option.filter_eq_some_iff.mp hdoc with ⟨hfind, hcond⟩
  rw [Bool.and_eq_true, Bool.and_eq_true] at hcond
  apply Option.map_eq_some_iff.mpr ⟨doc, _, heq⟩
  apply Option.filter_eq_some_iff.mpr ⟨hfind, _⟩
  rw [reachesProject_widens h, hcond.1.1, selects_widens h hcond.1.2, hcond.2]
  rfl

theorem noteSource_widens (h : wide.Widens reader) {note : MemoryNote}
    {source : KnowledgeNoteSource} (hsource : noteSource reader now note = some source)
    : noteSource wide now note = some source := by
  unfold noteSource at hsource ⊢
  split at hsource
  next hcond =>
    rw [Bool.and_eq_true, Bool.and_eq_true, Bool.and_eq_true] at hcond
    rw [reachesProject_widens h, hcond.1.1.1, selects_widens h hcond.1.1.2, hcond.1.2, hcond.2]
    exact hsource
  . cases hsource

theorem eventSource_widens (h : wide.Widens reader) {row : IngestAudit}
    {source : KnowledgeEventSource} (hsource : eventSource db reader now row = some source)
    : eventSource db wide now row = some source := by
  unfold eventSource at hsource ⊢
  rcases Option.map_eq_some_iff.mp hsource with ⟨note, hnote, heq⟩
  rcases Option.filter_eq_some_iff.mp hnote with ⟨hfind, hcond⟩
  apply Option.map_eq_some_iff.mpr ⟨note, _, heq⟩
  apply Option.filter_eq_some_iff.mpr ⟨hfind, _⟩
  simp only [Bool.and_eq_true] at hcond ⊢
  rcases hcond with ⟨⟨⟨⟨⟨⟨⟨⟨hproject, hselects⟩, hpipeline⟩, hdecision⟩, htenant⟩, hnoteProject⟩,
    hstatus⟩, hexpired⟩, hnoteSelects⟩
  rw [reachesProject_widens h]
  exact ⟨⟨⟨⟨⟨⟨⟨⟨hproject, selects_widens h hselects⟩, hpipeline⟩, hdecision⟩, htenant⟩,
    hnoteProject⟩, hstatus⟩, hexpired⟩, selects_widens h hnoteSelects⟩

/-- What a fact rests on is readable, as far as it was before. -/
theorem readableEvidence_widens (h : wide.Widens reader) {fact : GraphFact}
    (hevidence : (readableEvidence db reader now fact).isEmpty = false)
    : (readableEvidence db wide now fact).isEmpty = false := by
  rw [List.isEmpty_eq_false_iff_exists_mem] at hevidence ⊢
  rcases hevidence with ⟨entry, hentry⟩
  refine ⟨entry, ?_⟩
  unfold readableEvidence at hentry ⊢
  rcases List.mem_filterMap.mp hentry with ⟨row, hrow, hpick⟩
  apply List.mem_filterMap.mpr ⟨row, hrow, _⟩
  rcases Option.map_eq_some_iff.mp hpick with ⟨note, hnote, heq⟩
  rcases Option.filter_eq_some_iff.mp hnote with ⟨hfind, hreadable⟩
  apply Option.map_eq_some_iff.mpr ⟨note, _, heq⟩
  apply Option.filter_eq_some_iff.mpr ⟨hfind, _⟩
  unfold evidenceReadable at hreadable ⊢
  rw [Bool.and_eq_true] at hreadable ⊢
  exact ⟨hreadable.1, selectsShared_widens h hreadable.2⟩

/-- The evidence aside, which is no part of the state. -/
theorem relationSource_widens (h : wide.Widens reader) {row : GraphFactRow}
    {source : KnowledgeRelationSource} (hsource : relationSource db reader now row = some source)
    : ∃ evidenceNotes, relationSource db wide now row = some { source with evidenceNotes } := by
  unfold relationSource at hsource ⊢
  split at hsource
  next hcond =>
    rw [Bool.and_eq_true, Bool.and_eq_true, Bool.not_eq_true'] at hcond
    rcases Option.map_eq_some_iff.mp hsource with ⟨subject, hsubject, rfl⟩
    rw [reachesProject_widens h, hcond.1.1, selectsShared_widens h hcond.1.2,
      readableEvidence_widens h hcond.2, hsubject]
    exact ⟨_, rfl⟩
  . cases hsource

theorem proposalSource_widens (h : wide.Widens reader) {proposal : ConsolidationProposal}
    {source : KnowledgeProposalSource} (hsource : proposalSource reader proposal = some source)
    : proposalSource wide proposal = some source := by
  unfold proposalSource at hsource ⊢
  rw [reachesProject_widens h]
  exact hsource

/-- What an agent can resolve is resolved without an agent as well, and in the same state. -/
theorem source_widens (h : wide.Widens reader)
    (hsource : db.source svc reader clock kind id = some snapshot)
    : ∃ current, db.source svc wide clock kind id = some current
      ∧ current.SameState snapshot := by
  unfold SourceDb.source at hsource ⊢
  have hallowed : ∀ {agentId scope}, sourceRowReadAllowed reader agentId scope = true →
      sourceRowReadAllowed wide agentId scope = true := sourceRowReadAllowed_widens h
  cases kind with
  | doc =>
    exact ⟨snapshot, map_pick_mono (fun _ _ => docSource_widens h) (fun _ => hallowed) hsource,
      SourceSnapshot.SameState.refl snapshot⟩
  | docChunk =>
    exact ⟨snapshot, map_pick_mono (fun _ _ => docChunkSource_widens h) (fun _ => hallowed) hsource,
      SourceSnapshot.SameState.refl snapshot⟩
  | note =>
    exact ⟨snapshot, map_pick_mono (fun _ _ => noteSource_widens h) (fun _ => hallowed) hsource,
      SourceSnapshot.SameState.refl snapshot⟩
  | event =>
    exact ⟨snapshot, map_pick_mono (fun _ _ => eventSource_widens h) (fun _ => hallowed) hsource,
      SourceSnapshot.SameState.refl snapshot⟩
  | relation =>
    rcases Option.map_eq_some_iff.mp hsource with ⟨source, hbind, rfl⟩
    rcases Option.bind_eq_some_iff.mp hbind with ⟨row, hrow, hpick⟩
    rcases relationSource_widens h hpick with ⟨evidenceNotes, hwide⟩
    refine ⟨relationSourceSnapshot svc { source with evidenceNotes }, ?_, ⟨rfl, rfl, rfl⟩⟩
    dsimp only
    rw [hrow, Option.bind_some, hwide, Option.map_some]
  | proposal =>
    rcases Option.map_eq_some_iff.mp hsource with ⟨source, hbind, rfl⟩
    rcases Option.bind_eq_some_iff.mp hbind with ⟨row, hrow, hpick⟩
    refine ⟨proposalSourceSnapshot svc source, ?_, SourceSnapshot.SameState.refl _⟩
    dsimp only
    rw [hrow, Option.bind_some, proposalSource_widens h hpick, Option.map_some]

end

end Elf
