import Elf.Evidence.Lemmas.Pack
import Elf.Lib.Lookup
import Elf.ProgressiveSearch.Details

/-!
This module contains what the parts of a request for details do: which notes are shown, what is
counted for them, and which requests get to the session at all.
-/

namespace Elf

open Text

/-! ## Results -/

namespace SearchDetailsBuildArgs

variable (args : SearchDetailsBuildArgs) {seen ids : List Uuid} {id : Uuid} {note : MemoryNote}

/-- The note that the result of an identifier shows. -/
def shown (id : Uuid) : Option MemoryNote :=
  if (args.sessionItemsByNoteId.lookup id).isSome then
    (args.notesById.lookup id).filter fun note =>
      (validateNoteAccess note args.session args.allowedScopes args.sharedGrants args.now).isNone
  else
    none

theorem shown_eq_some_iff
    : args.shown id = some note
      ↔ (∃ item, args.sessionItemsByNoteId.lookup id = some item)
        ∧ args.notesById.lookup id = some note
        ∧ validateNoteAccess note args.session args.allowedScopes args.sharedGrants args.now
          = none := by
  unfold shown
  cases args.sessionItemsByNoteId.lookup id with
  | none => simp
  | some item => simp [Option.filter_eq_some_iff]

theorem buildFrom_hidden (seen ids : List Uuid) (h : args.shown id = none)
    : ∃ error, args.buildFrom seen (id :: ids)
      = (⟨id, none, some error⟩ :: (args.buildFrom seen ids).1, (args.buildFrom seen ids).2) := by
  unfold shown at h
  conv =>
    arg 1
    intro error
    lhs
    unfold buildFrom
  cases hitem : args.sessionItemsByNoteId.lookup id with
  | none => exact ⟨_, rfl⟩
  | some item =>
    rw [hitem, Option.isSome_some, if_pos rfl] at h
    cases hnote : args.notesById.lookup id with
    | none => exact ⟨_, rfl⟩
    | some note =>
      rw [hnote, Option.filter_eq_none_iff] at h
      cases herror : validateNoteAccess note args.session args.allowedScopes args.sharedGrants
          args.now with
      | none => simp [herror] at h
      | some error => exact ⟨error, by simp only [herror]⟩

theorem buildFrom_shown (seen ids : List Uuid) (h : args.shown id = some note)
    : ∃ item, args.sessionItemsByNoteId.lookup id = some item
      ∧ args.buildFrom seen (id :: ids)
        = if args.recordHitsEnabled && !seen.contains id then
            (⟨id, some (args.noteResponse note), none⟩ :: (args.buildFrom (id :: seen) ids).1,
              ⟨id, item.chunkId, item.rank, item.finalScore⟩ :: (args.buildFrom (id :: seen) ids).2)
          else
            (⟨id, some (args.noteResponse note), none⟩ :: (args.buildFrom seen ids).1,
              (args.buildFrom seen ids).2) := by
  rcases args.shown_eq_some_iff.mp h with ⟨⟨item, hitem⟩, hnote, hallowed⟩
  refine ⟨item, hitem, ?_⟩
  conv =>
    lhs
    unfold buildFrom
  simp only [hitem, hnote, hallowed]

/-- There is a result for every identifier, with what is shown of its note. -/
structure ShowsNotes (ids : List Uuid) (results : List SearchDetailsResult) : Prop where
  noteIds : results.map SearchDetailsResult.noteId = ids
  notes : ∀ result ∈ results, result.note = (args.shown result.noteId).map args.noteResponse

theorem ShowsNotes.cons {results : List SearchDetailsResult} {content : Option NoteFetchResponse}
    {error : Option SearchDetailsError} (h : args.ShowsNotes ids results)
    (hcontent : content = (args.shown id).map args.noteResponse)
    : args.ShowsNotes (id :: ids) (⟨id, content, error⟩ :: results) where
  noteIds := by rw [List.map_cons, h.noteIds]
  notes := by
    intro result hresult
    rcases List.mem_cons.mp hresult with rfl | hresult
    . exact hcontent
    . exact h.notes result hresult

theorem buildFrom_results (seen ids : List Uuid)
    : args.ShowsNotes ids (args.buildFrom seen ids).1 := by
  induction ids generalizing seen with
  | nil => exact ⟨rfl, by simp [buildFrom]⟩
  | cons id ids ih =>
    cases hid : args.shown id with
    | none =>
      rcases args.buildFrom_hidden seen ids hid with ⟨error, heq⟩
      rw [heq]
      exact (ih seen).cons args (by rw [hid]; rfl)
    | some note =>
      rcases args.buildFrom_shown seen ids hid with ⟨item, -, heq⟩
      rw [heq]
      split
      . exact (ih (id :: seen)).cons args (by rw [hid]; rfl)
      . exact (ih seen).cons args (by rw [hid]; rfl)

/-- The note is shown, and is counted when it is. -/
def Counts (id : Uuid) : Prop := args.recordHitsEnabled = true ∧ (args.shown id).isSome = true

/-- Every note that is shown is counted once, unless it was seen before. -/
structure CountsNotes (seen ids : List Uuid) (hits : List HitItem) : Prop where
  nodup : (hits.map HitItem.noteId).Nodup
  mem : ∀ id, id ∈ hits.map HitItem.noteId ↔ id ∈ ids ∧ id ∉ seen ∧ args.Counts id
  ranks : ∀ hit ∈ hits, ∃ item, args.sessionItemsByNoteId.lookup hit.noteId = some item
    ∧ hit.rank = item.rank

theorem CountsNotes.skip {hits : List HitItem} (h : args.CountsNotes seen ids hits)
    (hid : id ∉ seen → ¬args.Counts id) : args.CountsNotes seen (id :: ids) hits where
  nodup := h.nodup
  mem := by
    intro other
    rw [h.mem other, List.mem_cons]
    constructor
    . rintro ⟨hmem, hrest⟩
      exact ⟨Or.inr hmem, hrest⟩
    . rintro ⟨rfl | hmem, hnot, hcounts⟩
      . exact absurd hcounts (hid hnot)
      . exact ⟨hmem, hnot, hcounts⟩
  ranks := h.ranks

theorem CountsNotes.count {hits : List HitItem} {item : SearchSessionItemRecord} (hit : HitItem)
    (h : args.CountsNotes (hit.noteId :: seen) ids hits) (hseen : hit.noteId ∉ seen)
    (hcounts : args.Counts hit.noteId)
    (hitem : args.sessionItemsByNoteId.lookup hit.noteId = some item) (hrank : hit.rank = item.rank)
    : args.CountsNotes seen (hit.noteId :: ids) (hit :: hits) where
  nodup := by
    rw [List.map_cons, List.nodup_cons, h.mem hit.noteId]
    refine ⟨?_, h.nodup⟩
    rintro ⟨-, hnot, -⟩
    exact hnot List.mem_cons_self
  mem := by
    intro other
    rw [List.map_cons, List.mem_cons, h.mem other, List.mem_cons, List.mem_cons, not_or]
    constructor
    . rintro (rfl | ⟨hmem, ⟨-, hnot⟩, hrest⟩)
      . exact ⟨Or.inl rfl, hseen, hcounts⟩
      . exact ⟨Or.inr hmem, hnot, hrest⟩
    . rintro ⟨hmem, hnot, hrest⟩
      by_cases hother : other = hit.noteId
      . exact Or.inl hother
      . exact Or.inr ⟨hmem.resolve_left hother, ⟨hother, hnot⟩, hrest⟩
  ranks := by
    intro other hother
    rcases List.mem_cons.mp hother with rfl | hother
    . exact ⟨item, hitem, hrank⟩
    . exact h.ranks other hother

theorem buildFrom_hits (seen ids : List Uuid)
    : args.CountsNotes seen ids (args.buildFrom seen ids).2 := by
  induction ids generalizing seen with
  | nil => exact ⟨List.nodup_nil, by simp [buildFrom], by simp [buildFrom]⟩
  | cons id ids ih =>
    cases hid : args.shown id with
    | none =>
      rcases args.buildFrom_hidden seen ids hid with ⟨error, heq⟩
      rw [heq]
      apply (ih seen).skip
      rintro - ⟨-, hsome⟩
      rw [hid] at hsome
      cases hsome
    | some note =>
      rcases args.buildFrom_shown seen ids hid with ⟨item, hitem, heq⟩
      rw [heq]
      split
      next hseen =>
        rw [Bool.and_eq_true, Bool.not_eq_true', List.contains_eq_mem, decide_eq_false_iff_not]
          at hseen
        have hsome : (args.shown id).isSome = true := by
          rw [hid]
          rfl
        exact CountsNotes.count args ⟨id, item.chunkId, item.rank, item.finalScore⟩ (ih (id :: seen))
          hseen.2 ⟨hseen.1, hsome⟩ hitem rfl
      next hseen =>
        apply (ih seen).skip
        rintro hnot ⟨henabled, -⟩
        apply hseen
        rw [henabled]
        simpa using hnot

end SearchDetailsBuildArgs

/-! ## Maps -/

section

variable {items : List SearchSessionItemRecord} {item : SearchSessionItemRecord} {ids : List Uuid}
  {id : Uuid} {note : MemoryNote} {session : SearchSession} {s : Store}

theorem mem_itemsByNoteId {entry : Uuid × SearchSessionItemRecord}
    : entry ∈ itemsByNoteId items ↔ ∃ item ∈ items, (item.noteId, item) = entry := by
  unfold itemsByNoteId
  rw [List.foldl_flip_cons_eq_append, List.append_nil, List.mem_reverse, List.mem_map]

theorem mem_of_itemsByNoteId (h : (itemsByNoteId items).lookup id = some item)
    : item ∈ items ∧ item.noteId = id := by
  rcases mem_itemsByNoteId.mp (Lookup.mem_of_lookup h) with ⟨other, hother, heq⟩
  cases heq
  exact ⟨hother, rfl⟩

theorem itemsByNoteId_isSome_iff
    : (∃ item, (itemsByNoteId items).lookup id = some item) ↔ ∃ item ∈ items, item.noteId = id := by
  constructor
  . rintro ⟨item, hitem⟩
    exact ⟨item, mem_of_itemsByNoteId hitem⟩
  . rintro ⟨item, hitem, rfl⟩
    have hmem : (item.noteId, item) ∈ itemsByNoteId items := mem_itemsByNoteId.mpr ⟨item, hitem, rfl⟩
    rcases Lookup.lookup_isSome_of_mem (List.mem_map_of_mem (f := Prod.fst) hmem) with
      ⟨entry, -, hentry⟩
    exact ⟨entry.2, hentry⟩

theorem mem_requestedInSession
    : id ∈ requestedInSession (itemsByNoteId items) ids
        ↔ id ∈ ids ∧ ∃ item ∈ items, item.noteId = id := by
  unfold requestedInSession
  rw [List.mem_eraseDups, List.mem_filter, Option.isSome_iff_exists, itemsByNoteId_isSome_iff]

theorem loadDetailNotes_lookup
    : (loadDetailNotes s session ids).lookup id = some note
      ↔ s.notes.find? id = some note ∧ id ∈ ids ∧ note.tenantId = session.tenantId
        ∧ (note.projectId = session.projectId
          ∨ note.projectId = orgProjectId ∧ note.scope = "org_shared") := by
  have hnodup : ((loadDetailNotes s session ids).map Prod.fst).Nodup := by
    unfold loadDetailNotes
    rw [List.map_map]
    exact s.notes.nodup.sublist (List.filter_sublist.map MemoryNote.noteId)
  rw [Lookup.lookup_eq_some_iff hnodup, s.notes.find?_eq_some_iff]
  unfold loadDetailNotes
  simp only [List.mem_map, List.mem_filter, Prod.mk.injEq, Bool.and_eq_true, Bool.or_eq_true,
    decide_eq_true_eq, List.contains_eq_mem]
  constructor
  . rintro ⟨other, ⟨hmem, ⟨hid, htenant⟩, hproject⟩, rfl, rfl⟩
    exact ⟨⟨hmem, rfl⟩, hid, htenant, hproject⟩
  . rintro ⟨⟨hmem, rfl⟩, hid, htenant, hproject⟩
    exact ⟨note, ⟨hmem, ⟨hid, htenant⟩, hproject⟩, rfl, rfl⟩

theorem fetchDetailFields_lookup (fields : FieldTable) (h : id ∈ ids)
    : (fetchDetailFields fields ids).lookup id = fetchStructuredFields fields id := by
  unfold fetchDetailFields
  rw [Lookup.lookup_filterMap, if_pos h]

theorem validateNoteAccess_eq_none_iff {allowedScopes : List String}
    {sharedGrants : List SharedSpaceGrantKey} {now : Nat}
    : validateNoteAccess note session allowedScopes sharedGrants now = none
      ↔ noteReadAllowed note session.agentId allowedScopes sharedGrants now = true := by
  unfold validateNoteAccess
  cases hallowed : noteReadAllowed note session.agentId allowedScopes sharedGrants now with
  | false =>
    split
    . simp
    . split
      . simp
      . split
        . simp
        . simp
  | true =>
    unfold noteReadAllowed at hallowed
    split at hallowed
    . cases hallowed
    next hstatus =>
      split at hallowed
      . cases hallowed
      next hexpired =>
        split at hallowed
        . cases hallowed
        next hscope =>
          rw [if_neg hstatus, if_neg hexpired, if_neg hscope]
          simp

end

/-! ## Hits -/

section

variable {svc : SearchService} {query : String} {items : List HitItem} {draw : SearchDraw}
  {db db' : SearchDb}

/-- The identifiers that are drawn for hits are new ones. -/
structure SearchDraw.Fresh (draw : SearchDraw) (db : SearchDb) : Prop where
  injective : Function.Injective draw.hitId
  unused : ∀ idx, db.hits.find? (draw.hitId idx) = none

theorem hitRows_noteIds (svc : SearchService) (query : String) (items : List HitItem)
    (draw : SearchDraw) : (hitRows svc query items draw).map MemoryHit.noteId
      = items.map HitItem.noteId := by
  have hfst : items.zipIdx.map Prod.fst = items := List.zipIdx_map_fst 0 items
  unfold hitRows
  conv =>
    rhs
    rw [← hfst, List.map_map]
  rw [List.map_map]
  rfl

theorem hitRows_hitIds (svc : SearchService) (query : String) (items : List HitItem)
    (draw : SearchDraw) : (hitRows svc query items draw).map MemoryHit.hitId
      = (List.range items.length).map draw.hitId := by
  have hsnd : items.zipIdx.map Prod.snd = List.range' 0 items.length := List.zipIdx_map_snd 0 items
  unfold hitRows
  rw [List.range_eq_range', ← hsnd, List.map_map, List.map_map]
  rfl

theorem recordDetailHits_eq_ok
    (h : recordDetailHits svc query items draw db = .ok ((), db'))
    : db'.hits.rows = db.hits.rows ++ hitRows svc query items draw ∧ db'.sessions = db.sessions
      ∧ db'.memory = countHits (items.map HitItem.noteId) draw.now db.memory := by
  unfold recordDetailHits at h
  rcases Except.bind_eq_ok.mp h with ⟨_, -, h⟩
  rcases Except.bind_eq_ok.mp h with ⟨_, -, h⟩
  rcases Except.bind_eq_ok.mp h with ⟨hits, hhits, h⟩
  cases h
  exact ⟨Table.rows_insertAll hhits, rfl, rfl⟩

theorem recordDetailHits_ok (svc : SearchService) (hquery : isValidText query = true)
    (hranks : ∀ item ∈ items, item.rank ≤ 2147483647) (hfresh : draw.Fresh db)
    : ∃ db', recordDetailHits svc query items draw db = .ok ((), db') := by
  have hnodup : ((hitRows svc query items draw).map MemoryHit.hitId).Nodup := by
    rw [hitRows_hitIds]
    exact List.nodup_range.map hfresh.injective
  have hunused : ∀ row ∈ hitRows svc query items draw, db.hits.find? row.hitId = none := by
    intro row hrow
    have hmem := List.mem_map_of_mem (f := MemoryHit.hitId) hrow
    rw [hitRows_hitIds, List.mem_map] at hmem
    rcases hmem with ⟨idx, -, heq⟩
    rw [← heq]
    exact hfresh.unused idx
  rcases Table.insertAll_of_nodup (Table.nodup_append_of_unused hnodup hunused) duplicateKey with
    ⟨hits, hhits⟩
  refine ⟨⟨countHits (items.map HitItem.noteId) draw.now db.memory, db.sessions, hits⟩, ?_⟩
  refine Except.bind_eq_ok.mpr ⟨(), Except.rejectIf_eq_ok.mpr (by rw [hquery]; rfl), ?_⟩
  refine Except.bind_eq_ok.mpr ⟨(), Except.forM_eq_ok ?_, Except.bind_eq_ok.mpr ⟨hits, hhits, rfl⟩⟩
  intro item hitem
  apply Except.rejectIf_eq_ok.mpr
  rw [decide_eq_false_iff_not, Nat.not_lt]
  exact hranks item hitem

/-- Every note among the counted ones has one more hit, and nothing else is changed. -/
theorem countHits_find (ids : List Uuid) (now : Nat) (s : Store) (id : Uuid)
    : (countHits ids now s).notes.find? id = (s.notes.find? id).map fun note =>
        if id ∈ ids then
          { note with hitCount := note.hitCount + 1, lastHitAt := some (timestamptz now) }
        else
          note := by
  unfold countHits
  rw [Table.find?_updateWhere]
  cases hfind : s.notes.find? id with
  | none => rfl
  | some note =>
    have hkey := Table.key_of_find? hfind
    rw [Option.map_some, Option.map_some, hkey, List.contains_eq_mem]
    simp only [decide_eq_true_eq]

end

/-! ## Sessions -/

section

variable {svc : SearchService} {row : SearchSessionRow} {session : SearchSession} {db db' : SearchDb}
  {tenantId projectId agentId : String} {searchSessionId : Uuid} {now : Nat}

/-- The session that a row is loaded as, once its values are read. -/
def SearchSessionRow.loaded (row : SearchSessionRow) (mode : SearchSessionMode)
    (items : List SearchSessionItemRecord) : SearchSession := {
  searchSessionId := row.searchSessionId
  traceId := row.traceId
  tenantId := row.tenantId
  projectId := row.projectId
  agentId := row.agentId
  readProfile := row.readProfile
  query := row.query
  mode
  trajectorySummary := row.trajectorySummary
  queryPlan := row.queryPlan
  items
  createdAt := row.createdAt
  expiresAt := row.expiresAt }

/-- The values of the row can be read, and give the session. -/
structure SearchSessionRow.LoadsAs (svc : SearchService) (row : SearchSessionRow)
    (session : SearchSession) : Prop where
  items : readSessionItems svc.rfc row.items = some session.items
  mode : SearchSessionMode.fromStr row.mode = .ok session.mode
  queryPlan : row.queryPlan.bind svc.queryPlanError = none
  trajectorySummary : row.trajectorySummary.bind svc.trajectorySummaryError = none
  columns : session = row.loaded session.mode session.items

theorem rejectUndecoded_eq_ok {column : String} {error : Json → Option String} {value : Option Json}
    {u : Unit} : rejectUndecoded column error value = .ok u ↔ value.bind error = none := by
  unfold rejectUndecoded
  cases value.bind error with
  | none => simp
  | some err => simp

theorem loadSearchSession_eq_ok
    : loadSearchSession svc db searchSessionId now = .ok session
      ↔ ∃ row, db.sessions.find? searchSessionId = some row ∧ now < row.expiresAt
        ∧ row.LoadsAs svc session := by
  unfold loadSearchSession
  constructor
  . intro h
    rcases Except.bind_eq_ok.mp h with ⟨row, hrow, h⟩
    rcases Except.bind_eq_ok.mp h with ⟨_, hexpired, h⟩
    rcases Except.bind_eq_ok.mp h with ⟨items, hitems, h⟩
    rcases Except.bind_eq_ok.mp h with ⟨mode, hmode, h⟩
    rcases Except.bind_eq_ok.mp h with ⟨_, hplan, h⟩
    rcases Except.bind_eq_ok.mp h with ⟨_, hsummary, h⟩
    cases h
    have hlater := Except.rejectIf_eq_ok.mp hexpired
    rw [decide_eq_false_iff_not, Nat.not_le] at hlater
    exact ⟨row, Except.ofOption_eq_ok.mp hrow, hlater, Except.ofOption_eq_ok.mp hitems, hmode,
      rejectUndecoded_eq_ok.mp hplan, rejectUndecoded_eq_ok.mp hsummary, rfl⟩
  . rintro ⟨row, hrow, hlater, hloads⟩
    have hexpired : decide (row.expiresAt ≤ now) = false := by
      rw [decide_eq_false_iff_not, Nat.not_le]
      exact hlater
    refine Except.bind_eq_ok.mpr ⟨row, Except.ofOption_eq_ok.mpr hrow, ?_⟩
    refine Except.bind_eq_ok.mpr ⟨(), Except.rejectIf_eq_ok.mpr hexpired, ?_⟩
    refine Except.bind_eq_ok.mpr ⟨session.items, Except.ofOption_eq_ok.mpr hloads.items, ?_⟩
    refine Except.bind_eq_ok.mpr ⟨session.mode, hloads.mode, ?_⟩
    refine Except.bind_eq_ok.mpr ⟨(), rejectUndecoded_eq_ok.mpr hloads.queryPlan, ?_⟩
    refine Except.bind_eq_ok.mpr ⟨(), rejectUndecoded_eq_ok.mpr hloads.trajectorySummary, ?_⟩
    exact congrArg Except.ok hloads.columns.symm

/-- The tenant, the project and the agent of a request are those of the session. -/
structure SearchSession.OwnedBy (session : SearchSession) (tenantId projectId agentId : String)
    : Prop where
  tenantId : session.tenantId = trim tenantId
  projectId : session.projectId = trim projectId
  agentId : session.agentId = trim agentId

theorem followUpSession_eq_ok
    : followUpSession svc db tenantId projectId agentId searchSessionId now = .ok session
      ↔ (trim tenantId ≠ "" ∧ trim projectId ≠ "" ∧ trim agentId ≠ "")
        ∧ session.OwnedBy tenantId projectId agentId
        ∧ ∃ row, db.sessions.find? searchSessionId = some row ∧ now < row.expiresAt
          ∧ row.LoadsAs svc session := by
  unfold followUpSession validateSearchSessionAccess
  constructor
  . intro h
    rcases Except.bind_eq_ok.mp h with ⟨_, hblank, h⟩
    rcases Except.bind_eq_ok.mp h with ⟨loaded, hload, h⟩
    rcases Except.bind_eq_ok.mp h with ⟨_, howned, h⟩
    cases h
    have hblank := Except.rejectIf_eq_ok.mp hblank
    have howned := Except.rejectIf_eq_ok.mp howned
    simp only [Bool.or_eq_false_iff, beq_eq_false_iff_ne] at hblank
    simp only [Bool.or_eq_false_iff, decide_eq_false_iff_not, not_not] at howned
    exact ⟨⟨hblank.1.1, hblank.1.2, hblank.2⟩, ⟨howned.1.1, howned.1.2, howned.2⟩,
      loadSearchSession_eq_ok.mp hload⟩
  . rintro ⟨⟨htenant, hproject, hagent⟩, howned, hload⟩
    refine Except.bind_eq_ok.mpr ⟨(), Except.rejectIf_eq_ok.mpr ?_, ?_⟩
    . simp [htenant, hproject, hagent]
    refine Except.bind_eq_ok.mpr ⟨session, loadSearchSession_eq_ok.mpr hload, ?_⟩
    refine Except.bind_eq_ok.mpr ⟨(), Except.rejectIf_eq_ok.mpr ?_, rfl⟩
    simp [howned.tenantId, howned.projectId, howned.agentId]

/-- The sessions are those that there were, but for the times at which they end. -/
def SearchDb.SameSessions (db db' : SearchDb) : Prop :=
  ∀ row' ∈ db'.sessions, ∃ row ∈ db.sessions, row' = { row with expiresAt := row'.expiresAt }

theorem SearchDb.SameSessions.of_eq (h : db'.sessions = db.sessions) : db.SameSessions db' := by
  intro row hrow
  rw [h] at hrow
  exact ⟨row, hrow, rfl⟩

/-- Touching a session changes the time at which it ends, and nothing else. -/
structure SearchDb.Touched (db db' : SearchDb) : Prop where
  memory : db'.memory = db.memory
  hits : db'.hits = db.hits
  sessions : db.SameSessions db'

theorem SearchDb.Touched.refl (db : SearchDb) : db.Touched db :=
  ⟨rfl, rfl, SearchDb.SameSessions.of_eq rfl⟩

theorem touchSearchSession_eq (session : SearchSession) (now : Nat) (db : SearchDb)
    : touchSearchSession session now db
      = if touchedExpiresAt session now ≤ session.expiresAt then
          (session.expiresAt, db)
        else
          (touchedExpiresAt session now, { db with
            sessions := db.sessions.updateWhere (fun row =>
                row.searchSessionId = session.searchSessionId
                  && row.expiresAt < timestamptz (touchedExpiresAt session now))
              fun row => { row with expiresAt := timestamptz (touchedExpiresAt session now) } }) :=
  rfl

theorem touchSearchSession_touched (session : SearchSession) (now : Nat) (db : SearchDb)
    : db.Touched (touchSearchSession session now db).2 := by
  rw [touchSearchSession_eq]
  generalize touchedExpiresAt session now = touched
  split
  . exact SearchDb.Touched.refl db
  . refine ⟨rfl, rfl, ?_⟩
    intro row' hrow'
    dsimp only at hrow'
    rw [Table.mem_updateWhere] at hrow'
    rcases hrow' with ⟨row, hrow, rfl⟩
    refine ⟨row, hrow, ?_⟩
    split
    . rfl
    . rfl

end

/-! ## Requests -/

/-- What the details say of a note: the payload level decides on its text, fields and source. -/
def detailResponse (svc : SearchService) (req : SearchDetailsRequest) (s : Store) (note : MemoryNote)
    : NoteFetchResponse :=
  let structured :=
    if req.payloadLevel = .l0 then none else fetchStructuredFields s.fields note.noteId
  { NoteFetchResponse.ofNote note structured with
    text := applyPayloadLevelToSearchDetailsText note.text structured req.payloadLevel
      svc.previewMaxChars
    sourceRef := if req.payloadLevel = .l2 then note.sourceRef else .obj [] }

section

variable {svc : SearchService} {req : SearchDetailsRequest} {session : SearchSession}
  {allowedScopes : List String} {now expiresAt : Nat} {s : Store} {id : Uuid} {note : MemoryNote}
  {draw : SearchDraw} {db db' : SearchDb} {response : SearchDetailsResponse}

theorem detailsBuildArgs_shown (hid : id ∈ req.noteIds)
    : (detailsBuildArgs svc req session allowedScopes now s).shown id = some note
      ↔ (∃ item ∈ session.items, item.noteId = id)
        ∧ s.notes.find? id = some note
        ∧ note.tenantId = session.tenantId
        ∧ (note.projectId = session.projectId
          ∨ note.projectId = orgProjectId ∧ note.scope = "org_shared")
        ∧ noteReadAllowed note session.agentId allowedScopes (loadSharedReadGrantsWithOrgShared s
          session.tenantId session.projectId (trim req.agentId)
          (allowedScopes.contains "org_shared")) now = true := by
  rw [SearchDetailsBuildArgs.shown_eq_some_iff, validateNoteAccess_eq_none_iff]
  unfold detailsBuildArgs
  dsimp only
  rw [loadDetailNotes_lookup, mem_requestedInSession, itemsByNoteId_isSome_iff]
  constructor
  . rintro ⟨hitem, ⟨hfind, -, htenant, hproject⟩, hallowed⟩
    exact ⟨hitem, hfind, htenant, hproject, hallowed⟩
  . rintro ⟨hitem, hfind, htenant, hproject, hallowed⟩
    exact ⟨hitem, ⟨hfind, ⟨hid, hitem⟩, htenant, hproject⟩, hallowed⟩

/-- The fields are those of the note, although they were fetched for the requested ones only. -/
theorem detailsBuildArgs_noteResponse (hid : note.noteId ∈ req.noteIds)
    (hitem : ∃ item ∈ session.items, item.noteId = note.noteId)
    : (detailsBuildArgs svc req session allowedScopes now s).noteResponse note
      = detailResponse svc req s note := by
  unfold SearchDetailsBuildArgs.noteResponse detailResponse detailsBuildArgs
  dsimp only
  by_cases hlevel : req.payloadLevel = .l0
  . rw [if_pos hlevel, if_pos hlevel]
  . rw [if_neg hlevel, if_neg hlevel, if_neg hlevel,
      fetchDetailFields_lookup s.fields (mem_requestedInSession.mpr ⟨hid, hitem⟩)]

theorem countHits_nil (now : Nat) (s : Store) : countHits [] now s = s := by
  have hnotes : (countHits [] now s).notes = s.notes := by
    apply Table.ext
    unfold countHits
    rw [Table.rows_updateWhere]
    exact List.map_id s.notes.rows
  exact congrArg (fun notes => { s with notes := notes }) hnotes

/-- A request adds its hits, and counts them. -/
structure SearchDb.Recorded (svc : SearchService) (query : String) (items : List HitItem)
    (draw : SearchDraw) (db db' : SearchDb) : Prop where
  hits : db'.hits.rows = db.hits.rows ++ hitRows svc query items draw
  sessions : db'.sessions = db.sessions
  memory : db'.memory = countHits (items.map HitItem.noteId) draw.now db.memory

theorem materializeDetails_eq_ok
    (h : materializeDetails svc req session expiresAt draw db = .ok (response, db'))
    : ∃ allowedScopes, resolveReadScopes svc session.readProfile = .ok allowedScopes
      ∧ response.results = ((detailsBuildArgs svc req session allowedScopes draw.now
        db.memory).buildFrom [] req.noteIds).1
      ∧ SearchDb.Recorded svc session.query ((detailsBuildArgs svc req session allowedScopes draw.now
        db.memory).buildFrom [] req.noteIds).2 draw db db' := by
  unfold materializeDetails buildSearchDetailsResults at h
  rcases Except.bind_eq_ok.mp h with ⟨allowedScopes, hscopes, h⟩
  refine ⟨allowedScopes, hscopes, ?_⟩
  generalize (detailsBuildArgs svc req session allowedScopes draw.now db.memory).buildFrom []
    req.noteIds = built at h
  dsimp only at h
  split at h
  next hempty =>
    cases h
    rw [List.isEmpty_iff.mp hempty]
    exact ⟨rfl, (List.append_nil db.hits.rows).symm, rfl, (countHits_nil draw.now db.memory).symm⟩
  . rcases Except.bind_eq_ok.mp h with ⟨⟨_, recorded⟩, hrecorded, h⟩
    cases h
    rcases recordDetailHits_eq_ok hrecorded with ⟨hhits, hsessions, hmemory⟩
    exact ⟨rfl, hhits, hsessions, hmemory⟩

theorem materializeDetails_ok (expiresAt : Nat)
    (hscopes : resolveReadScopes svc session.readProfile = .ok allowedScopes)
    (hquery : isValidText session.query = true)
    (hranks : ∀ item ∈ session.items, item.rank ≤ 2147483647) (hfresh : draw.Fresh db)
    : ∃ response db', materializeDetails svc req session expiresAt draw db
      = .ok (response, db') := by
  unfold materializeDetails
  rw [hscopes]
  dsimp only [bind, Except.bind]
  split
  . exact ⟨_, _, rfl⟩
  . have hhits : ∀ hit ∈ (buildSearchDetailsResults req.noteIds (detailsBuildArgs svc req session
        allowedScopes draw.now db.memory)).2, hit.rank ≤ 2147483647 := by
      intro hit hhit
      rcases (SearchDetailsBuildArgs.buildFrom_hits _ [] req.noteIds).ranks hit hhit with
        ⟨item, hitem, hrank⟩
      rw [hrank]
      exact hranks item (mem_of_itemsByNoteId hitem).1
    rcases recordDetailHits_ok svc hquery hhits hfresh with ⟨db', hdb'⟩
    rw [hdb']
    exact ⟨_, _, rfl⟩

theorem searchDetails_of_error {err : Error} (h : followUpSession svc db req.tenantId req.projectId
    req.agentId req.searchSessionId draw.now = .error err)
    : searchDetails svc req draw db = (.error err, db) := by
  unfold searchDetails
  rw [h]

theorem searchDetails_of_session (h : followUpSession svc db req.tenantId req.projectId req.agentId
    req.searchSessionId draw.now = .ok session)
    : ∃ expiresAt mid, db.Touched mid
      ∧ (∀ err, materializeDetails svc req session expiresAt draw mid = .error err →
        searchDetails svc req draw db = (.error err, mid))
      ∧ ∀ response db', materializeDetails svc req session expiresAt draw mid = .ok (response, db') →
        searchDetails svc req draw db = (.ok response, db') := by
  refine ⟨(touchSearchSession session draw.now db).1, (touchSearchSession session draw.now db).2,
    touchSearchSession_touched session draw.now db, ?_⟩
  unfold searchDetails
  rw [h]
  -- The time that is added up is not to be computed.
  dsimp only
  generalize touchSearchSession session draw.now db = touched
  constructor
  . intro err herr
    simp only [herr]
  . intro response db' hok
    simp only [hok]

/-- What a request comes to, once its session is there. -/
theorem searchDetails_cases (h : followUpSession svc db req.tenantId req.projectId req.agentId
    req.searchSessionId draw.now = .ok session)
    : ∃ expiresAt mid, db.Touched mid
      ∧ ((∃ err, searchDetails svc req draw db = (.error err, mid))
        ∨ ∃ response db', searchDetails svc req draw db = (.ok response, db')
          ∧ materializeDetails svc req session expiresAt draw mid = .ok (response, db')) := by
  rcases searchDetails_of_session h with ⟨expiresAt, mid, htouched, herror, hok⟩
  refine ⟨expiresAt, mid, htouched, ?_⟩
  cases hdetails : materializeDetails svc req session expiresAt draw mid with
  | error err => exact Or.inl ⟨err, herror err hdetails⟩
  | ok built => exact Or.inr ⟨built.1, built.2, hok built.1 built.2 hdetails, rfl⟩

end

/-! ## Runs -/

section

variable {svc : SearchService} {db db' : SearchDb} {row : SearchSessionRow}

/-- What is checked of a search before its session is stored. -/
structure SearchSessionRow.Sound (svc : SearchService) (row : SearchSessionRow) : Prop where
  tenantId : row.tenantId ≠ ""
  projectId : row.projectId ≠ ""
  agentId : row.agentId ≠ ""
  query : isValidText row.query = true
  scopes : ∃ allowedScopes, resolveReadScopes svc row.readProfile = .ok allowedScopes

def SearchDb.Sound (svc : SearchService) (db : SearchDb) : Prop := ∀ row ∈ db.sessions, row.Sound svc

theorem SearchDb.SameSessions.sound (h : db.SameSessions db') (hdb : db.Sound svc)
    : db'.Sound svc := by
  intro row' hrow'
  rcases h row' hrow' with ⟨row, hrow, heq⟩
  have hrow := hdb row hrow
  rw [heq]
  exact ⟨hrow.tenantId, hrow.projectId, hrow.agentId, hrow.query, hrow.scopes⟩

theorem searchRaw_eq_ok {req : SearchRequest} {found : Except Error RawSearch} {raw : RawSearch}
    (h : searchRaw svc req found = .ok raw)
    : (trim req.tenantId ≠ "" ∧ trim req.projectId ≠ "" ∧ trim req.agentId ≠ "")
      ∧ isValidText req.query = true
      ∧ ∃ allowedScopes, resolveReadScopes svc req.readProfile = .ok allowedScopes := by
  unfold searchRaw validateSearchRequestInputs at h
  rcases Except.bind_eq_ok.mp h with ⟨_, hinputs, h⟩
  rcases Except.bind_eq_ok.mp h with ⟨allowedScopes, hscopes, -⟩
  rcases Except.bind_eq_ok.mp hinputs with ⟨_, hblank, hquery⟩
  have hblank := Except.rejectIf_eq_ok.mp hblank
  have hquery := Except.rejectIf_eq_ok.mp hquery
  simp only [Bool.or_eq_false_iff, beq_eq_false_iff_ne] at hblank
  rw [Bool.not_eq_false'] at hquery
  exact ⟨⟨hblank.1.1, hblank.1.2, hblank.2⟩, hquery, allowedScopes, hscopes⟩

theorem searchSessionized_sound {req : SearchRequest} {path : SearchSessionizePath}
    {found : Except Error RawSearch} {draw : SearchDraw} {output : SearchSessionizedOutput}
    (h : searchSessionized svc req path found draw db = .ok (output, db')) (hdb : db.Sound svc)
    : db'.Sound svc := by
  unfold searchSessionized storeSearchSession at h
  rcases Except.bind_eq_ok.mp h with ⟨raw, hraw, h⟩
  rcases Except.bind_eq_ok.mp h with ⟨itemsJson, -, h⟩
  rcases Except.bind_eq_ok.mp h with ⟨stored, hstored, h⟩
  rcases Except.bind_eq_ok.mp hstored with ⟨sessions, hinsert, hstored⟩
  cases hstored
  cases h
  rcases searchRaw_eq_ok hraw with ⟨⟨htenant, hproject, hagent⟩, hquery, hscopes⟩
  exact Table.forall_insert? (Table.insert_eq_ok.mp hinsert) hdb
    ⟨htenant, hproject, hagent, hquery, hscopes⟩

theorem searchSessionGet_touched (svc : SearchService) (req : SearchSessionGetRequest) (now : Nat)
    (db : SearchDb) : db.Touched (searchSessionGet svc req now db).2 := by
  unfold searchSessionGet
  cases followUpSession svc db req.tenantId req.projectId req.agentId req.searchSessionId now with
  | error err => exact SearchDb.Touched.refl db
  | ok session =>
    have htouched := touchSearchSession_touched session now db
    dsimp only
    generalize touchSearchSession session now db = touched at htouched
    split
    . exact htouched
    . exact SearchDb.Touched.refl db

theorem searchDetails_sameSessions (svc : SearchService) (req : SearchDetailsRequest)
    (draw : SearchDraw) (db : SearchDb) : db.SameSessions (searchDetails svc req draw db).2 := by
  cases hsession : followUpSession svc db req.tenantId req.projectId req.agentId
      req.searchSessionId draw.now with
  | error err =>
    rw [searchDetails_of_error hsession]
    exact SearchDb.SameSessions.of_eq rfl
  | ok session =>
    rcases searchDetails_cases hsession with
      ⟨expiresAt, mid, htouched, ⟨err, heq⟩ | ⟨response, db', heq, hdetails⟩⟩
    . rw [heq]
      exact htouched.sessions
    . rw [heq]
      rcases materializeDetails_eq_ok hdetails with ⟨allowedScopes, -, -, hrecorded⟩
      intro row hrow
      dsimp only at hrow
      rw [hrecorded.sessions] at hrow
      exact htouched.sessions row hrow

theorem searchStep_sound {a : SearchStep} (hdb : db.Sound svc) (h : SearchSteps svc db a db')
    : db'.Sound svc := by
  unfold SearchSteps SearchStep.next at h
  cases hop : a.op with
  | memory step =>
    rw [hop] at h
    rw [← h]
    exact hdb
  | search req path found =>
    rw [hop] at h
    rw [← h]
    rcases (searchSessionized svc req path found a.draw).next_cases db with
      ⟨output, hok⟩ | ⟨err, -, heq⟩
    . exact searchSessionized_sound hok hdb
    . dsimp only
      rw [heq]
      exact hdb
  | session req =>
    rw [hop] at h
    rw [← h]
    exact (searchSessionGet_touched svc req a.draw.now db).sessions.sound hdb
  | details req =>
    rw [hop] at h
    rw [← h]
    exact (searchDetails_sameSessions svc req a.draw db).sound hdb

theorem searchRun_foldl (svc : SearchService) (db : SearchDb) (as : List SearchStep)
    : Run (SearchSteps svc) db as (as.foldl (fun db a => a.next svc db) db) := by
  induction as generalizing db with
  | nil => exact .nil db
  | cons a as ih => exact .cons rfl (ih (a.next svc db))

theorem searchRun_sound {as : List SearchStep} (h : Run (SearchSteps svc) .empty as db)
    : db.Sound svc := by
  apply Run.invariant (fun _ _ _ hdb hstep => searchStep_sound hdb hstep) h
  intro row hrow
  exact absurd hrow (Table.not_mem_empty row)

end

end Elf
