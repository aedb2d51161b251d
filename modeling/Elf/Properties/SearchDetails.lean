import Elf.Docs.Excerpts
import Elf.ProgressiveSearch.Lemmas
import Elf.Properties.TraceDecisions

/-!
This module contains what a request for the details of a search session gets: one result for each
note that it names, the content of the notes that it may read by now, and one hit for each of these.
-/

namespace Elf

open Text

/-! ## Exactness -/

section

variable (svc : SearchService) (req : SearchDetailsRequest) (session : SearchSession) (now : Nat)

/-- The scopes are those of the session, and the grants those of the moment. -/
def SearchSession.Reads (s : Store) (note : MemoryNote) : Prop :=
  ∃ allowedScopes, resolveReadScopes svc session.readProfile = .ok allowedScopes
    ∧ noteReadAllowed note session.agentId allowedScopes (loadSharedReadGrantsWithOrgShared s
      session.tenantId session.projectId session.agentId (allowedScopes.contains "org_shared")) now
      = true

/-- The identifier belongs to the session, and its note may be read by now. -/
structure SearchSession.Discloses (s : Store) (id : Uuid) (note : MemoryNote) : Prop where
  inSession : ∃ item ∈ session.items, item.noteId = id
  stored : s.notes.find? id = some note
  tenantId : note.tenantId = session.tenantId
  projectId : note.projectId = session.projectId
    ∨ note.projectId = orgProjectId ∧ note.scope = "org_shared"
  readAllowed : session.Reads svc now s note

/-- The notes for which a request is counted. -/
def SearchDetailsRequest.Touches (s : Store) (id : Uuid) : Prop :=
  req.recordHits.getD true = true ∧ id ∈ req.noteIds ∧ ∃ note, session.Discloses svc now s id note

/-- One hit for each of the notes, one more on their counts, and nothing else. -/
structure HitsOnce (touches : Uuid → Prop) (before after : SearchDb) (added : List MemoryHit)
    : Prop where
  rows : after.hits.rows = before.hits.rows ++ added
  nodup : (added.map MemoryHit.noteId).Nodup
  mem : ∀ id, id ∈ added.map MemoryHit.noteId ↔ touches id
  notes : ∀ id, after.memory.notes.find? id = (before.memory.notes.find? id).map fun note =>
    if id ∈ added.map MemoryHit.noteId then
      { note with hitCount := note.hitCount + 1, lastHitAt := some (timestamptz now) }
    else
      note
  memory : after.memory = { before.memory with notes := after.memory.notes }

/-- What the response says, and what the request leaves in the tables. -/
structure DetailsExact (before : SearchDb) (response : SearchDetailsResponse) (after : SearchDb)
    : Prop where
  noteIds : response.results.map SearchDetailsResult.noteId = req.noteIds
  contents : ∀ result ∈ response.results, ∀ content, result.note = some content
    ↔ ∃ note, session.Discloses svc now before.memory result.noteId note
      ∧ content = detailResponse svc req before.memory note
  hits : ∃ added, HitsOnce now (req.Touches svc session now before.memory) before after added
  sessions : before.SameSessions after

end

/-! ## Disclosure -/

section

variable {svc : SearchService} {req : SearchDetailsRequest} {session : SearchSession}
  {allowedScopes : List String} {now expiresAt : Nat} {s : Store} {id : Uuid} {note : MemoryNote}
  {draw : SearchDraw} {db db' : SearchDb} {response : SearchDetailsResponse}

theorem discloses_iff_shown (hscopes : resolveReadScopes svc session.readProfile = .ok allowedScopes)
    (hagent : session.agentId = trim req.agentId) (hid : id ∈ req.noteIds)
    : session.Discloses svc now s id note
      ↔ (detailsBuildArgs svc req session allowedScopes now s).shown id = some note := by
  rw [detailsBuildArgs_shown hid]
  constructor
  . rintro ⟨hitem, hstored, htenant, hproject, ⟨scopes, heq, hallowed⟩⟩
    rw [hscopes] at heq
    injection heq with heq
    rw [← heq, hagent] at hallowed
    rw [hagent]
    exact ⟨hitem, hstored, htenant, hproject, hallowed⟩
  . rintro ⟨hitem, hstored, htenant, hproject, hallowed⟩
    rw [← hagent] at hallowed
    exact ⟨hitem, hstored, htenant, hproject, ⟨allowedScopes, hscopes, hallowed⟩⟩

theorem contents_of_shown (hscopes : resolveReadScopes svc session.readProfile = .ok allowedScopes)
    (hagent : session.agentId = trim req.agentId) (hid : id ∈ req.noteIds)
    (content : NoteFetchResponse)
    : ((detailsBuildArgs svc req session allowedScopes now s).shown id).map
        (detailsBuildArgs svc req session allowedScopes now s).noteResponse = some content
      ↔ ∃ note, session.Discloses svc now s id note ∧ content = detailResponse svc req s note := by
  have hresponse (note : MemoryNote) (h : session.Discloses svc now s id note)
      : (detailsBuildArgs svc req session allowedScopes now s).noteResponse note
        = detailResponse svc req s note := by
    have hkey := Table.key_of_find? h.stored
    apply detailsBuildArgs_noteResponse
    . rw [hkey]
      exact hid
    . rw [hkey]
      exact h.inSession
  rw [Option.map_eq_some_iff]
  constructor
  . rintro ⟨note, hshown, rfl⟩
    have h := (discloses_iff_shown hscopes hagent hid).mpr hshown
    exact ⟨note, h, hresponse note h⟩
  . rintro ⟨note, h, rfl⟩
    exact ⟨note, (discloses_iff_shown hscopes hagent hid).mp h, hresponse note h⟩

theorem touches_iff_counts (hscopes : resolveReadScopes svc session.readProfile = .ok allowedScopes)
    (hagent : session.agentId = trim req.agentId)
    : req.Touches svc session now s id
      ↔ id ∈ req.noteIds ∧ (detailsBuildArgs svc req session allowedScopes now s).Counts id := by
  unfold SearchDetailsRequest.Touches SearchDetailsBuildArgs.Counts
  constructor
  . rintro ⟨hrecord, hid, note, h⟩
    rw [(discloses_iff_shown hscopes hagent hid).mp h]
    exact ⟨hid, hrecord, rfl⟩
  . rintro ⟨hid, hrecord, hshown⟩
    rcases Option.isSome_iff_exists.mp hshown with ⟨note, hnote⟩
    exact ⟨hrecord, hid, note, (discloses_iff_shown hscopes hagent hid).mpr hnote⟩

/-- The hits are those of the notes that were counted. -/
theorem SearchDb.Recorded.hitsOnce {items : List HitItem} {query : String} {touches : Uuid → Prop}
    (h : SearchDb.Recorded svc query items draw db db') (hnodup : (items.map HitItem.noteId).Nodup)
    (hmem : ∀ id, id ∈ items.map HitItem.noteId ↔ touches id)
    : HitsOnce draw.now touches db db' (hitRows svc query items draw) := by
  have hids := hitRows_noteIds svc query items draw
  refine ⟨h.hits, ?_, ?_, ?_, ?_⟩
  . rw [hids]
    exact hnodup
  . intro id
    rw [hids]
    exact hmem id
  . intro id
    rw [hids, h.memory, countHits_find]
  . rw [h.memory]
    rfl

theorem materializeDetails_exact (hagent : session.agentId = trim req.agentId)
    (h : materializeDetails svc req session expiresAt draw db = .ok (response, db'))
    : DetailsExact svc req session draw.now db response db' := by
  rcases materializeDetails_eq_ok h with ⟨allowedScopes, hscopes, hresults, hrecorded⟩
  have hshows := (detailsBuildArgs svc req session allowedScopes draw.now db.memory).buildFrom_results
    [] req.noteIds
  have hcounts := (detailsBuildArgs svc req session allowedScopes draw.now db.memory).buildFrom_hits
    [] req.noteIds
  rw [← hresults] at hshows
  refine ⟨hshows.noteIds, ?_, ⟨_, hrecorded.hitsOnce hcounts.nodup ?_⟩,
    SearchDb.SameSessions.of_eq hrecorded.sessions⟩
  . intro result hresult content
    have hid : result.noteId ∈ req.noteIds := by
      rw [← hshows.noteIds]
      exact List.mem_map_of_mem hresult
    rw [hshows.notes result hresult]
    exact contents_of_shown hscopes hagent hid content
  . intro id
    rw [touches_iff_counts hscopes hagent, hcounts.mem id]
    simp

theorem DetailsExact.of_touched {mid : SearchDb} (htouched : db.Touched mid)
    (h : DetailsExact svc req session now mid response db')
    : DetailsExact svc req session now db response db' := by
  have hmemory := htouched.memory
  have hhits := htouched.hits
  rcases h with ⟨hnoteIds, hcontents, ⟨added, hadded⟩, hsessions⟩
  rw [hmemory] at hcontents hadded
  refine ⟨hnoteIds, hcontents, ⟨added, ?_⟩, ?_⟩
  . refine ⟨?_, hadded.nodup, hadded.mem, ?_, ?_⟩
    . rw [← hhits]
      exact hadded.rows
    . rw [← hmemory]
      exact hadded.notes
    . rw [← hmemory]
      exact hadded.memory
  . intro row' hrow'
    rcases hsessions row' hrow' with ⟨row, hrow, heq⟩
    rcases htouched.sessions row hrow with ⟨first, hfirst, heq'⟩
    refine ⟨first, hfirst, ?_⟩
    rw [heq, heq']

end

/-! ## Requests -/

/-- The request comes from the one who has searched, before the session ends. -/
structure SearchDetailsRequest.Admits (svc : SearchService) (req : SearchDetailsRequest) (now : Nat)
    (row : SearchSessionRow) (session : SearchSession) : Prop where
  loads : row.LoadsAs svc session
  owned : session.OwnedBy req.tenantId req.projectId req.agentId
  unexpired : now < row.expiresAt

section

variable {svc : SearchService} {req : SearchDetailsRequest} {session : SearchSession}
  {row : SearchSessionRow} {draw : SearchDraw} {db : SearchDb}

theorem admits_of_followUpSession (hrow : row ∈ db.sessions)
    (hreq : req.searchSessionId = row.searchSessionId)
    (h : followUpSession svc db req.tenantId req.projectId req.agentId req.searchSessionId draw.now
      = .ok session) : req.Admits svc draw.now row session := by
  rcases followUpSession_eq_ok.mp h with ⟨-, howned, other, hother, hunexpired, hloads⟩
  rw [hreq, db.sessions.find?_key hrow] at hother
  injection hother with hother
  rw [← hother] at hunexpired hloads
  exact ⟨hloads, howned, hunexpired⟩

theorem followUpSession_of_admits (hdb : db.Sound svc) (hrow : row ∈ db.sessions)
    (hreq : req.searchSessionId = row.searchSessionId)
    (h : req.Admits svc draw.now row session)
    : followUpSession svc db req.tenantId req.projectId req.agentId req.searchSessionId draw.now
      = .ok session := by
  have hsound := hdb row hrow
  have hcolumns := h.loads.columns
  have htenant := h.owned.tenantId
  have hproject := h.owned.projectId
  have hagent := h.owned.agentId
  rw [hcolumns] at htenant hproject hagent
  refine followUpSession_eq_ok.mpr ⟨⟨?_, ?_, ?_⟩, h.owned, row, ?_, h.unexpired, h.loads⟩
  . rw [← htenant]
    exact hsound.tenantId
  . rw [← hproject]
    exact hsound.projectId
  . rw [← hagent]
    exact hsound.agentId
  . rw [hreq]
    exact db.sessions.find?_key hrow

theorem searchDetails_answers (hdb : db.Sound svc) (hrow : row ∈ db.sessions)
    (hreq : req.searchSessionId = row.searchSessionId)
    (h : req.Admits svc draw.now row session)
    (hranks : ∀ item ∈ session.items, item.rank ≤ 2147483647) (hfresh : draw.Fresh db)
    : ∃ response db', searchDetails svc req draw db = (.ok response, db') := by
  have hsound := hdb row hrow
  have hcolumns := h.loads.columns
  have hquery : isValidText session.query = true := by
    rw [hcolumns]
    exact hsound.query
  have hscopes : ∃ allowedScopes, resolveReadScopes svc session.readProfile = .ok allowedScopes := by
    rw [hcolumns]
    exact hsound.scopes
  rcases hscopes with ⟨allowedScopes, hscopes⟩
  rcases searchDetails_of_session (followUpSession_of_admits hdb hrow hreq h) with
    ⟨expiresAt, mid, htouched, -, hok⟩
  have hfresh : draw.Fresh mid := by
    refine ⟨hfresh.injective, ?_⟩
    rw [htouched.hits]
    exact hfresh.unused
  rcases materializeDetails_ok expiresAt hscopes hquery hranks hfresh with
    ⟨response, db', hdetails⟩
  exact ⟨response, db', hok response db' hdetails⟩

theorem searchDetails_eq_ok {response : SearchDetailsResponse} {db' : SearchDb}
    (hrow : row ∈ db.sessions) (hreq : req.searchSessionId = row.searchSessionId)
    (h : searchDetails svc req draw db = (.ok response, db'))
    : ∃ session, req.Admits svc draw.now row session
      ∧ DetailsExact svc req session draw.now db response db' := by
  cases hsession : followUpSession svc db req.tenantId req.projectId req.agentId
      req.searchSessionId draw.now with
  | error err =>
    rw [searchDetails_of_error hsession] at h
    cases h
  | ok session =>
    have hadmits := admits_of_followUpSession hrow hreq hsession
    refine ⟨session, hadmits, ?_⟩
    rcases searchDetails_cases hsession with
      ⟨expiresAt, mid, htouched, ⟨err, heq⟩ | ⟨built, after, heq, hdetails⟩⟩
    . rw [heq] at h
      cases h
    . rw [heq] at h
      cases h
      exact (materializeDetails_exact hadmits.owned.agentId hdetails).of_touched htouched

theorem searchDetails_eq_error {err : Error} {db' : SearchDb}
    (h : searchDetails svc req draw db = (.error err, db')) : db.Touched db' := by
  cases hsession : followUpSession svc db req.tenantId req.projectId req.agentId
      req.searchSessionId draw.now with
  | error cause =>
    rw [searchDetails_of_error hsession] at h
    cases h
    exact SearchDb.Touched.refl db
  | ok session =>
    rcases searchDetails_cases hsession with
      ⟨expiresAt, mid, htouched, ⟨cause, heq⟩ | ⟨built, after, heq, -⟩⟩
    . rw [heq] at h
      cases h
      exact htouched
    . rw [heq] at h
      cases h

/--
Whatever has happened before, a response has one result for each identifier of the request, shows the
notes that may be read by now and counts each of them once. The one who has searched gets it until
the session ends, and everyone else gets an error; no error touches a note.
-/
theorem searchDetails_exact {as : List SearchStep} (h : Run (SearchSteps svc) .empty as db)
    (hrow : row ∈ db.sessions) (hreq : req.searchSessionId = row.searchSessionId) (draw : SearchDraw)
    : (∀ response db', searchDetails svc req draw db = (.ok response, db') →
          ∃ session, req.Admits svc draw.now row session
            ∧ DetailsExact svc req session draw.now db response db')
        ∧ (∀ session, req.Admits svc draw.now row session →
          (∀ item ∈ session.items, item.rank ≤ 2147483647) → draw.Fresh db →
          ∃ response db', searchDetails svc req draw db = (.ok response, db'))
        ∧ ((∀ session, ¬req.Admits svc draw.now row session) →
          ∃ err, searchDetails svc req draw db = (.error err, db))
        ∧ ∀ err db', searchDetails svc req draw db = (.error err, db') →
          db'.memory = db.memory ∧ db'.hits = db.hits := by
  refine ⟨?_, ?_, ?_, ?_⟩
  . intro response db' hok
    exact searchDetails_eq_ok hrow hreq hok
  . intro session hadmits hranks hfresh
    exact searchDetails_answers (searchRun_sound h) hrow hreq hadmits hranks hfresh
  . intro hnone
    cases hsession : followUpSession svc db req.tenantId req.projectId req.agentId
        req.searchSessionId draw.now with
    | error err => exact ⟨err, searchDetails_of_error hsession⟩
    | ok session => exact absurd (admits_of_followUpSession hrow hreq hsession) (hnone session)
  . intro err db' herror
    have htouched := searchDetails_eq_error herror
    exact ⟨htouched.memory, htouched.hits⟩

end

/-! ## A note that is deleted after the search -/

def sampleSearchService : SearchService := {
  read := sampleReadService
  rfc := sampleRfc3339
  topK := 10
  previewMaxChars := 80
  hashQuery := id
  encodeError := fun _ => ""
  itemsError := fun _ => ""
  queryPlanError := fun _ => none
  trajectorySummaryError := fun _ => none }

def sampleSearchDraw (n : Nat) : SearchDraw := ⟨1000000000 * n, n, id⟩

def sampleSearchItem (noteId : Uuid) (importance : F32) : SearchItem F32 := {
  noteId
  chunkId := noteId
  chunkIndex := 0
  startOffset := 0
  endOffset := 0
  snippet := "Deploys"
  type := "fact"
  key := none
  scope := "project_shared"
  importance
  confidence := .fin 1
  updatedAt := 0
  expiresAt := none
  finalScore := .fin 1
  sourceRef := .obj []
  explain := ⟨⟨"", "", .fin 1, []⟩, none⟩ }

/-- A search of the agent `b`, as the `n`th request. -/
def sampleSearch (n : Nat) (items : List (SearchItem F32)) : SearchStep := {
  draw := sampleSearchDraw n
  op := .search ⟨"t", "p", "b", "private_plus_project", "deploys", none⟩ .quick
    (.ok ⟨n, items, none, none⟩) }

def sampleDetails (agentId : String) (searchSessionId : Uuid) (noteIds : List Uuid)
    : SearchDetailsRequest := {
  tenantId := "t"
  projectId := "p"
  agentId
  searchSessionId
  payloadLevel := .l2
  noteIds
  recordHits := none }

/-- Two notes that are shared, two searches that find them, and the end of the second note. -/
def sampleSearchSteps : List SearchStep := [
  ⟨sampleSearchDraw 1, .memory (sampleAdd 1 "p" "project_shared"
    (sampleNote none "Deploys run on Friday."))⟩,
  ⟨sampleSearchDraw 2, .memory (sampleAdd 2 "p" "project_shared"
    (sampleNote none "Deploys run on Monday."))⟩,
  sampleSearch 3 [sampleSearchItem 1 (.fin 1), sampleSearchItem 2 (.fin 1)],
  sampleSearch 4 [sampleSearchItem 1 (.inf false)],
  ⟨sampleSearchDraw 5, .memory (sampleStep 5 (.delete ⟨"t", "p", "a", 2⟩))⟩]

def sampleSearchDb : SearchDb :=
  sampleSearchSteps.foldl (fun db a => a.next sampleSearchService db) .empty

theorem sampleSearchDb_run : Run (SearchSteps sampleSearchService) .empty sampleSearchSteps
    sampleSearchDb :=
  searchRun_foldl sampleSearchService .empty sampleSearchSteps

theorem sampleSearchDb_session
    : ∃ row ∈ sampleSearchDb.sessions, row.searchSessionId = 3 ∧ row.agentId = "b" := by
  have hfind : (sampleSearchDb.sessions.find? 3).map SearchSessionRow.agentId = some "b" := by
    decide +kernel
  rcases Option.map_eq_some_iff.mp hfind with ⟨row, hrow, hagent⟩
  exact ⟨row, Table.mem_of_find? hrow, Table.key_of_find? hrow, hagent⟩

theorem searchDetails_exact_deleted
    : ∃ response db', searchDetails sampleSearchService (sampleDetails "b" 3 [1, 2, 1, 9])
        (sampleSearchDraw 6) sampleSearchDb = (.ok response, db')
      ∧ response.results.map SearchDetailsResult.noteId = [1, 2, 1, 9] := by
  rcases sampleSearchDb_session with ⟨row, hrow, hid, -⟩
  have hsession : (followUpSession sampleSearchService sampleSearchDb "t" "p" "b" 3 6000000000).map
      (·.items.map SearchSessionItemRecord.rank) = .ok [1, 2] := by decide +kernel
  rcases Except.map_eq_ok.mp hsession with ⟨session, hsession, hitems⟩
  have hranks : ∀ item ∈ session.items, item.rank ≤ 2147483647 := by
    intro item hitem
    have hrank := List.mem_map_of_mem (f := SearchSessionItemRecord.rank) hitem
    rw [hitems] at hrank
    simp only [List.mem_cons, List.not_mem_nil, or_false] at hrank
    omega
  have hreq : (sampleDetails "b" 3 [1, 2, 1, 9]).searchSessionId = row.searchSessionId := hid.symm
  rcases searchDetails_exact sampleSearchDb_run hrow hreq (sampleSearchDraw 6) with
    ⟨hexact, hanswers, -, -⟩
  have hadmits : (sampleDetails "b" 3 [1, 2, 1, 9]).Admits sampleSearchService
      (sampleSearchDraw 6).now row session :=
    admits_of_followUpSession hrow hreq hsession
  have hfresh : (sampleSearchDraw 6).Fresh sampleSearchDb := by
    have hempty : sampleSearchDb.hits = .empty := Table.ext (by decide +kernel)
    refine ⟨Function.injective_id, ?_⟩
    rw [hempty]
    exact fun _ => rfl
  rcases hanswers session hadmits hranks hfresh with ⟨response, db', hok⟩
  rcases hexact response db' hok with ⟨_, -, hdetails⟩
  exact ⟨response, db', hok, hdetails.noteIds⟩

/-- The notes of the results, the texts that are shown of them, and the codes of the errors. -/
def detailTexts (req : SearchDetailsRequest) (draw : SearchDraw) (db : SearchDb)
    : Option (List (Uuid × Option String × Option String)) :=
  (searchDetails sampleSearchService req draw db).1.toOption.map fun response =>
    response.results.map fun result =>
      (result.noteId, result.note.map NoteFetchResponse.text, result.error.map SearchDetailsError.code)

example
    : detailTexts (sampleDetails "b" 3 [1, 2, 1, 9]) (sampleSearchDraw 6) sampleSearchDb
      = some [
        (1, some "Deploys run on Friday.", none),
        (2, none, some "NOTE_INACTIVE"),
        (1, some "Deploys run on Friday.", none),
        (9, none, some "NOT_IN_SESSION")] := by
  decide +kernel

/--
The agent that has written a note gets no results from a session of another agent. The agent that has
searched gets none a day later, and none at all when a score was not finite.
-/
theorem searchDetails_refused
    : Run (SearchSteps sampleSearchService) .empty sampleSearchSteps sampleSearchDb
        ∧ sampleSearchDb.sessions.rows.map (fun row => (row.searchSessionId, row.agentId))
          = [(3, "b"), (4, "b")]
        ∧ detailTexts (sampleDetails "a" 3 [1]) (sampleSearchDraw 6) sampleSearchDb = none
        ∧ detailTexts (sampleDetails "b" 3 [1]) (sampleSearchDraw 86400) sampleSearchDb = none
        ∧ detailTexts (sampleDetails "b" 4 [1]) (sampleSearchDraw 6) sampleSearchDb = none := by
  refine ⟨sampleSearchDb_run, ?_, ?_, ?_, ?_⟩
  . decide +kernel
  . decide +kernel
  . decide +kernel
  . decide +kernel

end Elf
