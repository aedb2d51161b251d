import Elf.Worker.Chunking
import Elf.Search.Candidates
import Elf.Service.Op

/-!
This module contains the agreement of the three places that decide who sees a note: the filter of
the index, the conditions of the queries and the check on the loaded rows.
-/

namespace Elf

open PointFilter

variable {s : Store} {reader : SearchReader} {grants : List SharedSpaceGrantKey} {now : Nat}
  {note : MemoryNote}

/-! ## The check on the rows -/

/-- What it takes to read a note. -/
theorem noteReadAllowed_iff {agentId : String} {allowedScopes : List String}
    : noteReadAllowed note agentId allowedScopes grants now = true
      ↔ note.status = "active" ∧ note.expired now = false ∧ note.scope ∈ allowedScopes
        ∧ ((note.scope = "agent_private" ∧ note.agentId = agentId)
          ∨ (isSharedScope note.scope = true
            ∧ (note.agentId = agentId ∨ ⟨note.scope, note.agentId⟩ ∈ grants))) := by
  unfold noteReadAllowed
  by_cases hstatus : note.status = "active"
  . by_cases hexpired : note.expired now = true
    . simp [hstatus, hexpired]
    . by_cases hscope : note.scope ∈ allowedScopes
      . by_cases hprivate : note.scope = "agent_private"
        . have hshared : isSharedScope note.scope = false := by
            rw [hprivate]
            decide
          rw [if_neg (by simp [hstatus]), if_neg hexpired, if_neg (by simp [hscope]),
            if_pos hprivate]
          rw [hprivate] at hscope hshared
          simp [hstatus, hexpired, hprivate, hscope, hshared]
        . by_cases hshared : isSharedScope note.scope = true
          . by_cases howner : note.agentId = agentId
            . simp [hstatus, hexpired, hscope, hprivate, hshared, howner]
            . simp [hstatus, hexpired, hscope, hprivate, hshared, howner]
          . simp [hstatus, hexpired, hprivate, hshared]
      . simp [hstatus, hexpired, hscope]
  . simp [hstatus]

/-! ## The filter of the index -/

theorem hasKeyword_str {payload : Json} {field s value : String}
    (h : payload.get field = some (.str s)) : hasKeyword payload field value = decide (s = value) := by
  unfold hasKeyword
  rw [h]

/-- The scope conditions are met by a note that the reader may read. -/
theorem scopeConditions_accepts {payload : Json} {agentId : String} {allowedScopes : List String}
    (hscope : payload.get "scope" = some (.str note.scope))
    (hagent : payload.get "agent_id" = some (.str note.agentId))
    (hmem : note.scope ∈ allowedScopes)
    (howner : note.scope = "agent_private" → note.agentId = agentId)
    : 1 ≤ (scopeConditions agentId allowedScopes).countP (·.accepts payload) := by
  unfold scopeConditions
  dsimp only
  by_cases hprivate : note.scope = "agent_private"
  . have hcontains : allowedScopes.contains "agent_private" = true := by
      rw [← hprivate]
      simpa using hmem
    rw [hcontains]
    apply one_le_countP (c := .filter (.all [.keyword "scope" "agent_private", .keyword "agent_id" agentId]))
    . simp
    . rw [Condition.accepts, accepts_all]
      intro c hc
      simp only [List.mem_cons, List.not_mem_nil, or_false] at hc
      rcases hc with rfl | rfl
      . rw [Condition.accepts, hasKeyword_str hscope, decide_eq_true hprivate]
      . rw [Condition.accepts, hasKeyword_str hagent, decide_eq_true (howner hprivate)]
  . have hnonPrivate : note.scope ∈ allowedScopes.filter (· ≠ "agent_private") := by
      simp [hmem, hprivate]
    have hempty : (allowedScopes.filter (· ≠ "agent_private")).isEmpty = false := by
      rw [List.isEmpty_eq_false_iff]
      exact List.ne_nil_of_mem hnonPrivate
    rw [hempty]
    apply one_le_countP (c := .keywords "scope" (allowedScopes.filter (· ≠ "agent_private")))
    . simp
    . rw [Condition.accepts, List.any_eq_true]
      exact ⟨note.scope, hnonPrivate, by rw [hasKeyword_str hscope, decide_eq_true rfl]⟩

/-- The filter accepts every point of a note that the reader is admitted to. -/
theorem buildSearchFilter_accepts (h : reader.admits grants now note = true)
    (embeddingVersion : String) (record : ChunkRecord)
    : (buildSearchFilter reader.tenantId reader.projectId reader.agentId
      reader.allowedScopes).accepts (chunkPayload note embeddingVersion record) = true := by
  unfold SearchReader.admits SearchReader.reaches at h
  simp only [Bool.and_eq_true, Bool.or_eq_true, decide_eq_true_eq, noteReadAllowed_iff] at h
  rcases h with ⟨⟨htenant, hproject⟩, hstatus, -, hscope, howner⟩
  have hprivate : note.scope = "agent_private" → note.agentId = reader.agentId := by
    intro hprivate
    rcases howner with ⟨-, howner⟩ | ⟨hshared, -⟩
    . exact howner
    . rw [hprivate] at hshared
      exact absurd hshared (by decide)
  unfold buildSearchFilter
  rw [accepts_mk]
  constructor
  . intro c hc
    simp only [List.mem_cons, List.not_mem_nil, or_false] at hc
    rcases hc with rfl | rfl
    . rw [Condition.accepts, hasKeyword_str chunkPayload_tenant_id, decide_eq_true htenant]
    . rw [Condition.accepts, hasKeyword_str chunkPayload_status, decide_eq_true hstatus]
  . unfold projectOrOrgBranches
    dsimp only
    rcases hproject with hproject | ⟨hproject, horg⟩
    . apply one_le_countP List.mem_cons_self
      rw [Condition.accepts, accepts_mk]
      constructor
      . intro c hc
        rw [List.mem_singleton] at hc
        rw [hc, Condition.accepts, hasKeyword_str chunkPayload_project_id, decide_eq_true hproject]
      . have hcount : 1 ≤ (scopeConditions reader.agentId reader.allowedScopes).countP
            (·.accepts (chunkPayload note embeddingVersion record)) :=
          scopeConditions_accepts chunkPayload_scope chunkPayload_agent_id hscope hprivate
        split
        . omega
        . exact hcount
    . have hcontains : reader.allowedScopes.contains "org_shared" = true := by
        rw [← horg]
        simpa using hscope
      rw [hcontains]
      apply one_le_countP (c := .filter (.all [.keyword "project_id" orgProjectId, .keyword "scope" "org_shared"]))
      . simp
      . rw [Condition.accepts, accepts_all]
        intro c hc
        simp only [List.mem_cons, List.not_mem_nil, or_false] at hc
        rcases hc with rfl | rfl
        . rw [Condition.accepts, hasKeyword_str chunkPayload_project_id, decide_eq_true hproject]
        . rw [Condition.accepts, hasKeyword_str chunkPayload_scope, decide_eq_true horg]

/-! ## The rows of the candidates -/

theorem fetchNoteMetaForCandidates_eq_some {ids : List Uuid} {noteId : Uuid} {noteMeta : NoteMeta}
    (h : fetchNoteMetaForCandidates s reader ids now noteId = some noteMeta)
    : ∃ note, s.notes.find? noteId = some note ∧ reader.admits (reader.grants s) now note = true
      ∧ noteMeta = NoteMeta.ofNote note := by
  unfold fetchNoteMetaForCandidates at h
  split at h
  . rcases Option.map_eq_some_iff.mp h with ⟨note, hnote, rfl⟩
    rw [Option.filter_eq_some_iff] at hnote
    exact ⟨note, hnote.1, hnote.2, rfl⟩
  . cases h

theorem buildSnippetItem_eq_some {rows : List ChunkRow} {noteMeta : Uuid → Option NoteMeta}
    {candidate : ChunkCandidate} {item : ChunkSnippet}
    (h : buildSnippetItem rows noteMeta candidate = some item)
    : noteMeta candidate.noteId = some item.note := by
  unfold buildSnippetItem at h
  simp only [Option.bind_eq_bind, Option.bind_eq_some_iff] at h
  rcases h with ⟨row, -, h⟩
  split at h
  . cases h
  . simp only [Option.bind_eq_some_iff] at h
    rcases h with ⟨note, hnote, h⟩
    cases h
    exact hnote

/-- A snippet is one of a stored note that the reader is admitted to. -/
theorem admitted_of_snippet {chunks : List ChunkRow} {candidates : List ChunkCandidate}
    {filter : Option (NoteMeta → Bool)} {item : ChunkSnippet}
    (hmem : item ∈ finishSearchSnippets s chunks reader candidates filter now)
    : ∃ note ∈ s.notes, note.noteId = item.note.noteId
      ∧ reader.admits (reader.grants s) now note = true := by
  unfold finishSearchSnippets buildSnippetItems at hmem
  rcases List.mem_filterMap.mp hmem with ⟨candidate, -, hitem⟩
  rcases fetchNoteMetaForCandidates_eq_some (buildSnippetItem_eq_some hitem) with
    ⟨note, hfind, hadmits, hmeta⟩
  refine ⟨note, Table.mem_of_find? hfind, ?_, hadmits⟩
  rw [hmeta]
  rfl

/--
The filter of the index hides no note that a reader is admitted to, whatever grants there are, and a
note that the reader is not admitted to has no snippet in the results.
-/
theorem prefilter_agrees (s : Store) (reader : SearchReader) (now : Nat)
    : (∀ (grants : List SharedSpaceGrantKey) (note : MemoryNote),
        reader.admits grants now note = true → ∀ embeddingVersion record,
          (buildSearchFilter reader.tenantId reader.projectId reader.agentId
            reader.allowedScopes).accepts (chunkPayload note embeddingVersion record) = true)
      ∧ ∀ note ∈ s.notes, reader.admits (reader.grants s) now note = false
        → ∀ chunks candidates filter,
          ∀ item ∈ finishSearchSnippets s chunks reader candidates filter now,
            item.note.noteId ≠ note.noteId := by
  constructor
  . intro grants note h embeddingVersion record
    exact buildSearchFilter_accepts h embeddingVersion record
  . intro note hmem hdenied chunks candidates filter item hitem hid
    rcases admitted_of_snippet hitem with ⟨row, hrow, hrowid, hadmits⟩
    have heq : row = note := s.notes.eq_of_key_eq hrow hmem (hrowid.trans hid)
    rw [heq, hdenied] at hadmits
    cases hadmits

def orgNote : Store := Store.empty.run [
  sampleAdd 1 "p" "org_shared" (sampleNote none "Deploys run on Friday.")]

/-- A reader of another project, who may see what the organisation shares. -/
def orgReader : SearchReader := ⟨"t", "q", "b", ["org_shared"]⟩

theorem prefilter_agrees_orgReader
    : ∃ note, orgNote.notes.find? 1 = some note
      ∧ (buildSearchFilter "t" "q" "b" ["org_shared"]).accepts
        (chunkPayload note "embed/v1" ⟨7, 0, 0, 22, "Deploys run on Friday."⟩) = true := by
  have hadmits : (orgNote.notes.find? 1).any
      (orgReader.admits (orgReader.grants orgNote) 2000000000) = true := by
    decide +kernel
  rcases Option.any_eq_true _ _ |>.mp hadmits with ⟨note, hfind, hnote⟩
  exact ⟨note, hfind, (prefilter_agrees orgNote orgReader 2000000000).1 _ note hnote _ _⟩

/-! ## The recall query -/

theorem loaded_isSharedScope {tenantId projectId granteeAgentId : String} {orgSharedAllowed : Bool}
    {grant : SharedSpaceGrantKey}
    (hmem : grant ∈ loadSharedReadGrantsWithOrgShared s tenantId projectId granteeAgentId
      orgSharedAllowed)
    : isSharedScope grant.scope = true := by
  unfold loadSharedReadGrantsWithOrgShared loadSharedReadGrants at hmem
  split at hmem
  . rcases List.mem_map.mp hmem with ⟨row, hrow, rfl⟩
    rw [List.mem_filter] at hrow
    simp only [Bool.and_eq_true] at hrow
    exact hrow.2.1.2
  . rcases List.mem_map.mp hmem with ⟨row, hrow, rfl⟩
    rw [List.mem_filter] at hrow
    simp only [Bool.and_eq_true, Bool.or_eq_true, decide_eq_true_eq] at hrow
    unfold SpaceGrant.grantKey isSharedScope
    rcases hrow.2.1.2 with hscope | hscope
    . simp [hscope.2]
    . simp [hscope.1]

/-- The strings of grants on shared scopes tell the grants apart. -/
theorem keyString_injective {a b : SharedSpaceGrantKey} (ha : isSharedScope a.scope = true)
    (hb : isSharedScope b.scope = true) (h : a.keyString = b.keyString) : a = b := by
  rcases a with ⟨ascope, aowner⟩
  rcases b with ⟨bscope, bowner⟩
  simp only [isSharedScope, Bool.or_eq_true, decide_eq_true_eq] at ha hb
  unfold SharedSpaceGrantKey.keyString at h
  dsimp only at h
  have hlist := congrArg String.toList h
  simp only [String.toList_append] at hlist
  rcases ha with rfl | rfl
  . rcases hb with rfl | rfl
    . have howner := String.toList_injective (List.append_cancel_left hlist)
      rw [howner]
    . cases hlist
  . rcases hb with rfl | rfl
    . cases hlist
    . have howner := String.toList_injective (List.append_cancel_left hlist)
      rw [howner]

theorem mem_sharedScopeKeyStrings {key : String}
    : key ∈ sharedScopeKeyStrings grants ↔ ∃ grant ∈ grants, grant.keyString = key := by
  unfold sharedScopeKeyStrings
  simp

/--
The conditions of the recall query and the check on the loaded row agree, for every row, reader and
time, and whatever active grants were loaded.
-/
theorem recall_agrees (s : Store) (tenantId projectId granteeAgentId : String)
    (orgSharedAllowed : Bool) (note : MemoryNote) (agentId : String) (allowedScopes : List String)
    (now : Nat)
    : recallVisible note agentId allowedScopes
        (sharedScopeKeyStrings
          (loadSharedReadGrantsWithOrgShared s tenantId projectId granteeAgentId orgSharedAllowed)) now
      = noteReadAllowed note agentId allowedScopes
        (loadSharedReadGrantsWithOrgShared s tenantId projectId granteeAgentId orgSharedAllowed)
        now := by
  generalize hgrants : loadSharedReadGrantsWithOrgShared s tenantId projectId granteeAgentId
    orgSharedAllowed = grants
  have hexpired : (note.expiresAt.isNone || note.expiresAt.any (now < ·)) = true
      ↔ note.expired now = false := by
    unfold MemoryNote.expired
    cases note.expiresAt with
    | none => simp
    | some ts => simp
  have hkey : isSharedScope note.scope = true
      → (note.scope ++ ":" ++ note.agentId ∈ sharedScopeKeyStrings grants
        ↔ ⟨note.scope, note.agentId⟩ ∈ grants) := by
    intro hshared
    rw [mem_sharedScopeKeyStrings]
    constructor
    . rintro ⟨grant, hmem, hstring⟩
      have hscope : isSharedScope grant.scope = true := by
        rw [← hgrants] at hmem
        exact loaded_isSharedScope hmem
      have heq : grant = ⟨note.scope, note.agentId⟩ := keyString_injective hscope hshared hstring
      rw [← heq]
      exact hmem
    . intro hmem
      exact ⟨_, hmem, rfl⟩
  have hshared : ["project_shared", "org_shared"].contains note.scope = true
      ↔ isSharedScope note.scope = true := by
    simp [isSharedScope]
  rw [Bool.eq_iff_iff, noteReadAllowed_iff]
  unfold recallVisible
  simp only [Bool.and_eq_true, Bool.or_eq_true, decide_eq_true_eq] at hexpired ⊢
  rw [hexpired, hshared]
  constructor
  . rintro ⟨⟨⟨hstatus, hlive⟩, hscope⟩, howner⟩
    refine ⟨hstatus, hlive, by simpa using hscope, ?_⟩
    rcases howner with howner | ⟨hscope, howner⟩
    . exact Or.inl howner
    . right
      refine ⟨hscope, ?_⟩
      rw [List.contains_iff_mem, hkey hscope] at howner
      exact howner
  . rintro ⟨hstatus, hlive, hscope, howner⟩
    refine ⟨⟨⟨hstatus, hlive⟩, by simpa using hscope⟩, ?_⟩
    rcases howner with howner | ⟨hscope, howner⟩
    . exact Or.inl howner
    . right
      refine ⟨hscope, ?_⟩
      rw [List.contains_iff_mem, hkey hscope]
      exact howner

/-- The recall query looks at the notes that the reader is admitted to. -/
theorem mem_visibleNotes
    : note ∈ visibleNotes s reader now
      ↔ note ∈ s.notes ∧ reader.admits (reader.grants s) now note = true := by
  unfold visibleNotes SearchReader.admits SearchReader.grants
  rw [List.mem_filter, recall_agrees, Table.mem_def]

end Elf
