import Elf.Knowledge.Lemmas.Search
import Elf.Lib.Scan

/-!
This module contains how a search of the pages takes its query: whether it finds the sections that
contain the query, and all of them, and what the snippets show.
-/

namespace Elf

open Sorting Text

variable {lower : Char → Char} {read : ReadService} {svc : KnowledgeService} {sources : SourceDb}
variable {clock : SourceClock} {db : KnowledgeDb} {req : KnowledgePageSearchRequest}
variable {allowedScopes : List String} {content query : String} {maxChars k : Nat}

/-! ## Snippets -/

/-- The ASCII case of the snippets and the case of the database find the query at the same place. -/
def FoldsAlike (lower : Char → Char) (content query : String) : Prop :=
  firstPlace Char.toLower content query = firstPlace lower content query

/--
The snippet is a part of the normalised content, with an ellipsis where the content goes on, and has
the first occurrence of the query in it.
-/
structure SnippetShows (lower : Char → Char) (content query : String) (maxChars : Nat)
    (snippet : String) : Prop where
  part : (snippetWindow content query maxChars).1 ≤ (snippetWindow content query maxChars).2
    ∧ (snippetWindow content query maxChars).2 ≤ (normalizeWhitespace content).length
  rendered : snippet
    = renderWindow (normalizeWhitespace content) (snippetWindow content query maxChars)
  first : ∀ k, firstPlace lower content query = some k → (trim query).length ≤ maxChars - 40 →
    (snippetWindow content query maxChars).1 ≤ k
      ∧ k + (trim query).length ≤ (snippetWindow content query maxChars).2

theorem snippetWindow_part (hquery : trim query ≠ "")
    : (snippetWindow content query maxChars).1 ≤ (snippetWindow content query maxChars).2
        ∧ (snippetWindow content query maxChars).2 ≤ (normalizeWhitespace content).length := by
  unfold snippetWindow
  dsimp only
  cases hplace : firstPlace Char.toLower content query with
  | none =>
    dsimp only
    split
    . omega
    . dsimp only
      omega
  | some beforeChars =>
    have hfits := firstPlace_add_length_le hquery (Occurrence.firstFrom_of_find hplace).occurs
    dsimp only
    omega

theorem snippetWindow_first (hquery : trim query ≠ "") (hfolds : FoldsAlike lower content query)
    (hplace : firstPlace lower content query = some k)
    (hlength : (trim query).length ≤ maxChars - 40)
    : (snippetWindow content query maxChars).1 ≤ k
        ∧ k + (trim query).length ≤ (snippetWindow content query maxChars).2 := by
  have hfits := firstPlace_add_length_le hquery (Occurrence.firstFrom_of_find hplace).occurs
  have hpos : 0 < (trim query).length := by
    rw [← String.length_toList, List.length_pos_iff]
    simpa using hquery
  unfold snippetWindow
  rw [hfolds, hplace]
  dsimp only
  omega

theorem snippetShows_iff (hquery : trim query ≠ "") (hmax : 3 < maxChars)
    (hfolds : FoldsAlike lower content query)
    : SnippetShows lower content query maxChars (snippetForQuery content query maxChars)
        ↔ ¬TailLost content query maxChars := by
  rw [← snippetForQuery_eq_iff hquery hmax]
  constructor
  . intro h
    exact h.rendered
  . intro h
    exact ⟨snippetWindow_part hquery, h, fun k => snippetWindow_first hquery hfolds⟩

theorem not_snippetShows_of_tailLost (hquery : trim query ≠ "") (hmax : 3 < maxChars)
    (hlost : TailLost content query maxChars)
    : ¬SnippetShows lower content query maxChars (snippetForQuery content query maxChars) :=
  fun h => (snippetForQuery_eq_iff hquery hmax).mp h.rendered hlost

/-! ## Searches -/

/-- The page title, the page key, the heading or the content contains the query. -/
def KnowledgePageSearchRow.containsQuery (row : KnowledgePageSearchRow) (lower : Char → Char)
    (query : List Char) : Bool :=
  [row.title, row.pageKey, row.heading, row.content].any fun text =>
    decide (query.map lower <:+: text.toList.map lower)

/-- No character of the query is special, and the database takes it to lower case as the service does. -/
structure LiteralQuery (lower : Char → Char) (req : KnowledgePageSearchRequest) : Prop where
  plain : ∀ c ∈ req.needle, Like.isSpecial c = false
  folded : (trim req.query).toList.map lower = req.needle

section

variable (lower : Char → Char) (read : ReadService) (svc : KnowledgeService) (sources : SourceDb)
variable (clock : SourceClock) (req : KnowledgePageSearchRequest) (allowedScopes : List String)
variable (db : KnowledgeDb)

/-- The rows of the searchable sections. -/
def KnowledgePageSearchRequest.searchable : List KnowledgePageSearchRow :=
  db.sections.rows.filterMap
    (searchableRow db req.tenantId req.projectId (req.pageKind.map KnowledgePageKind.asStr))

/-- Every source of the section is readable for the request. -/
def KnowledgePageSearchRequest.reads (row : KnowledgePageSearchRow) : Bool :=
  sectionRecallable svc sources (req.reader sources allowedScopes) clock db row.sectionId

/-- The sections to return: the first ones that are readable and contain the query. -/
def KnowledgePageSearchRequest.wanted : List KnowledgePageSearchRow :=
  (sortBy (searchOrder lower (Like.containing req.needle))
    ((req.searchable db).filter fun row => row.containsQuery lower (trim req.query).toList
      && req.reads svc sources clock allowedScopes db row)).take (boundedLimit req.limit)

/-- The response is of the sections to return, in their order, and the snippets show the query. -/
def SearchExact : Prop :=
  ∃ resp, knowledgePagesSearch lower read svc sources clock db req = .ok resp
    ∧ resp.items.map KnowledgePageSearchItem.sectionId
      = (req.wanted lower svc sources clock allowedScopes db).map KnowledgePageSearchRow.sectionId
    ∧ ∀ item ∈ resp.items, ∀ pageSection ∈ db.sections, pageSection.sectionId = item.sectionId →
      SnippetShows lower pageSection.content req.query searchSnippetChars item.snippet

/-- The matching rows in the order of the search, before the limit. -/
def KnowledgePageSearchRequest.sorted : List KnowledgePageSearchRow :=
  sortBy (searchOrder lower (Like.containing req.needle)) (matchingSections lower db req.tenantId
    req.projectId (req.pageKind.map KnowledgePageKind.asStr) (Like.containing req.needle))

/-- The matches within the limit are all readable, or none behind it is. -/
def Uncrowded : Prop :=
  boundedLimit req.limit ≤ ((req.sorted lower db).take (boundedLimit req.limit)).countP
      (req.reads svc sources clock allowedScopes db)
    ∨ ∀ row ∈ (req.sorted lower db).drop (boundedLimit req.limit),
      req.reads svc sources clock allowedScopes db row = false

/-- A condition on the contents of the readable matches within the limit. -/
def OnContents (p : String → Prop) : Prop :=
  ∀ row ∈ req.rows lower db, req.reads svc sources clock allowedScopes db row = true → p row.content

end

theorem trim_query_ne (h : SearchAccepted read req allowedScopes) : trim req.query ≠ "" := by
  have hvalid := h.valid
  unfold KnowledgePageSearchRequest.validate at hvalid
  simp only [Except.bind_eq_ok, validateNonEmpty, Except.rejectIf_eq_ok] at hvalid
  rcases hvalid with ⟨_, _, _, _, _, _, _, _, _, hquery, _⟩
  simpa [isBlank] using hquery

theorem matches_eq_containsQuery (hliteral : LiteralQuery lower req) (row : KnowledgePageSearchRow)
    : row.matches lower (Like.containing req.needle)
        = row.containsQuery lower (trim req.query).toList := by
  have hlike : ∀ text : String, lowerLike lower text (Like.containing req.needle)
      = decide ((trim req.query).toList.map lower <:+: text.toList.map lower) := by
    intro text
    unfold lowerLike
    rw [Bool.eq_iff_iff, Like.like_containing hliteral.plain, hliteral.folded, decide_eq_true_eq]
  unfold KnowledgePageSearchRow.matches KnowledgePageSearchRow.containsQuery
  rw [hlike, hlike, hlike, hlike]
  simp [Bool.or_assoc]

theorem wanted_eq (hliteral : LiteralQuery lower req)
    : req.wanted lower svc sources clock allowedScopes db
        = ((req.sorted lower db).filter (req.reads svc sources clock allowedScopes db)).take
          (boundedLimit req.limit) := by
  unfold KnowledgePageSearchRequest.wanted KnowledgePageSearchRequest.sorted matchingSections
  rw [sortBy_filter, List.filter_filter]
  simp only [matches_eq_containsQuery hliteral, Bool.and_comm]
  rfl

theorem filter_rows_length_le (p : KnowledgePageSearchRow → Bool)
    : ((req.rows lower db).filter p).length ≤ boundedLimit req.limit := by
  have hrows : (req.rows lower db).length ≤ boundedLimit req.limit := List.length_take_le _ _
  exact (List.length_filter_le _ _).trans hrows

/-- The search returns the first readable ones of the matches, if unreadable ones do not crowd them. -/
theorem filter_rows_eq_wanted_iff (hliteral : LiteralQuery lower req)
    : ((req.rows lower db).filter (req.reads svc sources clock allowedScopes db)).map
          KnowledgePageSearchRow.sectionId
        = (req.wanted lower svc sources clock allowedScopes db).map KnowledgePageSearchRow.sectionId
      ↔ Uncrowded lower svc sources clock req allowedScopes db := by
  unfold Uncrowded
  rw [wanted_eq hliteral, ← BoundedScan.take_filter_take_iff]
  have htake : (((req.sorted lower db).take (boundedLimit req.limit)).filter
        (req.reads svc sources clock allowedScopes db)).take (boundedLimit req.limit)
      = (req.rows lower db).filter (req.reads svc sources clock allowedScopes db) :=
    List.take_of_length_le (filter_rows_length_le _)
  have hprefix := BoundedScan.take_filter_take_prefix
    (req.reads svc sources clock allowedScopes db) (req.sorted lower db) (boundedLimit req.limit)
    (boundedLimit req.limit)
  rw [htake] at hprefix ⊢
  constructor
  . intro hids
    have hlengths := congrArg List.length hids
    rw [List.length_map, List.length_map] at hlengths
    exact hprefix.eq_of_length hlengths
  . intro hrows
    rw [hrows]

theorem searchExact_iff (hdb : db.WellFormed) (h : SearchAccepted read req allowedScopes)
    (hliteral : LiteralQuery lower req)
    (hfolds : OnContents lower svc sources clock req allowedScopes db
      fun content => FoldsAlike lower content req.query)
    : SearchExact lower read svc sources clock req allowedScopes db
        ↔ Uncrowded lower svc sources clock req allowedScopes db
          ∧ OnContents lower svc sources clock req allowedScopes db
            fun content => ¬TailLost content req.query searchSnippetChars := by
  have hsnippet : ∀ row ∈ req.rows lower db, req.reads svc sources clock allowedScopes db row = true →
      (SnippetShows lower row.content req.query searchSnippetChars
          (snippetForQuery row.content req.query searchSnippetChars)
        ↔ ¬TailLost row.content req.query searchSnippetChars) :=
    fun row hrow hreads => snippetShows_iff (trim_query_ne h) (by decide) (hfolds row hrow hreads)
  unfold SearchExact
  rw [knowledgePagesSearch_eq hdb h]
  constructor
  . rintro ⟨resp, hresp, hids, hshows⟩
    cases hresp
    rw [List.map_map] at hids
    refine ⟨(filter_rows_eq_wanted_iff hliteral).mp hids, ?_⟩
    intro row hrow hreads
    rcases exists_section_of_mem_matchingSections (mem_matchingSections_of_mem_rows hrow)
      with ⟨pageSection, hmem, page, _, rfl⟩
    rw [← hsnippet _ hrow hreads]
    have hreturned := List.mem_filter.mpr ⟨hrow, hreads⟩
    exact hshows _ (List.mem_map_of_mem hreturned) pageSection hmem rfl
  . rintro ⟨huncrowded, htails⟩
    refine ⟨_, rfl, ?_, ?_⟩
    . rw [List.map_map]
      exact (filter_rows_eq_wanted_iff hliteral).mpr huncrowded
    . intro item hitem pageSection hmem hsection
      rcases List.mem_map.mp hitem with ⟨row, hrow, rfl⟩
      rcases List.mem_filter.mp hrow with ⟨hrow, hreads⟩
      rcases exists_section_of_mem_matchingSections (mem_matchingSections_of_mem_rows hrow)
        with ⟨owner, howner, page, _, rfl⟩
      have hsame : pageSection = owner := Table.eq_of_key_eq db.sections hmem howner hsection
      rw [hsame]
      exact (hsnippet _ hrow hreads).mpr (htails _ hrow hreads)

/-! ## Queries that are not literal -/

/-- What the database does to the case of a character, in a locale that treats ASCII as usual. -/
structure LowersCase (lower : Char → Char) : Prop where
  ascii : ∀ c, c.toNat < 128 → lower c = c.toLower
  idempotent : ∀ c, lower (lower c) = lower c

theorem toLower_of_le {c : Char} (h : 128 ≤ c.toNat) : c.toLower = c := by
  apply dif_neg
  intro hupper
  have hle : c.toNat ≤ 90 := hupper.2
  omega

theorem isSpecial_lt {c : Char} (h : Like.isSpecial c = true) : c.toNat < 128 := by
  unfold Like.isSpecial at h
  simp only [Bool.or_eq_true, decide_eq_true_eq] at h
  rcases h with (rfl | rfl) | rfl
  . decide
  . decide
  . decide

/-- The texts of the row are empty, but for the heading. -/
structure HeadingOnly (row : KnowledgePageSearchRow) (heading : String) : Prop where
  title : row.title = ""
  pageKey : row.pageKey = ""
  heading : row.heading = heading
  content : row.content = ""

theorem matches_of_headingOnly {row : KnowledgePageSearchRow} {heading : String}
    {pattern : List Char} (h : HeadingOnly row heading)
    : row.matches lower pattern = (Like.like [] pattern || lowerLike lower heading pattern) := by
  unfold KnowledgePageSearchRow.matches
  rw [h.title, h.pageKey, h.heading, h.content]
  change (Like.like [] pattern || Like.like [] pattern || lowerLike lower heading pattern
    || Like.like [] pattern) = _
  cases Like.like [] pattern <;> simp

theorem containsQuery_of_headingOnly {row : KnowledgePageSearchRow} {heading : String}
    (hquery : trim req.query ≠ "") (h : HeadingOnly row heading)
    : row.containsQuery lower (trim req.query).toList
        = decide ((trim req.query).toList.map lower <:+: heading.toList.map lower) := by
  unfold KnowledgePageSearchRow.containsQuery
  rw [h.title, h.pageKey, h.heading, h.content]
  have hempty : ¬(trim req.query).toList.map lower <:+: ("".toList).map lower := by
    intro hinfix
    have hnil : (trim req.query).toList.map lower = [] := List.infix_nil.mp hinfix
    exact hquery (by simpa using hnil)
  simp only [List.any_cons, List.any_nil, decide_eq_false hempty, Bool.or_false, Bool.false_or]

/-- A query that is not literal does not match a heading although it is in there, or the reverse. -/
theorem exists_heading (hlower : LowersCase lower) (hquery : trim req.query ≠ "")
    (hnot : ¬LiteralQuery lower req)
    : ∃ heading : String, ∀ row : KnowledgePageSearchRow, HeadingOnly row heading →
      row.matches lower (Like.containing req.needle)
        ≠ row.containsQuery lower (trim req.query).toList := by
  have hneedle : req.needle = (trim req.query).toList.map Char.toLower := String.toList_ofList
  by_cases hfolded : (trim req.query).toList.map lower = req.needle
  . have hspecial : ∃ c ∈ req.needle, Like.isSpecial c = true := by
      by_contra hnone
      apply hnot
      refine ⟨?_, hfolded⟩
      intro c hc
      rw [← Bool.not_eq_true]
      exact fun hc' => hnone ⟨c, hc, hc'⟩
    rcases Like.exists_like_of_special hspecial with ⟨text, hlike, hinfix, hchars⟩
    have hfixed : text.map lower = text := by
      have hself : ∀ c ∈ text, lower c = id c := by
        intro c hc
        rcases hchars c hc with hmem | rfl | rfl
        . rw [← hfolded] at hmem
          rcases List.mem_map.mp hmem with ⟨d, _, rfl⟩
          exact hlower.idempotent d
        . exact hlower.ascii _ (by decide)
        . exact hlower.ascii _ (by decide)
      rw [List.map_congr_left hself, List.map_id]
    refine ⟨String.ofList text, fun row hrow => ?_⟩
    rw [matches_of_headingOnly hrow, containsQuery_of_headingOnly hquery hrow, hfolded,
      lowerLike, String.toList_ofList, hfixed, hlike, decide_eq_false hinfix, Bool.or_true]
    decide
  . have hdiffers : ∃ c ∈ (trim req.query).toList, lower c ≠ c.toLower := by
      by_contra hnone
      apply hfolded
      rw [hneedle]
      apply List.map_congr_left
      intro c hc
      by_contra hne
      exact hnone ⟨c, hc, hne⟩
    rcases hdiffers with ⟨c, hc, hne⟩
    -- the character is no ASCII letter, so that the service leaves it as it is
    have hlarge : 128 ≤ c.toNat := by
      by_contra hsmall
      exact hne (hlower.ascii c (by omega))
    have hmem : c ∈ req.needle := by
      rw [hneedle, ← toLower_of_le hlarge]
      exact List.mem_map_of_mem hc
    have hplain : Like.isSpecial c = false := by
      rw [← Bool.not_eq_true]
      intro hspecial
      have := isSpecial_lt hspecial
      omega
    have hnever : ∀ text : List Char, Like.like (text.map lower) (Like.containing req.needle)
        = false := by
      intro text
      rw [← Bool.not_eq_true]
      intro hlike
      rcases List.mem_map.mp (Like.mem_of_like hlike hplain hmem) with ⟨d, _, hd⟩
      apply hne
      rw [← hd, hlower.idempotent d, hd, toLower_of_le hlarge]
    refine ⟨trim req.query, fun row hrow => ?_⟩
    rw [matches_of_headingOnly hrow, containsQuery_of_headingOnly hquery hrow, lowerLike,
      hnever, decide_eq_true (List.infix_refl _)]
    have hempty := hnever []
    rw [List.map_nil] at hempty
    rw [hempty]
    decide

/-! ## A page with one heading -/

section

variable (req : KnowledgePageSearchRequest)

/-- An applied proposal, which everyone in the project may read. -/
def appliedProposal : ConsolidationProposal := {
  proposalId := 7
  runId := 8
  tenantId := req.tenantId
  projectId := req.projectId
  agentId := "a"
  proposalKind := "create_derived_note"
  applyIntent := .createDerivedNote
  reviewState := .applied
  sourceRefs := .arr []
  sourceSnapshot := .obj []
  lineage := .obj []
  diff := .obj []
  confidence := .fin 0
  unsupportedClaimFlags := .arr []
  targetRef := .obj []
  proposedPayload := .obj []
  reviewerAgentId := none
  reviewComment := none
  reviewedAt := none
  createdAt := 0
  updatedAt := 0 }

def proposalSources : SourceDb := {
  docs := { DocStore.empty with
    memory := { Store.empty with proposals := ⟨[appliedProposal req], List.nodup_singleton _⟩ } }
  ingestDecisions := .empty
  entities := .empty
  facts := .empty
  evidence := .empty }

def headingPage : KnowledgePage := {
  pageId := 4
  tenantId := req.tenantId
  projectId := req.projectId
  pageKind := (req.pageKind.map KnowledgePageKind.asStr).getD "project"
  pageKey := ""
  title := ""
  contractSchema := "elf.knowledge_page/v1"
  status := "active"
  rebuildSourceHash := ""
  contentHash := ""
  sourceCoverage := .obj []
  sourceSnapshot := .obj []
  rebuildMetadata := {
    sourceSnapshotHash := ""
    deterministic := true
    providerMetadata := .obj []
    generatedBy := ⟨"a", "deterministic_service", []⟩
    allowedVariance := []
    previousVersionDiff := none
    versionIdentity := ⟨"project", "", "", "", []⟩ }
  createdAt := 0
  updatedAt := 0
  rebuiltAt := 0 }

def headingSection (heading : String) : KnowledgePageSection := {
  sectionId := 5
  pageId := 4
  sectionKey := "reviewed-proposals"
  heading
  role := "proposals"
  content := ""
  ordinal := 0
  citations := .arr []
  unsupportedReason := none
  contentHash := ""
  createdAt := 0
  updatedAt := 0 }

def proposalRef : KnowledgePageSourceRef := {
  refId := 6
  pageId := 4
  sectionId := some 5
  sourceKind := "proposal"
  sourceId := 7
  sourceStatus := some "applied"
  sourceUpdatedAt := none
  sourceContentHash := none
  sourceSnapshot := .obj []
  citationMetadata := .obj []
  createdAt := 0 }

def headingPages (heading : String) : KnowledgeDb := {
  pages := ⟨[headingPage req], List.nodup_singleton _⟩
  sections := ⟨[headingSection heading], List.nodup_singleton _⟩
  sourceRefs := ⟨[proposalRef], List.nodup_singleton _⟩
  lintFindings := .empty }

def headingRow (heading : String) : KnowledgePageSearchRow :=
  knowledgePageSearchRow (headingPages req heading) (headingPage req) (headingSection heading)

end

theorem headingPages_wellFormed (heading : String) : (headingPages req heading).WellFormed where
  kinds := by
    intro sourceRef href
    rw [List.mem_singleton.mp href]
    decide
  sections := by
    intro sourceRef href sectionId hsection
    rw [List.mem_singleton.mp href] at hsection ⊢
    cases hsection
    exact ⟨headingSection heading, rfl, rfl⟩

theorem searchable_headingPages (heading : String)
    : req.searchable (headingPages req heading) = [headingRow req heading] := by
  have hkind : ((req.pageKind.map KnowledgePageKind.asStr).isNone
      || req.pageKind.map KnowledgePageKind.asStr = some (headingPage req).pageKind) = true := by
    unfold headingPage
    cases req.pageKind <;> simp
  have hrow : searchableRow (headingPages req heading) req.tenantId req.projectId
      (req.pageKind.map KnowledgePageKind.asStr) (headingSection heading)
      = some (headingRow req heading) := by
    have hpage : (headingPages req heading).pages.find? (headingSection heading).pageId
        = some (headingPage req) := rfl
    unfold searchableRow
    rw [hpage, Option.filter_some, if_pos]
    . rfl
    . rw [Bool.and_eq_true]
      refine ⟨?_, hkind⟩
      simp [headingPage]
  change [headingSection heading].filterMap _ = _
  rw [List.filterMap_cons, hrow, List.filterMap_nil]

theorem reads_headingRow (heading : String)
    : req.reads svc (proposalSources req) clock allowedScopes (headingPages req heading)
        (headingRow req heading) = true := by
  unfold KnowledgePageSearchRequest.reads
  rw [sectionRecallable_iff]
  refine ⟨⟨proposalRef, List.mem_singleton_self _, rfl⟩, ?_⟩
  intro sourceRef href _
  rw [List.mem_singleton.mp href]
  refine ⟨?_, by decide⟩
  have hfind : (proposalSources req).proposals.find? 7 = some (appliedProposal req) := rfl
  unfold sourceRefCurrent
  change ((((proposalSources req).proposals.find? 7).bind
    (proposalSource (req.reader (proposalSources req) allowedScopes))).map
      (proposalSourceSnapshot svc)).isSome = true
  rw [hfind, Option.bind_some, Option.isSome_map, proposalSource, if_pos]
  . rfl
  . simp [SourceReader.reachesProject, KnowledgePageSearchRequest.reader, appliedProposal]

theorem headingOnly_headingRow (heading : String) : HeadingOnly (headingRow req heading) heading :=
  ⟨rfl, rfl, rfl, rfl⟩

theorem sorted_headingPages (heading : String)
    : req.sorted lower (headingPages req heading)
        = if (headingRow req heading).matches lower (Like.containing req.needle) then
          [headingRow req heading] else [] := by
  unfold KnowledgePageSearchRequest.sorted matchingSections
  change sortBy _ ((req.searchable (headingPages req heading)).filter _) = _
  rw [searchable_headingPages, List.filter_singleton]
  generalize headingRow req heading = row
  cases row.matches lower (Like.containing req.needle) with
  | true => rfl
  | false => rfl

theorem boundedLimit_pos (limit : Option Nat) : 0 < boundedLimit limit := by
  unfold boundedLimit maxListLimit
  omega

theorem rows_headingPages (heading : String)
    : req.rows lower (headingPages req heading) = req.sorted lower (headingPages req heading) := by
  have hlimit := boundedLimit_pos req.limit
  apply List.take_of_length_le
  change (req.sorted lower (headingPages req heading)).length ≤ boundedLimit req.limit
  rw [sorted_headingPages]
  split
  . exact hlimit
  . exact Nat.zero_le _

theorem wanted_headingPages (heading : String)
    : req.wanted lower svc (proposalSources req) clock allowedScopes (headingPages req heading)
        = if (headingRow req heading).containsQuery lower (trim req.query).toList then
          [headingRow req heading] else [] := by
  have hlimit := boundedLimit_pos req.limit
  unfold KnowledgePageSearchRequest.wanted
  rw [searchable_headingPages, List.filter_singleton, reads_headingRow, Bool.and_true]
  generalize headingRow req heading = row
  cases row.containsQuery lower (trim req.query).toList with
  | true => exact List.take_of_length_le hlimit
  | false => exact List.take_nil

theorem firstPlace_empty (fold : Char → Char) (hquery : trim query ≠ "")
    : firstPlace fold "" query = none := by
  have hne : (trim query).toList.map fold ≠ [] := by simpa using hquery
  exact if_neg hne

theorem not_searchExact_headingPages {heading : String} (h : SearchAccepted read req allowedScopes)
    (hdiffers : (headingRow req heading).matches lower (Like.containing req.needle)
      ≠ (headingRow req heading).containsQuery lower (trim req.query).toList)
    : ¬SearchExact lower read svc (proposalSources req) clock req allowedScopes
      (headingPages req heading) := by
  rintro ⟨resp, hresp, hids, _⟩
  rw [knowledgePagesSearch_eq (headingPages_wellFormed heading) h] at hresp
  cases hresp
  have hlengths := congrArg List.length hids
  rw [List.length_map, List.length_map, List.length_map, wanted_headingPages, rows_headingPages,
    sorted_headingPages] at hlengths
  have hreads := @reads_headingRow svc clock req allowedScopes heading
  unfold KnowledgePageSearchRequest.reads at hreads
  apply hdiffers
  cases hmatches : (headingRow req heading).matches lower (Like.containing req.needle) with
  | true =>
    cases hcontains : (headingRow req heading).containsQuery lower (trim req.query).toList with
    | true => rfl
    | false => simp [hmatches, hcontains, hreads] at hlengths
  | false =>
    cases hcontains : (headingRow req heading).containsQuery lower (trim req.query).toList with
    | true => simp [hmatches, hcontains] at hlengths
    | false => rfl

/-- Every query that is not literal goes wrong on some page, although nothing else is in its way. -/
theorem exists_not_searchExact (hlower : LowersCase lower) (h : SearchAccepted read req allowedScopes)
    (hnot : ¬LiteralQuery lower req)
    : ∃ sources db, db.WellFormed
      ∧ OnContents lower svc sources clock req allowedScopes db
        (fun content => FoldsAlike lower content req.query)
      ∧ Uncrowded lower svc sources clock req allowedScopes db
      ∧ OnContents lower svc sources clock req allowedScopes db
        (fun content => ¬TailLost content req.query searchSnippetChars)
      ∧ ¬SearchExact lower read svc sources clock req allowedScopes db := by
  have hquery := trim_query_ne h
  rcases exists_heading hlower hquery hnot with ⟨heading, hdiffers⟩
  have hcontent : ∀ row ∈ req.rows lower (headingPages req heading), row.content = "" := by
    intro row hrow
    rw [rows_headingPages, sorted_headingPages] at hrow
    split at hrow
    . rw [List.mem_singleton.mp hrow]
      rfl
    . cases hrow
  refine ⟨proposalSources req, headingPages req heading, headingPages_wellFormed heading, ?_, ?_, ?_,
    not_searchExact_headingPages h (hdiffers _ (headingOnly_headingRow heading))⟩
  . intro row hrow _
    rw [hcontent row hrow]
    exact (firstPlace_empty _ hquery).trans (firstPlace_empty _ hquery).symm
  . right
    intro row hrow
    have hnil : (req.sorted lower (headingPages req heading)).drop (boundedLimit req.limit) = [] := by
      have hlimit := boundedLimit_pos req.limit
      rw [List.drop_eq_nil_iff, sorted_headingPages]
      split
      . exact hlimit
      . exact Nat.zero_le _
    rw [hnil] at hrow
    cases hrow
  . intro row hrow _
    rw [hcontent row hrow]
    rintro ⟨place, hplace, _⟩
    rw [firstPlace_empty _ hquery] at hplace
    cases hplace

/--
A search is exact on all the pages on which nothing else is in its way exactly if its query is
literal. On the pages, unreadable matches before the limit and a short rest of the content behind a
snippet are all that may be in its way.
-/
theorem pagesSearch_literal_iff (hlower : LowersCase lower)
    (h : SearchAccepted read req allowedScopes)
    : (∀ sources db, db.WellFormed →
        OnContents lower svc sources clock req allowedScopes db
          (fun content => FoldsAlike lower content req.query) →
        (SearchExact lower read svc sources clock req allowedScopes db
          ↔ Uncrowded lower svc sources clock req allowedScopes db
            ∧ OnContents lower svc sources clock req allowedScopes db
              fun content => ¬TailLost content req.query searchSnippetChars))
      ↔ LiteralQuery lower req := by
  constructor
  . intro hexact
    by_contra hnot
    rcases @exists_not_searchExact lower read svc clock req allowedScopes hlower h hnot
      with ⟨sources, db, hdb, hfolds, huncrowded, htails, hwrong⟩
    exact hwrong ((hexact sources db hdb hfolds).mpr ⟨huncrowded, htails⟩)
  . intro hliteral sources db hdb hfolds
    exact searchExact_iff hdb h hliteral hfolds

theorem lowersCase_toLower : LowersCase Char.toLower where
  ascii := fun _ _ => rfl
  idempotent := by
    intro c
    by_cases hupper : c.val ≥ 'A'.val ∧ c.val ≤ 'Z'.val
    . have hval : c.toLower.val = c.val + 32 := congrArg Char.val (dif_pos hupper)
      apply dif_neg
      rw [hval]
      intro hlower
      have hge : 65 ≤ c.val.toNat := UInt32.le_iff_toNat_le.mp hupper.1
      have hle : c.val.toNat ≤ 90 := UInt32.le_iff_toNat_le.mp hupper.2
      have hadd : (c.val + 32).toNat = (c.val.toNat + 32) % 4294967296 := UInt32.toNat_add ..
      have hle' : (c.val + 32).toNat ≤ 90 := UInt32.le_iff_toNat_le.mp hlower.2
      omega
    . have hsame : c.toLower = c := dif_neg hupper
      rw [hsame, hsame]

def wildcardRequest : KnowledgePageSearchRequest := {
  tenantId := "t"
  projectId := "p"
  agentId := "b"
  readProfile := "private_only"
  query := "a_b"
  pageKind := none
  limit := none }

theorem wildcardRequest_accepted
    : SearchAccepted sampleReadService wildcardRequest ["agent_private"] where
  valid := by decide +kernel
  scopes := by decide

theorem pagesSearch_literal_iff_wildcard
    : (∀ sources db, db.WellFormed →
        OnContents Char.toLower sampleKnowledgeService sources ⟨0, 0, 0⟩ wildcardRequest
          ["agent_private"] db (fun content => FoldsAlike Char.toLower content wildcardRequest.query) →
        (SearchExact Char.toLower sampleReadService sampleKnowledgeService sources ⟨0, 0, 0⟩
            wildcardRequest ["agent_private"] db
          ↔ Uncrowded Char.toLower sampleKnowledgeService sources ⟨0, 0, 0⟩ wildcardRequest
              ["agent_private"] db
            ∧ OnContents Char.toLower sampleKnowledgeService sources ⟨0, 0, 0⟩ wildcardRequest
              ["agent_private"] db
              fun content => ¬TailLost content wildcardRequest.query searchSnippetChars))
      ↔ LiteralQuery Char.toLower wildcardRequest :=
  pagesSearch_literal_iff lowersCase_toLower wildcardRequest_accepted

theorem normalizeWhitespaceFrom_of_forall {chars : List Char}
    (h : ∀ ch ∈ chars, isWhitespace ch = false)
    : normalizeWhitespaceFrom false chars = chars := by
  induction chars with
  | nil => rfl
  | cons ch chars ih =>
    unfold normalizeWhitespaceFrom
    rw [h ch List.mem_cons_self, ih fun c hc => h c (List.mem_cons_of_mem ch hc)]
    rfl

/-- A content without white space is its own normal form. -/
theorem normalizeWhitespace_of_forall {chars : List Char}
    (h : ∀ ch ∈ chars, isWhitespace ch = false)
    : normalizeWhitespace (String.ofList chars) = String.ofList chars := by
  have hdrop : ∀ kept : List Char, (∀ ch ∈ kept, isWhitespace ch = false) →
      kept.dropWhile isWhitespace = kept := by
    intro kept hkept
    cases kept with
    | nil => rfl
    | cons ch kept =>
      rw [List.dropWhile_cons, hkept ch List.mem_cons_self]
      rfl
  have hreverse := hdrop chars.reverse fun ch hch => h ch (List.mem_reverse.mp hch)
  unfold normalizeWhitespace trim
  rw [String.toList_ofList, String.toList_ofList, normalizeWhitespaceFrom_of_forall h, hdrop chars h,
    List.rdropWhile, hreverse, List.reverse_reverse]

/-- A content of which one character stands behind the window. -/
def longChars : List Char :=
  List.replicate 41 'x' ++ ['a', '_', 'b'] ++ List.replicate 238 'y'

theorem tailLost_longChars : TailLost (String.ofList longChars) "a_b" searchSnippetChars := by
  have hword : ∀ ch ∈ longChars, isWhitespace ch = false := by
    intro ch hch
    simp only [longChars, List.mem_append, List.mem_replicate, List.mem_cons, List.not_mem_nil,
      or_false] at hch
    rcases hch with (⟨_, rfl⟩ | rfl | rfl | rfl) | ⟨_, rfl⟩
    all_goals rfl
  have hnormal := normalizeWhitespace_of_forall hword
  have hlength : longChars.length = 282 := by
    simp only [longChars, List.length_append, List.length_replicate, List.length_cons,
      List.length_nil]
  have hplace : firstPlace Char.toLower (String.ofList longChars) "a_b" = some 41 := by
    unfold firstPlace
    rw [hnormal, String.toList_ofList]
    decide +kernel
  refine ⟨41, hplace, by decide, ?_⟩
  rw [hnormal, String.length_ofList, hlength]
  decide

/--
The underscore of the query stands for the `x` of the heading. A snippet that leaves out the last
character of the content does not say so.
-/
theorem underscore_matches
    : ¬SearchExact Char.toLower sampleReadService sampleKnowledgeService
          (proposalSources wildcardRequest) ⟨0, 0, 0⟩ wildcardRequest ["agent_private"]
          (headingPages wildcardRequest "axb")
        ∧ ¬SnippetShows Char.toLower (String.ofList longChars) "a_b" searchSnippetChars
          (snippetForQuery (String.ofList longChars) "a_b" searchSnippetChars) := by
  constructor
  . apply not_searchExact_headingPages wildcardRequest_accepted
    decide +kernel
  . have hquery : trim "a_b" ≠ "" := by decide +kernel
    exact not_snippetShows_of_tailLost hquery (by decide) tailLost_longChars

end Elf
