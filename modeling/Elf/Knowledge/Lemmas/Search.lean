import Elf.Knowledge.Search
import Elf.Knowledge.Lemmas.References
import Elf.Knowledge.Lemmas.Sources

/-!
This module contains what a snippet shows, which is a window of the content around the first
occurrence of the query with an ellipsis where something is left out, and what a search of the pages
returns: of the sections that match, as far as the limit goes, those of which every source is still
there for the reader.
-/

namespace Elf

open Text

variable {lower : Char → Char} {content query : String} {maxChars k : Nat}

/-- The first place of the query in the content, once white space is normalised and case is folded. -/
def firstPlace (fold : Char → Char) (content query : String) : Option Nat :=
  Occurrence.find ((trim query).toList.map fold) ((normalizeWhitespace content).toList.map fold)

/-- The part of the normalised content that a snippet takes. -/
def snippetWindow (content query : String) (maxChars : Nat) : Nat × Nat :=
  let total := (normalizeWhitespace content).length
  match firstPlace Char.toLower content query with
  | some beforeChars => (beforeChars - 40, min (beforeChars - 40 + maxChars) total)
  | none => if total ≤ maxChars then (0, total) else (0, maxChars - 3)

/-- A part of a text, with an ellipsis at each end where the text goes on. -/
def renderWindow (text : String) (window : Nat × Nat) : String :=
  (if 0 < window.1 then "..." else "")
    ++ String.ofList ((text.toList.drop window.1).take (window.2 - window.1))
    ++ (if window.2 < text.length then "..." else "")

/-- The window leaves at most three characters behind it, and does not start with the content. -/
def TailLost (content query : String) (maxChars : Nat) : Prop :=
  ∃ beforeChars, firstPlace Char.toLower content query = some beforeChars
    ∧ 40 < beforeChars ∧ beforeChars - 40 + maxChars < (normalizeWhitespace content).length
    ∧ (normalizeWhitespace content).length ≤ beforeChars - 40 + maxChars + 3

theorem find_toAsciiLowercase (content query : String)
    : Occurrence.find (toAsciiLowercase (trim query)).toList
        (toAsciiLowercase (normalizeWhitespace content)).toList
      = firstPlace Char.toLower content query := by
  unfold firstPlace toAsciiLowercase
  rw [String.toList_ofList, String.toList_ofList]

theorem truncateChars_eq (raw : String) (hmax : 3 < maxChars)
    : truncateChars raw maxChars
      = renderWindow raw (if raw.length ≤ maxChars then (0, raw.length) else (0, maxChars - 3)) := by
  unfold truncateChars renderWindow
  dsimp only
  split
  next hfits =>
    rw [if_neg (Nat.lt_irrefl _), if_neg (Nat.lt_irrefl _), List.drop_zero, Nat.sub_zero,
      ← String.length_toList, List.take_length, String.ofList_toList]
    simp
  next hlong =>
    have hmarker : ¬maxChars ≤ "...".length := by
      change ¬maxChars ≤ 3
      omega
    have hcut : maxChars - 3 < raw.length := by omega
    rw [if_neg hmarker, if_neg (Nat.lt_irrefl _), if_pos hcut, List.drop_zero, Nat.sub_zero]
    simp only [String.empty_append]
    rfl

theorem firstPlace_add_length_le (hquery : trim query ≠ "")
    (h : Occurrence.At ((trim query).toList.map lower) ((normalizeWhitespace content).toList.map lower)
      k)
    : k + (trim query).length ≤ (normalizeWhitespace content).length := by
  have hlength := h.add_length_le (by simpa using hquery)
  rw [List.length_map, List.length_map, String.length_toList, String.length_toList] at hlength
  exact hlength

theorem take_drop_window (chars : List Char) (maxChars start : Nat)
    : (chars.drop start).take (min (start + maxChars) chars.length - start)
        = (chars.drop start).take maxChars := by
  rcases Nat.le_total (start + maxChars) chars.length with hle | hle
  . rw [Nat.min_eq_left hle, Nat.add_sub_cancel_left]
  . rw [Nat.min_eq_right hle, List.take_of_length_le (by rw [List.length_drop]),
      List.take_of_length_le (by rw [List.length_drop]; omega)]

theorem append_ellipsis_ne (text : String) : text ++ "..." ≠ text := by
  intro h
  have hlength := congrArg String.length h
  rw [String.length_append] at hlength
  exact absurd hlength (Nat.ne_of_gt (Nat.lt_add_of_pos_right (by decide)))

/-- The check for the ellipsis at the end counts the ellipsis at the start as text of the content. -/
theorem ellipsis_eq_iff {text shown : String} {start : Nat} (hstart : start ≤ text.length)
    (hlength : shown.length = (if 0 < start then 3 else 0) + min maxChars (text.length - start))
    : (if start + shown.length < text.length then shown ++ "..." else shown)
        = shown ++ (if min (start + maxChars) text.length < text.length then "..." else "")
      ↔ ¬(0 < start ∧ start + maxChars < text.length ∧ text.length ≤ start + maxChars + 3) := by
  rw [hlength]
  by_cases hpos : 0 < start
  . rw [if_pos hpos]
    by_cases hcut : start + maxChars < text.length
    . rw [if_pos (by omega : min (start + maxChars) text.length < text.length)]
      by_cases htail : text.length ≤ start + maxChars + 3
      . rw [if_neg (by omega)]
        exact iff_of_false (append_ellipsis_ne shown).symm (not_not.mpr ⟨hpos, hcut, htail⟩)
      . rw [if_pos (by omega)]
        exact iff_of_true rfl fun h => htail h.2.2
    . rw [if_neg (by omega), if_neg (by omega), String.append_empty]
      exact iff_of_true rfl fun h => hcut h.2.1
  . rw [if_neg hpos]
    have hnot : ¬(0 < start ∧ start + maxChars < text.length
        ∧ text.length ≤ start + maxChars + 3) := fun h => hpos h.1
    by_cases hcut : start + maxChars < text.length
    . rw [if_pos (by omega), if_pos (by omega)]
      exact iff_of_true rfl hnot
    . rw [if_neg (by omega), if_neg (by omega), String.append_empty]
      exact iff_of_true rfl hnot

theorem snippetForQuery_eq (hquery : trim query ≠ "")
    : snippetForQuery content query maxChars
      = (firstPlace Char.toLower content query).elim
          (truncateChars (normalizeWhitespace content) maxChars) fun beforeChars =>
            let start := beforeChars - 40
            let snippet :=
              String.ofList (((normalizeWhitespace content).toList.drop start).take maxChars)
            let snippet := if 0 < start then "..." ++ snippet else snippet
            if start + snippet.length < (normalizeWhitespace content).length then snippet ++ "..."
            else snippet := by
  rw [← find_toAsciiLowercase]
  unfold snippetForQuery
  generalize trim query = trimmed at hquery ⊢
  dsimp only
  rw [if_neg hquery]
  generalize Occurrence.find (toAsciiLowercase trimmed).toList
    (toAsciiLowercase (normalizeWhitespace content)).toList = place
  cases place with
  | none => rw [Option.elim_none]
  | some beforeChars => rw [Option.elim_some]

/-- A snippet lacks at most the ellipsis behind its window. -/
theorem snippetForQuery_eq_iff (hquery : trim query ≠ "") (hmax : 3 < maxChars)
    : snippetForQuery content query maxChars
        = renderWindow (normalizeWhitespace content) (snippetWindow content query maxChars)
      ↔ ¬TailLost content query maxChars := by
  rw [snippetForQuery_eq hquery]
  unfold snippetWindow TailLost
  cases hplace : firstPlace Char.toLower content query with
  | none =>
    rw [Option.elim_none, truncateChars_eq _ hmax]
    simp
  | some beforeChars =>
    have hocc := Occurrence.firstFrom_of_find hplace
    have hfits := firstPlace_add_length_le hquery hocc.occurs
    have hfront : ∀ shown : String, (if 0 < beforeChars - 40 then "..." ++ shown else shown)
        = (if 0 < beforeChars - 40 then "..." else "") ++ shown := by
      intro shown
      split
      . rfl
      . rw [String.empty_append]
    have hwindow := take_drop_window (normalizeWhitespace content).toList maxChars
      (beforeChars - 40)
    rw [String.length_toList] at hwindow
    unfold renderWindow
    rw [Option.elim_some]
    dsimp only
    rw [hfront, hwindow, ellipsis_eq_iff (by omega)]
    . simp only [Option.some.injEq, exists_eq_left', Nat.sub_pos_iff_lt]
    . rw [String.length_append, String.length_ofList, List.length_take, List.length_drop,
        String.length_toList]
      split
      . rfl
      . rfl

end Elf

/-! ## What a search returns -/

namespace Elf

open Sorting Except

variable {lower : Char → Char} {read : ReadService} {svc : KnowledgeService} {sources : SourceDb}
variable {clock : SourceClock} {reader : SourceReader} {db : KnowledgeDb}
variable {req : KnowledgePageSearchRequest} {allowedScopes : List String}
variable {kind : KnowledgeSourceKind} {id : Uuid} {snapshot : SourceSnapshot}

/-! ## Current sources -/

/-- The source of the reference is there for the reader. -/
def sourceRefCurrent (svc : KnowledgeService) (sources : SourceDb) (reader : SourceReader)
    (clock : SourceClock) (sourceRef : KnowledgePageSourceRef) : Bool :=
  (KnowledgeSourceKind.parse sourceRef.sourceKind).any fun kind =>
    (sources.source svc reader clock kind sourceRef.sourceId).isSome

/-- Each reference of the section is recallable, and there is one. -/
def sectionRecallable (svc : KnowledgeService) (sources : SourceDb) (reader : SourceReader)
    (clock : SourceClock) (db : KnowledgeDb) (sectionId : Uuid) : Bool :=
  !(db.sectionRefs sectionId).isEmpty && (db.sectionRefs sectionId).all fun sourceRef =>
    sourceRefCurrent svc sources reader clock sourceRef && recallableSourceRef sourceRef

theorem sectionRecallable_iff {sectionId : Uuid}
    : sectionRecallable svc sources reader clock db sectionId = true
        ↔ (∃ sourceRef ∈ db.sourceRefs, sourceRef.sectionId = some sectionId)
          ∧ ∀ sourceRef ∈ db.sourceRefs, sourceRef.sectionId = some sectionId →
            sourceRefCurrent svc sources reader clock sourceRef = true
              ∧ recallableSourceRef sourceRef = true := by
  unfold sectionRecallable
  rw [Bool.and_eq_true, Bool.not_eq_true', List.isEmpty_eq_false_iff_exists_mem, List.all_eq_true]
  simp only [mem_sectionRefs, Bool.and_eq_true, and_imp]

/-- The keys are those of the references whose source is there for the reader. -/
theorem exists_currentSourceKeys {sourceRefs : List KnowledgePageSourceRef}
    (hkinds : ∀ sourceRef ∈ sourceRefs,
      (KnowledgeSourceKind.parse sourceRef.sourceKind).isSome)
    : ∃ keys, resolveCurrentRecallableSourceKeys svc sources clock reader sourceRefs = .ok keys
      ∧ ∀ sourceRef ∈ sourceRefs,
        keys.contains (currentKey sourceRef.sourceKind sourceRef.sourceId)
          = sourceRefCurrent svc sources reader clock sourceRef := by
  rcases SourceIds.fromSourceRefs_ok hkinds with ⟨ids, hids⟩
  unfold resolveCurrentRecallableSourceKeys
  rw [hids]
  refine ⟨_, rfl, ?_⟩
  intro sourceRef href
  rcases Option.isSome_iff_exists.mp (hkinds sourceRef href) with ⟨kind, hkind⟩
  unfold sourceRefCurrent
  rw [hkind, Option.any_some, Bool.eq_iff_iff, List.contains_iff_mem, Option.isSome_iff_exists,
    List.mem_map]
  constructor
  . rintro ⟨snapshot, hmem, hkey⟩
    exact ⟨snapshot, (mem_sourceSnapshots_of_ref hids href hkind).mp ⟨hmem, hkey⟩⟩
  . rintro ⟨snapshot, hsource⟩
    exact ⟨snapshot, (mem_sourceSnapshots_of_ref hids href hkind).mpr hsource⟩

/-! ## Searches -/

/-- The request passes the checks, and its profile reads the scopes. -/
structure SearchAccepted (read : ReadService) (req : KnowledgePageSearchRequest)
    (allowedScopes : List String) : Prop where
  valid : req.validate = .ok ()
  scopes : resolveReadProfileScopes read req.readProfile = .ok allowedScopes

instance (pattern : List Char) : Std.TransCmp (searchOrder lower pattern) :=
  have : Std.TransCmp fun a b : KnowledgePageSearchRow =>
      compareOn (KnowledgePageSearchRow.rank lower · pattern) b a :=
    @Std.TransCmp.opposite _ (compareOn (KnowledgePageSearchRow.rank lower · pattern)) inferInstance
  have : Std.TransCmp fun a b : KnowledgePageSearchRow =>
      compareOn KnowledgePageSearchRow.pageUpdatedAt b a :=
    @Std.TransCmp.opposite _ (compareOn KnowledgePageSearchRow.pageUpdatedAt) inferInstance
  have : Std.TransCmp fun a b : KnowledgePageSearchRow =>
      compareOn KnowledgePageSearchRow.pageId b a :=
    @Std.TransCmp.opposite _ (compareOn KnowledgePageSearchRow.pageId) inferInstance
  inferInstanceAs (Std.TransCmp (compareLex
    (fun a b => compareOn (KnowledgePageSearchRow.rank lower · pattern) b a)
    (compareLex (fun a b => compareOn KnowledgePageSearchRow.pageUpdatedAt b a)
      (compareLex (compareOn KnowledgePageSearchRow.ordinal)
        (fun a b => compareOn KnowledgePageSearchRow.pageId b a)))))

/-- The rows that the statement returns for a request. -/
def KnowledgePageSearchRequest.rows (req : KnowledgePageSearchRequest) (lower : Char → Char)
    (db : KnowledgeDb) : List KnowledgePageSearchRow :=
  searchKnowledgePageSections lower db req.tenantId req.projectId
    (req.pageKind.map KnowledgePageKind.asStr) (Like.containing req.needle) (boundedLimit req.limit)

/-- The references on the pages of the rows. -/
def KnowledgePageSearchRequest.pageRefs (req : KnowledgePageSearchRequest) (lower : Char → Char)
    (db : KnowledgeDb) : List KnowledgePageSourceRef :=
  listKnowledgePageSourceRefsForPages db
    (SourceIds.sortedUnique ((req.rows lower db).map KnowledgePageSearchRow.pageId))

/-- A matching row is the row of a section and of its page. -/
theorem exists_section_of_mem_matchingSections {tenantId projectId : String}
    {pageKind : Option String} {pattern : List Char} {row : KnowledgePageSearchRow}
    (h : row ∈ matchingSections lower db tenantId projectId pageKind pattern)
    : ∃ pageSection ∈ db.sections, ∃ page, page.pageId = pageSection.pageId
      ∧ row = knowledgePageSearchRow db page pageSection := by
  rcases List.mem_filterMap.mp (List.mem_filter.mp h).1 with ⟨pageSection, hmem, hrow⟩
  rcases Option.map_eq_some_iff.mp hrow with ⟨page, hpage, heq⟩
  rw [Option.filter_eq_some_iff] at hpage
  exact ⟨pageSection, hmem, page, Table.key_of_find? hpage.1, heq.symm⟩

theorem mem_matchingSections_of_mem_rows {row : KnowledgePageSearchRow}
    (h : row ∈ req.rows lower db)
    : row ∈ matchingSections lower db req.tenantId req.projectId
      (req.pageKind.map KnowledgePageKind.asStr) (Like.containing req.needle) :=
  mem_sortBy.mp (List.mem_of_mem_take h)

theorem filterMap_ite_some {α β : Type} {l : List α} {f : α → Option β} {p : α → Bool} {g : α → β}
    (h : ∀ a ∈ l, f a = if p a then some (g a) else none)
    : l.filterMap f = (l.filter p).map g := by
  rw [List.filterMap_congr h, ← List.filterMap_eq_map, List.filterMap_filter]
  rfl

/-- A search returns the rows whose section is recallable, with all the references of the section. -/
theorem knowledgePagesSearch_eq (hdb : db.WellFormed) (h : SearchAccepted read req allowedScopes)
    : knowledgePagesSearch lower read svc sources clock db req = .ok {
        items := ((req.rows lower db).filter fun row =>
            sectionRecallable svc sources (req.reader sources allowedScopes) clock db
              row.sectionId).map
          fun row => knowledgePageSearchItem row (db.sectionRefs row.sectionId) req.query } := by
  have hkinds : ∀ sourceRef ∈ req.pageRefs lower db,
      (KnowledgeSourceKind.parse sourceRef.sourceKind).isSome :=
    fun sourceRef href => hdb.kinds sourceRef (mem_listKnowledgePageSourceRefsForPages.mp href).1
  rcases @exists_currentSourceKeys svc sources clock (req.reader sources allowedScopes) _ hkinds
    with ⟨keys, hkeys, hcontains⟩
  have hrefs : ∀ row ∈ req.rows lower db,
      sourceRefsOf (req.pageRefs lower db) row.sectionId = db.sectionRefs row.sectionId := by
    intro row hrow
    rcases exists_section_of_mem_matchingSections (mem_matchingSections_of_mem_rows hrow)
      with ⟨pageSection, hmem, page, hpage, rfl⟩
    apply sourceRefsOf_listForPages hdb hmem
    rw [SourceIds.mem_sortedUnique, ← hpage]
    exact List.mem_map_of_mem hrow
  have hrecallable : ∀ row ∈ req.rows lower db,
      recallableSourceRefs (db.sectionRefs row.sectionId) keys
        = sectionRecallable svc sources (req.reader sources allowedScopes) clock db
          row.sectionId := by
    intro row hrow
    unfold recallableSourceRefs sectionRecallable
    congr 1
    rw [Bool.eq_iff_iff, List.all_eq_true, List.all_eq_true]
    apply forall₂_congr
    intro sourceRef href
    rw [← hrefs row hrow] at href
    rw [hcontains sourceRef (List.mem_filter.mp href).1]
  unfold knowledgePagesSearch
  rw [h.valid, h.scopes]
  change (resolveCurrentRecallableSourceKeys svc sources clock (req.reader sources allowedScopes)
    (req.pageRefs lower db) >>= _) = _
  rw [hkeys]
  change Except.ok (KnowledgePageSearchResponse.mk ((req.rows lower db).filterMap _)) = _
  rw [filterMap_ite_some]
  intro row hrow
  change (if recallableSourceRefs (sourceRefsOf (req.pageRefs lower db) row.sectionId) keys then
    some (knowledgePageSearchItem row (sourceRefsOf (req.pageRefs lower db) row.sectionId) req.query)
    else none) = _
  rw [hrefs row hrow, hrecallable row hrow]

end Elf
