import Elf.Search.FilterEval
import Elf.Search.Filter
import Elf.Search.Lemmas.FilterParser
import Elf.Search.Replay

/-!
This module contains what a filter keeps and what it reports: the candidates whose notes satisfy the
expression, in their order, and for each of the others one reason. Comparing a field with null says
whether the field is absent, except for the key, of which an absent one is read as an empty text.
-/

namespace Elf

open Sorting

variable {T : Type} {formats : FilterFormats T} {instant : T → ℤ} {note : NoteMeta}

/-! ## Truth -/

namespace FilterExpr

mutual

/-- The truth of an expression, given that of its leaves. -/
def denote (leaf : FilterExpr T → Bool) : FilterExpr T → Bool
  | .and nodes => denoteAll leaf nodes
  | .or nodes => denoteAny leaf nodes
  | .not node => !denote leaf node
  | .eq field value => leaf (.eq field value)
  | .neq field value => leaf (.neq field value)
  | .isIn field values => leaf (.isIn field values)
  | .contains field value => leaf (.contains field value)
  | .gt field value => leaf (.gt field value)
  | .gte field value => leaf (.gte field value)
  | .lt field value => leaf (.lt field value)
  | .lte field value => leaf (.lte field value)

def denoteAll (leaf : FilterExpr T → Bool) : List (FilterExpr T) → Bool
  | [] => true
  | node :: nodes => denote leaf node && denoteAll leaf nodes

def denoteAny (leaf : FilterExpr T → Bool) : List (FilterExpr T) → Bool
  | [] => false
  | node :: nodes => denote leaf node || denoteAny leaf nodes

end

/-- Whether the expression is true of a note. -/
def holds (formats : FilterFormats T) (instant : T → ℤ) (note : NoteMeta) : FilterExpr T → Bool :=
  denote fun leaf => (leaf.evaluate formats instant note).1

mutual

theorem evaluate_eq_holds (e : FilterExpr T)
    : (e.evaluate formats instant note).1 = e.holds formats instant note := by
  match e with
  | .and nodes =>
    unfold evaluate holds denote
    exact evaluateAnd_eq_holds nodes
  | .or nodes =>
    unfold evaluate holds denote
    exact evaluateOr_eq_holds nodes none
  | .not node =>
    have hnode := evaluate_eq_holds node
    unfold evaluate
    unfold holds at hnode ⊢
    unfold denote
    rw [← hnode]
    cases (node.evaluate formats instant note).1 with
    | true => rfl
    | false => rfl
  | .eq field value | .neq field value | .isIn field values | .contains field value
  | .gt field value | .gte field value | .lt field value | .lte field value =>
    unfold holds denote
    rfl

theorem evaluateAnd_eq_holds (nodes : List (FilterExpr T))
    : (evaluateAnd formats instant note nodes).1
      = denoteAll (fun leaf => (leaf.evaluate formats instant note).1) nodes := by
  match nodes with
  | [] =>
    unfold evaluateAnd denoteAll
    rfl
  | node :: nodes =>
    have hnode := evaluate_eq_holds node
    have hnodes := evaluateAnd_eq_holds nodes
    unfold evaluateAnd denoteAll
    unfold holds at hnode
    rw [← hnode, ← hnodes]
    cases (node.evaluate formats instant note).1 with
    | true => rfl
    | false => rfl

theorem evaluateOr_eq_holds (nodes : List (FilterExpr T)) (firstReason : Option String)
    : (evaluateOr formats instant note nodes firstReason).1
      = denoteAny (fun leaf => (leaf.evaluate formats instant note).1) nodes := by
  match nodes with
  | [] =>
    unfold evaluateOr denoteAny
    rfl
  | node :: nodes =>
    have hnode := evaluate_eq_holds node
    have hnodes := evaluateOr_eq_holds nodes
      (firstReason.or (node.evaluate formats instant note).2)
    unfold evaluateOr denoteAny
    unfold holds at hnode
    rw [← hnode, ← hnodes]
    cases (node.evaluate formats instant note).1 with
    | true => rfl
    | false => rfl

end

/-! ## Reasons -/

theorem outcome_isSome {op : String} {field : FilterField} {passed : Bool}
    (h : (outcome op field passed).1 = false) : (outcome op field passed).2.isSome = true := by
  have hpassed : passed = false := h
  subst hpassed
  rfl

theorem evaluateOrder_isSome {op : String} {numbers : F32 → F32 → Bool} {dates : ℤ → ℤ → Bool}
    {field : FilterField} {value : FilterValue T}
    (h : (evaluateOrder formats instant note op numbers dates field value).1 = false)
    : (evaluateOrder formats instant note op numbers dates field value).2.isSome = true := by
  unfold evaluateOrder at h ⊢
  split
  next hnumber =>
    rw [hnumber] at h
    exact outcome_isSome h
  next hdate =>
    rw [hdate] at h
    split
    . exact outcome_isSome h
    . rfl
  next => rfl

theorem evaluateContains_isSome {field : FilterField} {value : String}
    (h : (evaluateContains formats note field value).1 = false)
    : (evaluateContains formats note field value).2.isSome = true := by
  unfold evaluateContains at h ⊢
  split
  next htext =>
    rw [htext] at h
    exact outcome_isSome h
  next => rfl

mutual

/-- An expression that is false says why. -/
theorem evaluate_isSome (e : FilterExpr T) (h : (e.evaluate formats instant note).1 = false)
    : (e.evaluate formats instant note).2.isSome = true := by
  match e with
  | .and nodes =>
    unfold evaluate at h ⊢
    exact evaluateAnd_isSome nodes h
  | .or nodes =>
    unfold evaluate at h ⊢
    exact evaluateOr_isSome nodes none h
  | .not node =>
    unfold evaluate at h ⊢
    split
    . rfl
    next hnode =>
      rw [if_neg hnode] at h
      contradiction
  | .eq field value =>
    unfold evaluate evaluateEq at h ⊢
    exact outcome_isSome h
  | .neq field value =>
    unfold evaluate evaluateNeq at h ⊢
    exact outcome_isSome h
  | .isIn field values =>
    unfold evaluate evaluateIn at h ⊢
    exact outcome_isSome h
  | .contains field value =>
    unfold evaluate at h ⊢
    exact evaluateContains_isSome h
  | .gt field value =>
    unfold evaluate at h ⊢
    exact evaluateOrder_isSome h
  | .gte field value =>
    unfold evaluate at h ⊢
    exact evaluateOrder_isSome h
  | .lt field value =>
    unfold evaluate at h ⊢
    exact evaluateOrder_isSome h
  | .lte field value =>
    unfold evaluate at h ⊢
    exact evaluateOrder_isSome h

theorem evaluateAnd_isSome (nodes : List (FilterExpr T))
    (h : (evaluateAnd formats instant note nodes).1 = false)
    : (evaluateAnd formats instant note nodes).2.isSome = true := by
  match nodes with
  | [] =>
    unfold evaluateAnd at h
    contradiction
  | node :: nodes =>
    unfold evaluateAnd at h ⊢
    split
    next hnode =>
      rw [if_pos hnode] at h
      exact evaluateAnd_isSome nodes h
    next hnode =>
      rw [Bool.not_eq_true] at hnode
      exact evaluate_isSome node hnode

theorem evaluateOr_isSome (nodes : List (FilterExpr T)) (firstReason : Option String)
    (h : (evaluateOr formats instant note nodes firstReason).1 = false)
    : (evaluateOr formats instant note nodes firstReason).2.isSome = true := by
  match nodes with
  | [] =>
    unfold evaluateOr
    cases firstReason with
    | none => rfl
    | some reason => rfl
  | node :: nodes =>
    unfold evaluateOr at h ⊢
    split
    next hnode =>
      rw [if_pos hnode] at h
      contradiction
    next hnode =>
      rw [if_neg hnode] at h
      exact evaluateOr_isSome nodes _ h

end

end FilterExpr

/-! ## Counts -/

/-- How many candidates a reason is charged with. -/
def charged (counts : List SearchFilterDropReason) (reason : String) : Nat :=
  ((counts.find? fun entry => entry.reason == reason).map SearchFilterDropReason.count).getD 0

variable {counts : List SearchFilterDropReason} {reason : String}

theorem charged_countReason (counts : List SearchFilterDropReason) (reason other : String)
    : charged (countReason counts reason) other
      = charged counts other + if reason = other then 1 else 0 := by
  induction counts with
  | nil =>
    unfold countReason charged
    by_cases h : reason = other
    . simp [h]
    . simp [h]
  | cons entry counts ih =>
    unfold countReason
    by_cases hentry : entry.reason = reason
    . rw [if_pos hentry]
      by_cases h : reason = other
      . simp [charged, hentry, h]
      . simp [charged, hentry, h]
    . rw [if_neg hentry]
      by_cases h : entry.reason = other
      . have hne : reason ≠ other := by
          rw [← h]
          exact Ne.symm hentry
        simp [charged, h, hne]
      . unfold charged at ih ⊢
        rw [List.find?_cons_of_neg (by simpa using h), List.find?_cons_of_neg (by simpa using h), ih]

theorem sum_countReason (counts : List SearchFilterDropReason) (reason : String)
    : ((countReason counts reason).map SearchFilterDropReason.count).sum
      = (counts.map SearchFilterDropReason.count).sum + 1 := by
  induction counts with
  | nil => rfl
  | cons entry counts ih =>
    unfold countReason
    split
    . simp only [List.map_cons, List.sum_cons]
      omega
    . simp only [List.map_cons, List.sum_cons]
      omega

theorem reasons_countReason (h : (counts.map SearchFilterDropReason.reason).Nodup)
    : ((countReason counts reason).map SearchFilterDropReason.reason).Nodup
      ∧ ∀ other, other ∈ (countReason counts reason).map SearchFilterDropReason.reason
        ↔ other = reason ∨ other ∈ counts.map SearchFilterDropReason.reason := by
  induction counts with
  | nil => simp [countReason]
  | cons entry counts ih =>
    rw [List.map_cons, List.nodup_cons] at h
    have ⟨hnodup, hmem⟩ := ih h.2
    unfold countReason
    split
    next hentry =>
      subst hentry
      simp [h.1, h.2]
    next hentry =>
      constructor
      . rw [List.map_cons, List.nodup_cons, hmem]
        refine ⟨?_, hnodup⟩
        rw [not_or]
        exact ⟨hentry, h.1⟩
      . intro other
        rw [List.map_cons, List.mem_cons, hmem, List.map_cons, List.mem_cons, or_left_comm]

/-! ## Tally -/

namespace SearchFilter

variable {filter : SearchFilter T} {noteMeta : Uuid → Option NoteMeta}

/-- Whether a candidate's note is there and satisfies the expression. -/
def keeps (formats : FilterFormats T) (instant : T → ℤ) (filter : SearchFilter T)
    (noteMeta : Uuid → Option NoteMeta) (candidate : ChunkCandidate) : Bool :=
  (noteMeta candidate.noteId).any fun note => filter.expr.holds formats instant note

/-- The reason why a candidate is dropped, if it is. -/
def dropReason (formats : FilterFormats T) (instant : T → ℤ) (filter : SearchFilter T)
    (noteMeta : Uuid → Option NoteMeta) (candidate : ChunkCandidate) : Option String :=
  match noteMeta candidate.noteId with
  | none => some "note_meta_missing"
  | some note =>
    if filter.expr.holds formats instant note then none
    else (filter.expr.evaluate formats instant note).2

theorem dropReason_isSome (candidate : ChunkCandidate)
    : (filter.dropReason formats instant noteMeta candidate).isSome
      = !filter.keeps formats instant noteMeta candidate := by
  unfold dropReason keeps
  cases noteMeta candidate.noteId with
  | none => rfl
  | some note =>
    cases hholds : filter.expr.holds formats instant note with
    | true => simp [hholds]
    | false =>
      rw [← FilterExpr.evaluate_eq_holds] at hholds
      have hreason := FilterExpr.evaluate_isSome filter.expr hholds
      rw [FilterExpr.evaluate_eq_holds] at hholds
      simp [hholds, hreason]

theorem tally_eq (candidates kept : List ChunkCandidate) (counts : List SearchFilterDropReason)
    : filter.tally formats instant noteMeta candidates (kept, counts)
      = (kept ++ candidates.filter (filter.keeps formats instant noteMeta),
        (candidates.filterMap (filter.dropReason formats instant noteMeta)).foldl countReason
          counts) := by
  induction candidates generalizing kept counts with
  | nil => simp [tally]
  | cons candidate candidates ih =>
    unfold tally
    cases hnote : noteMeta candidate.noteId with
    | none =>
      have hkeeps : filter.keeps formats instant noteMeta candidate = false := by
        simp [keeps, hnote]
      have hdrop : filter.dropReason formats instant noteMeta candidate
          = some "note_meta_missing" := by
        simp [dropReason, hnote]
      simp only
      rw [ih, List.filter_cons_of_neg (by simp [hkeeps]), List.filterMap_cons_some hdrop,
        List.foldl_cons]
    | some note =>
      dsimp only
      split
      next hkeep =>
        have hholds : filter.expr.holds formats instant note = true := by
          rw [← FilterExpr.evaluate_eq_holds]
          exact hkeep
        have hkeeps : filter.keeps formats instant noteMeta candidate = true := by
          simp [keeps, hnote, hholds]
        have hdrop : filter.dropReason formats instant noteMeta candidate = none := by
          simp [dropReason, hnote, hholds]
        rw [ih, List.filter_cons_of_pos hkeeps, List.filterMap_cons_none hdrop, List.append_assoc]
        rfl
      next hdropped =>
        have hfalse : (filter.expr.evaluate formats instant note).1 = false := by
          rw [← Bool.not_eq_true]
          exact hdropped
        have ⟨reason, hreason⟩ := Option.isSome_iff_exists.mp
          (FilterExpr.evaluate_isSome filter.expr hfalse)
        rw [FilterExpr.evaluate_eq_holds] at hfalse
        have hkeeps : filter.keeps formats instant noteMeta candidate = false := by
          simp [keeps, hnote, hfalse]
        have hdrop : filter.dropReason formats instant noteMeta candidate = some reason := by
          simp [dropReason, hnote, hfalse, hreason]
        have hget : (filter.evaluate formats instant note).2.getD "filter.no_match" = reason := by
          unfold evaluate
          rw [hreason]
          rfl
        rw [hget, ih, List.filter_cons_of_neg (by simp [hkeeps]), List.filterMap_cons_some hdrop,
          List.foldl_cons]

end SearchFilter

theorem foldl_countReason {reasons : List String}
    (h : (counts.map SearchFilterDropReason.reason).Nodup)
    : ((reasons.foldl countReason counts).map SearchFilterDropReason.reason).Nodup
      ∧ (∀ reason, charged (reasons.foldl countReason counts) reason
        = charged counts reason + reasons.count reason)
      ∧ ((reasons.foldl countReason counts).map SearchFilterDropReason.count).sum
        = (counts.map SearchFilterDropReason.count).sum + reasons.length := by
  induction reasons generalizing counts with
  | nil => simp [h]
  | cons head reasons ih =>
    rcases ih (@reasons_countReason counts head h).1 with ⟨hnodup, hcharged, hsum⟩
    rw [List.foldl_cons]
    refine ⟨hnodup, ?_, ?_⟩
    . intro reason
      rw [hcharged, charged_countReason, List.count_cons]
      simp only [beq_iff_eq]
      omega
    . rw [hsum, sum_countReason, List.length_cons]
      omega

theorem length_filterMap {α β : Type} {f : α → Option β} {p : α → Bool} (l : List α)
    (h : ∀ a ∈ l, (f a).isSome = !p a) : (l.filterMap f).length + (l.filter p).length = l.length := by
  induction l with
  | nil => rfl
  | cons a l ih =>
    have hhead := h a List.mem_cons_self
    have htail := ih fun b hb => h b (List.mem_cons_of_mem a hb)
    cases hp : p a with
    | true =>
      rw [hp, Bool.not_true, Option.isSome_eq_false_iff, Option.isNone_iff_eq_none] at hhead
      rw [List.filterMap_cons_none hhead, List.filter_cons_of_pos hp]
      simp only [List.length_cons]
      omega
    | false =>
      rw [hp, Bool.not_false] at hhead
      have ⟨b, hb⟩ := Option.isSome_iff_exists.mp hhead
      rw [List.filterMap_cons_some hb, List.filter_cons_of_neg (by simp [hp])]
      simp only [List.length_cons]
      omega

/--
A search keeps the candidates whose notes are there and satisfy the filter, in their order. The report
has the lengths of the lists, and charges each of the dropped candidates with its reason, so that the
counts of the reasons are together the number of dropped candidates. The first five are shown.
-/
theorem filter_evaluation (formats : FilterFormats T) (instant : T → ℤ) (filter : SearchFilter T)
    (noteMeta : Uuid → Option NoteMeta) (candidates : List ChunkCandidate)
    (requestedCandidateK effectiveCandidateK : Nat)
    : let result := filter.eval formats instant noteMeta candidates requestedCandidateK
        effectiveCandidateK
      let counts := (filter.tally formats instant noteMeta candidates ([], [])).2
      result.1 = candidates.filter (fun candidate => (noteMeta candidate.noteId).any fun note =>
          filter.expr.holds formats instant note)
      ∧ result.2.candidateCountPre = candidates.length
      ∧ result.2.candidateCountPost = result.1.length
      ∧ result.2.droppedTotal + result.1.length = candidates.length
      ∧ (∀ candidate ∈ candidates, candidate ∉ result.1
        → ∃ reason, filter.dropReason formats instant noteMeta candidate = some reason)
      ∧ (counts.map SearchFilterDropReason.reason).Nodup
      ∧ (∀ reason, charged counts reason = candidates.countP fun candidate =>
        filter.dropReason formats instant noteMeta candidate == some reason)
      ∧ (counts.map SearchFilterDropReason.count).sum = result.2.droppedTotal
      ∧ result.2.topDropReasons = (sortBy cmpDropReason counts).take maxDropReasons := by
  intro result counts
  have hkept : result.1 = candidates.filter (filter.keeps formats instant noteMeta) := by
    apply List.filter_congr
    intro candidate _
    unfold SearchFilter.keeps SearchFilter.evaluate
    simp only [FilterExpr.evaluate_eq_holds]
  have hcounts : counts = (candidates.filterMap
      (filter.dropReason formats instant noteMeta)).foldl countReason [] := by
    have htally := @SearchFilter.tally_eq T formats instant filter noteMeta candidates [] []
    exact congrArg Prod.snd htally
  have hlength := length_filterMap candidates fun candidate _ =>
    @SearchFilter.dropReason_isSome T formats instant filter noteMeta candidate
  rcases @foldl_countReason [] (candidates.filterMap
    (filter.dropReason formats instant noteMeta)) List.nodup_nil with ⟨hnodup, hcharged, hsum⟩
  rw [← hkept] at hlength
  have hdropped : result.2.droppedTotal = candidates.length - result.1.length := rfl
  refine ⟨hkept, rfl, rfl, ?_, ?_, ?_, ?_, ?_, rfl⟩
  . omega
  . intro candidate hcandidate hnot
    rw [hkept, List.mem_filter, not_and, Bool.not_eq_true] at hnot
    have hreason := @SearchFilter.dropReason_isSome T formats instant filter noteMeta candidate
    rw [hnot hcandidate] at hreason
    exact Option.isSome_iff_exists.mp hreason
  . rw [hcounts]
    exact hnodup
  . intro reason
    rw [hcounts, hcharged, List.count_filterMap]
    simp [charged]
  . rw [hcounts, hsum]
    simp only [List.map_nil, List.sum_nil, Nat.zero_add]
    omega

end Elf

/-! ## Comparisons with null -/

namespace Elf

variable {T : Type} {formats : FilterFormats T} {instant : T → ℤ} {note : NoteMeta}
  {field : FilterField}

/-- The fields that every note has are present. -/
def NoteMeta.isPresent (note : NoteMeta) : FilterField → Bool
  | .key => note.key.isSome
  | .expiresAt => note.expiresAt.isSome
  | .lastHitAt => note.lastHitAt.isSome
  | _ => true

namespace FilterExpr

/-- A leaf, where a comparison with null asks whether the field is absent. -/
def leafMeans (formats : FilterFormats T) (instant : T → ℤ) (note : NoteMeta)
    : FilterExpr T → Bool
  | .eq field .null => !note.isPresent field
  | .neq field .null => note.isPresent field
  | leaf => (leaf.evaluate formats instant note).1

/-- What an expression says of a note. -/
def means (formats : FilterFormats T) (instant : T → ℤ) (note : NoteMeta) : FilterExpr T → Bool :=
  denote (leafMeans formats instant note)

mutual

/-- An optional field that is compared with null is the given one. -/
def NullTestsOn (field : FilterField) : FilterExpr T → Prop
  | .and nodes => AllNullTestsOn field nodes
  | .or nodes => AllNullTestsOn field nodes
  | .not node => NullTestsOn field node
  | .eq other .null | .neq other .null => other.IsNullable → other = field
  | _ => True

def AllNullTestsOn (field : FilterField) : List (FilterExpr T) → Prop
  | [] => True
  | node :: nodes => NullTestsOn field node ∧ AllNullTestsOn field nodes

end

theorem ofInstant_eq_null (instant : Option Nat)
    : (FilterNodeValue.ofInstant instant).eq .null = !instant.isSome := by
  cases instant with
  | none => rfl
  | some t => rfl

/-- The fields of a note other than an absent key are null exactly where they are absent. -/
theorem lookupNoteValue_eq_null (h : field = .key → note.key.isSome = true)
    : (field.lookupNoteValue formats note).eq .null = !note.isPresent field := by
  cases field with
  | key =>
    have hkey := h rfl
    unfold NoteMeta.isPresent
    rw [hkey]
    rfl
  | expiresAt => exact ofInstant_eq_null note.expiresAt
  | lastHitAt => exact ofInstant_eq_null note.lastHitAt
  | _ => rfl

theorem leafMeans_eq {other : FilterField} (h : field = .key → note.key.isSome = true)
    (hother : other.IsNullable → other = field)
    : leafMeans formats instant note (.eq other .null)
        = ((FilterExpr.eq other .null).evaluate formats instant note).1
      ∧ leafMeans formats instant note (.neq other .null)
        = ((FilterExpr.neq other .null).evaluate formats instant note).1 := by
  have hnull := @lookupNoteValue_eq_null T formats note other fun hkey => by
    apply h
    rw [← hother (Or.inl hkey), hkey]
  unfold leafMeans evaluate evaluateEq evaluateNeq outcome FilterValue.toNodeValue
  simp [hnull]

mutual

theorem means_eq_holds (h : field = .key → note.key.isSome = true) (e : FilterExpr T)
    (he : e.NullTestsOn field) : e.means formats instant note = e.holds formats instant note := by
  match e with
  | .and nodes =>
    unfold means holds denote
    exact (meansAll_eq_holds h nodes he).1
  | .or nodes =>
    unfold means holds denote
    exact (meansAll_eq_holds h nodes he).2
  | .not node =>
    have hnode := means_eq_holds h node he
    unfold means holds at hnode ⊢
    unfold denote
    rw [hnode]
  | .eq other value =>
    cases value with
    | null => exact (leafMeans_eq h he).1
    | _ => rfl
  | .neq other value =>
    cases value with
    | null => exact (leafMeans_eq h he).2
    | _ => rfl
  | .isIn other values | .contains other value | .gt other value | .gte other value
  | .lt other value | .lte other value => rfl

theorem meansAll_eq_holds (h : field = .key → note.key.isSome = true) (nodes : List (FilterExpr T))
    (hnodes : AllNullTestsOn field nodes)
    : denoteAll (leafMeans formats instant note) nodes
        = denoteAll (fun leaf => (leaf.evaluate formats instant note).1) nodes
      ∧ denoteAny (leafMeans formats instant note) nodes
        = denoteAny (fun leaf => (leaf.evaluate formats instant note).1) nodes := by
  match nodes with
  | [] => exact ⟨rfl, rfl⟩
  | node :: nodes =>
    have hnode := means_eq_holds h node hnodes.1
    have ⟨hall, hany⟩ := meansAll_eq_holds h nodes hnodes.2
    unfold means holds at hnode
    unfold denoteAll denoteAny
    rw [hnode, hall, hany]
    exact ⟨rfl, rfl⟩

end

end FilterExpr

/-! ## Parsed filters -/

/-- A filter that compares a field with null. -/
def eqNull (field : FilterField) : Json :=
  SearchFilter.envelope (FilterExpr.leafToValue "eq" field .null)

theorem parse_eqNull (formats : FilterFormats T) (h : field.IsNullable)
    : SearchFilter.parse formats (eqNull field) = .ok ⟨.eq field .null, eqNull field⟩ := by
  apply SearchFilter.parse_eq_ok.mpr
  have hnames : FilterField.Names (.str field.asStr) field := by
    refine ⟨field.asStr, rfl, ?_⟩
    rcases h with h | h | h
    all_goals
      subst h
      decide +kernel
  have hdenotes : FilterExpr.Denotes formats (FilterExpr.leafToValue "eq" field .null)
      (.eq field .null) :=
    ⟨rfl, ⟨.str field.asStr, rfl, hnames⟩, .null, rfl, h, rfl⟩
  refine ⟨⟨rfl, ⟨_, rfl, hdenotes⟩, ?_⟩, rfl, rfl⟩
  unfold FilterExpr.WithinLimits FilterExpr.nodeCount FilterExpr.depth
  decide

/--
Comparing an optional field with null asks whether the field is absent, in every filter that is read and
however its tests are nested, exactly when the field is not the key or the note has a key.
-/
theorem null_tests (formats : FilterFormats T) (instant : T → ℤ) (note : NoteMeta)
    (field : FilterField) (hfield : field.IsNullable)
    : (∀ raw filter, SearchFilter.parse formats raw = .ok filter → filter.expr.NullTestsOn field →
        (filter.evaluate formats instant note).1 = filter.expr.means formats instant note)
      ↔ (field = .key → note.key.isSome = true) := by
  constructor
  . intro h hkey
    subst hkey
    have heval := h _ _ (parse_eqNull formats hfield) fun _ => rfl
    cases hpresent : note.key with
    | some key => rfl
    | none =>
      have hmeans : (FilterExpr.eq .key .null).means formats instant note = true := by
        unfold FilterExpr.means FilterExpr.denote FilterExpr.leafMeans NoteMeta.isPresent
        rw [hpresent]
        rfl
      rw [hmeans] at heval
      contradiction
  . intro h raw filter _ htests
    unfold SearchFilter.evaluate
    rw [FilterExpr.evaluate_eq_holds, FilterExpr.means_eq_holds h filter.expr htests]

-- The formats of a filter that has neither numbers nor date-times.
def noFormats : FilterFormats Nat := ⟨id, fun _ => none, fun _ => none⟩

def keylessNote : NoteMeta := (sampleChunkSnippet 1 10 0 1).note

theorem null_tests_expiresAt
    : keylessNote.expiresAt = none
      ∧ ∀ raw filter, SearchFilter.parse noFormats raw = .ok filter →
        filter.expr.NullTestsOn .expiresAt →
        (filter.evaluate noFormats Int.ofNat keylessNote).1
          = filter.expr.means noFormats Int.ofNat keylessNote :=
  ⟨rfl, (null_tests noFormats Int.ofNat keylessNote .expiresAt (Or.inr (Or.inl rfl))).mpr (by decide)⟩

theorem not_null_tests_key
    : keylessNote.key = none
      ∧ SearchFilter.parse noFormats (eqNull .key) = .ok ⟨.eq .key .null, eqNull .key⟩
      ∧ ((⟨.eq .key .null, eqNull .key⟩ : SearchFilter Nat).evaluate noFormats Int.ofNat
        keylessNote).1 = false := by
  exact ⟨rfl, parse_eqNull noFormats (Or.inl rfl), rfl⟩

end Elf
