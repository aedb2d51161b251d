import Elf.Search.Filter

/-!
This module contains what the parser of filters reads: the expressions of the language that have no
`in` node, and how far it counts on them.
-/

namespace Elf

variable {T : Type}

/-! ## Values -/

theorem parseFilterString_eq_ok {path : String} {raw : Json} {s : String}
    : parseFilterString path raw = .ok s ↔ raw = .str s ∧ s.utf8ByteSize ≤ maxStringBytes := by
  unfold parseFilterString
  simp only [Except.bind_eq_ok, Except.ofOption_eq_ok, Except.rejectIf_eq_ok, Except.pure_eq_ok,
    Json.asStr_eq_some, decide_eq_false_iff_not, Nat.not_lt]
  constructor
  . intro h
    rcases h with ⟨t, hraw, _, hsize, hs⟩
    subst hs
    exact ⟨hraw, hsize⟩
  . intro h
    exact ⟨s, h.1, (), h.2, by rfl⟩

theorem FilterFormats.parseDateTime_eq_ok {formats : FilterFormats T} {path : String}
    {raw : Json} {v : FilterValue T}
    : formats.parseDateTime path raw = .ok v
        ↔ ∃ t s, raw = .str s ∧ s.utf8ByteSize ≤ maxStringBytes
          ∧ formats.parseRfc3339 s = some t ∧ v = .dateTime t := by
  unfold FilterFormats.parseDateTime
  simp only [Except.bind_eq_ok, parseFilterString_eq_ok]
  constructor
  . intro h
    rcases h with ⟨s, hs, hparse⟩
    split at hparse
    next t ht =>
      cases hparse
      exact ⟨t, s, hs.1, hs.2, ht, by rfl⟩
    next => cases hparse
  . intro h
    rcases h with ⟨t, s, hraw, hsize, ht, hv⟩
    refine ⟨s, ⟨hraw, hsize⟩, ?_⟩
    simp [ht, hv]

theorem asNum_eq_some {raw : Json} {q : ℚ} : raw.asNum = some q ↔ raw = .num q := by
  cases raw <;> simp [Json.asNum]

theorem FilterFormats.parseText_eq_ok {path : String} {raw : Json} {v : FilterValue T}
    : (parseFilterString path raw).map FilterValue.string = .ok v
        ↔ ∃ s, raw = .str s ∧ s.utf8ByteSize ≤ maxStringBytes ∧ v = .string s := by
  have h := Except.map_eq_ok (x := parseFilterString path raw) (f := FilterValue.string) (b := v)
  simp only [parseFilterString_eq_ok, and_assoc, eq_comm (b := v)] at h
  exact h

theorem FilterFormats.denotes_iff {formats : FilterFormats T} {field : FilterField} {raw : Json}
    {v : FilterValue T}
    : formats.Denotes field raw v
        ↔ (field.IsNullable ∧ raw = .null ∧ v = .null)
          ∨ (field.IsText ∧ ∃ s, raw = .str s ∧ s.utf8ByteSize ≤ maxStringBytes ∧ v = .string s)
          ∨ (field.IsNumeric ∧ ∃ n, raw = .num n ∧ v = .number (formats.asF64 n))
          ∨ (field.IsDateTime ∧ ∃ t s, raw = .str s ∧ s.utf8ByteSize ≤ maxStringBytes
            ∧ formats.parseRfc3339 s = some t ∧ v = .dateTime t) := by
  cases v with
  | null => simp [Denotes]
  | string s =>
    simp only [Denotes, reduceCtorEq, and_false, exists_false, FilterValue.string.injEq, false_or,
      or_false]
    constructor
    . intro h
      exact ⟨h.1, s, h.2.1, h.2.2, rfl⟩
    . intro h
      rcases h with ⟨hfield, t, hraw, hsize, ht⟩
      subst ht
      exact ⟨hfield, hraw, hsize⟩
  | number q => simp [Denotes, eq_comm]
  | dateTime t => simp [Denotes]

theorem parseNullable_eq_ok {raw : Json} {x : Except ε (FilterValue T)} {v : FilterValue T}
    (hx : x = .ok v → raw ≠ .null)
    : (if raw.isNull then .ok .null else x) = .ok v ↔ (raw = .null ∧ v = .null) ∨ x = .ok v := by
  cases raw with
  | null => 
    simp only [Json.isNull, if_true, Except.ok.injEq]
    constructor
    . intro h
      simp [h]
    . intro h
      rcases h with h | h
      . exact h.2.symm
      . exact absurd rfl (hx h)
  | bool b => simp [Json.isNull]
  | num n => simp [Json.isNull]
  | str s => simp [Json.isNull]
  | arr items => simp [Json.isNull]
  | obj entries => simp [Json.isNull]

theorem FilterFormats.parseValue_eq_ok {formats : FilterFormats T} {field : FilterField}
    {raw : Json} {path : String} {v : FilterValue T}
    : formats.parseValue field raw path = .ok v ↔ formats.Denotes field raw v := by
  rw [denotes_iff]
  have htext : (parseFilterString path raw).map FilterValue.string = .ok v → raw ≠ .null := by
    rw [parseText_eq_ok]
    intro h hnull
    rcases h with ⟨s, hs, -⟩
    rw [hs] at hnull
    cases hnull
  have hdate : formats.parseDateTime path raw = .ok v → raw ≠ .null := by
    rw [parseDateTime_eq_ok]
    intro h hnull
    rcases h with ⟨t, s, hs, -⟩
    rw [hs] at hnull
    cases hnull
  cases field with
  | type => simp [parseValue, parseText_eq_ok]
  | scope => simp [parseValue, parseText_eq_ok]
  | agentId => simp [parseValue, parseText_eq_ok]
  | key => simp [parseValue, parseNullable_eq_ok htext, parseText_eq_ok]
  | importance => simp [parseValue, Except.map_eq_ok, Except.ofOption_eq_ok, asNum_eq_some, eq_comm (b := v)]
  | confidence => simp [parseValue, Except.map_eq_ok, Except.ofOption_eq_ok, asNum_eq_some, eq_comm (b := v)]
  | hitCount => simp [parseValue, Except.map_eq_ok, Except.ofOption_eq_ok, asNum_eq_some, eq_comm (b := v)]
  | updatedAt => simp [parseValue, parseDateTime_eq_ok]
  | expiresAt => simp [parseValue, parseNullable_eq_ok hdate, parseDateTime_eq_ok]
  | lastHitAt => simp [parseValue, parseNullable_eq_ok hdate, parseDateTime_eq_ok]

/-! ## Leaves -/

theorem FilterField.parse_eq_ok {path : String} {raw : Json} {field : FilterField}
    : FilterField.parse path raw = .ok field ↔ FilterField.Names raw field := by
  unfold FilterField.parse FilterField.Names
  simp only [Except.bind_eq_ok, Except.ofOption_eq_ok, Json.asStr_eq_some]
  constructor
  . intro h
    rcases h with ⟨name, hraw, hmatch⟩
    refine ⟨name, hraw, ?_⟩
    split at hmatch <;> cases hmatch <;> assumption
  . intro h
    rcases h with ⟨name, hraw, hname⟩
    refine ⟨name, hraw, ?_⟩
    rw [hname]
    cases field <;> rfl

namespace FilterExpr

variable {formats : FilterFormats T}

def leafOps : List String := ["in", "eq", "neq", "gt", "gte", "lt", "lte", "contains"]

def isLeaf : FilterExpr T → Bool
  | .and _ | .or _ | .not _ => false
  | _ => true

-- The values of an `in` node are a list, and a list is no value of any field.
theorem not_denotes_arr {field : FilterField} {items : List Json} {v : FilterValue T}
    (h : formats.Denotes field (.arr items) v) : False := by
  cases v <;> simp [FilterFormats.Denotes] at h

theorem parseInValues_eq_ok {field : FilterField} {value : Json} {path : String}
    {values : List (FilterValue T)}
    (h : parseInValues formats field value path = .ok values) : ∃ items, value = .arr items := by
  unfold parseInValues at h
  simp only [Except.bind_eq_ok, Except.ofOption_eq_ok] at h
  rcases h with ⟨items, hitems, -⟩
  cases value with
  | arr items => exact ⟨items, rfl⟩
  | null => cases hitems
  | bool b => cases hitems
  | num n => cases hitems
  | str s => cases hitems
  | obj entries => cases hitems

theorem parseLeaf_sound {map : List (String × Json)} {op path : String} {e : FilterExpr T}
    (hop : map.lookup "op" = some (.str op)) (h : parseLeaf formats map op path = .ok e)
    : Denotes formats (.obj map) e ∧ e.hasIn = false ∧ e.isLeaf = true := by
  unfold parseLeaf at h
  simp only [Except.bind_eq_ok, Except.ofOption_eq_ok, FilterField.parse_eq_ok,
    FilterFormats.parseValue_eq_ok] at h
  rcases h with ⟨fieldRaw, hfieldRaw, field, hfield, valueRaw, hvalueRaw, value, hvalue, h⟩
  have hleaf : IsLeaf formats (.obj map) op field value :=
    ⟨hop, ⟨fieldRaw, hfieldRaw, hfield⟩, valueRaw, hvalueRaw, hvalue⟩
  unfold leafExpr at h
  split at h
  next => 
    cases h
    simpa [Denotes, hasIn, isLeaf] using hleaf
  next => 
    cases h
    simpa [Denotes, hasIn, isLeaf] using hleaf
  next => 
    split at h
    next => 
      cases h
      simpa [Denotes, hasIn, isLeaf] using hleaf
    next => cases h
  next => 
    cases h
    simpa [Denotes, hasIn, isLeaf] using hleaf
  next => 
    cases h
    simpa [Denotes, hasIn, isLeaf] using hleaf
  next => 
    cases h
    simpa [Denotes, hasIn, isLeaf] using hleaf
  next => 
    cases h
    simpa [Denotes, hasIn, isLeaf] using hleaf
  next =>
    -- An `in` node has been rejected before its list is read.
    simp only [Except.bind_eq_ok] at h
    rcases h with ⟨values, hvalues, -⟩
    rcases parseInValues_eq_ok hvalues with ⟨items, hitems⟩
    subst hitems
    exact (not_denotes_arr hvalue).elim
  next => cases h

theorem parseLeaf_of_isLeaf {map : List (String × Json)} {op : String} {field : FilterField}
    {value : FilterValue T} (h : IsLeaf formats (.obj map) op field value) (path : String)
    : ∃ raw, parseLeaf formats map op path = leafExpr formats op path field raw value := by
  rcases h with ⟨-, ⟨fieldRaw, hfieldRaw, hfield⟩, valueRaw, hvalueRaw, hvalue⟩
  rw [Json.get_obj] at hfieldRaw hvalueRaw
  refine ⟨valueRaw, ?_⟩
  have hparse : FilterField.parse s!"{path}.field" fieldRaw = .ok field :=
    FilterField.parse_eq_ok.mpr hfield
  have hvalue : formats.parseValue field valueRaw s!"{path}.value" = .ok value :=
    FilterFormats.parseValue_eq_ok.mpr hvalue
  unfold parseLeaf
  simp only [hfieldRaw, hvalueRaw, Except.ofOption, bind, Except.bind, hparse, hvalue]

end FilterExpr

/-! ## Expressions -/

namespace FilterParseState

/-- The state after an expression is read. -/
def after (s : FilterParseState) (nodes depth : Nat) : FilterParseState :=
  ⟨s.nodes + nodes, max s.maxDepth depth⟩

def Within (s : FilterParseState) : Prop :=
  s.nodes ≤ maxFilterNodes ∧ s.maxDepth ≤ maxFilterDepth

theorem Within.of_after {s : FilterParseState} {nodes depth nodes' depth' : Nat}
    (h : (s.after nodes depth).Within) (hnodes : nodes' ≤ nodes) (hdepth : depth' ≤ depth)
    : (s.after nodes' depth').Within := by
  unfold Within after at *
  dsimp only at *
  omega

theorem after_after (s : FilterParseState) (n n' d d' : Nat)
    : (s.after n d).after n' d' = s.after (n + n') (max d d') := by
  simp only [after, FilterParseState.mk.injEq]
  omega

end FilterParseState

namespace FilterExpr

variable {formats : FilterFormats T}

theorem validateMetrics_eq_ok {path : String} {depth : Nat} {s s' : FilterParseState}
    : validateMetrics path depth s = .ok s' ↔ s' = s.after 1 depth ∧ s'.Within := by
  unfold validateMetrics FilterParseState.after FilterParseState.Within
  simp only [Except.bind_eq_ok, Except.rejectIf_eq_ok, Except.pure_eq_ok, decide_eq_false_iff_not,
    Nat.not_lt]
  constructor
  . intro h
    rcases h with ⟨_, hnodes, _, hdepth, hs⟩
    subst hs
    exact ⟨rfl, hnodes, hdepth⟩
  . intro h
    rcases h with ⟨hs, hnodes, hdepth⟩
    subst hs
    exact ⟨(), hnodes, (), hdepth, rfl⟩

theorem parseArgs_eq_ok {map : List (String × Json)} {op path : String} {depth : Nat}
    {s : FilterParseState} {out : List (FilterExpr T) × FilterParseState}
    : parseArgs formats map op path depth s = .ok out
        ↔ ∃ items, map.lookup "args" = some (.arr items) ∧ items ≠ []
          ∧ parseNodes formats items s!"{path}.args" 0 depth s = .ok out := by
  induction map with
  | nil => simp [parseArgs]
  | cons entry map ih =>
    rcases entry with ⟨key, value⟩
    rw [Json.lookup_cons_eq]
    unfold parseArgs
    split
    next hkey =>
      rw [if_pos hkey.symm]
      split
      next => simp
      next node nodes =>
        constructor
        . intro h
          exact ⟨node :: nodes, by rfl, by simp, h⟩
        . intro h
          rcases h with ⟨items, hitems, -, hnodes⟩
          cases hitems
          exact hnodes
      next hnil hcons =>
        constructor
        . intro h
          cases h
        . intro h
          rcases h with ⟨items, hitems, hne, -⟩
          cases hitems
          cases items with
          | nil => exact absurd rfl hne
          | cons node nodes => exact absurd rfl (hcons node nodes)
    next hkey =>
      rw [if_neg (Ne.symm hkey)]
      exact ih

theorem parseChild_eq_ok {map : List (String × Json)} {path : String} {depth : Nat}
    {s : FilterParseState} {out : FilterExpr T × FilterParseState}
    : parseChild formats map path depth s = .ok out
        ↔ ∃ item, map.lookup "expr" = some item
          ∧ parseExpr formats item s!"{path}.expr" (depth + 1) s = .ok out := by
  induction map with
  | nil => simp [parseChild]
  | cons entry map ih =>
    rcases entry with ⟨key, value⟩
    rw [Json.lookup_cons_eq]
    unfold parseChild
    split
    next hkey =>
      rw [if_pos hkey.symm]
      simp
    next hkey =>
      rw [if_neg (Ne.symm hkey)]
      exact ih

-- What a node is that `parseExpr` reads.
inductive Reads (formats : FilterFormats T) (map : List (String × Json)) (path : String)
    (depth : Nat) (s : FilterParseState) : FilterExpr T → FilterParseState → Prop where
  | and (hop : map.lookup "op" = some (.str "and"))
      (h : parseArgs formats map "and" path depth s = .ok (nodes, s'))
      : Reads formats map path depth s (.and nodes) s'
  | or (hop : map.lookup "op" = some (.str "or"))
      (h : parseArgs formats map "or" path depth s = .ok (nodes, s'))
      : Reads formats map path depth s (.or nodes) s'
  | not (hop : map.lookup "op" = some (.str "not"))
      (h : parseChild formats map path depth s = .ok (node, s'))
      : Reads formats map path depth s (.not node) s'
  | leaf (hmem : op ∈ leafOps) (hop : map.lookup "op" = some (.str op))
      (h : parseLeaf formats map op path = .ok e)
      : Reads formats map path depth s e s

theorem parseExpr_eq_ok {value : Json} {path : String} {depth : Nat} {s : FilterParseState}
    {out : FilterExpr T × FilterParseState}
    : parseExpr formats value path depth s = .ok out
        ↔ (s.after 1 depth).Within
          ∧ ∃ map, value = .obj map ∧ Reads formats map path depth (s.after 1 depth) out.1 out.2 := by
  unfold parseExpr
  simp only [Except.bind_eq_ok, validateMetrics_eq_ok]
  constructor
  . intro h
    rcases h with ⟨s', ⟨hs, hwithin⟩, h⟩
    subst hs
    refine ⟨hwithin, ?_⟩
    split at h
    next map =>
      refine ⟨map, rfl, ?_⟩
      simp only [Except.bind_eq_ok, Except.ofOption_eq_ok, Option.bind_eq_some_iff,
        Json.asStr_eq_some] at h
      rcases h with ⟨op, ⟨_, hop, heq⟩, h⟩
      subst heq
      split at h
      next =>
        simp only [Except.bind_eq_ok, Except.pure_eq_ok] at h
        rcases h with ⟨args, hargs, h⟩
        subst h
        exact .and hop hargs
      next =>
        simp only [Except.bind_eq_ok, Except.pure_eq_ok] at h
        rcases h with ⟨args, hargs, h⟩
        subst h
        exact .or hop hargs
      next =>
        simp only [Except.bind_eq_ok, Except.pure_eq_ok] at h
        rcases h with ⟨child, hchild, h⟩
        subst h
        exact .not hop hchild
      -- The eight operations of a leaf, and what is left.
      iterate 8
        next =>
          simp only [Except.bind_eq_ok, Except.pure_eq_ok] at h
          rcases h with ⟨leaf, hleaf, h⟩
          subst h
          exact .leaf (by simp [leafOps]) hop hleaf
      next => cases h
    next => cases h
  . intro h
    rcases h with ⟨hwithin, map, hmap, h⟩
    subst hmap
    rcases out with ⟨e, s'⟩
    refine ⟨s.after 1 depth, ⟨rfl, hwithin⟩, ?_⟩
    generalize s.after 1 depth = s₁ at h
    cases h with
    | and hop h => simp [hop, Except.ofOption, h, bind, Except.bind, pure, Except.pure]
    | or hop h => simp [hop, Except.ofOption, h, bind, Except.bind, pure, Except.pure]
    | not hop h => simp [hop, Except.ofOption, h, bind, Except.bind, pure, Except.pure]
    | leaf hmem hop h =>
      simp only [leafOps, List.mem_cons, List.not_mem_nil, or_false] at hmem
      rcases hmem with hop' | hop' | hop' | hop' | hop' | hop' | hop' | hop'
      all_goals
        subst hop'
        simp [hop, Except.ofOption, h, bind, Except.bind, pure, Except.pure]

theorem reads_of_isLeaf {map : List (String × Json)} {path : String} {depth : Nat}
    {s : FilterParseState} {op : String} {field : FilterField} {value : FilterValue T}
    {e : FilterExpr T} (h : IsLeaf formats (.obj map) op field value)
    (he : ∀ raw, leafExpr formats op path field raw value = .ok e) (hmem : op ∈ leafOps)
    : Reads formats map path depth s e s := by
  rcases parseLeaf_of_isLeaf h path with ⟨raw, hraw⟩
  rw [he] at hraw
  exact .leaf hmem h.1 hraw

theorem reads_leaf_iff {map : List (String × Json)} {path : String} {depth : Nat}
    {s s' : FilterParseState} {e : FilterExpr T} (hleaf : e.isLeaf = true)
    : Reads formats map path depth s e s'
        ↔ Denotes formats (.obj map) e ∧ e.hasIn = false ∧ s' = s := by
  constructor
  . intro h
    cases h with
    | and => cases hleaf
    | or => cases hleaf
    | not => cases hleaf
    | leaf hmem hop h =>
      have hsound := parseLeaf_sound hop h
      exact ⟨hsound.1, hsound.2.1, by rfl⟩
  . intro h
    rcases h with ⟨hdenotes, hin, hs⟩
    subst hs
    cases e with
    | and nodes => cases hleaf
    | or nodes => cases hleaf
    | not node => cases hleaf
    | isIn field values => cases hin
    | eq field value => exact reads_of_isLeaf hdenotes (fun _ => rfl) (by simp [leafOps])
    | neq field value => exact reads_of_isLeaf hdenotes (fun _ => rfl) (by simp [leafOps])
    | contains field value => exact reads_of_isLeaf hdenotes (fun _ => rfl) (by simp [leafOps])
    | gt field value => exact reads_of_isLeaf hdenotes (fun _ => rfl) (by simp [leafOps])
    | gte field value => exact reads_of_isLeaf hdenotes (fun _ => rfl) (by simp [leafOps])
    | lt field value => exact reads_of_isLeaf hdenotes (fun _ => rfl) (by simp [leafOps])
    | lte field value => exact reads_of_isLeaf hdenotes (fun _ => rfl) (by simp [leafOps])

theorem reads_and_iff {map : List (String × Json)} {path : String} {depth : Nat}
    {s s' : FilterParseState} {nodes : List (FilterExpr T)}
    : Reads formats map path depth s (.and nodes) s'
        ↔ map.lookup "op" = some (.str "and")
          ∧ parseArgs formats map "and" path depth s = .ok (nodes, s') := by
  constructor
  . intro h
    cases h with
    | and hop h => exact ⟨hop, h⟩
    | leaf hmem hop h => cases (parseLeaf_sound hop h).2.2
  . intro h
    exact .and h.1 h.2

theorem reads_or_iff {map : List (String × Json)} {path : String} {depth : Nat}
    {s s' : FilterParseState} {nodes : List (FilterExpr T)}
    : Reads formats map path depth s (.or nodes) s'
        ↔ map.lookup "op" = some (.str "or")
          ∧ parseArgs formats map "or" path depth s = .ok (nodes, s') := by
  constructor
  . intro h
    cases h with
    | or hop h => exact ⟨hop, h⟩
    | leaf hmem hop h => cases (parseLeaf_sound hop h).2.2
  . intro h
    exact .or h.1 h.2

theorem reads_not_iff {map : List (String × Json)} {path : String} {depth : Nat}
    {s s' : FilterParseState} {node : FilterExpr T}
    : Reads formats map path depth s (.not node) s'
        ↔ map.lookup "op" = some (.str "not")
          ∧ parseChild formats map path depth s = .ok (node, s') := by
  constructor
  . intro h
    cases h with
    | not hop h => exact ⟨hop, h⟩
    | leaf hmem hop h => cases (parseLeaf_sound hop h).2.2
  . intro h
    exact .not h.1 h.2

/-- What `parseNodes` makes of the nodes, which holds by induction on the expressions. -/
def NodesRead (formats : FilterFormats T) (es : List (FilterExpr T)) : Prop :=
  ∀ (items : List Json) (path : String) (index d : Nat) (s s' : FilterParseState),
    s.Within → d ≤ s.maxDepth →
    (parseNodes formats items path index d s = .ok (es, s')
      ↔ AllDenote formats items es ∧ anyHasIn es = false
        ∧ s' = s.after (nodeCounts es) (d + depths es) ∧ s'.Within)

def ExprRead (formats : FilterFormats T) (e : FilterExpr T) : Prop :=
  ∀ (j : Json) (path : String) (d : Nat) (s s' : FilterParseState),
    parseExpr formats j path (d + 1) s = .ok (e, s')
      ↔ Denotes formats j e ∧ e.hasIn = false ∧ s' = s.after e.nodeCount (d + e.depth) ∧ s'.Within

theorem get_eq_some {j : Json} {field : String} {value : Json} (h : j.get field = some value)
    : ∃ map, j = .obj map := by
  cases j with
  | obj map => exact ⟨map, rfl⟩
  | null => cases h
  | bool b => cases h
  | num n => cases h
  | str s => cases h
  | arr items => cases h

theorem exprRead_leaf {e : FilterExpr T} (hleaf : e.isLeaf = true)
    (hobj : ∀ j, Denotes formats j e → ∃ map, j = .obj map)
    (hcount : e.nodeCount = 1) (hdepth : e.depth = 1) : ExprRead formats e := by
  intro j path d s s'
  rw [parseExpr_eq_ok, hcount, hdepth]
  constructor
  . intro h
    rcases h with ⟨hwithin, map, hmap, hreads⟩
    rw [reads_leaf_iff hleaf] at hreads
    rcases hreads with ⟨hdenotes, hin, hs⟩
    dsimp only at hdenotes hs
    rw [hmap, hs]
    exact ⟨hdenotes, hin, rfl, hwithin⟩
  . intro h
    rcases h with ⟨hdenotes, hin, hs, hwithin⟩
    rcases hobj j hdenotes with ⟨map, hmap⟩
    rw [hmap] at hdenotes
    subst hs
    refine ⟨hwithin, map, hmap, ?_⟩
    rw [reads_leaf_iff hleaf]
    exact ⟨hdenotes, hin, rfl⟩

theorem args_iff {nodes : List (FilterExpr T)} (ih : NodesRead formats nodes)
    {map : List (String × Json)} {op path : String} {d : Nat} {s s' : FilterParseState}
    : (s.after 1 (d + 1)).Within
          ∧ parseArgs formats map op path (d + 1) (s.after 1 (d + 1)) = .ok (nodes, s')
        ↔ (∃ items, map.lookup "args" = some (.arr items) ∧ items ≠ []
              ∧ AllDenote formats items nodes)
          ∧ anyHasIn nodes = false
          ∧ s' = s.after (nodeCounts nodes + 1) (d + (depths nodes + 1)) ∧ s'.Within := by
  have hstate : (s.after 1 (d + 1)).after (nodeCounts nodes) (d + 1 + depths nodes)
      = s.after (nodeCounts nodes + 1) (d + (depths nodes + 1)) := by
    rw [FilterParseState.after_after]
    congr 1
    . omega
    . omega
  have hle : d + 1 ≤ (s.after 1 (d + 1)).maxDepth := le_max_right ..
  rw [parseArgs_eq_ok, ← hstate]
  constructor
  . intro h
    rcases h with ⟨hwithin, items, hitems, hne, hnodes⟩
    rw [ih _ _ _ _ _ _ hwithin hle] at hnodes
    exact ⟨⟨items, hitems, hne, hnodes.1⟩, hnodes.2⟩
  . intro h
    rcases h with ⟨⟨items, hitems, hne, hdenote⟩, hin, hs, hwithin⟩
    have hbefore : (s.after 1 (d + 1)).Within := by
      rw [hs, hstate] at hwithin
      exact hwithin.of_after (by omega) (by omega)
    refine ⟨hbefore, items, hitems, hne, ?_⟩
    rw [ih _ _ _ _ _ _ hbefore hle]
    exact ⟨hdenote, hin, hs, hwithin⟩

theorem exprRead_and {nodes : List (FilterExpr T)} (ih : NodesRead formats nodes)
    : ExprRead formats (.and nodes) := by
  intro j path d s s'
  rw [parseExpr_eq_ok]
  simp only [Denotes, hasIn, nodeCount, depth, reads_and_iff]
  constructor
  . intro h
    rcases h with ⟨hwithin, map, hmap, hop, hargs⟩
    subst hmap
    rcases (args_iff ih).mp ⟨hwithin, hargs⟩ with ⟨hitems, hrest⟩
    exact ⟨⟨hop, hitems⟩, hrest⟩
  . intro h
    rcases h with ⟨⟨hop, hitems⟩, hrest⟩
    rcases get_eq_some hop with ⟨map, hmap⟩
    subst hmap
    rcases (args_iff ih).mpr ⟨hitems, hrest⟩ with ⟨hwithin, hargs⟩
    exact ⟨hwithin, map, rfl, hop, hargs⟩

theorem exprRead_or {nodes : List (FilterExpr T)} (ih : NodesRead formats nodes)
    : ExprRead formats (.or nodes) := by
  intro j path d s s'
  rw [parseExpr_eq_ok]
  simp only [Denotes, hasIn, nodeCount, depth, reads_or_iff]
  constructor
  . intro h
    rcases h with ⟨hwithin, map, hmap, hop, hargs⟩
    subst hmap
    rcases (args_iff ih).mp ⟨hwithin, hargs⟩ with ⟨hitems, hrest⟩
    exact ⟨⟨hop, hitems⟩, hrest⟩
  . intro h
    rcases h with ⟨⟨hop, hitems⟩, hrest⟩
    rcases get_eq_some hop with ⟨map, hmap⟩
    subst hmap
    rcases (args_iff ih).mpr ⟨hitems, hrest⟩ with ⟨hwithin, hargs⟩
    exact ⟨hwithin, map, rfl, hop, hargs⟩

theorem exprRead_not {node : FilterExpr T} (ih : ExprRead formats node)
    : ExprRead formats (.not node) := by
  intro j path d s s'
  rw [parseExpr_eq_ok]
  simp only [Denotes, hasIn, nodeCount, depth, reads_not_iff, parseChild_eq_ok]
  have hstate : (s.after 1 (d + 1)).after node.nodeCount (d + 1 + node.depth)
      = s.after (node.nodeCount + 1) (d + (node.depth + 1)) := by
    rw [FilterParseState.after_after]
    congr 1
    . omega
    . omega
  rw [← hstate]
  constructor
  . intro h
    rcases h with ⟨hwithin, map, hmap, hop, item, hitem, hnode⟩
    subst hmap
    rw [ih] at hnode
    exact ⟨⟨hop, item, hitem, hnode.1⟩, hnode.2⟩
  . intro h
    rcases h with ⟨⟨hop, item, hitem, hdenotes⟩, hin, hs, hwithin⟩
    rcases get_eq_some hop with ⟨map, hmap⟩
    subst hmap
    have hbefore : (s.after 1 (d + 1)).Within := by
      rw [hs, hstate] at hwithin
      apply hwithin.of_after
      . omega
      . omega
    refine ⟨hbefore, map, rfl, hop, item, hitem, ?_⟩
    rw [ih]
    exact ⟨hdenotes, hin, hs, hwithin⟩

theorem nodesRead_nil : NodesRead formats ([] : List (FilterExpr T)) := by
  intro items path index d s s' hs hd
  simp only [AllDenote, anyHasIn, nodeCounts, depths]
  have hstate : s.after 0 (d + 0) = s := by
    simp only [FilterParseState.after]
    congr 1
    omega
  rw [hstate]
  cases items with
  | nil =>
    constructor
    . intro h
      cases h
      exact ⟨rfl, trivial, rfl, hs⟩
    . intro h
      rw [h.2.2.1]
      rfl
  | cons item items =>
    constructor
    . intro h
      unfold parseNodes at h
      simp only [Except.bind_eq_ok, Except.pure_eq_ok] at h
      rcases h with ⟨_, -, _, -, h⟩
      cases h
    . intro h
      cases h.1

theorem nodesRead_cons {e : FilterExpr T} {es : List (FilterExpr T)} (he : ExprRead formats e)
    (hes : NodesRead formats es) : NodesRead formats (e :: es) := by
  intro items path index d s s' hs hd
  simp only [AllDenote, anyHasIn, nodeCounts, depths, Bool.or_eq_false_iff]
  have hstate : (s.after e.nodeCount (d + e.depth)).after (nodeCounts es) (d + depths es)
      = s.after (e.nodeCount + nodeCounts es) (d + max e.depth (depths es)) := by
    rw [FilterParseState.after_after]
    congr 1
    omega
  rw [← hstate]
  cases items with
  | nil =>
    constructor
    . intro h
      cases h
    . intro h
      rcases h with ⟨⟨item, rest, hitems, -⟩, -⟩
      cases hitems
  | cons item items =>
    unfold parseNodes
    simp only [Except.bind_eq_ok, Except.pure_eq_ok]
    have hd' : d ≤ (s.after e.nodeCount (d + e.depth)).maxDepth := by
      apply le_trans hd
      apply le_max_left
    constructor
    . intro h
      rcases h with ⟨⟨e₁, s₁⟩, hfirst, ⟨es₁, s₂⟩, hrest, h⟩
      dsimp only at hrest h
      cases h
      rw [he] at hfirst
      rcases hfirst with ⟨hdenotes, hin, hs₁, hwithin⟩
      subst hs₁
      rw [hes _ _ _ _ _ _ hwithin hd'] at hrest
      exact ⟨⟨item, items, rfl, hdenotes, hrest.1⟩, ⟨hin, hrest.2.1⟩, hrest.2.2⟩
    . intro h
      rcases h with ⟨⟨_, _, hitems, hdenotes, hdenote⟩, hin, hs', hwithin⟩
      cases hitems
      have hbefore : (s.after e.nodeCount (d + e.depth)).Within := by
        rw [hs', hstate] at hwithin
        apply hwithin.of_after
        . omega
        . omega
      refine ⟨(e, s.after e.nodeCount (d + e.depth)), ?_, (es, s'), ?_, by rfl⟩
      . rw [he]
        exact ⟨hdenotes, hin.1, rfl, hbefore⟩
      . rw [hes _ _ _ _ _ _ hbefore hd']
        exact ⟨hdenote, hin.2, hs', hwithin⟩

mutual

theorem exprRead (e : FilterExpr T) : ExprRead formats e := by
  match e with
  | .and nodes => exact exprRead_and (nodesRead nodes)
  | .or nodes => exact exprRead_or (nodesRead nodes)
  | .not node => exact exprRead_not (exprRead node)
  | .eq field value =>
    exact exprRead_leaf (by rfl) (fun j h => get_eq_some h.1) (by rfl) (by rfl)
  | .neq field value =>
    exact exprRead_leaf (by rfl) (fun j h => get_eq_some h.1) (by rfl) (by rfl)
  | .isIn field values =>
    exact exprRead_leaf (by rfl) (fun j h => get_eq_some h.1) (by rfl) (by rfl)
  | .contains field value =>
    exact exprRead_leaf (by rfl) (fun j h => get_eq_some h.1) (by rfl) (by rfl)
  | .gt field value =>
    exact exprRead_leaf (by rfl) (fun j h => get_eq_some h.1) (by rfl) (by rfl)
  | .gte field value =>
    exact exprRead_leaf (by rfl) (fun j h => get_eq_some h.1) (by rfl) (by rfl)
  | .lt field value =>
    exact exprRead_leaf (by rfl) (fun j h => get_eq_some h.1) (by rfl) (by rfl)
  | .lte field value =>
    exact exprRead_leaf (by rfl) (fun j h => get_eq_some h.1) (by rfl) (by rfl)

theorem nodesRead (es : List (FilterExpr T)) : NodesRead formats es := by
  match es with
  | [] => exact nodesRead_nil
  | e :: es => exact nodesRead_cons (exprRead e) (nodesRead es)

end

end FilterExpr

/-! ## Filters -/

theorem within_iff (e : FilterExpr T)
    : ((⟨0, 0⟩ : FilterParseState).after e.nodeCount (0 + e.depth)).Within ↔ e.WithinLimits := by
  simp [FilterParseState.Within, FilterParseState.after, FilterExpr.WithinLimits]

theorem SearchFilter.parse_eq_ok {formats : FilterFormats T} {raw : Json} {f : SearchFilter T}
    : SearchFilter.parse formats raw = .ok f
        ↔ SearchFilter.Denotes formats raw f.expr ∧ f.expr.hasIn = false
          ∧ f.json = SearchFilter.envelope (f.expr.toValue formats) := by
  unfold SearchFilter.parse SearchFilter.Denotes
  simp only [Except.bind_eq_ok, Except.rejectIf_eq_ok, Except.ofOption_eq_ok, Except.pure_eq_ok,
    Option.bind_eq_some_iff, Json.asStr_eq_some, decide_eq_false_iff_not, not_not]
  constructor
  . intro h
    rcases h with ⟨_, -, schema, ⟨_, hschema, heq⟩, _, hversion, expr, hexpr, ⟨e, s⟩, hparse, h⟩
    subst heq hversion h
    rw [FilterExpr.exprRead e] at hparse
    rcases hparse with ⟨hdenotes, hin, hs, hwithin⟩
    rw [hs, within_iff] at hwithin
    exact ⟨⟨hschema, ⟨expr, hexpr, hdenotes⟩, hwithin⟩, hin, rfl⟩
  . intro h
    rcases h with ⟨⟨hschema, ⟨expr, hexpr, hdenotes⟩, hlimits⟩, hin, hjson⟩
    rcases FilterExpr.get_eq_some hschema with ⟨map, hmap⟩
    refine ⟨(), by rw [hmap]; rfl, _, ⟨_, hschema, rfl⟩, (), rfl, expr, hexpr,
      (f.expr, (⟨0, 0⟩ : FilterParseState).after f.expr.nodeCount (0 + f.expr.depth)), ?_, ?_⟩
    . rw [FilterExpr.exprRead f.expr]
      exact ⟨hdenotes, hin, rfl, (within_iff f.expr).mpr hlimits⟩
    . rw [← hjson]

end Elf
