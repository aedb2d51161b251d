import Elf.Search.Lemmas.FilterParser

/-!
This module contains the round trip of the filter language: every expression without an `in` node is
read back from what it is written as, and no expression with one is read at all.
-/

namespace Elf

variable {T : Type}

/-! ## A JSON value stands for one expression -/

theorem FilterField.asStr_inj {a b : FilterField} (h : a.asStr = b.asStr) : a = b := by
  cases a <;> cases b <;> first | rfl | simp [FilterField.asStr] at h

theorem FilterFormats.denotes_unique {formats : FilterFormats T} {field : FilterField}
    {raw : Json} {v w : FilterValue T} (hv : formats.Denotes field raw v)
    (hw : formats.Denotes field raw w) : w = v := by
  have hv' : formats.parseValue field raw "" = .ok v := parseValue_eq_ok.mpr hv
  have hw' : formats.parseValue field raw "" = .ok w := parseValue_eq_ok.mpr hw
  rw [hv'] at hw'
  cases hw'
  rfl

namespace FilterExpr

variable {formats : FilterFormats T}

def opName : FilterExpr T → String
  | .and _ => "and"
  | .or _ => "or"
  | .not _ => "not"
  | .eq .. => "eq"
  | .neq .. => "neq"
  | .isIn .. => "in"
  | .contains .. => "contains"
  | .gt .. => "gt"
  | .gte .. => "gte"
  | .lt .. => "lt"
  | .lte .. => "lte"

theorem Denotes.op {j : Json} {e : FilterExpr T} (h : Denotes formats j e)
    : j.get "op" = some (.str e.opName) := by
  cases e with
  | and | or | not | isIn | eq | neq | contains | gt | gte | lt | lte => exact h.1

theorem field_unique {j : Json} {a b : FilterField}
    (ha : ∃ raw, j.get "field" = some raw ∧ FilterField.Names raw a)
    (hb : ∃ raw, j.get "field" = some raw ∧ FilterField.Names raw b) : b = a := by
  rcases ha with ⟨raw, hraw, name, hname, ha⟩
  rcases hb with ⟨raw', hraw', name', hname', hb⟩
  rw [hraw, hname] at hraw'
  cases hraw'
  cases hname'
  exact FilterField.asStr_inj (hb.symm.trans ha)

theorem args_unique {j : Json} {nodes nodes' : List (FilterExpr T)}
    (hunique : ∀ {items : List Json}, AllDenote formats items nodes →
      AllDenote formats items nodes' → nodes' = nodes)
    (h : ∃ items, j.get "args" = some (.arr items) ∧ items ≠ [] ∧ AllDenote formats items nodes)
    (h' : ∃ items, j.get "args" = some (.arr items) ∧ items ≠ []
      ∧ AllDenote formats items nodes')
    : nodes' = nodes := by
  rcases h with ⟨items, hitems, -, hnodes⟩
  rcases h' with ⟨items', hitems', -, hnodes'⟩
  rw [hitems] at hitems'
  cases hitems'
  exact hunique hnodes hnodes'

theorem isLeaf_unique {j : Json} {op : String} {a b : FilterField} {v w : FilterValue T}
    (hv : IsLeaf formats j op a v) (hw : IsLeaf formats j op b w) : b = a ∧ w = v := by
  have hfield := field_unique hv.2.1 hw.2.1
  subst hfield
  rcases hv.2.2 with ⟨raw, hraw, hv⟩
  rcases hw.2.2 with ⟨raw', hraw', hw⟩
  rw [hraw] at hraw'
  cases hraw'
  exact ⟨rfl, FilterFormats.denotes_unique hv hw⟩

mutual

theorem denotes_unique (e : FilterExpr T) {e' : FilterExpr T} {j : Json}
    (h : Denotes formats j e) (h' : Denotes formats j e') : e' = e := by
  have hop := h.op.symm.trans h'.op
  match e with
  | .and nodes =>
    cases e' with
    | and nodes' => rw [args_unique (allDenote_unique nodes) h.2 h'.2]
    | _ => simp [opName] at hop
  | .or nodes =>
    cases e' with
    | or nodes' => rw [args_unique (allDenote_unique nodes) h.2 h'.2]
    | _ => simp [opName] at hop
  | .not node =>
    cases e' with
    | not node' =>
      rcases h.2 with ⟨item, hitem, hnode⟩
      rcases h'.2 with ⟨item', hitem', hnode'⟩
      rw [hitem] at hitem'
      cases hitem'
      rw [denotes_unique node hnode hnode']
    | _ => simp [opName] at hop
  | .isIn field values =>
    cases e' with
    | isIn field' values' =>
      rcases h.2 with ⟨hfield, items, hitems, -, hvalues⟩
      rcases h'.2 with ⟨hfield', items', hitems', -, hvalues'⟩
      have heq := field_unique hfield hfield'
      subst heq
      rw [hitems] at hitems'
      cases hitems'
      have hunique : Relator.RightUnique (formats.Denotes field') := fun _ _ _ hv hw =>
        (FilterFormats.denotes_unique hv hw).symm
      rw [hunique.forall₂ hvalues hvalues']
    | _ => simp [opName] at hop
  | .eq field value =>
    cases e' with
    | eq field' value' =>
      rcases isLeaf_unique h h' with ⟨rfl, rfl⟩
      rfl
    | _ => simp [opName] at hop
  | .neq field value =>
    cases e' with
    | neq field' value' =>
      rcases isLeaf_unique h h' with ⟨rfl, rfl⟩
      rfl
    | _ => simp [opName] at hop
  | .contains field value =>
    cases e' with
    | contains field' value' =>
      rcases isLeaf_unique h h' with ⟨rfl, hvalue⟩
      cases hvalue
      rfl
    | _ => simp [opName] at hop
  | .gt field value =>
    cases e' with
    | gt field' value' =>
      rcases isLeaf_unique h h' with ⟨rfl, rfl⟩
      rfl
    | _ => simp [opName] at hop
  | .gte field value =>
    cases e' with
    | gte field' value' =>
      rcases isLeaf_unique h h' with ⟨rfl, rfl⟩
      rfl
    | _ => simp [opName] at hop
  | .lt field value =>
    cases e' with
    | lt field' value' =>
      rcases isLeaf_unique h h' with ⟨rfl, rfl⟩
      rfl
    | _ => simp [opName] at hop
  | .lte field value =>
    cases e' with
    | lte field' value' =>
      rcases isLeaf_unique h h' with ⟨rfl, rfl⟩
      rfl
    | _ => simp [opName] at hop

theorem allDenote_unique (es : List (FilterExpr T)) {es' : List (FilterExpr T)}
    {items : List Json} (h : AllDenote formats items es) (h' : AllDenote formats items es')
    : es' = es := by
  match es with
  | [] =>
    cases es' with
    | nil => rfl
    | cons e' es' =>
      rcases h' with ⟨item, rest, hitems, -⟩
      rw [h] at hitems
      cases hitems
  | e :: es =>
    rcases h with ⟨item, rest, hitems, hitem, hrest⟩
    subst hitems
    cases es' with
    | nil => cases h'
    | cons e' es' =>
      rcases h' with ⟨item', rest', hitems', hitem', hrest'⟩
      cases hitems'
      rw [denotes_unique e hitem hitem', allDenote_unique es hrest hrest']

end

end FilterExpr

theorem SearchFilter.denotes_unique {formats : FilterFormats T} {raw : Json}
    {e e' : FilterExpr T} (h : SearchFilter.Denotes formats raw e)
    (h' : SearchFilter.Denotes formats raw e') : e' = e := by
  rcases h.2.1 with ⟨j, hj, h⟩
  rcases h'.2.1 with ⟨j', hj', h'⟩
  rw [hj] at hj'
  cases hj'
  exact FilterExpr.denotes_unique e h h'

/-! ## What is written is read -/

theorem FilterField.names_asStr (field : FilterField)
    : FilterField.Names (.str field.asStr) field := by
  refine ⟨field.asStr, rfl, ?_⟩
  cases field <;> decide +kernel

variable {formats : FilterFormats T}

theorem FilterFormats.Typed.denotes (hformats : formats.Lawful) {field : FilterField}
    {value : FilterValue T} (h : formats.Typed field value)
    : formats.Denotes field (formats.valueToJson value) value := by
  cases value with
  | null => exact ⟨h, rfl⟩
  | string s => exact ⟨h.1, rfl, h.2⟩
  | number q => exact ⟨h.1, q, rfl, h.2⟩
  | dateTime t =>
    rcases h with ⟨hfield, text, htext⟩
    rcases hformats.parse_format text t htext with ⟨s, hs, hparse, hsize⟩
    refine ⟨hfield, s, ?_, hsize, hparse⟩
    simp [valueToJson, hs]

namespace FilterExpr

theorem toValues_ne_nil {nodes : List (FilterExpr T)} (h : nodes ≠ [])
    : toValues formats nodes ≠ [] := by
  cases nodes with
  | nil => exact absurd rfl h
  | cons node nodes => simp [toValues]

theorem isLeaf_toValue (hformats : formats.Lawful) {op : String} {field : FilterField}
    {value : FilterValue T} (h : formats.Typed field value)
    : IsLeaf formats (leafToValue op field (formats.valueToJson value)) op field value :=
  ⟨rfl, ⟨.str field.asStr, rfl, field.names_asStr⟩, formats.valueToJson value, rfl,
    h.denotes hformats⟩

mutual

theorem WellTyped.denotes (hformats : formats.Lawful) (e : FilterExpr T) (h : e.WellTyped formats)
    : Denotes formats (e.toValue formats) e := by
  match e with
  | .and nodes =>
    simp only [WellTyped] at h
    refine ⟨rfl, toValues formats nodes, rfl, ?_, AllWellTyped.denotes hformats nodes h.2⟩
    exact toValues_ne_nil h.1
  | .or nodes =>
    simp only [WellTyped] at h
    refine ⟨rfl, toValues formats nodes, rfl, ?_, AllWellTyped.denotes hformats nodes h.2⟩
    exact toValues_ne_nil h.1
  | .not node => exact ⟨rfl, node.toValue formats, rfl, WellTyped.denotes hformats node h⟩
  | .isIn field values =>
    simp only [WellTyped] at h
    refine ⟨rfl, ⟨.str field.asStr, rfl, field.names_asStr⟩, _, rfl, ?_, ?_⟩
    . rw [List.length_map]
      exact h.1
    . rw [List.forall₂_map_left_iff, List.forall₂_same]
      intro value hvalue
      exact (h.2 value hvalue).denotes hformats
  | .contains field value => exact isLeaf_toValue hformats h
  | .eq field value => exact isLeaf_toValue hformats h
  | .neq field value => exact isLeaf_toValue hformats h
  | .gt field value => exact isLeaf_toValue hformats h
  | .gte field value => exact isLeaf_toValue hformats h
  | .lt field value => exact isLeaf_toValue hformats h
  | .lte field value => exact isLeaf_toValue hformats h

theorem AllWellTyped.denotes (hformats : formats.Lawful) (es : List (FilterExpr T)) (h : AllWellTyped formats es)
    : AllDenote formats (toValues formats es) es := by
  match es with
  | [] => rfl
  | e :: es => exact ⟨_, _, rfl, WellTyped.denotes hformats e h.1,
    AllWellTyped.denotes hformats es h.2⟩

end

end FilterExpr

/-- A filter expression is read back from what it is written as exactly when it has no `in` node,
and a JSON filter is accepted exactly when it is an expression of the language, unless that
expression has an `in` node. -/
theorem filter_language (formats : FilterFormats T) (hformats : formats.Lawful)
    : (∀ e : FilterExpr T, e.WellTyped formats → e.WithinLimits →
        ((∃ f, SearchFilter.parse formats (SearchFilter.envelope (e.toValue formats)) = .ok f
            ∧ f.expr = e)
          ↔ e.hasIn = false))
      ∧ ∀ raw,
        ((∃ f, SearchFilter.parse formats raw = .ok f)
            ↔ ∃ e, SearchFilter.Denotes formats raw e)
          ↔ ∀ e, SearchFilter.Denotes formats raw e → e.hasIn = false := by
  constructor
  . intro e htyped hlimits
    have hdenotes : SearchFilter.Denotes formats (SearchFilter.envelope (e.toValue formats)) e :=
      ⟨rfl, ⟨e.toValue formats, rfl, FilterExpr.WellTyped.denotes hformats e htyped⟩, hlimits⟩
    constructor
    . intro h
      rcases h with ⟨f, hf, he⟩
      rw [SearchFilter.parse_eq_ok, he] at hf
      exact hf.2.1
    . intro hin
      refine ⟨⟨e, SearchFilter.envelope (e.toValue formats)⟩, ?_, rfl⟩
      rw [SearchFilter.parse_eq_ok]
      exact ⟨hdenotes, hin, rfl⟩
  . intro raw
    constructor
    . intro h e he
      rcases h.mpr ⟨e, he⟩ with ⟨f, hf⟩
      rw [SearchFilter.parse_eq_ok] at hf
      rw [← SearchFilter.denotes_unique he hf.1]
      exact hf.2.1
    . intro h
      constructor
      . intro haccepted
        rcases haccepted with ⟨f, hf⟩
        rw [SearchFilter.parse_eq_ok] at hf
        exact ⟨f.expr, hf.1⟩
      . intro hexpr
        rcases hexpr with ⟨e, he⟩
        refine ⟨⟨e, SearchFilter.envelope (e.toValue formats)⟩, ?_⟩
        rw [SearchFilter.parse_eq_ok]
        exact ⟨he, h e he, rfl⟩

/-! ## One filter of each kind -/

def sampleFormats : FilterFormats Nat where
  asF64 := id
  parseRfc3339 text := if text = "2026-01-02T03:04:05Z" then some 1767323045 else none
  formatRfc3339 t := if t = 1767323045 then some "2026-01-02T03:04:05Z" else none

theorem lawful_sampleFormats : sampleFormats.Lawful where
  asF64_asF64 _ := rfl
  parse_format text t h := by
    simp only [sampleFormats] at *
    split at h
    next htext =>
      cases h
      exact ⟨"2026-01-02T03:04:05Z", by simp, by simp, by decide +kernel⟩
    next => cases h

def sampleExpr : FilterExpr Nat :=
  .and [.eq .scope (.string "project_shared"), .not (.gte .updatedAt (.dateTime 1767323045))]

theorem filter_language_sampleFormats
    : (∃ f, SearchFilter.parse sampleFormats
          (SearchFilter.envelope (sampleExpr.toValue sampleFormats)) = .ok f
        ∧ f.expr = sampleExpr)
      ↔ sampleExpr.hasIn = false := by
  apply (filter_language sampleFormats lawful_sampleFormats).1 sampleExpr
  . refine ⟨by simp, ⟨by simp, by decide +kernel⟩, ⟨by simp, "2026-01-02T03:04:05Z", by rfl⟩, ?_⟩
    trivial
  . decide

def sampleIn : FilterExpr Nat := .isIn .scope [.string "project_shared"]

theorem not_accepted_sampleIn
    : ¬ ((∃ f, SearchFilter.parse sampleFormats
            (SearchFilter.envelope (sampleIn.toValue sampleFormats)) = .ok f)
        ↔ ∃ e, SearchFilter.Denotes sampleFormats
            (SearchFilter.envelope (sampleIn.toValue sampleFormats)) e) := by
  intro h
  have htyped : sampleIn.WellTyped sampleFormats := by
    simp only [sampleIn, FilterExpr.WellTyped, List.mem_singleton, forall_eq]
    exact ⟨by decide, by simp, by decide +kernel⟩
  rcases h.mpr ⟨sampleIn, rfl, ⟨_, rfl, htyped.denotes lawful_sampleFormats sampleIn⟩, by decide⟩
    with ⟨f, hf⟩
  have herror : (SearchFilter.parse sampleFormats
      (SearchFilter.envelope (sampleIn.toValue sampleFormats))).isOk = false := by
    decide +kernel
  rw [hf] at herror
  cases herror

end Elf
