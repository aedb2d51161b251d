import Elf.Lib.Json
import Elf.Lib.Transaction

/-!
This module contains the filter language of a search: expressions over the fields of a note, how
they are read from JSON and how they are written back, and the language as a relation between JSON and
expressions, with its typing and its limits.
-/

namespace Elf

inductive FilterField where
  | type
  | key
  | scope
  | agentId
  | importance
  | confidence
  | updatedAt
  | expiresAt
  | hitCount
  | lastHitAt
deriving DecidableEq

-- A number is the rational number that the float denotes.
inductive FilterValue (T : Type) where
  | string (value : String)
  | number (value : ℚ)
  | dateTime (value : T)
  | null
deriving DecidableEq

inductive FilterExpr (T : Type) where
  | and (nodes : List (FilterExpr T))
  | or (nodes : List (FilterExpr T))
  | not (node : FilterExpr T)
  | eq (field : FilterField) (value : FilterValue T)
  | neq (field : FilterField) (value : FilterValue T)
  | isIn (field : FilterField) (values : List (FilterValue T))
  | contains (field : FilterField) (value : String)
  | gt (field : FilterField) (value : FilterValue T)
  | gte (field : FilterField) (value : FilterValue T)
  | lt (field : FilterField) (value : FilterValue T)
  | lte (field : FilterField) (value : FilterValue T)

/-- What the filters take from other libraries: the nearest float of a number, and how date-times
are read and written. -/
structure FilterFormats (T : Type) where
  asF64 : ℚ → ℚ
  parseRfc3339 : String → Option T
  formatRfc3339 : T → Option String

def searchFilterExprSchemaV1 : String := "search_filter_expr/v1"
def maxFilterDepth : Nat := 8
def maxFilterNodes : Nat := 128
def maxInListItems : Nat := 128
def maxStringBytes : Nat := 512

structure FilterParseError where
  path : String
  message : String
deriving DecidableEq

structure FilterParseState where
  nodes : Nat
  maxDepth : Nat

namespace FilterField

def asStr : FilterField → String
  | type => "type"
  | key => "key"
  | scope => "scope"
  | agentId => "agent_id"
  | importance => "importance"
  | confidence => "confidence"
  | updatedAt => "updated_at"
  | expiresAt => "expires_at"
  | hitCount => "hit_count"
  | lastHitAt => "last_hit_at"

-- `toLower` changes the ASCII letters only.
def parse (path : String) (raw : Json) : Except FilterParseError FilterField := do
  let field ← Except.ofOption ⟨path, "filter field must be a string."⟩ raw.asStr
  match field.toLower with
  | "type" => .ok type
  | "key" => .ok key
  | "scope" => .ok scope
  | "agent_id" => .ok agentId
  | "importance" => .ok importance
  | "confidence" => .ok confidence
  | "updated_at" => .ok updatedAt
  | "expires_at" => .ok expiresAt
  | "hit_count" => .ok hitCount
  | "last_hit_at" => .ok lastHitAt
  | field => .error ⟨path, s!"field '{field}' is not in allowlist: type, key, scope, agent_id, importance, confidence, updated_at, expires_at, hit_count, last_hit_at"⟩

end FilterField

variable {T : Type}

/-! ## Values -/

def parseFilterString (path : String) (raw : Json) : Except FilterParseError String := do
  let value ← Except.ofOption ⟨path, "string value expected."⟩ raw.asStr
  Except.rejectIf (maxStringBytes < value.utf8ByteSize)
    ⟨path, s!"string value exceeds maximum bytes ({maxStringBytes})."⟩
  return value

def FilterFormats.parseDateTime (formats : FilterFormats T) (path : String) (raw : Json)
    : Except FilterParseError (FilterValue T) := do
  let text ← parseFilterString path raw
  match formats.parseRfc3339 text with
  | some value => .ok (.dateTime value)
  | none => .error ⟨path, "datetime value must be RFC3339."⟩

def FilterFormats.parseValue (formats : FilterFormats T) (field : FilterField) (raw : Json)
    (path : String) : Except FilterParseError (FilterValue T) :=
  match field with
  | .type | .key | .scope | .agentId =>
    if field = .key ∧ raw.isNull then .ok .null
    else (parseFilterString path raw).map .string
  | .importance | .confidence | .hitCount => do
    let value ← Except.ofOption ⟨path, "numeric value expected."⟩ raw.asNum
    return .number (formats.asF64 value)
  | .updatedAt => formats.parseDateTime path raw
  | .expiresAt | .lastHitAt =>
    if raw.isNull then .ok .null else formats.parseDateTime path raw

def FilterFormats.valueToJson (formats : FilterFormats T) : FilterValue T → Json
  | .string value => .str value
  | .number value => .num value
  | .dateTime value => .str ((formats.formatRfc3339 value).getD "")
  | .null => .null

/-! ## Expressions -/

namespace FilterExpr

def validateMetrics (path : String) (depth : Nat) (state : FilterParseState)
    : Except FilterParseError FilterParseState := do
  let state : FilterParseState := ⟨state.nodes + 1, max state.maxDepth depth⟩
  Except.rejectIf (maxFilterNodes < state.nodes)
    ⟨path, s!"filter exceeds node limit ({state.nodes}/{maxFilterNodes})"⟩
  Except.rejectIf (maxFilterDepth < state.maxDepth)
    ⟨path, s!"filter exceeds depth limit ({state.maxDepth}/{maxFilterDepth})"⟩
  return state

def parseItems (formats : FilterFormats T) (field : FilterField) (path : String)
    : Nat → List Json → Except FilterParseError (List (FilterValue T))
  | _, [] => .ok []
  | index, raw :: items => do
    let value ← formats.parseValue field raw s!"{path}[{index}]"
    let values ← parseItems formats field path (index + 1) items
    return value :: values

def parseInValues (formats : FilterFormats T) (field : FilterField) (value : Json)
    (path : String) : Except FilterParseError (List (FilterValue T)) := do
  let values ← Except.ofOption ⟨path, "in value must be an array."⟩ value.asArr
  Except.rejectIf (maxInListItems < values.length)
    ⟨path, s!"in list exceeds maximum size ({values.length}/{maxInListItems})"⟩
  parseItems formats field path 0 values

-- What `parseLeaf` makes of a field and a value that were read.
def leafExpr (formats : FilterFormats T) (op path : String) (field : FilterField)
    (valueRaw : Json) (value : FilterValue T) : Except FilterParseError (FilterExpr T) :=
  match op with
  | "eq" => .ok (eq field value)
  | "neq" => .ok (neq field value)
  | "contains" =>
    match value with
    | .string value => .ok (contains field value)
    | _ => .error ⟨s!"{path}.value", "contains requires a string value."⟩
  | "gt" => .ok (gt field value)
  | "gte" => .ok (gte field value)
  | "lt" => .ok (lt field value)
  | "lte" => .ok (lte field value)
  | "in" => do
    let values ← parseInValues formats field valueRaw s!"{path}.value"
    return isIn field values
  | op => .error ⟨path, s!"unsupported leaf op '{op}'."⟩

def parseLeaf (formats : FilterFormats T) (raw : List (String × Json)) (op path : String)
    : Except FilterParseError (FilterExpr T) := do
  let fieldRaw ← Except.ofOption
    ⟨s!"{path}.field", "op node is missing required field 'field'."⟩ (raw.lookup "field")
  let field ← FilterField.parse s!"{path}.field" fieldRaw
  let valueRaw ← Except.ofOption
    ⟨s!"{path}.value", "op node is missing required field 'value'."⟩ (raw.lookup "value")
  -- The list of an `in` node is read as a single value first.
  let value ← formats.parseValue field valueRaw s!"{path}.value"
  leafExpr formats op path field valueRaw value

mutual

def parseExpr (formats : FilterFormats T) (value : Json) (path : String) (depth : Nat)
    (state : FilterParseState) : Except FilterParseError (FilterExpr T × FilterParseState) := do
  let state ← validateMetrics path depth state
  match value with
  | .obj map =>
    let op ← Except.ofOption ⟨path, "filter node is missing required string op."⟩
      ((map.lookup "op").bind Json.asStr)
    match op with
    | "and" => do
      let (args, state) ← parseArgs formats map op path depth state
      return (.and args, state)
    | "or" => do
      let (args, state) ← parseArgs formats map op path depth state
      return (.or args, state)
    | "not" => do
      let (child, state) ← parseChild formats map path depth state
      return (.not child, state)
    | "in" | "eq" | "neq" | "gt" | "gte" | "lt" | "lte" | "contains" => do
      let leaf ← parseLeaf formats map op path
      return (leaf, state)
    | _ => .error ⟨path, s!"unsupported filter op '{op}'."⟩
  | _ => .error ⟨path, "filter node must be an object."⟩

-- The nodes under the first entry `args`.
def parseArgs (formats : FilterFormats T) (map : List (String × Json)) (op path : String)
    (depth : Nat) (state : FilterParseState)
    : Except FilterParseError (List (FilterExpr T) × FilterParseState) :=
  match map with
  | [] => .error ⟨s!"{path}.args", s!"{op} node requires args."⟩
  | (key, value) :: map =>
    if key = "args" then
      match value with
      | .arr [] => .error ⟨s!"{path}.args", "op args must contain at least one node."⟩
      | .arr (node :: nodes) => parseNodes formats (node :: nodes) s!"{path}.args" 0 depth state
      | _ => .error ⟨s!"{path}.args", "op args must be an array."⟩
    else
      parseArgs formats map op path depth state

def parseNodes (formats : FilterFormats T) (nodes : List Json) (path : String) (index depth : Nat)
    (state : FilterParseState)
    : Except FilterParseError (List (FilterExpr T) × FilterParseState) :=
  match nodes with
  | [] => .ok ([], state)
  | node :: nodes => do
    let (expr, state) ← parseExpr formats node s!"{path}[{index}]" (depth + 1) state
    let (exprs, state) ← parseNodes formats nodes path (index + 1) depth state
    return (expr :: exprs, state)

-- The node under the first entry `expr`.
def parseChild (formats : FilterFormats T) (map : List (String × Json)) (path : String)
    (depth : Nat) (state : FilterParseState)
    : Except FilterParseError (FilterExpr T × FilterParseState) :=
  match map with
  | [] => .error ⟨s!"{path}.expr", "not node requires expr."⟩
  | (key, value) :: map =>
    if key = "expr" then parseExpr formats value s!"{path}.expr" (depth + 1) state
    else parseChild formats map path depth state

end

def leafToValue (op : String) (field : FilterField) (value : Json) : Json :=
  .obj [("field", .str field.asStr), ("op", .str op), ("value", value)]

mutual

def toValue (formats : FilterFormats T) : FilterExpr T → Json
  | .and exprs => .obj [("args", .arr (toValues formats exprs)), ("op", .str "and")]
  | .or exprs => .obj [("args", .arr (toValues formats exprs)), ("op", .str "or")]
  | .not expr => .obj [("expr", expr.toValue formats), ("op", .str "not")]
  | .eq field value => leafToValue "eq" field (formats.valueToJson value)
  | .neq field value => leafToValue "neq" field (formats.valueToJson value)
  | .isIn field values => leafToValue "in" field (.arr (values.map formats.valueToJson))
  | .contains field value => leafToValue "contains" field (.str value)
  | .gt field value => leafToValue "gt" field (formats.valueToJson value)
  | .gte field value => leafToValue "gte" field (formats.valueToJson value)
  | .lt field value => leafToValue "lt" field (formats.valueToJson value)
  | .lte field value => leafToValue "lte" field (formats.valueToJson value)

def toValues (formats : FilterFormats T) : List (FilterExpr T) → List Json
  | [] => []
  | expr :: exprs => expr.toValue formats :: toValues formats exprs

end

end FilterExpr

/-! ## The envelope -/

structure SearchFilter (T : Type) where
  expr : FilterExpr T
  json : Json

namespace SearchFilter

def envelope (expr : Json) : Json :=
  .obj [("expr", expr), ("schema", .str searchFilterExprSchemaV1)]

def parse (formats : FilterFormats T) (raw : Json)
    : Except FilterParseError (SearchFilter T) := do
  Except.rejectIf (!raw.isObject) ⟨"$.filter", "filter must be an object."⟩
  let schema ← Except.ofOption ⟨"$.filter.schema", "filter.schema is required."⟩
    ((raw.get "schema").bind Json.asStr)
  Except.rejectIf (schema ≠ searchFilterExprSchemaV1)
    ⟨"$.filter.schema",
      s!"unsupported filter schema '{schema}', expected '{searchFilterExprSchemaV1}'."⟩
  let expr ← Except.ofOption ⟨"$.filter.expr", "filter.expr is required."⟩ (raw.get "expr")
  let (parsed, _) ← FilterExpr.parseExpr formats expr "$.filter.expr" 1 ⟨0, 0⟩
  return ⟨parsed, envelope (parsed.toValue formats)⟩

end SearchFilter

/-! ## The language as a relation -/

variable {T : Type}

namespace FilterField

@[simp]
def IsText (field : FilterField) : Prop :=
  field = type ∨ field = key ∨ field = scope ∨ field = agentId

@[simp]
def IsNumeric (field : FilterField) : Prop :=
  field = importance ∨ field = confidence ∨ field = hitCount

@[simp]
def IsDateTime (field : FilterField) : Prop :=
  field = updatedAt ∨ field = expiresAt ∨ field = lastHitAt

@[simp]
def IsNullable (field : FilterField) : Prop :=
  field = key ∨ field = expiresAt ∨ field = lastHitAt

/-- `raw` is the name of the field, up to the case of its letters. -/
def Names (raw : Json) (field : FilterField) : Prop :=
  ∃ name, raw = .str name ∧ name.toLower = field.asStr

end FilterField

namespace FilterFormats

/-- A float is its own nearest float, and a date-time that was read is written as a short text that
reads as that date-time. -/
structure Lawful (formats : FilterFormats T) : Prop where
  asF64_asF64 : ∀ q, formats.asF64 (formats.asF64 q) = formats.asF64 q
  parse_format : ∀ text t, formats.parseRfc3339 text = some t →
    ∃ s, formats.formatRfc3339 t = some s ∧ formats.parseRfc3339 s = some t
      ∧ s.utf8ByteSize ≤ maxStringBytes

variable (formats : FilterFormats T)

/-- `value` is a value of the field. -/
def Typed (field : FilterField) : FilterValue T → Prop
  | .null => field.IsNullable
  | .string s => field.IsText ∧ s.utf8ByteSize ≤ maxStringBytes
  | .number q => field.IsNumeric ∧ formats.asF64 q = q
  | .dateTime t => field.IsDateTime ∧ ∃ text, formats.parseRfc3339 text = some t

/-- The JSON value `raw` stands for `value` as a value of the field. -/
def Denotes (field : FilterField) (raw : Json) : FilterValue T → Prop
  | .null => field.IsNullable ∧ raw = .null
  | .string s => field.IsText ∧ raw = .str s ∧ s.utf8ByteSize ≤ maxStringBytes
  | .number q => field.IsNumeric ∧ ∃ n, raw = .num n ∧ formats.asF64 n = q
  | .dateTime t => field.IsDateTime ∧
    ∃ s, raw = .str s ∧ s.utf8ByteSize ≤ maxStringBytes ∧ formats.parseRfc3339 s = some t

end FilterFormats

namespace FilterExpr

/-- `j` is a node with the operation `op` on a value of a field. -/
def IsLeaf (formats : FilterFormats T) (j : Json) (op : String) (field : FilterField)
    (value : FilterValue T) : Prop :=
  j.get "op" = some (.str op)
    ∧ (∃ raw, j.get "field" = some raw ∧ FilterField.Names raw field)
    ∧ ∃ raw, j.get "value" = some raw ∧ formats.Denotes field raw value

mutual

/-- The JSON value `j` stands for the expression. -/
def Denotes (formats : FilterFormats T) (j : Json) : FilterExpr T → Prop
  | .and nodes => j.get "op" = some (.str "and")
    ∧ ∃ items, j.get "args" = some (.arr items) ∧ items ≠ [] ∧ AllDenote formats items nodes
  | .or nodes => j.get "op" = some (.str "or")
    ∧ ∃ items, j.get "args" = some (.arr items) ∧ items ≠ [] ∧ AllDenote formats items nodes
  | .not node => j.get "op" = some (.str "not")
    ∧ ∃ item, j.get "expr" = some item ∧ Denotes formats item node
  | .eq field value => IsLeaf formats j "eq" field value
  | .neq field value => IsLeaf formats j "neq" field value
  | .isIn field values => j.get "op" = some (.str "in")
    ∧ (∃ raw, j.get "field" = some raw ∧ FilterField.Names raw field)
    ∧ ∃ items, j.get "value" = some (.arr items) ∧ items.length ≤ maxInListItems
      ∧ List.Forall₂ (formats.Denotes field) items values
  | .contains field value => IsLeaf formats j "contains" field (.string value)
  | .gt field value => IsLeaf formats j "gt" field value
  | .gte field value => IsLeaf formats j "gte" field value
  | .lt field value => IsLeaf formats j "lt" field value
  | .lte field value => IsLeaf formats j "lte" field value

def AllDenote (formats : FilterFormats T) (items : List Json) : List (FilterExpr T) → Prop
  | [] => items = []
  | node :: nodes => ∃ item rest, items = item :: rest
    ∧ Denotes formats item node ∧ AllDenote formats rest nodes

end

mutual

/-- The values of an expression are values of their fields, and its lists are not too long. -/
def WellTyped (formats : FilterFormats T) : FilterExpr T → Prop
  | .and nodes | .or nodes => nodes ≠ [] ∧ AllWellTyped formats nodes
  | .not node => node.WellTyped formats
  | .eq field value | .neq field value | .gt field value | .gte field value | .lt field value
  | .lte field value => formats.Typed field value
  | .isIn field values =>
    values.length ≤ maxInListItems ∧ ∀ value ∈ values, formats.Typed field value
  | .contains field value => formats.Typed field (.string value)

def AllWellTyped (formats : FilterFormats T) : List (FilterExpr T) → Prop
  | [] => True
  | node :: nodes => node.WellTyped formats ∧ AllWellTyped formats nodes

end

mutual

def nodeCount : FilterExpr T → Nat
  | .and nodes | .or nodes => nodeCounts nodes + 1
  | .not node => node.nodeCount + 1
  | _ => 1

def nodeCounts : List (FilterExpr T) → Nat
  | [] => 0
  | node :: nodes => node.nodeCount + nodeCounts nodes

end

mutual

def depth : FilterExpr T → Nat
  | .and nodes | .or nodes => depths nodes + 1
  | .not node => node.depth + 1
  | _ => 1

def depths : List (FilterExpr T) → Nat
  | [] => 0
  | node :: nodes => max node.depth (depths nodes)

end

mutual

/-- The expression has an `in` node. -/
def hasIn : FilterExpr T → Bool
  | .and nodes | .or nodes => anyHasIn nodes
  | .not node => node.hasIn
  | .isIn .. => true
  | _ => false

def anyHasIn : List (FilterExpr T) → Bool
  | [] => false
  | node :: nodes => node.hasIn || anyHasIn nodes

end

def WithinLimits (expr : FilterExpr T) : Prop :=
  expr.nodeCount ≤ maxFilterNodes ∧ expr.depth ≤ maxFilterDepth

instance (expr : FilterExpr T) : Decidable expr.WithinLimits :=
  inferInstanceAs (Decidable (_ ∧ _))

end FilterExpr

/-- The JSON filter `raw` is a well typed expression within the limits. -/
def SearchFilter.Denotes (formats : FilterFormats T) (raw : Json) (expr : FilterExpr T) : Prop :=
  raw.get "schema" = some (.str searchFilterExprSchemaV1)
    ∧ (∃ j, raw.get "expr" = some j ∧ expr.Denotes formats j) ∧ expr.WithinLimits

end Elf
