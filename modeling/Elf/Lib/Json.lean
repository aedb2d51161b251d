import Mathlib.Algebra.Group.Int.Defs
import Mathlib.Data.Rat.Defs

/-!
This module contains JSON values. The entries of an object are listed in the order of their keys,
so that equal objects are equal lists. It also contains JSON values whose numbers are as they are
spelled: an integer and a double of the same value are two numbers, and so are the two zeros. A value
that went through a store may come back with other spellings.
-/

/-- A JSON value. -/
inductive Json where
  | null
  | bool (b : Bool)
  | num (n : ℚ)
  | str (s : String)
  | arr (items : List Json)
  | obj (entries : List (String × Json))
deriving Inhabited

namespace Json

mutual

/-- Decidable equality of values, by recursion on both. -/
def decEq : (a b : Json) → Decidable (a = b)
  | .null, .null => isTrue rfl
  | .bool a, .bool b => decidable_of_iff (a = b) (by simp)
  | .num a, .num b => decidable_of_iff (a = b) (by simp)
  | .str a, .str b => decidable_of_iff (a = b) (by simp)
  | .arr as, .arr bs =>
    match decEqItems as bs with
    | isTrue h => isTrue (by rw [h])
    | isFalse h => isFalse (by simpa using h)
  | .obj as, .obj bs =>
    match decEqEntries as bs with
    | isTrue h => isTrue (by rw [h])
    | isFalse h => isFalse (by simpa using h)
  | .null, .bool _ | .null, .num _ | .null, .str _ | .null, .arr _ | .null, .obj _
  | .bool _, .null | .bool _, .num _ | .bool _, .str _ | .bool _, .arr _ | .bool _, .obj _
  | .num _, .null | .num _, .bool _ | .num _, .str _ | .num _, .arr _ | .num _, .obj _
  | .str _, .null | .str _, .bool _ | .str _, .num _ | .str _, .arr _ | .str _, .obj _
  | .arr _, .null | .arr _, .bool _ | .arr _, .num _ | .arr _, .str _ | .arr _, .obj _
  | .obj _, .null | .obj _, .bool _ | .obj _, .num _ | .obj _, .str _ | .obj _, .arr _ =>
    isFalse (by simp)

def decEqItems : (as bs : List Json) → Decidable (as = bs)
  | [], [] => isTrue rfl
  | [], _ :: _ | _ :: _, [] => isFalse (by simp)
  | a :: as, b :: bs =>
    match decEq a b with
    | isTrue h =>
      match decEqItems as bs with
      | isTrue h' => isTrue (by rw [h, h'])
      | isFalse h' => isFalse (by simp [h'])
    | isFalse h => isFalse (by simp [h])

def decEqEntries : (as bs : List (String × Json)) → Decidable (as = bs)
  | [], [] => isTrue rfl
  | [], _ :: _ | _ :: _, [] => isFalse (by simp)
  | (k, a) :: as, (l, b) :: bs =>
    if hk : k = l then
      match decEq a b with
      | isTrue h =>
        match decEqEntries as bs with
        | isTrue h' => isTrue (by rw [hk, h, h'])
        | isFalse h' => isFalse (by simp [h'])
      | isFalse h => isFalse (by simp [h])
    else
      isFalse (by simp [hk])

end

instance : DecidableEq Json := decEq

/-- The value of an object's field. -/
def get : Json → String → Option Json
  | .obj entries, field => entries.lookup field
  | _, _ => none

def asStr : Json → Option String
  | .str s => some s
  | _ => none

def asNum : Json → Option ℚ
  | .num n => some n
  | _ => none

/-- The value of a number without a fraction. -/
def asInt : Json → Option ℤ
  | .num n => if n.den = 1 then some n.num else none
  | _ => none

def asI64 (value : Json) : Option ℤ := value.asInt.filter fun n => -2 ^ 63 ≤ n && n < 2 ^ 63

def asU64 (value : Json) : Option ℤ := value.asInt.filter fun n => 0 ≤ n && n < 2 ^ 64

def asArr : Json → Option (List Json)
  | .arr items => some items
  | _ => none

def isNull : Json → Bool
  | .null => true
  | _ => false

def isObject : Json → Bool
  | .obj _ => true
  | _ => false

def isNonEmptyObject : Json → Bool
  | .obj entries => !entries.isEmpty
  | _ => false

/-- `value[field]`, which is null where there is no such field. -/
def index (value : Json) (field : String) : Json :=
  (value.get field).getD .null

/-- The JSON value of an optional value. -/
def ofOption (toJson : α → Json) : Option α → Json
  | some a => toJson a
  | none => .null

/-- The entries of an object with one of them set, in the order of their keys. -/
def insertEntry (entries : List (String × Json)) (key : String) (value : Json)
    : List (String × Json) :=
  match entries with
  | [] => [(key, value)]
  | (k, v) :: entries =>
    if k = key then (key, value) :: entries
    else if key < k then (key, value) :: (k, v) :: entries
    else (k, v) :: insertEntry entries key value

/-- Set a field of an object. -/
def set (value : Json) (field : String) (fieldValue : Json) : Json :=
  match value with
  | .obj entries => .obj (insertEntry entries field fieldValue)
  | other => other

def escapeChar (c : Char) : String :=
  if c = '"' then "\\\"" else if c = '\\' then "\\\\" else c.toString

def renderStr (s : String) : String :=
  "\"" ++ String.join (s.toList.map escapeChar) ++ "\""

-- A number that is no integer is rendered as a fraction.
def renderNum (n : ℚ) : String :=
  if n.den = 1 then toString n.num else toString n.num ++ "/" ++ toString n.den

@[simp]
theorem get_obj (entries : List (String × Json)) (field : String)
    : (obj entries).get field = entries.lookup field := rfl

@[simp]
theorem asStr_str (s : String) : (str s).asStr = some s := rfl

theorem asStr_eq_some {j : Json} : j.asStr = some s ↔ j = .str s := by
  cases j with
  | str t => simp
  | null => simp [asStr]
  | bool b => simp [asStr]
  | num n => simp [asStr]
  | arr items => simp [asStr]
  | obj entries => simp [asStr]

@[simp]
theorem asNum_num (n : ℚ) : (num n).asNum = some n := rfl

theorem lookup_cons_eq (key : String) (value : Json) (entries : List (String × Json))
    (field : String)
    : ((key, value) :: entries).lookup field
        = if field = key then some value else entries.lookup field := by
  rw [List.lookup_cons]
  split
  next h => rw [if_pos (by simpa using h)]
  next h => rw [if_neg (by simpa using h)]

theorem lookup_insertEntry (entries : List (String × Json)) (key : String) (value : Json)
    (field : String)
    : (insertEntry entries key value).lookup field
        = if field = key then some value else entries.lookup field := by
  induction entries with
  | nil => exact lookup_cons_eq ..
  | cons entry entries ih =>
    rcases entry with ⟨k, v⟩
    unfold insertEntry
    split
    next hkey =>
      rw [lookup_cons_eq, lookup_cons_eq, hkey]
      split
      . rfl
      . rfl
    next hkey =>
      split
      . exact lookup_cons_eq ..
      . rw [lookup_cons_eq, lookup_cons_eq, ih]
        split
        next hentry => rw [if_neg (by rwa [hentry])]
        . rfl

/-- A field of an object after one is set. -/
theorem get_set {value : Json} (h : value.isObject = true) (field : String) (fieldValue : Json)
    (other : String)
    : (value.set field fieldValue).get other
        = if other = field then some fieldValue else value.get other := by
  cases value with
  | obj entries => exact lookup_insertEntry entries field fieldValue other
  | null => cases h
  | bool b => cases h
  | num n => cases h
  | str s => cases h
  | arr items => cases h

@[simp]
theorem isObject_set (value : Json) (field : String) (fieldValue : Json)
    : (value.set field fieldValue).isObject = value.isObject := by
  cases value with
  | obj entries => rfl
  | null => rfl
  | bool b => rfl
  | num n => rfl
  | str s => rfl
  | arr items => rfl

/-! ## Keys and texts at any depth -/

mutual

/-- Some object in the value has one of the keys. -/
def hasKey (keys : List String) : Json → Bool
  | .obj entries => hasKeyEntries keys entries
  | .arr items => hasKeyItems keys items
  | .null | .bool _ | .num _ | .str _ => false

def hasKeyItems (keys : List String) : List Json → Bool
  | [] => false
  | item :: items => item.hasKey keys || hasKeyItems keys items

def hasKeyEntries (keys : List String) : List (String × Json) → Bool
  | [] => false
  | (key, value) :: entries =>
    (keys.contains key || value.hasKey keys) || hasKeyEntries keys entries

end

mutual

/-- The strings and the keys of a value. -/
def texts : Json → List String
  | .str s => [s]
  | .arr items => textsItems items
  | .obj entries => textsEntries entries
  | .null | .bool _ | .num _ => []

def textsItems : List Json → List String
  | [] => []
  | item :: items => item.texts ++ textsItems items

def textsEntries : List (String × Json) → List String
  | [] => []
  | (key, value) :: entries => key :: (value.texts ++ textsEntries entries)

end

variable {keys left right : List String}

mutual

/-- To look for the keys of two lists is to look for those of each. -/
theorem hasKey_union (h : ∀ key, keys.contains key = (left.contains key || right.contains key))
    : (value : Json) → value.hasKey keys = (value.hasKey left || value.hasKey right)
  | .obj entries => hasKeyEntries_union h entries
  | .arr items => hasKeyItems_union h items
  | .null | .bool _ | .num _ | .str _ => rfl

theorem hasKeyItems_union (h : ∀ key, keys.contains key = (left.contains key || right.contains key))
    : (items : List Json)
      → hasKeyItems keys items = (hasKeyItems left items || hasKeyItems right items)
  | [] => rfl
  | item :: items => by
    unfold hasKeyItems
    rw [hasKey_union h item, hasKeyItems_union h items]
    ac_rfl

theorem hasKeyEntries_union (h : ∀ key, keys.contains key = (left.contains key || right.contains key))
    : (entries : List (String × Json))
      → hasKeyEntries keys entries = (hasKeyEntries left entries || hasKeyEntries right entries)
  | [] => rfl
  | (key, value) :: entries => by
    unfold hasKeyEntries
    rw [h, hasKey_union h value, hasKeyEntries_union h entries]
    ac_rfl

end

end Json

/-! ## Spelled numbers -/

/-- A number as it is spelled: an integer, or the sign and the magnitude of a double. -/
inductive JsonNumber where
  | int (n : ℤ)
  | float (negative : Bool) (magnitude : ℚ)
deriving DecidableEq

/-- The spelling of a number that is known by its value. -/
def JsonNumber.ofRat (q : ℚ) : JsonNumber :=
  if q.den = 1 then .int q.num else .float (q < 0) (if q < 0 then -q else q)

inductive SpelledJson where
  | null
  | bool (b : Bool)
  | num (n : JsonNumber)
  | str (s : String)
  | arr (items : List SpelledJson)
  | obj (entries : List (String × SpelledJson))
deriving Inhabited

namespace SpelledJson

/-- The value of an object's field. -/
def get : SpelledJson → String → Option SpelledJson
  | .obj entries, field => entries.lookup field
  | _, _ => none

def asBool : SpelledJson → Option Bool
  | .bool b => some b
  | _ => none

def isObject : SpelledJson → Bool
  | .obj _ => true
  | _ => false

mutual

/-- Spell every number anew. -/
def respell (f : JsonNumber → JsonNumber) : SpelledJson → SpelledJson
  | .null => .null
  | .bool b => .bool b
  | .num n => .num (f n)
  | .str s => .str s
  | .arr items => .arr (respellItems f items)
  | .obj entries => .obj (respellEntries f entries)

def respellItems (f : JsonNumber → JsonNumber) : List SpelledJson → List SpelledJson
  | [] => []
  | item :: items => item.respell f :: respellItems f items

def respellEntries (f : JsonNumber → JsonNumber)
    : List (String × SpelledJson) → List (String × SpelledJson)
  | [] => []
  | (key, value) :: entries => (key, value.respell f) :: respellEntries f entries

end

mutual

/-- A value whose numbers are known by their values. -/
def ofJson : Json → SpelledJson
  | .null => .null
  | .bool b => .bool b
  | .num n => .num (.ofRat n)
  | .str s => .str s
  | .arr items => .arr (ofJsonItems items)
  | .obj entries => .obj (ofJsonEntries entries)

def ofJsonItems : List Json → List SpelledJson
  | [] => []
  | item :: items => ofJson item :: ofJsonItems items

def ofJsonEntries : List (String × Json) → List (String × SpelledJson)
  | [] => []
  | (key, value) :: entries => (key, ofJson value) :: ofJsonEntries entries

end

variable {f : JsonNumber → JsonNumber}

theorem isObject_respell (value : SpelledJson) : (value.respell f).isObject = value.isObject := by
  cases value <;> rfl

theorem asBool_respell (value : SpelledJson) : (value.respell f).asBool = value.asBool := by
  cases value <;> rfl

theorem lookup_respellEntries (entries : List (String × SpelledJson)) (field : String)
    : (respellEntries f entries).lookup field = (entries.lookup field).map (respell f) := by
  induction entries with
  | nil => rfl
  | cons entry entries ih =>
    unfold respellEntries
    rw [List.lookup_cons, List.lookup_cons]
    cases field == entry.1 with
    | true => rfl
    | false => exact ih

theorem get_respell (value : SpelledJson) (field : String)
    : (value.respell f).get field = (value.get field).map (respell f) := by
  cases value with
  | obj entries => exact lookup_respellEntries entries field
  | null => rfl
  | bool b => rfl
  | num n => rfl
  | str s => rfl
  | arr items => rfl

end SpelledJson
