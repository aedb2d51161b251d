import Elf.Service.History

/-!
This module contains the structured fields of a note and the rows that keep them.
-/

namespace Elf

open Text

structure StructuredEntity where
  entityId : Option Uuid
  canonical : Option String
  kind : Option String
  aliases : Option (List String)

structure StructuredRelationObject where
  entity : Option StructuredEntity
  value : Option String

structure StructuredRelation where
  evidenceQuote : Option String
  subject : Option StructuredEntity
  predicate : Option String
  object : Option StructuredRelationObject
  validFrom : Option Int
  validTo : Option Int

structure StructuredFields where
  summary : Option String
  facts : Option (List String)
  concepts : Option (List String)
  entities : Option (List StructuredEntity)
  relations : Option (List StructuredRelation)

namespace StructuredFields

/-- No summary, fact or concept has any content. -/
def isEffectivelyEmpty (fields : StructuredFields) : Bool :=
  fields.summary.all isBlank && fields.facts.all (·.all isBlank)
    && fields.concepts.all (·.all isBlank)

def hasGraphFields (fields : StructuredFields) : Bool :=
  fields.entities.any (!·.isEmpty) || fields.relations.any (!·.isEmpty)

end StructuredFields

def invalidTextAt (text : Option String) (path : String) : Option String :=
  match text with
  | some text => if isValidText text then none else some path
  | none => none

def invalidItemAt (items : Option (List String)) (path : String) : Option String :=
  (items.getD []).zipIdx.findSome? fun (item, idx) =>
    if isValidText item then none else some (path ++ "[" ++ toString idx ++ "]")

def StructuredEntity.invalidPath (entity : StructuredEntity) (base : String) : Option String :=
  invalidTextAt entity.canonical (base ++ ".canonical")
    <|> invalidTextAt entity.kind (base ++ ".kind")
    <|> invalidItemAt entity.aliases (base ++ ".aliases")

def StructuredRelation.invalidPath (relation : StructuredRelation) (base : String)
    : Option String :=
  relation.subject.bind (·.invalidPath (base ++ ".subject"))
    <|> invalidTextAt relation.predicate (base ++ ".predicate")
    <|> relation.object.bind fun object =>
      object.entity.bind (·.invalidPath (base ++ ".object.entity"))
        <|> invalidTextAt object.value (base ++ ".object.value")

def findInvalidPathInStructured (structured : Option StructuredFields) (base : String)
    : Option String :=
  structured.bind fun fields =>
    invalidTextAt fields.summary (base ++ ".summary")
      <|> invalidItemAt fields.facts (base ++ ".facts")
      <|> invalidItemAt fields.concepts (base ++ ".concepts")
      <|> (fields.entities.getD []).zipIdx.findSome? (fun (entity, idx) =>
        entity.invalidPath (base ++ ".entities[" ++ toString idx ++ "]"))
      <|> (fields.relations.getD []).zipIdx.findSome? (fun (relation, idx) =>
        relation.invalidPath (base ++ ".relations[" ++ toString idx ++ "]"))

/-- The rows that `items` of one kind are stored as: trimmed, without the blank ones. -/
def fieldRows (fieldId : String → Nat → Uuid) (noteId : Uuid) (kind : String) (items : List String)
    (now : Nat) : List NoteField :=
  items.zipIdx.filterMap fun (value, idx) =>
    if isBlank value then
      none
    else
      some {
        fieldId := fieldId kind idx
        noteId
        fieldKind := kind
        itemIndex := idx
        text := trim value
        createdAt := timestamptz now
        updatedAt := timestamptz now }

abbrev FieldTable := Table NoteField NoteField.fieldId

def insertFields (fields : FieldTable) (rows : List NoteField) : Except Error FieldTable :=
  match rows with
  | [] => .ok fields
  | row :: rows => do
    let fields ← fields.insert row duplicateKey
    insertFields fields rows

def replaceKind (fields : FieldTable) (fieldId : String → Nat → Uuid) (noteId : Uuid)
    (kind : String) (items : List String) (now : Nat) : Except Error FieldTable :=
  insertFields (fields.deleteWhere fun row => row.noteId = noteId && row.fieldKind = kind)
    (fieldRows fieldId noteId kind items now)

def replaceKindIfPresent (fields : FieldTable) (fieldId : String → Nat → Uuid) (noteId : Uuid)
    (kind : String) (items : Option (List String)) (now : Nat) : Except Error FieldTable :=
  match items with
  | some items => replaceKind fields fieldId noteId kind items now
  | none => .ok fields

def upsertStructuredFieldsTx (fields : FieldTable) (fieldId : String → Nat → Uuid) (noteId : Uuid)
    (structured : StructuredFields) (now : Nat) : Except Error FieldTable := do
  let fields ← replaceKindIfPresent fields fieldId noteId "summary"
    (structured.summary.map ([·])) now
  let fields ← replaceKindIfPresent fields fieldId noteId "fact" structured.facts now
  replaceKindIfPresent fields fieldId noteId "concept" structured.concepts now

/-- `DELETE FROM memory_note_fields WHERE note_id`. -/
def deleteNoteFields (s : Store) (noteId : Uuid) : Store :=
  { s with fields := s.fields.deleteWhere fun row => row.noteId = noteId }

/-- The rows of one note. -/
def noteFields (fields : FieldTable) (noteId : Uuid) : List NoteField :=
  fields.rows.filter fun row => row.noteId = noteId

/-- The rows that a request's structured fields are stored as. -/
def StructuredFields.rows (structured : StructuredFields) (fieldId : String → Nat → Uuid)
    (noteId : Uuid) (now : Nat) : List NoteField :=
  fieldRows fieldId noteId "summary" structured.summary.toList now
    ++ fieldRows fieldId noteId "fact" (structured.facts.getD []) now
    ++ fieldRows fieldId noteId "concept" (structured.concepts.getD []) now

end Elf
