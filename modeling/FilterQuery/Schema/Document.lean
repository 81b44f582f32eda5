import FilterQuery.Json.Structure
import FilterQuery.Schema.Basic
/-! Schemas as JSON documents. A scalar type is written as its name; the name may
also stand as the only key of an object, over null. A type with symbols is an
object with the key of its symbols, a reference one with the name of its
target. -/
namespace FilterQuery

namespace FieldType

/-- The scalar types and their names in documents. -/
def scalars : List (String × FieldType) :=
  [("boolean", .boolean), ("integer", .integer), ("decimal", .decimal), ("string", .string),
    ("date", .date), ("datetime", .dateTime)]

/-- The name of an enumeration that is given none. -/
def anonymous : String := "enum"

def scalar? : Json → Option FieldType
  | .str name => Entries.get? scalars name
  | .obj [(name, .null)] => Entries.get? scalars name
  | _ => none

/-- Reads an enumeration, which may still be without symbols. -/
def enumeration? : Json → Option Enumeration
  | .obj members => do
    let symbols ← (← Entries.get? members "enum").list? Json.text?
    let name ← match Entries.get? members "name" with
      | none => some none
      | some name => name.optionalText?
    return ⟨name.getD anonymous, symbols⟩
  | _ => none

def reference? : Json → Option FieldType
  | .obj members => do
    let target ← (← Entries.get? members "entity").text?
    return .entity target
  | _ => none

/-- Reads a type. What reads as an enumeration is one and must have symbols. -/
def ofJson? (json : Json) : Option FieldType :=
  match scalar? json with
  | some type => some type
  | none =>
    match enumeration? json with
    | some enumeration => if enumeration.symbols.isEmpty then none else some (.enum enumeration)
    | none => reference? json

def toJson : FieldType → Json
  | .boolean => .str "boolean"
  | .integer => .str "integer"
  | .decimal => .str "decimal"
  | .string => .str "string"
  | .date => .str "date"
  | .dateTime => .str "datetime"
  | .enum enumeration =>
    .obj [("enum", .arr (enumeration.symbols.map .str)), ("name", .str enumeration.name)]
  | .entity name => .obj [("entity", .str name)]

end FieldType

namespace Field

def ofJson? (json : Json) : Option Field := do
  match ← json.parts? ["name", "type"] with
  | [some name, some type] => return ⟨← name.text?, ← FieldType.ofJson? type⟩
  | _ => none

def toJson (field : Field) : Json :=
  .obj [("name", .str field.name), ("type", field.type.toJson)]

end Field

namespace Entity

/-- Reads an optional part of an entity; a missing one is like null. -/
def optionalPart? (part : Option Json) : Option (Option String) :=
  (part.getD .null).optionalText?

def ofJson? (json : Json) : Option Entity := do
  match ← json.parts? ["name", "table", "identifier", "fields"] with
  | [some name, table, identifier, fields] =>
    return ⟨← name.text?, ← optionalPart? table, ← optionalPart? identifier,
      ← (fields.getD (.arr [])).list? Field.ofJson?⟩
  | _ => none

def toJson (entity : Entity) : Json :=
  .obj [("name", .str entity.name), ("table", .ofOptionalText entity.table?),
    ("identifier", .ofOptionalText entity.identifier?),
    ("fields", .arr (entity.fields.map Field.toJson))]

end Entity

namespace Schema

def ofJson? (json : Json) : Option Schema := do
  match ← json.parts? ["entities"] with
  | [entities] => return ⟨← (entities.getD (.arr [])).list? Entity.ofJson?⟩
  | _ => none

def toJson (schema : Schema) : Json := .obj [("entities", .arr (schema.entities.map Entity.toJson))]

end Schema

end FilterQuery
