import FilterQuery.Coercion
import FilterQuery.Failure
import FilterQuery.Operand.Reader
import FilterQuery.Schema.Resolver
/-! Databases: a schema, and for each entity the records stored so far, in the
order of their insertion. A record is stored as a whole or not at all. A field
that refers to another entity takes a nested object, or the identifier of a
stored record, which is then embedded. -/
namespace FilterQuery

/-- The records of each entity, in the order of their insertion. -/
abbrev Tables := Entries (List Record)

def Tables.rows (tables : Tables) (entity : String) : List Record :=
  (Entries.get? tables entity).getD []

/-- What a field of an object has to say, once the type of the field is known. -/
abbrev FieldReader := FieldType → Except ExpressionError Value

namespace Record

/-- Reads the declared fields one after the other. Fields that are not given are null. -/
def fill (readers : Entries FieldReader) (record : Record) :
    List Field → Except ExpressionError Record
  | [] => .ok record
  | field :: rest => do
    let value ← match readers.get? field.name with
      | none => .ok .null
      | some reader => reader field.type
    fill readers (record.set field.name value) rest

/-- Reads a record of an entity. Every field that is given must be declared. -/
def ofReaders (entity : Entity) (readers : Entries FieldReader) : Except ExpressionError Record :=
  match readers.keys.find? fun key => (entity.fieldType? key).isNone with
  | some unknown => .error (.unknownField unknown)
  | none => fill readers empty entity.fields

/-- Reads the identifier of a record of an entity and gives the stored record, or one that has
only the identifier. -/
def ofIdentifier (tables : Tables) (entity : Entity) (json : Json) :
    Except ExpressionError Record := do
  match entity.identifier? with
  | none => throw (.unknownField (entity.name ++ ".<identifier>"))
  | some identifier =>
    match entity.fieldType? identifier with
    | none => throw (.unknownField identifier)
    | some type =>
      let operand ← Operand.ofJson json
      let value ← operand.coerce type
      let stored? := (tables.rows entity.name).find? fun record =>
        (record.get? identifier).any fun stored => stored.equals value
      return stored?.getD ⟨[(identifier, value)]⟩

end Record

namespace Value

mutual

/-- Reads the value of a field from JSON. -/
def ofJson (schema : Schema) (tables : Tables) : Json → FieldReader
  | .null, _ => .ok .null
  | .obj members, .entity target => do
    let entity ← schema.entity target
    let record ← Record.ofReaders entity (readers schema tables members)
    return .entity record.fields
  | json, .entity target => do
    let entity ← schema.entity target
    let record ← Record.ofIdentifier tables entity json
    return .entity record.fields
  | json, type => do
    let operand ← Operand.ofJson json
    operand.coerce type

/-- What the members of an object have to say. -/
def readers (schema : Schema) (tables : Tables) : List (String × Json) → List (String × FieldReader)
  | [] => []
  | (key, json) :: rest => (key, ofJson schema tables json) :: readers schema tables rest

end

end Value

/-- Reads a record of an entity from JSON. -/
def Record.ofJson (schema : Schema) (tables : Tables) (entity : Entity) :
    Json → Except ExpressionError Record
  | .obj members => ofReaders entity (Value.readers schema tables members)
  | _ => .error (.malformed (.recordNotObject entity.name))

/-- A schema, the fields found in it so far, and the stored records. -/
structure Database where
  schema : Schema
  cache : FieldCache
  tables : Tables

namespace Database

/-- Opens an empty database over a schema, which must be valid. -/
def openEmpty (schema : Schema) : Except Failure Database :=
  match schema.validate with
  | .ok () => .ok ⟨schema, .empty, []⟩
  | .error error => .error (.during .openingSchema (.expression error))

/-- Stores a record of an entity. Gives the number of its records and the database after it. -/
def insert (database : Database) (entity : String) (row : Json) :
    Except ExpressionError (Nat × Database) := do
  let declared ← database.schema.entity entity
  let record ← Record.ofJson database.schema database.tables declared row
  let rows := database.tables.rows entity ++ [record]
  return (rows.length, { database with tables := Entries.set database.tables entity rows })

end Database

end FilterQuery
