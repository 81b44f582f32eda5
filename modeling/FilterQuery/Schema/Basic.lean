import FilterQuery.ExpressionError
import FilterQuery.Text.LowerCase
/-! Schemas: entities, their fields, and the types of fields. Names are not
assumed to be distinct; the first declaration of a name counts. -/
namespace FilterQuery

/-- A type with finitely many values, which are symbols. -/
structure Enumeration where
  name : String
  symbols : List String
deriving DecidableEq

/-- The declared type of a field. -/
inductive FieldType where
  | boolean
  | integer
  | decimal
  | string
  | date
  | dateTime
  | enum (enumeration : Enumeration)
  /-- A reference to the entity of this name. -/
  | entity (name : String)
deriving DecidableEq

/-- The kind of the values of a type. -/
def FieldType.dataType : FieldType → DataType
  | .boolean => .boolean
  | .integer => .integer
  | .decimal => .decimal
  | .string => .string
  | .date => .date
  | .dateTime => .dateTime
  | .enum _ => .enum
  | .entity _ => .entity

/-- The declaration of a field. -/
structure Field where
  name : String
  type : FieldType
deriving DecidableEq

/-- The declaration of an entity: the table that stores it, the field that identifies its records,
and its fields. -/
structure Entity where
  name : String
  table? : Option String
  identifier? : Option String
  fields : List Field
deriving DecidableEq

namespace Entity

/-- The name of the table; by default the name of the entity in lower case. -/
def table (entity : Entity) : String := entity.table?.getD (Text.lower entity.name)

def fieldType? (entity : Entity) (name : String) : Option FieldType :=
  (entity.fields.find? fun field => field.name == name).map Field.type

end Entity

/-- The declarations of all entities. -/
structure Schema where
  entities : List Entity
deriving DecidableEq

namespace Schema

def get? (schema : Schema) (name : String) : Option Entity :=
  schema.entities.find? fun entity => entity.name == name

/-- The entity of this name, which must be declared. -/
def entity (schema : Schema) (name : String) : Except ExpressionError Entity :=
  match schema.get? name with
  | some entity => .ok entity
  | none => .error (.unknownEntity name)

/-- Checks that the references of an entity lead to declared entities. -/
def checkReferences (schema : Schema) : List Field → Except ExpressionError Unit
  | [] => .ok ()
  | ⟨_, .entity target⟩ :: rest => do
    discard (schema.entity target)
    checkReferences schema rest
  | _ :: rest => checkReferences schema rest

/-- Checks that the identifier of an entity, if it has one, is a declared field and not a
reference. -/
def checkIdentifier (entity : Entity) : Except ExpressionError Unit :=
  match entity.identifier? with
  | none => .ok ()
  | some identifier =>
    let unknown := ExpressionError.unknownField (entity.name ++ "." ++ identifier)
    match entity.fieldType? identifier with
    | none => .error unknown
    | some (.entity _) => .error unknown
    | some _ => .ok ()

/-- Checks the entities one after the other, after those of these names. -/
def checkEntities (schema : Schema) : List String → List Entity → Except ExpressionError Unit
  | _, [] => .ok ()
  | earlier, entity :: rest => do
    if earlier.contains entity.name then throw (.malformed (.entityRepeated entity.name))
    schema.checkReferences entity.fields
    checkIdentifier entity
    checkEntities schema (entity.name :: earlier) rest

/-- Checks that the names of the entities are distinct, that every reference leads to a declared
entity, and that every identifier is a declared field and not a reference. -/
def validate (schema : Schema) : Except ExpressionError Unit :=
  schema.checkEntities [] schema.entities

end Schema

end FilterQuery
