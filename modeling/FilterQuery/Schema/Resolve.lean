import FilterQuery.Schema.Basic
import FilterQuery.Text.Split
/-! Resolution of paths. A path is a text of field names with points between
them; every name but the last leads through a reference to another entity. A
path that ends at a reference denotes the identifier of the record referred
to. -/
namespace FilterQuery

/-- A field of an entity, as a step of a path. -/
structure Step where
  entity : String
  field : String
deriving DecidableEq

/-- A field at the end of a path. -/
structure ResolvedField where
  /-- The path as it was written. -/
  path : String
  /-- The references that the path leads through. -/
  steps : List Step
  /-- The field that the last name of the path denotes. -/
  target : Step
  /-- If that field is a reference, the identifier of the entity that it refers to. -/
  reference? : Option Step
  /-- The type of the values at the end of the path: that of the identifier for a reference. -/
  type : FieldType
deriving DecidableEq

namespace ResolvedField

/-- All steps from the root to the values. -/
def segments (field : ResolvedField) : List Step :=
  field.steps ++ field.target :: field.reference?.toList

/-- The field names from a record of the root entity to the value. -/
def names (field : ResolvedField) : List String := field.segments.map Step.field

theorem names_ne_nil (field : ResolvedField) : field.names ≠ [] := by
  simp [names, segments]

/-- The steps that lead into another entity. -/
def joins (field : ResolvedField) : List Step := field.segments.dropLast

/-- The last step, whose field holds the value. -/
def last (field : ResolvedField) : Step := field.reference?.getD field.target

/-- The kind of the field. A reference is of the kind of entities, whatever its identifier. -/
def dataType (field : ResolvedField) : DataType :=
  if field.reference?.isSome then .entity else field.type.dataType

/-- Whether the field may stand under an ordering operator. -/
def isComparable (field : ResolvedField) : Bool := field.dataType.isComparable

end ResolvedField

namespace Schema

def pathNames (path : String) : List String := Text.splitAt '.' path

/-- Follows the names of a path from an entity. The steps so far are kept in reverse. -/
def follow (schema : Schema) (path : String) (entity : Entity) (steps : List Step) :
    List String → Except ExpressionError ResolvedField
  | [] => .error (.unknownField path)
  | [name] =>
    let target : Step := ⟨entity.name, name⟩
    match entity.fieldType? name with
    | none => .error (.unknownField path)
    | some (.entity other) => do
      let referenced ← schema.entity other
      match referenced.identifier? with
      | none => throw (.unknownField path)
      | some identifier =>
        match referenced.fieldType? identifier with
        | none => throw (.unknownField path)
        | some type =>
          return ⟨path, steps.reverse, target, some ⟨referenced.name, identifier⟩, type⟩
    | some type => .ok ⟨path, steps.reverse, target, none, type⟩
  | name :: next :: rest =>
    match entity.fieldType? name with
    | some (.entity other) => do
      let nextEntity ← schema.entity other
      follow schema path nextEntity (⟨entity.name, name⟩ :: steps) (next :: rest)
    | _ => .error (.unknownField path)

/-- Resolves a path from an entity. -/
def resolve (schema : Schema) (root path : String) : Except ExpressionError ResolvedField := do
  let entity ← schema.entity root
  let names := pathNames path
  if names.contains "" then throw (.unknownField path)
  schema.follow path entity [] names

end Schema

end FilterQuery
