import FilterQuery.Schema.Resolve
import FilterQuery.Sql.Dialect
import FilterQuery.Value
/-! Joins and parameters of a query. Each reference that a path leads through
takes one join, which later paths with the same beginning share. The value of a
path that ends at a reference is read from the foreign key, without a join. -/
namespace FilterQuery.Sql

/-- The label of the table that is queried. -/
def rootLabel : String := "t"

/-- A join of the table that a reference leads to. -/
structure Join where
  /-- The field names that lead from the root to the joined entity. -/
  path : List String
  /-- The name by which the query refers to the joined table. -/
  label : String
  table : String
  /-- The label of the table that holds the reference. -/
  parent : String
  /-- The column of the parent that refers to the joined table. -/
  foreignKey : String
  /-- The column of the joined table that identifies its rows. -/
  identifier : String
deriving DecidableEq

/-- The joins and parameters that the text of a query relies on so far. -/
structure Bindings where
  joins : List Join
  params : List Value

namespace Bindings

def empty : Bindings := ⟨[], []⟩

/-- The join at the end of a path. -/
def join? (bindings : Bindings) (path : List String) : Option Join :=
  bindings.joins.find? fun join => join.path == path

end Bindings

/-- The column that holds the reference of this name. -/
def referenceColumn (field : String) : String := field ++ "_id"

/-- The label of the join with this number, counted from one. -/
def joinLabel (number : Nat) : String := rootLabel ++ "_" ++ toString number

/-- The join of an entity at the end of a path. Entities that are not declared, and those without
an identifier, are joined under names by convention. -/
def Join.of (schema : Schema) (path : List String) (number : Nat) (parent entity : String) :
    Join where
  path := path
  label := joinLabel number
  table := match schema.get? entity with
    | some declared => declared.table
    | none => "_".intercalate path
  parent := parent
  foreignKey := referenceColumn (path.getLastD "")
  identifier := ((schema.get? entity).bind Entity.identifier?).getD "id"

/-- Joins an entity at the end of a path, unless the path is joined already, and gives its
label. -/
def join (schema : Schema) (path : List String) (parent entity : String) :
    StateM Bindings String := do
  let bindings ← get
  match bindings.join? path with
  | some found => return found.label
  | none =>
    let added := Join.of schema path (bindings.joins.length + 1) parent entity
    set { bindings with joins := bindings.joins ++ [added] }
    return added.label

/-- Joins what the steps of a path lead through, beginning at a joined path, and gives the last
label. -/
def joinSteps (schema : Schema) (path : List String) (label : String) :
    List Step → StateM Bindings String
  | step :: next :: rest => do
    let nextLabel ← join schema (path ++ [step.field]) label next.entity
    joinSteps schema (path ++ [step.field]) nextLabel (next :: rest)
  | _ => return label

/-- The name of the column that holds a field. -/
def columnName (field : ResolvedField) : String :=
  if field.reference?.isSome then referenceColumn field.target.field else field.target.field

/-- The column that holds a field, with the joins that lead there. -/
def column (schema : Schema) (field : ResolvedField) : StateM Bindings (List Fragment) := do
  let label ← joinSteps schema [] rootLabel (field.steps ++ [field.target])
  return [.name label, .fixed ".", .name (columnName field)]

/-- Makes a value a parameter and gives its placeholder. -/
def bind (value : Value) : StateM Bindings Fragment := do
  let bindings ← get
  set { bindings with params := bindings.params ++ [value] }
  return .placeholder bindings.params.length

/-- Makes values parameters and gives their placeholders. -/
def bindAll : List Value → StateM Bindings (List (List Fragment))
  | [] => return []
  | value :: rest => do
    let placeholder ← bind value
    let placeholders ← bindAll rest
    return [placeholder] :: placeholders

def Join.clause (join : Join) : List Fragment :=
  [.fixed " LEFT JOIN ", .name join.table, .fixed " AS ", .name join.label, .fixed " ON ",
    .name join.label, .fixed ".", .name join.identifier, .fixed " = ",
    .name join.parent, .fixed ".", .name join.foreignKey]

def joinClauses (joins : List Join) : List Fragment := joins.flatMap Join.clause

end FilterQuery.Sql
