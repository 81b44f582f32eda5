import FilterQuery.Coercion
import FilterQuery.Condition
import FilterQuery.Filter.Basic
import FilterQuery.Schema.Resolver
/-! Compilation of filters. Leaves are compiled from left to right; the first that
has no meaning ends the compilation. A builder makes a predicate of what has been
compiled: a condition on records, or the text of a query. -/
namespace FilterQuery

/-- A way of building predicates of type `π`, with effects in `m`. -/
structure Builder (m : Type → Type) (π : Type) where
  /-- Holds of everything. -/
  always : m π
  test : ResolvedField → Test → m π
  /-- Holds if all parts do. -/
  all : List π → m π
  /-- Holds if some part does. -/
  any : List π → m π

/-- Joins predicates; a single one stays as it is, and none at all holds of everything. -/
def Builder.join {m : Type → Type} [Monad m] {π : Type} (builder : Builder m π)
    (connective : Connective) : List π → m π
  | [] => builder.always
  | [single] => pure single
  | parts =>
    match connective with
    | .and => builder.all parts
    | .or => builder.any parts

/-- A computation that resolves paths with notes of type `ν` and has effects in `m`. -/
abbrev Compilation (ν : Type) (m : Type → Type) := ExceptT ExpressionError (StateT ν m)

/-- A resolution as a part of a compilation. -/
def Resolution.within {ν α : Type} (m : Type → Type) [Monad m] (resolution : Resolution ν α) :
    Compilation ν m α :=
  ExceptT.mk fun notes => pure (resolution.run.run notes)

namespace Leaf

/-- The operand after an operator that takes one. A well-formed leaf has it. -/
def operand (leaf : Leaf) : Except ExpressionError Operand :=
  match leaf.operands with
  | operand :: _ => .ok operand
  | [] => .error (.arityMismatch leaf.operator 0)

/-- The test of a leaf with a comparison. To be equal to null is to be null, and no field has an
order to null. -/
def comparisonTest (leaf : Leaf) (comparison : Comparison) (field : ResolvedField) :
    Except ExpressionError Test := do
  let operand ← leaf.operand
  if operand.isNull && !comparison.isOrdering then
    return if comparison = .ne then .isNotNull else .isNull
  else if comparison.isOrdering && !field.isComparable then throw (.notComparable field.dataType)
  else
    let value ← operand.coerce field.type
    return .compare comparison value

/-- The test of a leaf with a list of operands. -/
def membershipTest (leaf : Leaf) (field : ResolvedField) : Except ExpressionError Test := do
  let values ← leaf.operands.mapM fun operand => operand.coerce field.type
  return .oneOf values

/-- The test of a leaf that looks for a substring. -/
def containmentTest (leaf : Leaf) (field : ResolvedField) : Except ExpressionError Test := do
  if field.dataType ≠ .string then throw (.typeMismatch leaf.operator field.dataType)
  else
    let operand ← leaf.operand
    match operand.string? with
    | none => throw (.coercion operand .string)
    | some needle =>
      let ignoreCase := leaf.operator == .icontains
      return .like (Like.containing (if ignoreCase then Text.lower needle else needle)) ignoreCase

/-- The test that a leaf makes of its field. -/
def test (leaf : Leaf) (field : ResolvedField) : Except ExpressionError Test :=
  match leaf.operator.comparison? with
  | some comparison => leaf.comparisonTest comparison field
  | none => if leaf.operator = .oneOf then leaf.membershipTest field else leaf.containmentTest field

end Leaf

namespace Filter

variable {ν π : Type} {m : Type → Type} [Monad m]

mutual

/-- Builds the predicate of a filter on the records of an entity. -/
def compile (builder : Builder m π) (resolve : Resolver ν) (root : String) :
    Filter → Compilation ν m π
  | .leaf question => do
    let field ← (resolve root question.field).within m
    let test ← question.test field
    builder.test field test
  | .group connective members => do
    let parts ← compileAll builder resolve root members
    builder.join connective parts

/-- Builds the predicates of these filters from left to right. -/
def compileAll (builder : Builder m π) (resolve : Resolver ν) (root : String) :
    List Filter → Compilation ν m (List π)
  | [] => return []
  | member :: rest => do
    let part ← compile builder resolve root member
    let parts ← compileAll builder resolve root rest
    return part :: parts

end

end Filter

/-- Builds conditions on records, with paths of names for fields. -/
def recordBuilder : Builder Id RecordCondition where
  always := .always
  test field test := .test field.names test
  all parts := .all parts
  any parts := .any parts

namespace FilterTree

variable {ν π : Type} {m : Type → Type} [Monad m]

/-- Builds the predicate of a tree on the records of an entity. -/
def compile (tree : FilterTree) (builder : Builder m π) (resolve : Resolver ν) (root : String) :
    Compilation ν m π := do
  let parts ← Filter.compileAll builder resolve root tree.nodes
  builder.join .and parts

/-- The condition of a tree on records. -/
def compileForRecords (tree : FilterTree) (resolve : Resolver ν) (root : String) :
    Resolution ν RecordCondition :=
  tree.compile recordBuilder resolve root

end FilterTree

end FilterQuery
