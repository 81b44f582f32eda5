import FilterQuery.Filter.Basic
import FilterQuery.Json.Reader
import FilterQuery.Operand.Reader
/-! Reading filters from JSON documents. An object is the conjunction of its
members in document order. A member is a field with an object of operators and
operands, each of them a leaf, or the key of a group with an array of
objects. -/
namespace FilterQuery

/-- The connective of the groups that stand under this key. -/
def Connective.ofKey? (key : String) : Option Connective :=
  [Connective.and, .or].find? fun connective => connective.key == key

namespace Leaf

/-- Reads the operands of a leaf. After an operator that takes several, an array holds them. -/
def readOperands (field : String) (operator : Operator) :
    Json → Except ExpressionError (List Operand)
  | .arr items =>
    match operator.arity with
    | .unary => .error (.malformed (.singleExpected operator field (.arr items)))
    | .variadic => Operand.ofJsons items
  | value => (Operand.ofJson value).map fun operand => [operand]

/-- The operator that a token stands for, which must be known. -/
def readOperator (token : String) : Except ExpressionError Operator :=
  match Operator.ofToken? token with
  | some operator => .ok operator
  | none => .error (.unsupportedOperator token)

def read (field token : String) (value : Json) : Except ExpressionError Leaf := do
  let operator ← readOperator token
  let operands ← readOperands field operator value
  Leaf.of field operator operands

end Leaf

namespace Filter

def readField (field : String) : Json → Except ExpressionError (List Filter)
  | .obj [] => .error (.malformed (.fieldWithoutOperator field))
  | .obj entries => entries.mapM fun entry => (Leaf.read field entry.1 entry.2).map .leaf
  | found => .error (.malformed (.fieldNotObject field found))

/-- Reads a member that is not a group. Keys of fields do not begin with a dollar sign. -/
def readPlain (key : String) (value : Json) : Except ExpressionError (List Filter) :=
  if key.toList.head? = some '$' then .error (.unsupportedOperator key) else readField key value

mutual

/-- Reads the members of an object one after the other. -/
def readConjuncts : List (String × Json) → Except ExpressionError (List Filter)
  | [] => .ok []
  | (key, value) :: rest => do
    let nodes ← readConjunct key value
    let others ← readConjuncts rest
    return nodes ++ others

def readConjunct (key : String) : Json → Except ExpressionError (List Filter)
  | .arr items =>
    match Connective.ofKey? key with
    | some connective => do
      let members ← readMembers connective items
      let group ← join connective members
      return [group]
    | none => readPlain key (.arr items)
  | value =>
    match Connective.ofKey? key with
    | some connective => .error (.malformed (.groupNotArray connective))
    | none => readPlain key value

/-- Reads the members of a group, each of them an object that is itself a conjunction. -/
def readMembers (connective : Connective) : List Json → Except ExpressionError (List Filter)
  | [] => .ok []
  | .obj members :: rest => do
    let nodes ← readConjuncts members
    let member ← conjunction nodes
    let others ← readMembers connective rest
    return member :: others
  | found :: _ => .error (.malformed (.memberNotObject connective found))

end

end Filter

namespace FilterTree

/-- Reads a filter document. -/
def ofJson : Json → Except ExpressionError FilterTree
  | .obj members => (Filter.readConjuncts members).map FilterTree.mk
  | _ => .error (.malformed .filterNotObject)

/-- Reads the text of a filter document. -/
def read (text : String) : Except ExpressionError FilterTree :=
  match Json.read? text with
  | some json => ofJson json
  | none => .error .notJson

end FilterTree

end FilterQuery
