import FilterQuery.DataType
import FilterQuery.Filter.Connective
import FilterQuery.Operand.Basic
import FilterQuery.Operator
/-! What can be wrong with a filter, a schema or a record, and the messages that
say so. Every error is the fault of an input. -/
namespace FilterQuery

/-- What is wrong with the shape of a document. -/
inductive Malformation where
  /-- A filter that is not an object. -/
  | filterNotObject
  /-- A group that is not an array. -/
  | groupNotArray (connective : Connective)
  /-- A member of a group that is not an object. -/
  | memberNotObject (connective : Connective) (found : Json)
  /-- A field whose value is not an object of operators. -/
  | fieldNotObject (field : String) (found : Json)
  /-- A field without an operator. -/
  | fieldWithoutOperator (field : String)
  /-- An array after an operator that takes one operand. -/
  | singleExpected (operator : Operator) (field : String) (found : Json)
  /-- An object in the place of an operand. -/
  | operandNotScalar (found : Json)
  /-- Two entities of one name. -/
  | entityRepeated (entity : String)
  /-- A record that is not an object. -/
  | recordNotObject (entity : String)

/-- Says what is wrong with a document. -/
def Malformation.message : Malformation → String
  | .filterNotObject => "filter must be a JSON object"
  | .groupNotArray connective => connective.key ++ " expects an array of objects"
  | .memberNotObject connective found =>
    connective.key ++ " members must be objects, got " ++ found.compact
  | .fieldNotObject field found =>
    "field " ++ field ++ " must map operators to values, got " ++ found.compact
  | .fieldWithoutOperator field => "field " ++ field ++ " has no operator"
  | .singleExpected operator field found =>
    operator.token ++ " on " ++ field ++ " expects a single value, got " ++ found.compact
  | .operandNotScalar found => "operand must be a scalar, got " ++ found.compact
  | .entityRepeated entity => "entity " ++ entity ++ " is declared twice"
  | .recordNotObject entity => entity ++ " record must be a JSON object"

/-- An error in a filter, a schema or a record. -/
inductive ExpressionError where
  /-- A token that stands for no operator. -/
  | unsupportedOperator (token : String)
  /-- An operator with a number of operands that it does not take. -/
  | arityMismatch (operator : Operator) (got : Nat)
  /-- A group without members. -/
  | emptyComposite
  /-- A path that leads to no field. -/
  | unknownField (path : String)
  /-- An entity that is not declared. -/
  | unknownEntity (name : String)
  /-- An ordering operator on a field without an order. -/
  | notComparable (dataType : DataType)
  /-- An operator that does not apply to the field. -/
  | typeMismatch (operator : Operator) (dataType : DataType)
  /-- An operand that has no meaning for the type of the field. -/
  | coercion (raw : Operand) (target : DataType)
  /-- A document of the wrong shape. -/
  | malformed (reason : Malformation)
  /-- A text that is not JSON. -/
  | notJson

def ExpressionError.message : ExpressionError → String
  | .unsupportedOperator token => "Unsupported operator: " ++ token
  | .arityMismatch operator got =>
    "Operator " ++ operator.token ++ " does not accept " ++ toString got ++ " operand(s)"
  | .emptyComposite => "Composite expression requires at least one child"
  | .unknownField path => "Unknown field: [" ++ path ++ "]"
  | .unknownEntity name => "Unknown entity: " ++ name
  | .notComparable dataType =>
    "Ordering operators are not supported for " ++ dataType.name ++ " fields"
  | .typeMismatch operator dataType =>
    "Operator " ++ operator.token ++ " cannot be applied to " ++ dataType.name ++ " fields"
  | .coercion raw target => "Cannot convert " ++ raw.text ++ " to " ++ target.name
  | .malformed reason => "Malformed expression: " ++ reason.message
  | .notJson => "Invalid JSON"

end FilterQuery
