/-! The operators of filter leaves: their tokens in filter documents, how many
operands they take, and the comparisons that six of them stand for. -/
namespace FilterQuery

/-- How many operands an operator takes. -/
inductive Arity where
  /-- Exactly one. -/
  | unary
  /-- One or more. -/
  | variadic
deriving DecidableEq

/-- Whether an operator of this arity takes this many operands. -/
def Arity.accepts : Arity → Nat → Bool
  | .unary, count => count == 1
  | .variadic, count => 1 ≤ count

/-- An operator of a filter leaf. -/
inductive Operator where
  | eq
  | ne
  | gt
  | gte
  | lt
  | lte
  /-- Membership in a list of operands. -/
  | oneOf
  /-- Containment of a substring. -/
  | contains
  /-- Containment of a substring, whatever the case of its letters. -/
  | icontains
deriving DecidableEq

/-- A comparison of two values that have an order. -/
inductive Comparison where
  | eq
  | ne
  | lt
  | le
  | gt
  | ge
deriving DecidableEq

namespace Operator

def all : List Operator := [.eq, .ne, .gt, .gte, .lt, .lte, .oneOf, .contains, .icontains]

def token : Operator → String
  | .eq => "$eq"
  | .ne => "$ne"
  | .gt => "$gt"
  | .gte => "$gte"
  | .lt => "$lt"
  | .lte => "$lte"
  | .oneOf => "$in"
  | .contains => "$contains"
  | .icontains => "$icontains"

/-- The operator that a token stands for. Tokens are case-sensitive. -/
def ofToken? (token : String) : Option Operator :=
  all.find? fun operator => operator.token == token

theorem ofToken?_token (operator : Operator) : ofToken? operator.token = some operator := by
  cases operator <;> decide

theorem token_of_ofToken? {token : String} {operator : Operator}
    (found : ofToken? token = some operator) : operator.token = token := by
  simpa using List.find?_some found

def arity : Operator → Arity
  | .oneOf => .variadic
  | _ => .unary

/-- Whether the operator asks for fields that have an order. -/
def needsOrder : Operator → Bool
  | .gt | .gte | .lt | .lte => true
  | _ => false

/-- Whether a null operand has a meaning: it turns the leaf into a test for null. -/
def acceptsNull : Operator → Bool
  | .eq | .ne => true
  | _ => false

/-- Whether the operator looks for substrings of string fields. -/
def isTextual : Operator → Bool
  | .contains | .icontains => true
  | _ => false

/-- The comparison that the operator stands for. -/
def comparison? : Operator → Option Comparison
  | .eq => some .eq
  | .ne => some .ne
  | .lt => some .lt
  | .lte => some .le
  | .gt => some .gt
  | .gte => some .ge
  | .oneOf | .contains | .icontains => none

end Operator

namespace Comparison

def all : List Comparison := [.eq, .ne, .lt, .le, .gt, .ge]

/-- The spelling of a comparison in a query. -/
def symbol : Comparison → String
  | .eq => "="
  | .ne => "<>"
  | .lt => "<"
  | .le => "<="
  | .gt => ">"
  | .ge => ">="

/-- Whether the comparison tells more than whether two values are equal. -/
def isOrdering : Comparison → Bool
  | .eq | .ne => false
  | _ => true

/-- Whether the comparison holds of two values that stand in this order. -/
def holds : Comparison → Ordering → Bool
  | .eq, ordering => ordering == .eq
  | .ne, ordering => ordering != .eq
  | .lt, ordering => ordering == .lt
  | .le, ordering => ordering != .gt
  | .gt, ordering => ordering == .gt
  | .ge, ordering => ordering != .lt

end Comparison

end FilterQuery
