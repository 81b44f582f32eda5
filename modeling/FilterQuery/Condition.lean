import FilterQuery.Filter.Connective
import FilterQuery.Like
import FilterQuery.Operator
import FilterQuery.Text.LowerCase
import FilterQuery.Value
/-! Conditions: filters whose fields have been found and whose operands have been
given their meaning. A condition is a tree of tests on fields. How fields are
denoted is left open: in the records of a store they are paths of names. -/
namespace FilterQuery

/-- A question about the value of a field. -/
inductive Test where
  | isNull
  | isNotNull
  | compare (comparison : Comparison) (operand : Value)
  | oneOf (operands : List Value)
  /-- Whether the value is a text that matches a pattern. The pattern is in lower case if letters of
  both cases count as equal. -/
  | like (pattern : String) (ignoreCase : Bool)

namespace Test

/-- Whether the value passes the test. Null passes no test but the one for null. -/
def holds (value : Value) : Test → Bool
  | .isNull => value.isNull
  | .isNotNull => !value.isNull
  | .compare comparison operand => (value.compare? operand).any comparison.holds
  | .oneOf operands => operands.any value.equals
  | .like pattern ignoreCase =>
    match value.text? with
    | some text => Like.accepts pattern (if ignoreCase then Text.lower text else text)
    | none => false

/-- The values that the test compares with. -/
def operands : Test → List Value
  | .isNull => []
  | .isNotNull => []
  | .compare _ operand => [operand]
  | .oneOf values => values
  | .like pattern _ => [.str pattern]

end Test

/-- A condition on fields that are denoted by `φ`. -/
inductive Condition (φ : Type) where
  /-- Holds of everything. -/
  | always
  | test (field : φ) (test : Test)
  /-- Holds if all members do. -/
  | all (members : List (Condition φ))
  /-- Holds if some member does. -/
  | any (members : List (Condition φ))

/-- A condition on records. -/
abbrev RecordCondition := Condition (List String)

namespace Condition

variable {φ ψ : Type}

/-- Joins conditions; a single one stays as it is, and none at all holds of everything. -/
def join (connective : Connective) : List (Condition φ) → Condition φ
  | [] => .always
  | [single] => single
  | members =>
    match connective with
    | .and => .all members
    | .or => .any members

mutual

/-- Denotes the fields in another way. -/
def map (denote : φ → ψ) : Condition φ → Condition ψ
  | .always => .always
  | .test field question => .test (denote field) question
  | .all members => .all (mapAll denote members)
  | .any members => .any (mapAll denote members)

/-- Denotes the fields of these conditions in another way. -/
def mapAll (denote : φ → ψ) : List (Condition φ) → List (Condition ψ)
  | [] => []
  | member :: rest => map denote member :: mapAll denote rest

end

theorem mapAll_eq_map (denote : φ → ψ) (members : List (Condition φ)) :
    mapAll denote members = members.map (map denote) := by
  induction members with
  | nil => rfl
  | cons member rest ih => simp [mapAll, ih]

mutual

/-- The tests from left to right, each with its field. -/
def tests : Condition φ → List (φ × Test)
  | .always => []
  | .test field question => [(field, question)]
  | .all members => testsOfAll members
  | .any members => testsOfAll members

/-- The tests of these conditions from left to right. -/
def testsOfAll : List (Condition φ) → List (φ × Test)
  | [] => []
  | member :: rest => tests member ++ testsOfAll rest

end

mutual

/-- Whether the condition holds of a record. -/
def holds (record : Record) : RecordCondition → Bool
  | .always => true
  | .test path question => question.holds (record.lookup path)
  | .all members => allHold record members
  | .any members => anyHolds record members

/-- Whether all of these conditions hold of a record. -/
def allHold (record : Record) : List RecordCondition → Bool
  | [] => true
  | member :: rest => holds record member && allHold record rest

/-- Whether some of these conditions holds of a record. -/
def anyHolds (record : Record) : List RecordCondition → Bool
  | [] => false
  | member :: rest => holds record member || anyHolds record rest

end

theorem allHold_eq_all (record : Record) (members : List RecordCondition) :
    allHold record members = members.all (holds record) := by
  induction members with
  | nil => rfl
  | cons member rest ih => simp [allHold, ih]

theorem anyHolds_eq_any (record : Record) (members : List RecordCondition) :
    anyHolds record members = members.any (holds record) := by
  induction members with
  | nil => rfl
  | cons member rest ih => simp [anyHolds, ih]

end Condition

end FilterQuery
