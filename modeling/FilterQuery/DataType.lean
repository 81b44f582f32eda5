/-! The kinds of values that fields can hold. -/
namespace FilterQuery

/-- A kind of values. -/
inductive DataType where
  | boolean
  | integer
  | decimal
  | string
  | date
  | dateTime
  | enum
  | entity
deriving DecidableEq

namespace DataType

def name : DataType → String
  | .boolean => "boolean"
  | .integer => "integer"
  | .decimal => "decimal"
  | .string => "string"
  | .date => "date"
  | .dateTime => "datetime"
  | .enum => "enum"
  | .entity => "entity"

/-- Whether values of this kind may be asked which of them is less. -/
def isComparable : DataType → Bool
  | .integer | .decimal | .string | .date | .dateTime => true
  | .boolean | .enum | .entity => false

end DataType

end FilterQuery
