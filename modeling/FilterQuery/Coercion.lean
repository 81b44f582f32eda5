import FilterQuery.Binary64.Shortest
import FilterQuery.Schema.Basic
import FilterQuery.Value
/-! Coercion: the meaning that a type gives to an operand. Null and lists have a
meaning for no type, and only enumerations and references restrict which texts
they take. -/
namespace FilterQuery

/-- A signed word, if the integer fits one. -/
def int64OfInt? (n : Int) : Option Int64 :=
  if -0x8000000000000000 ≤ n ∧ n < 0x8000000000000000 then some (Int64.ofInt n) else none

namespace Operand

/-- The integer that an operand denotes: an integral number, or the text of one. -/
def integer? : Operand → Option Int64
  | .int value => some value
  | .dec value => value.integer?.bind int64OfInt?
  | .str value => (Text.readInt? (Text.trim value.toList)).bind int64OfInt?
  | _ => none

/-- The decimal that a text denotes, if it is within range. -/
def decimalOfText? (text : String) : Option Binary64 := do
  let value := Binary64.ofNumeral (← Text.readDecimal? (Text.trim text.toList))
  if value.isFinite then some value else none

/-- The decimal that an operand denotes: a number, or the text of one. -/
def decimal? : Operand → Option Binary64
  | .int value => some (.ofInt value.toInt)
  | .dec value => some value
  | .str value => decimalOfText? value
  | _ => none

/-- The truth value that an operand denotes. -/
def boolean? : Operand → Option Bool
  | .bool value => some value
  | .str value => if value = "true" then some true else if value = "false" then some false else none
  | _ => none

/-- The text that an operand denotes: that of any scalar. -/
def string? : Operand → Option String
  | .str value => some value
  | .int value => some (String.ofList (Text.intDigits value.toInt))
  | .dec value => some (String.ofList (Binary64.plainText.text value))
  | .bool value => some (if value then "true" else "false")
  | _ => none

def date? : Operand → Option Date
  | .str value => Iso.readDate? value.toList
  | _ => none

/-- The instant that an operand denotes: a text, or the milliseconds since the beginning of
1970. -/
def timestamp? : Operand → Option Timestamp
  | .str value => Iso.readTimestamp? value.toList
  | .int value => Timestamp.ofEpochMillis? value.toInt
  | _ => none

def symbol? (enumeration : Enumeration) : Operand → Option String
  | .str value => if enumeration.symbols.contains value then some value else none
  | _ => none

/-- The value that an operand denotes for a type. -/
def value? (operand : Operand) : FieldType → Option Value
  | .boolean => operand.boolean?.map .bool
  | .integer => operand.integer?.map .int
  | .decimal => operand.decimal?.map .dec
  | .string => operand.string?.map .str
  | .date => operand.date?.map .date
  | .dateTime => operand.timestamp?.map .timestamp
  | .enum enumeration => (operand.symbol? enumeration).map .symbol
  | .entity _ => none

/-- The value that an operand must denote for a type. -/
def coerce (operand : Operand) (type : FieldType) : Except ExpressionError Value :=
  match operand.value? type with
  | some value => .ok value
  | none => .error (.coercion operand type.dataType)

def ofDate (date : Date) : Operand := .str date.text

/-- An instant as an operand, to the nanosecond. -/
def ofTimestamp (timestamp : Timestamp) : Operand := .str (timestamp.text .auto)

end Operand

end FilterQuery
