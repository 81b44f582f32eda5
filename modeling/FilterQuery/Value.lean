import FilterQuery.Calendar.Iso
import FilterQuery.Json.Writer
/-! Values of fields, and records of such values. A record nests the records it
refers to, so a path of field names leads from a record to a value. -/
namespace FilterQuery

/-- A value of a field. -/
inductive Value where
  | null
  | bool (value : Bool)
  | int (value : Int64)
  | dec (value : Binary64)
  | str (value : String)
  | date (value : Date)
  | timestamp (value : Timestamp)
  /-- A symbol of an enumeration. -/
  | symbol (name : String)
  /-- The record that a reference leads to. -/
  | entity (fields : List (String × Value))

/-- A record: its fields in order, each with a value. -/
structure Record where
  fields : Entries Value

namespace Value

def isNull : Value → Bool
  | .null => true
  | _ => false

/-- The text of a value that is one: a string or a symbol. -/
def text? : Value → Option String
  | .str value => some value
  | .symbol name => some name
  | _ => none

/-- The order of two values of one kind. Integers and decimals have an order among each other. Null
and records have none. -/
def compare? : Value → Value → Option Ordering
  | .int a, .int b => some (compare a.toInt b.toInt)
  | .dec a, .dec b => a.compare? b
  | .int a, .dec b => (Binary64.ofInt a.toInt).compare? b
  | .dec a, .int b => a.compare? (.ofInt b.toInt)
  | .str a, .str b => some (compare a b)
  | .date a, .date b => some (a.compare b)
  | .timestamp a, .timestamp b => some (a.compare b)
  | .bool a, .bool b => some (compare a b)
  | .symbol a, .symbol b => some (compare a b)
  | _, _ => none

mutual

/-- Whether two values are equal and of one kind, decimals by numeric equality. -/
def same : Value → Value → Bool
  | .null, .null => true
  | .bool a, .bool b => a == b
  | .int a, .int b => a == b
  | .dec a, .dec b => a.equal b
  | .str a, .str b => a == b
  | .date a, .date b => a == b
  | .timestamp a, .timestamp b => a == b
  | .symbol a, .symbol b => a == b
  | .entity a, .entity b => sameFields a b
  | _, _ => false

/-- Whether two records have the same fields in the same order, with equal values. -/
def sameFields : List (String × Value) → List (String × Value) → Bool
  | [], [] => true
  | (name, a) :: rest, (other, b) :: others => name == other && same a b && sameFields rest others
  | _, _ => false

end

/-- Equality as filters see it: null equals nothing, and an integer may equal a decimal. -/
def equals : Value → Value → Bool
  | .null, _ => false
  | _, .null => false
  | .entity a, .entity b => sameFields a b
  | a, b => a.compare? b == some .eq

mutual

/-- The value as JSON. Times are cut off at the millisecond. -/
def toJson : Value → Json
  | .null => .null
  | .bool value => .bool value
  | .int value => .num (.ofInt64 value)
  | .dec value => .ofBinary64 value
  | .str value => .str value
  | .date value => .str value.text
  | .timestamp value => .str (value.text .millis)
  | .symbol name => .str name
  | .entity fields => .obj (fieldsToJson fields)

/-- The fields of a record as members of an object. -/
def fieldsToJson : List (String × Value) → List (String × Json)
  | [] => []
  | (name, value) :: rest => (name, toJson value) :: fieldsToJson rest

end

/-- The text of a value in messages. -/
def text : Value → String
  | .null => "NULL"
  | .str value => "'" ++ value ++ "'"
  | .symbol name => "'" ++ name ++ "'"
  | .date value => "'" ++ value.text ++ "'"
  | .timestamp value => "'" ++ value.text .millis ++ "'"
  | .entity _ => "<entity>"
  | value => value.toJson.compact

end Value

namespace Record

def empty : Record := ⟨[]⟩

/-- Writes a field: in place if the record has it, else at the end. -/
def set (record : Record) (name : String) (value : Value) : Record :=
  ⟨record.fields.set name value⟩

def get? (record : Record) (name : String) : Option Value := record.fields.get? name

theorem get?_set (record : Record) (name probe : String) (value : Value) :
    (record.set name value).get? probe = if name = probe then some value else record.get? probe :=
  Entries.get?_set record.fields name probe value

/-- The value at the end of a path of field names. It is null if the path is empty, if a field is
missing, or if the path leads through something that is not a record. -/
def lookup (record : Record) : List String → Value
  | [] => .null
  | [name] => (record.get? name).getD .null
  | name :: next :: rest =>
    match record.get? name with
    | some (.entity fields) => lookup ⟨fields⟩ (next :: rest)
    | _ => .null

def toJson (record : Record) : Json := .obj (Value.fieldsToJson record.fields)

end Record

end FilterQuery
