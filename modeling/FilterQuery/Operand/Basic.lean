import FilterQuery.Json.Writer
/-! Operands of filter leaves as they are written, before the type of a field
gives them a meaning. A list inside an operand has no meaning for any type; it
is kept so that it can be reported. -/
namespace FilterQuery

/-- An operand as written. -/
inductive Operand where
  | null
  | bool (value : Bool)
  | int (value : Int64)
  | dec (value : Binary64)
  | str (value : String)
  | list (items : List Operand)

namespace Operand

def isNull : Operand → Bool
  | .null => true
  | _ => false

mutual

/-- The operand as JSON. Infinite and undefined decimals become null. -/
def toJson : Operand → Json
  | .null => .null
  | .bool value => .bool value
  | .int value => .num (.ofInt64 value)
  | .dec value => .ofBinary64 value
  | .str value => .str value
  | .list items => .arr (itemsToJson items)

/-- The operands of a list as JSON. -/
def itemsToJson : List Operand → List Json
  | [] => []
  | item :: rest => toJson item :: itemsToJson rest

end

theorem itemsToJson_eq_map (items : List Operand) : itemsToJson items = items.map toJson := by
  induction items with
  | nil => rfl
  | cons item rest ih => simp [itemsToJson, ih]

/-- The text of an operand in messages. -/
def text (operand : Operand) : String := operand.toJson.compact

mutual

/-- Whether two operands are equal, decimals by numeric equality. -/
def same : Operand → Operand → Bool
  | .null, .null => true
  | .bool a, .bool b => a == b
  | .int a, .int b => a == b
  | .dec a, .dec b => a.equal b
  | .str a, .str b => a == b
  | .list a, .list b => sameItems a b
  | _, _ => false

def sameItems : List Operand → List Operand → Bool
  | [], [] => true
  | a :: rest, b :: others => same a b && sameItems rest others
  | _, _ => false

end

end Operand

end FilterQuery
