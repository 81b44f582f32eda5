import FilterQuery.ExpressionError
/-! Reading operands from JSON. Everything but an object is an operand. -/
namespace FilterQuery.Operand

mutual

/-- The operand that a JSON value stands for. Integers beyond a signed word are taken as
decimals. -/
def ofJson : Json → Except ExpressionError Operand
  | .null => .ok .null
  | .bool value => .ok (.bool value)
  | .num number =>
    match number.int64? with
    | some value => .ok (.int value)
    | none => .ok (.dec number.toBinary64)
  | .str value => .ok (.str value)
  | .arr items => (ofJsons items).map .list
  | .obj members => .error (.malformed (.operandNotScalar (.obj members)))

/-- The operands that the items of an array stand for; the first object among them is the
error. -/
def ofJsons : List Json → Except ExpressionError (List Operand)
  | [] => .ok []
  | item :: rest => do
    let operand ← ofJson item
    let operands ← ofJsons rest
    return operand :: operands

end

end FilterQuery.Operand
