import FilterQuery.Filter.Compile
/-! What a filter says about a record, told from the schema alone and by
recursion on the filter. Neither compilation nor conditions take part in it: a
leaf compares the value at the end of its path with what its operands denote,
and a group asks for all or for some of its members. -/
namespace FilterQuery

/-- The orders of a field's value and an operand with which an operator is content. The operators
that do not compare are content with none. -/
def Operator.Admits : Operator → Ordering → Prop
  | .eq, order => order = .eq
  | .ne, order => order ≠ .eq
  | .gt, order => order = .gt
  | .gte, order => order = .gt ∨ order = .eq
  | .lt, order => order = .lt
  | .lte, order => order = .lt ∨ order = .eq
  | .oneOf, _ | .contains, _ | .icontains, _ => False

namespace Leaf

/-- What a leaf says of the value of its field, whose type gives the operands their meaning. -/
def Says (leaf : Leaf) (type : FieldType) (value : Value) : Prop :=
  match leaf.operator, leaf.operands with
  | .eq, [.null] => value = .null
  | .ne, [.null] => value ≠ .null
  | .oneOf, operands =>
    ∃ operand ∈ operands, ∃ meant, operand.coerce type = .ok meant ∧ value.equals meant = true
  | .contains, [operand] =>
    ∃ needle text, operand.coerce type = .ok (.str needle) ∧ value.text? = some text ∧
      needle.toList <:+: text.toList
  | .icontains, [operand] =>
    ∃ needle text, operand.coerce type = .ok (.str needle) ∧ value.text? = some text ∧
      (Text.lower needle).toList <:+: (Text.lower text).toList
  | operator, [operand] =>
    ∃ meant order, operand.coerce type = .ok meant ∧ value.compare? meant = some order ∧
      operator.Admits order
  | _, _ => False

/-- What a leaf says of a record of the root entity. -/
def Holds (schema : Schema) (root : String) (record : Record) (leaf : Leaf) : Prop :=
  ∃ field, schema.resolve root leaf.field = .ok field ∧
    leaf.Says field.type (record.lookup field.names)

end Leaf

namespace Filter

mutual

/-- What a filter says of a record of the root entity. -/
def Holds (schema : Schema) (root : String) (record : Record) : Filter → Prop
  | .leaf question => question.Holds schema root record
  | .group .and members => AllHold schema root record members
  | .group .or members => AnyHolds schema root record members

/-- All of these filters say the truth of a record. -/
def AllHold (schema : Schema) (root : String) (record : Record) : List Filter → Prop
  | [] => True
  | member :: rest => Holds schema root record member ∧ AllHold schema root record rest

/-- Some of these filters says the truth of a record. -/
def AnyHolds (schema : Schema) (root : String) (record : Record) : List Filter → Prop
  | [] => False
  | member :: rest => Holds schema root record member ∨ AnyHolds schema root record rest

end

variable {schema : Schema} {root : String} {record : Record}

theorem allHold_iff {members : List Filter} :
    AllHold schema root record members ↔ ∀ member ∈ members, member.Holds schema root record := by
  induction members with
  | nil => simp [AllHold]
  | cons member rest ih => simp [AllHold, ih]

end Filter

namespace FilterTree

/-- What a tree says of a record of the root entity: all that its nodes say. -/
def Holds (schema : Schema) (root : String) (record : Record) (tree : FilterTree) : Prop :=
  ∀ node ∈ tree.nodes, node.Holds schema root record

end FilterTree

end FilterQuery
