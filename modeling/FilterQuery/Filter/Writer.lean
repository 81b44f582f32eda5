import FilterQuery.Filter.Basic
/-! Writing filters as JSON documents. Nodes are put one after the other under
their keys. A node whose place is taken moves to the end of the group of all
conjuncts, as an object of its own. -/
namespace FilterQuery

namespace Leaf

/-- The operands as they stand after the operator: in an array, unless the operator takes one. -/
def operandsToJson (leaf : Leaf) : Json :=
  match leaf.operator.arity, leaf.operands with
  | .unary, [single] => single.toJson
  | _, operands => .arr (operands.map Operand.toJson)

/-- The leaf as the only member of an object. -/
def toJson (leaf : Leaf) : Json :=
  .obj [(leaf.field, .obj [(leaf.operator.token, leaf.operandsToJson)])]

/-- Puts a leaf into a document, under its field, unless the operator is there already or what
stands there is not a field. -/
def place? (document : Entries Json) (leaf : Leaf) : Option (Entries Json) :=
  let entry := (leaf.operator.token, leaf.operandsToJson)
  match document.get? leaf.field with
  | none => some (document.set leaf.field (.obj [entry]))
  | some (.obj entries) =>
    if Entries.hasKey entries leaf.operator.token then none
    else some (document.set leaf.field (.obj (entries ++ [entry])))
  | some _ => none

end Leaf

namespace Filter

mutual

/-- The filter as an object with one member. -/
def toJson : Filter → Json
  | .leaf question => question.toJson
  | .group connective members => .obj [(connective.key, .arr (toJsons members))]

def toJsons : List Filter → List Json
  | [] => []
  | member :: rest => toJson member :: toJsons rest

end

theorem toJsons_eq_map (members : List Filter) : toJsons members = members.map toJson := by
  induction members with
  | nil => rfl
  | cons member rest ih => simp [toJsons, ih]

/-- Puts a filter into a document, unless its place is taken. -/
def place? (document : Entries Json) : Filter → Option (Entries Json)
  | .leaf question => question.place? document
  | .group connective members =>
    if document.hasKey connective.key then none
    else some (document.set connective.key (.arr (toJsons members)))

end Filter

namespace FilterTree

/-- Puts filters into a document and gives back those that found no place, as objects. -/
def placeAll (document : Entries Json) : List Filter → Entries Json × List Json
  | [] => (document, [])
  | node :: rest =>
    match node.place? document with
    | some next => placeAll next rest
    | none =>
      let (final, displaced) := placeAll document rest
      (final, node.toJson :: displaced)

/-- Adds objects to the group of all conjuncts of a document. -/
def addConjuncts (document : Entries Json) : List Json → Entries Json
  | [] => document
  | objects =>
    match document.get? Connective.and.key with
    | some (.arr items) => document.set Connective.and.key (.arr (items ++ objects))
    | _ => document.set Connective.and.key (.arr objects)

/-- The members of the document of a tree. -/
def members (tree : FilterTree) : Entries Json :=
  let (document, displaced) := placeAll [] tree.nodes
  addConjuncts document displaced

def toJson (tree : FilterTree) : Json := .obj tree.members

end FilterTree

end FilterQuery
