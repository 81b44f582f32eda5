import FilterQuery.ExpressionError
/-! Filters. A leaf asks one question about one field; a group joins filters. A
filter tree is the conjunction of its nodes, and the tree without nodes lets
everything pass. Leaves and groups are built by functions that refuse what is
not well formed. -/
namespace FilterQuery

/-- A question about one field. -/
structure Leaf where
  /-- The path of the field. -/
  field : String
  operator : Operator
  operands : List Operand

/-- A leaf or a group. -/
inductive Filter where
  | leaf (question : Leaf)
  | group (connective : Connective) (members : List Filter)

namespace Leaf

/-- Whether the operator takes as many operands as there are. -/
def WellFormed (leaf : Leaf) : Prop := leaf.operator.arity.accepts leaf.operands.length = true

/-- The leaf with these parts, if the operator takes as many operands. -/
def of (field : String) (operator : Operator) (operands : List Operand) :
    Except ExpressionError Leaf :=
  if operator.arity.accepts operands.length then .ok ⟨field, operator, operands⟩
  else .error (.arityMismatch operator operands.length)

theorem wellFormed_of_built {field : String} {operator : Operator} {operands : List Operand}
    {leaf : Leaf} (built : of field operator operands = .ok leaf) : leaf.WellFormed := by
  unfold of at built
  split at built
  · cases built
    assumption
  · cases built

theorem operands_of_unary {leaf : Leaf} (ready : leaf.WellFormed)
    (unary : leaf.operator.arity = .unary) : ∃ operand, leaf.operands = [operand] := by
  simpa [WellFormed, unary, Arity.accepts, List.length_eq_one_iff] using ready

/-- Whether two leaves are equal, decimals by numeric equality. -/
def same (a b : Leaf) : Bool :=
  a.field == b.field && a.operator == b.operator && Operand.sameItems a.operands b.operands

end Leaf

namespace Filter

mutual

/-- Whether all leaves are well formed and no group is empty. -/
def WellFormed : Filter → Prop
  | .leaf question => question.WellFormed
  | .group _ members => members ≠ [] ∧ AllWellFormed members

/-- Whether every one of these filters is well formed. -/
def AllWellFormed : List Filter → Prop
  | [] => True
  | member :: rest => WellFormed member ∧ AllWellFormed rest

end

theorem allWellFormed_iff {members : List Filter} :
    AllWellFormed members ↔ ∀ member ∈ members, WellFormed member := by
  induction members with
  | nil => simp [AllWellFormed]
  | cons member rest ih => simp [AllWellFormed, ih]

/-- The leaf with these parts as a filter. -/
def of (field : String) (operator : Operator) (operands : List Operand) :
    Except ExpressionError Filter :=
  (Leaf.of field operator operands).map .leaf

/-- The group of these members, of which there must be at least one. -/
def join (connective : Connective) (members : List Filter) : Except ExpressionError Filter :=
  if members.isEmpty then .error .emptyComposite else .ok (.group connective members)

/-- The filter that all of these make up together: a single one is itself. -/
def conjunction : List Filter → Except ExpressionError Filter
  | [] => .error .emptyComposite
  | [single] => .ok single
  | members => .ok (.group .and members)

theorem wellFormed_of_of {field : String} {operator : Operator} {operands : List Operand}
    {filter : Filter} (built : of field operator operands = .ok filter) : filter.WellFormed := by
  cases leafBuilt : Leaf.of field operator operands with
  | error cause =>
    rw [of, leafBuilt] at built
    cases built
  | ok question =>
    rw [of, leafBuilt] at built
    cases built
    exact Leaf.wellFormed_of_built leafBuilt

theorem wellFormed_of_join {connective : Connective} {members : List Filter} {filter : Filter}
    (ready : AllWellFormed members) (built : join connective members = .ok filter) :
    filter.WellFormed := by
  cases members with
  | nil => cases built
  | cons member rest =>
    cases built
    exact ⟨by simp, ready⟩

def isLeaf : Filter → Bool
  | .leaf _ => true
  | .group .. => false

mutual

/-- The leaves from left to right. -/
def leaves : Filter → List Leaf
  | .leaf question => [question]
  | .group _ members => leavesOfAll members

/-- The leaves of these filters from left to right. -/
def leavesOfAll : List Filter → List Leaf
  | [] => []
  | member :: rest => leaves member ++ leavesOfAll rest

end

theorem leavesOfAll_eq_flatMap (members : List Filter) :
    leavesOfAll members = members.flatMap leaves := by
  induction members with
  | nil => rfl
  | cons member rest ih => simp [leavesOfAll, ih]

theorem mem_leavesOfAll_iff {filters : List Filter} {leaf : Leaf} :
    leaf ∈ leavesOfAll filters ↔ ∃ filter ∈ filters, leaf ∈ filter.leaves := by
  rw [leavesOfAll_eq_flatMap, List.mem_flatMap]

mutual

/-- Whether two filters are equal, decimals by numeric equality. -/
def same : Filter → Filter → Bool
  | .leaf a, .leaf b => a.same b
  | .group a members, .group b others => a == b && sameAll members others
  | _, _ => false

def sameAll : List Filter → List Filter → Bool
  | [], [] => true
  | a :: rest, b :: others => same a b && sameAll rest others
  | _, _ => false

end

end Filter

/-- A conjunction of filters. -/
structure FilterTree where
  nodes : List Filter

namespace FilterTree

/-- The tree that lets everything pass. -/
def empty : FilterTree := ⟨[]⟩

def single (filter : Filter) : FilterTree := ⟨[filter]⟩

/-- Whether all nodes are well formed. -/
def WellFormed (tree : FilterTree) : Prop := Filter.AllWellFormed tree.nodes

/-- Asks for one more filter to hold. -/
def and (tree : FilterTree) (filter : Filter) : FilterTree := ⟨tree.nodes ++ [filter]⟩

/-- Lets pass what the tree or the filter lets pass. The empty tree lets everything pass already. -/
def or (tree : FilterTree) (filter : Filter) : FilterTree :=
  match tree.nodes with
  | [] => tree
  | [node] => ⟨[.group .or [node, filter]]⟩
  | nodes => ⟨[.group .or [.group .and nodes, filter]]⟩

theorem wellFormed_and {tree : FilterTree} {filter : Filter} (ready : tree.WellFormed)
    (valid : filter.WellFormed) : (tree.and filter).WellFormed := by
  have each := Filter.allWellFormed_iff.1 ready
  apply Filter.allWellFormed_iff.2
  intro member among
  rcases List.mem_append.1 among with old | new
  · exact each member old
  · rw [List.mem_singleton.1 new]
    exact valid

theorem wellFormed_or {tree : FilterTree} {filter : Filter} (ready : tree.WellFormed)
    (valid : filter.WellFormed) : (tree.or filter).WellFormed := by
  obtain ⟨nodes⟩ := tree
  match nodes, ready with
  | [], ready => exact ready
  | [_], ready => exact ⟨⟨by simp, ready.1, valid, trivial⟩, trivial⟩
  | _ :: _ :: _, ready => exact ⟨⟨by simp, ⟨by simp, ready⟩, valid, trivial⟩, trivial⟩

/-- Asks for one more leaf to hold. -/
def andWhere (tree : FilterTree) (field : String) (operator : Operator) (operands : List Operand) :
    Except ExpressionError FilterTree :=
  (Filter.of field operator operands).map tree.and

/-- Asks for one more leaf to hold, in the place of the tree. -/
def addWhere (field : String) (operator : Operator) (operands : List Operand) :
    ExceptT ExpressionError (StateM FilterTree) Unit := do
  let filter ← Filter.of field operator operands
  modify fun tree => tree.and filter

/-- What is left in the place of the tree is the tree with the leaf, or the tree itself. -/
theorem run_addWhere (tree : FilterTree) (field : String) (operator : Operator)
    (operands : List Operand) : (addWhere field operator operands).run.run tree =
      match tree.andWhere field operator operands with
      | .ok next => (.ok (), next)
      | .error cause => (.error cause, tree) := by
  rw [andWhere]
  have ran : (addWhere field operator operands).run.run tree =
      match Filter.of field operator operands with
      | .ok filter => (.ok (), tree.and filter)
      | .error cause => (.error cause, tree) := by
    cases built : Filter.of field operator operands <;> simp only [addWhere, built] <;> rfl
  rw [ran]
  cases Filter.of field operator operands <;> rfl

/-- The leaves from left to right. -/
def leaves (tree : FilterTree) : List Leaf := Filter.leavesOfAll tree.nodes

/-- Whether two trees are equal, decimals by numeric equality. -/
def same (a b : FilterTree) : Bool := Filter.sameAll a.nodes b.nodes

end FilterTree

end FilterQuery
