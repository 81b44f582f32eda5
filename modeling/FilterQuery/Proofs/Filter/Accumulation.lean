import Mathlib.Data.List.Induction
import FilterQuery.Proofs.Filter.Compilation
/-! Trees that are built by joining one filter after the other to what has been built so far. A
tree answers for a record as the calls do that have built it, taken from the left: each call joins
the answer of its filter to the answer of all calls before it. -/
namespace FilterQuery

/-- Joins two answers. -/
def Connective.combine : Connective → Bool → Bool → Bool
  | .and => Bool.and
  | .or => Bool.or

namespace FilterTree

/-- Joins a filter to all that the tree asks for. -/
def joined (tree : FilterTree) : Connective × Filter → FilterTree
  | (.and, filter) => tree.and filter
  | (.or, filter) => tree.or filter

/-- The tree that is built from the empty tree by joining these filters one after the other. -/
def joinedAll (calls : List (Connective × Filter)) : FilterTree := calls.foldl joined empty

/-- The tree compiles, and its condition lets pass exactly these records. -/
def CompilesTo (schema : Schema) (root : String) (tree : FilterTree) (passes : Record → Bool) :
    Prop :=
  ∃ condition, (tree.compileForRecords schema.resolver root).result = .ok condition ∧
    ∀ record, condition.holds record = passes record

end FilterTree

namespace Condition

theorem holds_join_and (members : List RecordCondition) (record : Record) :
    (join .and members).holds record = members.all (holds record) := by
  rw [Bool.eq_iff_iff, holds_join_and_iff, List.all_eq_true]

end Condition

namespace Filter

variable (schema : Schema) (root : String)

/-- The condition on records that a filter compiles to on its own. -/
def compileAlone (filter : Filter) : Except ExpressionError RecordCondition :=
  ((FilterTree.single filter).compileForRecords schema.resolver root).result

theorem compileAlone_eq (filter : Filter) :
    filter.compileAlone schema root =
      (filter.condition schema.resolver root).result.map (Condition.map ResolvedField.names) := by
  rw [compileAlone, FilterTree.result_compileForRecords, FilterTree.result_condition,
    FilterTree.single, result_conditions, List.mapM_cons, List.mapM_nil]
  cases (filter.condition schema.resolver root).result <;> rfl

/-- Filters compile to conditions on records one by one. -/
theorem map_result_conditions (members : List Filter) :
    (conditions schema.resolver root members).result.map
        (List.map (Condition.map ResolvedField.names)) =
      members.mapM (compileAlone schema root) := by
  rw [result_conditions, ← mapM_map_result]
  congr
  funext member
  rw [compileAlone_eq]

/-- A group compiles to the joining of what its members compile to. -/
theorem compileAlone_group (connective : Connective) (members : List Filter) :
    compileAlone schema root (.group connective members) =
      (members.mapM (compileAlone schema root)).map (Condition.join connective) := by
  rw [compileAlone_eq, result_condition_group, ← map_result_conditions]
  cases (conditions schema.resolver root members).result <;> simp

end Filter

namespace FilterTree

/-- A tree compiles to the conjunction of what its nodes compile to. -/
theorem compileForRecords_eq (schema : Schema) (root : String) (tree : FilterTree) :
    (tree.compileForRecords schema.resolver root).result =
      (tree.nodes.mapM (Filter.compileAlone schema root)).map (Condition.join .and) := by
  rw [result_compileForRecords, result_condition, ← Filter.map_result_conditions]
  cases (Filter.conditions schema.resolver root tree.nodes).result <;> simp

variable {schema : Schema} {root : String} {tree : FilterTree} {filter : Filter}
variable {passes meets : Record → Bool}

/-- A tree compiles iff its nodes do, and lets pass what all of them let pass. -/
theorem compilesTo_iff :
    tree.CompilesTo schema root passes ↔
      ∃ parts, tree.nodes.mapM (Filter.compileAlone schema root) = .ok parts ∧
        ∀ record, parts.all (Condition.holds record) = passes record := by
  simp only [CompilesTo, compileForRecords_eq, map_eq_ok]
  constructor
  · rintro ⟨condition, ⟨parts, compiled, rfl⟩, same⟩
    exact ⟨parts, compiled, fun record => by rw [← same, Condition.holds_join_and]⟩
  · rintro ⟨parts, compiled, same⟩
    exact ⟨_, ⟨parts, compiled, rfl⟩, fun record => by rw [Condition.holds_join_and, same]⟩

theorem compilesTo_empty : empty.CompilesTo schema root fun _ => true :=
  ⟨.always, rfl, fun _ => rfl⟩

theorem compilesTo_and (before : tree.CompilesTo schema root passes)
    (alone : (single filter).CompilesTo schema root meets) :
    (tree.and filter).CompilesTo schema root fun record => passes record && meets record := by
  obtain ⟨parts, compiled, same⟩ := compilesTo_iff.1 before
  obtain ⟨added, compiledFilter, sameFilter⟩ := compilesTo_iff.1 alone
  apply compilesTo_iff.2
  refine ⟨parts ++ added, ?_, fun record => by rw [List.all_append, same, sameFilter]⟩
  have appended : (tree.nodes ++ [filter]).mapM (Filter.compileAlone schema root) =
      .ok (parts ++ added) := by
    rw [List.mapM_append, compiled, ok_bind]
    have last : [filter].mapM (Filter.compileAlone schema root) = .ok added := compiledFilter
    rw [last]
    rfl
  exact appended

/-- Several nodes compile alike as a tree and as one group. -/
theorem compilesTo_single_and {nodes : List Filter} :
    (single (.group .and nodes)).CompilesTo schema root passes ↔
      (FilterTree.mk nodes).CompilesTo schema root passes := by
  have same : ((single (.group .and nodes)).compileForRecords schema.resolver root).result =
      ((FilterTree.mk nodes).compileForRecords schema.resolver root).result := by
    rw [compileForRecords_eq schema root ⟨nodes⟩]
    exact Filter.compileAlone_group schema root .and nodes
  rw [CompilesTo, CompilesTo, same]

theorem compilesTo_single_or {first second : Filter}
    (one : (single first).CompilesTo schema root passes)
    (other : (single second).CompilesTo schema root meets) :
    (single (.group .or [first, second])).CompilesTo schema root fun record =>
      passes record || meets record := by
  obtain ⟨condition, compiled, same⟩ := one
  obtain ⟨added, compiledOther, sameOther⟩ := other
  refine ⟨.any [condition, added], ?_, fun record => ?_⟩
  · have both : [first, second].mapM (Filter.compileAlone schema root) = .ok [condition, added] :=
      mapM_cons_eq_ok.2 ⟨condition, [added], compiled,
        mapM_cons_eq_ok.2 ⟨added, [], compiledOther, rfl, rfl⟩, rfl⟩
    have group := Filter.compileAlone_group schema root .or [first, second]
    rw [both] at group
    exact group
  · simp [Condition.holds, Condition.anyHolds, same, sameOther]

/-- The empty tree lets everything pass, and so does whatever it is joined to by a disjunction. -/
theorem compilesTo_or (before : tree.CompilesTo schema root passes)
    (alone : (single filter).CompilesTo schema root meets) :
    (tree.or filter).CompilesTo schema root fun record => passes record || meets record := by
  obtain ⟨nodes⟩ := tree
  match nodes, before with
  | [], before =>
    obtain ⟨parts, compiled, same⟩ := compilesTo_iff.1 before
    cases compiled
    refine ⟨.always, rfl, fun record => ?_⟩
    show true = (passes record || meets record)
    rw [← same record]
    rfl
  | [node], before => exact compilesTo_single_or before alone
  | _ :: _ :: _, before => exact compilesTo_single_or (compilesTo_single_and.2 before) alone

theorem compilesTo_joined (connective : Connective) (before : tree.CompilesTo schema root passes)
    (alone : (single filter).CompilesTo schema root meets) :
    (tree.joined (connective, filter)).CompilesTo schema root fun record =>
      connective.combine (passes record) (meets record) := by
  cases connective with
  | and => exact compilesTo_and before alone
  | or => exact compilesTo_or before alone

/-- What is built from a tree answers as the calls do, beginning with the answer of the tree. -/
theorem compilesTo_foldl {meets : Filter → Record → Bool} {calls : List (Connective × Filter)}
    (alone : ∀ call ∈ calls, (single call.2).CompilesTo schema root (meets call.2))
    (before : tree.CompilesTo schema root passes) :
    (calls.foldl joined tree).CompilesTo schema root fun record =>
      calls.foldl (fun answer call => call.1.combine answer (meets call.2 record))
        (passes record) := by
  induction calls generalizing tree passes with
  | nil => exact before
  | cons call rest ih =>
    obtain ⟨first, others⟩ := List.forall_mem_cons.1 alone
    exact ih others (compilesTo_joined call.1 before first)

theorem joined_eq_empty_iff {call : Connective × Filter} :
    tree.joined call = empty ↔ tree = empty ∧ call.1 = .or := by
  obtain ⟨nodes⟩ := tree
  obtain ⟨connective, filter⟩ := call
  cases connective with
  | and => simp [joined, FilterTree.and, empty]
  | or =>
    match nodes with
    | [] => simp [joined, FilterTree.or, empty]
    | [_] => simp [joined, FilterTree.or, empty]
    | _ :: _ :: _ => simp [joined, FilterTree.or, empty]

/-- The tree is empty as long as filters are joined by disjunctions only. -/
theorem joinedAll_eq_empty_iff {calls : List (Connective × Filter)} :
    joinedAll calls = empty ↔ ∀ call ∈ calls, call.1 = .or := by
  induction calls using List.reverseRecOn with
  | nil => simp [joinedAll]
  | append_singleton calls call ih =>
    have last : joinedAll (calls ++ [call]) = (joinedAll calls).joined call := by
      rw [joinedAll, List.foldl_append]
      rfl
    rw [last, joined_eq_empty_iff, ih, List.forall_mem_append, List.forall_mem_singleton]

/-- A tree that is built by joining filters, each of which compiles on its own, compiles too, and
its condition answers for a record as the calls do from the left, beginning with yes. As long as
filters are joined by disjunctions only, the tree stays empty and lets everything pass. -/
theorem joinedAll_answers_from_left (schema : Schema) (root : String)
    (calls : List (Connective × Filter)) (meets : Filter → Record → Bool)
    (alone : ∀ call ∈ calls, (single call.2).CompilesTo schema root (meets call.2)) :
    ((joinedAll calls).CompilesTo schema root fun record =>
      calls.foldl (fun answer call => call.1.combine answer (meets call.2 record)) true) ∧
    (joinedAll calls = empty ↔ ∀ call ∈ calls, call.1 = .or) ∧
    empty.CompilesTo schema root fun _ => true :=
  ⟨compilesTo_foldl alone compilesTo_empty, joinedAll_eq_empty_iff, compilesTo_empty⟩

/-- A filter that is dropped, a single one, a disjunction with it, and a conjunction with both. -/
theorem joinedAll_answers_from_left_mixed :
    let schema : Schema := ⟨[⟨"Person", none, none, [⟨"name", .string⟩, ⟨"age", .integer⟩]⟩]⟩
    let dropped : Filter := .leaf ⟨"name", .contains, [.str "z"]⟩
    let adult : Filter := .leaf ⟨"age", .gte, [.int 18]⟩
    let member : Filter := .group .and [.leaf ⟨"name", .icontains, [.str "an"]⟩,
      .leaf ⟨"age", .ne, [.null]⟩]
    let named : Filter := .leaf ⟨"name", .ne, [.null]⟩
    let calls : List (Connective × Filter) :=
      [(.or, dropped), (.and, adult), (.or, member), (.and, named)]
    let meets (filter : Filter) (record : Record) : Bool :=
      match filter.compileAlone schema "Person" with
      | .ok condition => condition.holds record
      | .error _ => false
    (∀ call ∈ calls, (single call.2).CompilesTo schema "Person" (meets call.2)) ∧
      (joinedAll calls).CompilesTo schema "Person" fun record =>
        ((true || meets dropped record) && meets adult record || meets member record) &&
          meets named record := by
  intro schema dropped adult member named calls meets
  have alone : ∀ call ∈ calls, (single call.2).CompilesTo schema "Person" (meets call.2) := by
    simp only [calls, List.forall_mem_cons]
    exact ⟨⟨_, rfl, fun _ => rfl⟩, ⟨_, rfl, fun _ => rfl⟩, ⟨_, rfl, fun _ => rfl⟩,
      ⟨_, rfl, fun _ => rfl⟩, by simp⟩
  exact ⟨alone, (joinedAll_answers_from_left schema "Person" calls meets alone).1⟩

end FilterTree

end FilterQuery
