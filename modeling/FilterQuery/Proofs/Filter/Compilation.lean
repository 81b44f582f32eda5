import FilterQuery.Proofs.Filter.Building
import FilterQuery.Proofs.Filter.Meaning
import FilterQuery.Proofs.Like.Containment
import FilterQuery.Proofs.Schema.Resolution
/-! Compilation gives a filter its meaning. The tests of a compiled filter are
those of its leaves in order, so it fails with the error of the first leaf that
fails. A compiled filter holds of exactly the records of which the filter says
the truth. -/
namespace FilterQuery

theorem Operator.admits_iff_holds {operator : Operator} {comparison : Comparison}
    (compares : operator.comparison? = some comparison) (order : Ordering) :
    operator.Admits order ↔ comparison.holds order = true := by
  cases operator <;> cases compares <;> cases order <;> simp [Admits, Comparison.holds]

namespace Test

variable {value : Value}

theorem holds_compare_iff {comparison : Comparison} {operand : Value} :
    (Test.compare comparison operand).holds value = true ↔
      ∃ order, value.compare? operand = some order ∧ comparison.holds order = true := by
  simp [holds, Option.any_eq_true]

theorem holds_like_containing_iff {needle : String} {ignoreCase : Bool} :
    (Test.like (Like.containing needle) ignoreCase).holds value = true ↔
      ∃ text, value.text? = some text ∧
        needle.toList <:+: (if ignoreCase then Text.lower text else text).toList := by
  cases text : value.text? <;> simp [holds, text, Like.accepts_containing]

end Test

theorem Value.isNull_iff {value : Value} : value.isNull = true ↔ value = .null := by
  cases value <;> simp [isNull]

theorem Operand.isNull_iff {operand : Operand} : operand.isNull = true ↔ operand = .null := by
  cases operand <;> simp [isNull]

theorem Operand.coerce_string {operand : Operand} {meant : Value} :
    operand.coerce .string = .ok meant ↔
      ∃ text, operand.string? = some text ∧ .str text = meant := by
  cases text : operand.string? <;> simp [coerce, value?, text]

/-- Only a field that is declared as a string is of that kind. -/
theorem ResolvedField.type_of_dataType {field : ResolvedField} (kind : field.dataType = .string) :
    field.type = .string := by
  unfold dataType at kind
  split at kind
  · cases kind
  · revert kind
    cases field.type <;> simp [FieldType.dataType]

namespace Leaf

variable {leaf : Leaf} {field : ResolvedField} {test : Test} {value : Value}

private theorem holds_comparison_iff {comparison : Comparison} (ready : leaf.WellFormed)
    (compares : leaf.operator.comparison? = some comparison)
    (made : leaf.comparisonTest comparison field = .ok test) :
    test.holds value = true ↔ leaf.Says field.type value := by
  obtain ⟨path, operator, operands⟩ := leaf
  have unary : operator.arity = .unary := by
    cases operator <;> first | rfl | cases compares
  obtain ⟨operand, rfl⟩ : ∃ operand, operands = [operand] := operands_of_unary ready unary
  by_cases null : operand.isNull && !comparison.isOrdering
  · obtain ⟨isNull, noOrder⟩ := Bool.and_eq_true_iff.1 null
    cases Operand.isNull_iff.1 isNull
    cases operator <;> cases compares <;> simp [Comparison.isOrdering] at noOrder <;> cases made <;>
      simp [Says, Test.holds, ← Value.isNull_iff]
  · obtain ⟨meant, coerced, rfl⟩ :
        ∃ meant, operand.coerce field.type = .ok meant ∧ .compare comparison meant = test := by
      simp only [comparisonTest, Leaf.operand, bind, Except.bind, null, Bool.false_eq_true,
        ↓reduceIte] at made
      split at made
      · cases made
      · cases coerced : operand.coerce field.type with
        | error cause => simp [coerced] at made
        | ok meant =>
          rw [coerced] at made
          cases made
          exact ⟨meant, rfl, rfl⟩
    have meaning : (⟨path, operator, [operand]⟩ : Leaf).Says field.type value ↔
        ∃ meant order, operand.coerce field.type = .ok meant ∧
          value.compare? meant = some order ∧ operator.Admits order := by
      cases operator <;> cases compares <;> cases operand <;>
        first | exact Iff.rfl | simp [Operand.isNull, Comparison.isOrdering] at null
    rw [meaning, Test.holds_compare_iff]
    simp [coerced, Operator.admits_iff_holds compares]

private theorem holds_membership_iff (isMembership : leaf.operator = .oneOf)
    (made : leaf.membershipTest field = .ok test) :
    test.holds value = true ↔ leaf.Says field.type value := by
  obtain ⟨path, operator, operands⟩ := leaf
  cases isMembership
  obtain ⟨meants, coerced, returned⟩ := bind_eq_ok.1 made
  cases returned
  show meants.any value.equals = true ↔ ∃ operand ∈ operands, ∃ meant, _
  rw [List.any_eq_true]
  constructor
  · rintro ⟨meant, among, same⟩
    obtain ⟨operand, inside, denoted⟩ := (mem_results_iff coerced).1 among
    exact ⟨operand, inside, meant, denoted, same⟩
  · rintro ⟨operand, inside, meant, denoted, same⟩
    exact ⟨meant, (mem_results_iff coerced).2 ⟨operand, inside, denoted⟩, same⟩

/-- What a leaf that looks for a substring compiles to. -/
theorem containmentTest_eq_ok_iff : leaf.containmentTest field = .ok test ↔
    field.dataType = .string ∧ ∃ operand needle, leaf.operand = .ok operand ∧
      operand.string? = some needle ∧
      .like (Like.containing (if leaf.operator == .icontains then Text.lower needle else needle))
        (leaf.operator == .icontains) = test := by
  by_cases kind : field.dataType = .string
  · simp only [containmentTest, kind, ne_eq, not_true, if_false, true_and, bind_eq_ok]
    apply exists_congr
    intro operand
    cases denoted : operand.string? <;> simp
  · simp [containmentTest, kind]

private theorem holds_containment_iff (ready : leaf.WellFormed)
    (looks : leaf.operator = .contains ∨ leaf.operator = .icontains)
    (made : leaf.containmentTest field = .ok test) :
    test.holds value = true ↔ leaf.Says field.type value := by
  obtain ⟨path, operator, operands⟩ := leaf
  have unary : operator.arity = .unary := by
    rcases looks with rfl | rfl <;> rfl
  obtain ⟨operand, rfl⟩ : ∃ operand, operands = [operand] := operands_of_unary ready unary
  obtain ⟨kind, operand, needle, given, denoted, rfl⟩ := containmentTest_eq_ok_iff.1 made
  cases given
  rw [Test.holds_like_containing_iff]
  rcases looks with rfl | rfl <;>
    simp [Says, ResolvedField.type_of_dataType kind, Operand.coerce_string, denoted]

/-- The test of a leaf is passed by the values of which the leaf says the truth. -/
theorem holds_test_iff (ready : leaf.WellFormed) (made : leaf.test field = .ok test) :
    test.holds value = true ↔ leaf.Says field.type value := by
  unfold Leaf.test at made
  cases compares : leaf.operator.comparison? with
  | some comparison =>
    rw [compares] at made
    exact holds_comparison_iff ready compares made
  | none =>
    simp only [compares] at made
    split at made
    · rename_i isMembership
      exact holds_membership_iff isMembership made
    · rename_i notMembership
      refine holds_containment_iff ready ?_ made
      cases operator : leaf.operator <;> simp_all [Operator.comparison?]

end Leaf

namespace Condition

variable {φ ψ : Type}

@[simp] theorem tests_join (connective : Connective) (members : List (Condition φ)) :
    (join connective members).tests = testsOfAll members := by
  match members with
  | [] => rfl
  | [single] => simp [join, testsOfAll]
  | _ :: _ :: _ => cases connective <;> rfl

@[simp] theorem map_join (denote : φ → ψ) (connective : Connective)
    (members : List (Condition φ)) :
    (join connective members).map denote = join connective (members.map (map denote)) := by
  match members with
  | [] => rfl
  | [_] => rfl
  | _ :: _ :: _ => cases connective <;> simp [join, map, mapAll_eq_map]

theorem holds_join_and_iff {record : Record} {members : List RecordCondition} :
    (join .and members).holds record = true ↔ ∀ member ∈ members, member.holds record = true := by
  match members with
  | [] => simp [join, holds]
  | [_] => simp [join]
  | _ :: _ :: _ => simp [join, holds, allHold_eq_all]

theorem holds_join_or_iff {record : Record} {members : List RecordCondition}
    (some : members ≠ []) :
    (join .or members).holds record = true ↔ ∃ member ∈ members, member.holds record = true := by
  match members, some with
  | [_], _ => simp [join]
  | _ :: _ :: _, _ => simp [join, holds, anyHolds_eq_any]

end Condition

/-- The field that a leaf asks about, and the test that it makes of it. -/
def Leaf.question (schema : Schema) (root : String) (leaf : Leaf) :
    Except ExpressionError (ResolvedField × Test) := do
  let field ← schema.resolve root leaf.field
  let test ← leaf.test field
  return (field, test)

namespace Filter

variable (schema : Schema) (root : String)

theorem result_condition_leaf (leaf : Leaf) :
    (condition schema.resolver root (.leaf leaf)).result =
      (leaf.question schema root).map fun asked => .test asked.1 asked.2 := by
  simp only [condition_leaf, Resolution.result_bind, Resolution.result_resolver,
    Resolution.result_except, Resolution.result_pure, Leaf.question]
  cases schema.resolve root leaf.field with
  | error cause => rfl
  | ok field =>
    simp only [ok_bind]
    cases leaf.test field <;> rfl

theorem result_condition_group (connective : Connective) (members : List Filter) :
    (condition schema.resolver root (.group connective members)).result =
      (Filter.conditions schema.resolver root members).result.map (Condition.join connective) := by
  simp only [condition_group, Resolution.result_bind, Resolution.result_pure]
  cases (Filter.conditions schema.resolver root members).result <;> rfl

theorem result_conditions (members : List Filter) :
    (Filter.conditions schema.resolver root members).result =
      members.mapM fun member => (member.condition schema.resolver root).result := by
  induction members with
  | nil => rfl
  | cons member rest ih =>
    simp only [conditions_cons, Resolution.result_bind, Resolution.result_pure, ih, List.mapM_cons]
    rfl

mutual

/-- The tests of a compiled filter are those of its leaves, in order. -/
theorem tests_condition : ∀ filter : Filter,
    (filter.condition schema.resolver root).result.map Condition.tests =
      filter.leaves.mapM (Leaf.question schema root)
  | .leaf question => by
    rw [result_condition_leaf, leaves, List.mapM_cons, List.mapM_nil]
    cases question.question schema root <;> rfl
  | .group connective members => by
    rw [result_condition_group, leaves, ← testsOfAll_conditions members]
    cases (Filter.conditions schema.resolver root members).result <;> simp [Except.map]

theorem testsOfAll_conditions : ∀ members : List Filter,
    (Filter.conditions schema.resolver root members).result.map Condition.testsOfAll =
      (leavesOfAll members).mapM (Leaf.question schema root)
  | [] => rfl
  | member :: rest => by
    rw [leavesOfAll, List.mapM_append, ← tests_condition member, ← testsOfAll_conditions rest]
    simp only [conditions_cons, Resolution.result_bind, Resolution.result_pure]
    cases (member.condition schema.resolver root).result with
    | error cause => rfl
    | ok condition => cases (Filter.conditions schema.resolver root rest).result <;> rfl

end

variable {schema root} {record : Record}

mutual

/-- A compiled filter holds of the records of which the filter says the truth. -/
theorem holds_condition_iff : ∀ filter : Filter, filter.WellFormed →
    ∀ condition, (filter.condition schema.resolver root).result = .ok condition →
      ((condition.map ResolvedField.names).holds record = true ↔ filter.Holds schema root record)
  | .leaf question, ready, condition, compiled => by
    rw [result_condition_leaf] at compiled
    obtain ⟨⟨field, test⟩, asked, rfl⟩ := map_eq_ok.1 compiled
    obtain ⟨found, resolved, tested⟩ := bind_eq_ok.1 asked
    obtain ⟨made, tested, returned⟩ := bind_eq_ok.1 tested
    cases returned
    show test.holds (record.lookup field.names) = true ↔ question.Holds schema root record
    rw [Leaf.holds_test_iff ready tested]
    simp [Leaf.Holds, resolved]
  | .group connective members, ready, condition, compiled => by
    rw [result_condition_group] at compiled
    obtain ⟨conditions, compiledAll, rfl⟩ := map_eq_ok.1 compiled
    obtain ⟨all, any, occupied⟩ := holds_conditions_iff members ready.2 conditions compiledAll
    rw [Condition.map_join]
    cases connective with
    | and =>
      rw [Condition.holds_join_and_iff, List.forall_mem_map]
      exact all
    | or =>
      rw [Condition.holds_join_or_iff (by simpa using occupied ready.1)]
      refine Iff.trans ?_ any
      constructor
      · rintro ⟨denoted, among, holds⟩
        obtain ⟨condition, inside, rfl⟩ := List.mem_map.1 among
        exact ⟨condition, inside, holds⟩
      · rintro ⟨condition, among, holds⟩
        exact ⟨_, List.mem_map_of_mem among, holds⟩

theorem holds_conditions_iff : ∀ members : List Filter, AllWellFormed members →
    ∀ conditions, (Filter.conditions schema.resolver root members).result = .ok conditions →
      ((∀ condition ∈ conditions, (condition.map ResolvedField.names).holds record = true) ↔
        AllHold schema root record members) ∧
      ((∃ condition ∈ conditions, (condition.map ResolvedField.names).holds record = true) ↔
        AnyHolds schema root record members) ∧
      (members ≠ [] → conditions ≠ [])
  | [], _, conditions, compiled => by
    cases compiled
    simp [AllHold, AnyHolds]
  | member :: rest, ready, conditions, compiled => by
    rw [result_conditions] at compiled
    obtain ⟨condition, others, compiledMember, compiledRest, rfl⟩ := mapM_cons_eq_ok.1 compiled
    rw [← result_conditions] at compiledRest
    have first := holds_condition_iff member ready.1 condition compiledMember
    obtain ⟨all, any, -⟩ := holds_conditions_iff rest ready.2 others compiledRest
    refine ⟨?_, ?_, by simp⟩
    · rw [List.forall_mem_cons, AllHold, first, all]
    · simp only [List.mem_cons, exists_eq_or_imp, AnyHolds, first, any]

end

end Filter

namespace FilterTree

variable (schema : Schema) (root : String)

/-- A tree compiles to the conjunction of what its nodes compile to. -/
theorem result_condition (tree : FilterTree) :
    (tree.condition schema.resolver root).result =
      (Filter.conditions schema.resolver root tree.nodes).result.map (Condition.join .and) := by
  simp only [condition_eq, Resolution.result_bind, Resolution.result_pure]
  cases (Filter.conditions schema.resolver root tree.nodes).result <;> rfl

theorem result_compileForRecords (tree : FilterTree) :
    (tree.compileForRecords schema.resolver root).result =
      (tree.condition schema.resolver root).result.map (Condition.map ResolvedField.names) := by
  exact congrArg Prod.fst (start_compileForRecords schema.resolver root tree ())

/-- The tests of a compiled tree are those of its leaves, in order. -/
theorem tests_condition (tree : FilterTree) :
    (tree.condition schema.resolver root).result.map Condition.tests =
      tree.leaves.mapM (Leaf.question schema root) := by
  rw [result_condition, leaves, ← Filter.testsOfAll_conditions]
  cases (Filter.conditions schema.resolver root tree.nodes).result <;> simp

variable {schema root}

theorem compileForRecords_eq_error_iff {tree : FilterTree} {error : ExpressionError} :
    (tree.compileForRecords schema.resolver root).result = .error error ↔
      FirstError (Leaf.question schema root) tree.leaves error := by
  rw [result_compileForRecords, map_eq_error, ← mapM_eq_error_iff, ← tests_condition, map_eq_error]

theorem exists_compileForRecords_eq_ok_iff {tree : FilterTree} :
    (∃ condition, (tree.compileForRecords schema.resolver root).result = .ok condition) ↔
      ∀ leaf ∈ tree.leaves, ∃ asked, leaf.question schema root = .ok asked := by
  rw [← exists_mapM_eq_ok_iff, ← tests_condition, result_compileForRecords]
  cases (tree.condition schema.resolver root).result <;> simp

/-- A compiled tree holds of the records of which the tree says the truth. -/
theorem holds_compileForRecords_iff {tree : FilterTree} (ready : tree.WellFormed)
    {condition : RecordCondition} {record : Record}
    (compiled : (tree.compileForRecords schema.resolver root).result = .ok condition) :
    condition.holds record = true ↔ tree.Holds schema root record := by
  rw [result_compileForRecords, result_condition] at compiled
  obtain ⟨joined, compiledNodes, rfl⟩ := map_eq_ok.1 compiled
  obtain ⟨conditions, compiledAll, rfl⟩ := map_eq_ok.1 compiledNodes
  rw [Condition.map_join, Condition.holds_join_and_iff, List.forall_mem_map,
    (Filter.holds_conditions_iff tree.nodes ready conditions compiledAll).1, Filter.allHold_iff]
  rfl

end FilterTree

namespace Leaf

/-- The condition on records that a leaf compiles to on its own. -/
def compileAlone (schema : Schema) (root : String) (leaf : Leaf) :
    Except ExpressionError RecordCondition :=
  ((FilterTree.single (.leaf leaf)).compileForRecords schema.resolver root).result

/-- On its own a leaf compiles to its one test. -/
theorem compileAlone_eq (schema : Schema) (root : String) (leaf : Leaf) :
    leaf.compileAlone schema root =
      (leaf.question schema root).map fun asked => .test asked.1.names asked.2 := by
  rw [compileAlone, FilterTree.result_compileForRecords, FilterTree.result_condition]
  simp only [FilterTree.single, Filter.result_conditions, List.mapM_cons, List.mapM_nil,
    Filter.result_condition_leaf]
  cases leaf.question schema root <;> rfl

theorem firstError_compileAlone_iff {schema : Schema} {root : String} {leaves : List Leaf}
    {error : ExpressionError} :
    FirstError (compileAlone schema root) leaves error ↔
      FirstError (Leaf.question schema root) leaves error := by
  rw [funext (compileAlone_eq schema root), firstError_map_iff]

end Leaf

/-- A tree fails to compile iff one of its leaves fails on its own, and then with the error of the
first such leaf. Otherwise it compiles to a condition that holds of exactly the records of which
the tree says the truth. -/
theorem FilterTree.compileForRecords_firstError_and_meaning (schema : Schema) (root : String)
    (tree : FilterTree) (ready : tree.WellFormed) :
    ((∃ error, (tree.compileForRecords schema.resolver root).result = .error error) ↔
      ∃ leaf ∈ tree.leaves, ∃ error, leaf.compileAlone schema root = .error error) ∧
    (∀ error, (tree.compileForRecords schema.resolver root).result = .error error ↔
      FirstError (Leaf.compileAlone schema root) tree.leaves error) ∧
    (∀ condition, (tree.compileForRecords schema.resolver root).result = .ok condition →
      ∀ record, condition.holds record = true ↔ tree.Holds schema root record) := by
  have first (error : ExpressionError) :
      (tree.compileForRecords schema.resolver root).result = .error error ↔
        FirstError (Leaf.compileAlone schema root) tree.leaves error :=
    compileForRecords_eq_error_iff.trans Leaf.firstError_compileAlone_iff.symm
  refine ⟨?_, first, fun condition compiled record => holds_compileForRecords_iff ready compiled⟩
  rw [← exists_firstError_iff]
  exact exists_congr first

/-- Two conjuncts of which the first is a disjunction. -/
theorem FilterTree.compileForRecords_adult_or_named_and_present :
    let schema : Schema := ⟨[⟨"Person", none, none, [⟨"name", .string⟩, ⟨"age", .integer⟩]⟩]⟩
    let tree : FilterTree := ⟨[.group .or [.leaf ⟨"age", .gte, [.int 18]⟩,
      .leaf ⟨"name", .icontains, [.str "An"]⟩], .leaf ⟨"name", .ne, [.null]⟩]⟩
    tree.WellFormed ∧
    ((∃ error, (tree.compileForRecords schema.resolver "Person").result = .error error) ↔
      ∃ leaf ∈ tree.leaves, ∃ error, leaf.compileAlone schema "Person" = .error error) ∧
    (∀ error, (tree.compileForRecords schema.resolver "Person").result = .error error ↔
      FirstError (Leaf.compileAlone schema "Person") tree.leaves error) ∧
    (∀ condition, (tree.compileForRecords schema.resolver "Person").result = .ok condition →
      ∀ record, condition.holds record = true ↔ tree.Holds schema "Person" record) := by
  intro schema tree
  have ready : tree.WellFormed := ⟨⟨by simp, rfl, rfl, trivial⟩, rfl, trivial⟩
  exact ⟨ready, compileForRecords_firstError_and_meaning schema "Person" tree ready⟩

end FilterQuery
