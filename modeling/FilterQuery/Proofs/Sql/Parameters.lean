import FilterQuery.Proofs.Sql.Agreement
import FilterQuery.Proofs.Value.Rendering
/-! What the parameters of a query denote. The values that a compiled filter compares
with are what operands were coerced to, so each is of the type of its field; a query
has exactly these as parameters, since sorting adds none. Written, a parameter denotes
for that type the value that records are compared with, except that an instant has
lost what lies below the millisecond. -/
namespace FilterQuery

/-- Up to the millisecond, the JSON value denotes the value. -/
structure Json.DenotesToMillis (json : Json) (type : FieldType) (value : Value) : Prop where
  kept : json.Denotes type value.kept
  whole : json.Denotes type value ↔ value.WholeMillis

/-- A value that an operand was coerced to is written as what denotes it up to the millisecond. -/
theorem Operand.denotesToMillis {operand : Operand} {type : FieldType} {value : Value}
    (coerced : operand.coerce type = .ok value) (renderable : value.Renderable) :
    value.toJson.DenotesToMillis type value :=
  ⟨denotes_kept coerced renderable, denotes_self_iff coerced renderable⟩

namespace Leaf

variable {leaf : Leaf} {field : ResolvedField} {test : Test}

theorem coerced_of_comparisonTest {comparison : Comparison}
    (made : leaf.comparisonTest comparison field = .ok test) :
    ∀ value ∈ test.operands, ∃ operand : Operand, operand.coerce field.type = .ok value := by
  obtain ⟨operand, -, made⟩ := bind_eq_ok.1 made
  split at made
  · -- a test for null has no operand
    cases made
    split <;> simp [Test.operands]
  · split at made
    · cases made
    · obtain ⟨value, coerced, made⟩ := bind_eq_ok.1 made
      cases made
      simpa [Test.operands] using ⟨operand, coerced⟩

theorem coerced_of_membershipTest (made : leaf.membershipTest field = .ok test) :
    ∀ value ∈ test.operands, ∃ operand : Operand, operand.coerce field.type = .ok value := by
  obtain ⟨values, coerced, made⟩ := bind_eq_ok.1 made
  cases made
  intro value among
  obtain ⟨operand, -, given⟩ := (mem_results_iff coerced).1 among
  exact ⟨operand, given⟩

/-- A pattern is a text, and only a field of texts is compared with one. -/
theorem coerced_of_containmentTest (made : leaf.containmentTest field = .ok test) :
    ∀ value ∈ test.operands, ∃ operand : Operand, operand.coerce field.type = .ok value := by
  obtain ⟨kind, operand, needle, -, -, rfl⟩ := containmentTest_eq_ok_iff.1 made
  rw [ResolvedField.type_of_dataType kind]
  simp only [Test.operands, List.forall_mem_singleton]
  exact ⟨.str _, rfl⟩

/-- The values that a leaf compares its field with are what operands were coerced to. -/
theorem coerced_of_test (made : leaf.test field = .ok test) :
    ∀ value ∈ test.operands, ∃ operand : Operand, operand.coerce field.type = .ok value := by
  unfold Leaf.test at made
  split at made
  · exact coerced_of_comparisonTest made
  · split at made
    · exact coerced_of_membershipTest made
    · exact coerced_of_containmentTest made

end Leaf

namespace Condition

/-- The values that the tests of a condition compare with, from left to right, each with the type
of the field that is compared with it. -/
def typedOperands (condition : Condition ResolvedField) : List (FieldType × Value) :=
  condition.tests.flatMap fun asked => asked.2.operands.map fun value => (asked.1.type, value)

theorem operands_eq_map_typedOperands (condition : Condition ResolvedField) :
    condition.operands = condition.typedOperands.map Prod.snd := by
  simp [operands, typedOperands, List.map_flatMap, Function.comp_def]

end Condition

/-- The values that a compiled tree compares fields with are what operands were coerced to. -/
theorem FilterTree.coerced_of_condition {schema : Schema} {root : String} {tree : FilterTree}
    {condition : Condition ResolvedField}
    (compiled : (tree.condition schema.resolver root).result = .ok condition) :
    ∀ typed ∈ condition.typedOperands, ∃ operand : Operand,
      operand.coerce typed.1 = .ok typed.2 := by
  have tests := tree.tests_condition schema root
  rw [compiled, map_ok] at tests
  simp only [Condition.typedOperands, List.mem_flatMap, List.mem_map]
  rintro _ ⟨⟨field, test⟩, asked, value, among, rfl⟩
  obtain ⟨leaf, -, question⟩ := (mem_results_iff tests.symm).1 asked
  obtain ⟨found, -, question⟩ := bind_eq_ok.1 question
  obtain ⟨made, tested, returned⟩ := bind_eq_ok.1 question
  cases returned
  exact Leaf.coerced_of_test tested value among

namespace Sql

variable {schema : Schema} {root : String} {bindings after : Bindings}
  {columns : List (List Fragment)}

/-- Sorting adds no parameters. -/
theorem params_of_orderColumns {keys : List SortKey}
    (ordered : (orderColumns schema root keys).run bindings = .ok (columns, after)) :
    after.params = bindings.params := by
  induction keys generalizing bindings columns after with
  | nil =>
    cases ordered
    rfl
  | cons key rest ih =>
    rw [run_orderColumns_cons] at ordered
    obtain ⟨field, -, ordered⟩ := bind_eq_ok.1 ordered
    obtain ⟨⟨others, last⟩, orderedRest, ordered⟩ := bind_eq_ok.1 ordered
    obtain ⟨fragments, added, ran, -⟩ := run_column schema field bindings
    cases ordered
    rw [ih orderedRest, ran]

theorem params_of_pageColumns {page? : Option PageRequest}
    (ordered : (pageColumns schema root page?).run bindings = .ok (columns, after)) :
    after.params = bindings.params := by
  cases page? with
  | none =>
    cases ordered
    rfl
  | some request =>
    rw [run_pageColumns_some] at ordered
    obtain ⟨-, -, ordered⟩ := bind_eq_ok.1 ordered
    exact params_of_orderColumns ordered

/-- The parameters of a query are the operands of the condition that its tree compiles to. -/
theorem params_of_select {tree : FilterTree} {page? : Option PageRequest} {select : Select}
    (given : Select.of schema root tree page? = .ok select) :
    ∃ condition, (tree.condition schema.resolver root).result = .ok condition ∧
      select.params = condition.operands := by
  obtain ⟨entity, -, given⟩ := bind_eq_ok.1 given
  obtain ⟨⟨text, bindings⟩, written, given⟩ := bind_eq_ok.1 given
  obtain ⟨⟨columns, after⟩, ordered, given⟩ := bind_eq_ok.1 given
  cases given
  have written := Failure.ofExcept_eq_ok.1 written
  obtain ⟨condition, compiled⟩ := exists_predicate_iff.1 ⟨_, written⟩
  refine ⟨condition, compiled, ?_⟩
  rw [params_of_pageColumns ordered]
  exact (predicate_renders compiled written).1

/-- A value that an operand is coerced to is written as what denotes it up to the millisecond, for
the type it was coerced to. The same holds of each parameter of a query and the type of its field,
and the parameters are in order the values that the condition on records compares with. -/
theorem parameters_denote_operands (operand : Operand) (type : FieldType) (value : Value)
    (coerced : operand.coerce type = .ok value) (renderable : value.Renderable) :
    value.toJson.DenotesToMillis type value ∧
    ∀ schema root tree page? select, Select.of schema root tree page? = .ok select →
      ∃ condition : Condition ResolvedField,
        (tree.compileForRecords schema.resolver root).result =
          .ok (condition.map ResolvedField.names) ∧
        (condition.map ResolvedField.names).operands = condition.typedOperands.map Prod.snd ∧
        select.paramsToJson = .arr (condition.typedOperands.map fun typed => typed.2.toJson) ∧
        ∀ typed ∈ condition.typedOperands, typed.2.Renderable →
          typed.2.toJson.DenotesToMillis typed.1 typed.2 := by
  refine ⟨Operand.denotesToMillis coerced renderable, ?_⟩
  intro schema root tree page? select given
  obtain ⟨condition, compiled, params⟩ := params_of_select given
  have operands := condition.operands_eq_map_typedOperands
  refine ⟨condition, ?_, ?_, ?_, ?_⟩
  · rw [FilterTree.result_compileForRecords, compiled, map_ok]
  · rw [Condition.operands_map, operands]
  · rw [Select.paramsToJson, params, operands, List.map_map]
    rfl
  · intro typed among renderable
    obtain ⟨operand, coerced⟩ := FilterTree.coerced_of_condition compiled typed among
    exact Operand.denotesToMillis coerced renderable

/-- An instant with an offset and a fraction, and a query that compares with it. -/
theorem parameters_denote_operands_half_second :
    let operand : Operand := .str "2007-12-03T11:15:30.5+01:00"
    let instant : Timestamp := ⟨⟨2007, 12, 3, by decide⟩, 36930, 500000000, by decide⟩
    let schema : Schema := ⟨[⟨"Event", none, none, [⟨"at", .dateTime⟩, ⟨"weight", .decimal⟩]⟩]⟩
    let tree : FilterTree :=
      ⟨[.leaf ⟨"weight", .lt, [.int 2]⟩, .leaf ⟨"at", .gte, [operand]⟩]⟩
    operand.coerce .dateTime = .ok (.timestamp instant) ∧
    (Value.timestamp instant).Renderable ∧
    (Value.timestamp instant).toJson.DenotesToMillis .dateTime (.timestamp instant) ∧
    ∃ select, Select.of schema "Event" tree none = .ok select ∧
      ∃ condition : Condition ResolvedField,
        (condition.map ResolvedField.names).operands = condition.typedOperands.map Prod.snd ∧
        select.paramsToJson = .arr (condition.typedOperands.map fun typed => typed.2.toJson) ∧
        ∀ typed ∈ condition.typedOperands, typed.2.Renderable →
          typed.2.toJson.DenotesToMillis typed.1 typed.2 := by
  intro operand instant schema tree
  have coerced : operand.coerce .dateTime = .ok (.timestamp instant) :=
    Operand.coerce_of_readTimestamp? (by decide +kernel)
  have fourDigits : (Value.timestamp instant).Renderable := by
    show (0 : Int) ≤ 2007 ∧ (2007 : Int) ≤ 9999
    decide
  have accepted : (Select.of schema "Event" tree none).toOption.isSome = true := by decide +kernel
  obtain ⟨select, given⟩ : ∃ select, Select.of schema "Event" tree none = .ok select := by
    cases made : Select.of schema "Event" tree none with
    | ok select => exact ⟨select, rfl⟩
    | error cause => simp [made, Except.toOption] at accepted
  obtain ⟨denotes, parameters⟩ :=
    parameters_denote_operands operand .dateTime (.timestamp instant) coerced fourDigits
  obtain ⟨condition, -, operands, params, eachDenotes⟩ :=
    parameters schema "Event" tree none select given
  exact ⟨coerced, fourDigits, denotes, select, given, condition, operands, params, eachDenotes⟩

/-- The text of an instant with a microsecond is coerced to it, but the written instant denotes an
earlier one. -/
theorem written_microsecond_denotes_other_instant :
    ∃ value, (Operand.str "2007-12-03T10:15:30.000001Z").coerce .dateTime = .ok value ∧
      value.Renderable ∧ value.toJson.compact = "\"2007-12-03T10:15:30.000Z\"" ∧
      ¬ value.toJson.Denotes .dateTime value := by
  let instant : Timestamp := ⟨⟨2007, 12, 3, by decide⟩, 36930, 1000, by decide⟩
  have coerced : (Operand.str "2007-12-03T10:15:30.000001Z").coerce .dateTime =
      .ok (.timestamp instant) :=
    Operand.coerce_of_readTimestamp? (by decide +kernel)
  have fourDigits : (Value.timestamp instant).Renderable := by
    show (0 : Int) ≤ 2007 ∧ (2007 : Int) ≤ 9999
    decide
  refine ⟨.timestamp instant, coerced, fourDigits, by decide +kernel, ?_⟩
  rw [Operand.denotes_self_iff coerced fourDigits]
  show ¬ 1000 % 1000000 = 0
  decide

end Sql

end FilterQuery
