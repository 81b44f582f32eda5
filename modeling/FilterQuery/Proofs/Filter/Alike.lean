import FilterQuery.Proofs.Filter.Compilation
/-! Filters that differ in their operands only. They ask the same about the same fields in the same
places, perhaps with other values, but as many of them; and where a null would make a test for null
of a comparison, both have a null or neither has. If both compile, the conditions that they compile
to differ in their operands only as well. -/
namespace FilterQuery

/-- Two leaves differ in their operands only. -/
structure Leaf.Alike (first second : Leaf) : Prop where
  field : first.field = second.field
  operator : first.operator = second.operator
  count : first.operands.length = second.operands.length
  null : first.operator = .eq ∨ first.operator = .ne →
    first.operands.head?.map Operand.isNull = second.operands.head?.map Operand.isNull

mutual

/-- Two filters differ in their operands only. -/
inductive Filter.Alike : Filter → Filter → Prop where
  | leaf {first second : Leaf} (alike : first.Alike second) : Alike (.leaf first) (.leaf second)
  | group {members others : List Filter} (connective : Connective)
      (alike : AllAlike members others) :
      Alike (.group connective members) (.group connective others)

/-- As many filters, each of which differs in its operands only. -/
inductive Filter.AllAlike : List Filter → List Filter → Prop where
  | nil : AllAlike [] []
  | cons {first second : Filter} {rest others : List Filter} (alike : Filter.Alike first second)
      (onwards : AllAlike rest others) : AllAlike (first :: rest) (second :: others)

end

/-- Two trees differ in their operands only. -/
def FilterTree.Alike (first second : FilterTree) : Prop := Filter.AllAlike first.nodes second.nodes

/-- Two tests differ in their operands only. -/
inductive Test.Alike : Test → Test → Prop where
  | isNull : Alike .isNull .isNull
  | isNotNull : Alike .isNotNull .isNotNull
  | compare (comparison : Comparison) (operand other : Value) :
      Alike (.compare comparison operand) (.compare comparison other)
  | oneOf {operands others : List Value} (count : operands.length = others.length) :
      Alike (.oneOf operands) (.oneOf others)
  | like (pattern other : String) (ignoreCase : Bool) :
      Alike (.like pattern ignoreCase) (.like other ignoreCase)

mutual

/-- Two conditions differ in their operands only. -/
inductive Condition.Alike {φ : Type} : Condition φ → Condition φ → Prop where
  | always : Alike .always .always
  | test (field : φ) {question other : Test} (alike : question.Alike other) :
      Alike (.test field question) (.test field other)
  | all {members others : List (Condition φ)} (alike : AllAlike members others) :
      Alike (.all members) (.all others)
  | any {members others : List (Condition φ)} (alike : AllAlike members others) :
      Alike (.any members) (.any others)

/-- As many conditions, each of which differs in its operands only. -/
inductive Condition.AllAlike {φ : Type} : List (Condition φ) → List (Condition φ) → Prop where
  | nil : AllAlike [] []
  | cons {first second : Condition φ} {rest others : List (Condition φ)}
      (alike : Condition.Alike first second) (onwards : AllAlike rest others) :
      AllAlike (first :: rest) (second :: others)

end

theorem Condition.AllAlike.join {φ : Type} {members others : List (Condition φ)}
    (alike : AllAlike members others) (connective : Connective) :
    Alike (Condition.join connective members) (Condition.join connective others) := by
  cases alike with
  | nil => exact .always
  | cons first onwards =>
    cases onwards with
    | nil => exact first
    | cons second more =>
      cases connective with
      | and => exact .all (.cons first (.cons second more))
      | or => exact .any (.cons first (.cons second more))

namespace Leaf

variable {first second : Leaf} {field : ResolvedField} {question other : Test}

/-- A comparison with an operand is a test for null or a comparison with a value, as the operand is
null or not. -/
theorem comparisonTest_eq_ok {leaf : Leaf} {comparison : Comparison}
    (made : leaf.comparisonTest comparison field = .ok question) :
    ∃ operand, leaf.operands.head? = some operand ∧
      ((operand.isNull && !comparison.isOrdering) = true ∧
          question = (if comparison = .ne then .isNotNull else .isNull) ∨
        (operand.isNull && !comparison.isOrdering) = false ∧
          ∃ value, question = .compare comparison value) := by
  obtain ⟨operand, given, made⟩ := bind_eq_ok.1 made
  have head : leaf.operands.head? = some operand := by
    unfold Leaf.operand at given
    split at given <;> cases given
    rename_i operands
    rw [operands, List.head?_cons]
  refine ⟨operand, head, ?_⟩
  cases null : operand.isNull && !comparison.isOrdering with
  | true =>
    simp only [null, if_true] at made
    cases made
    exact .inl ⟨rfl, rfl⟩
  | false =>
    simp only [null, Bool.false_eq_true, if_false] at made
    split at made
    · cases made
    · obtain ⟨value, -, made⟩ := bind_eq_ok.1 made
      cases made
      exact .inr ⟨rfl, value, rfl⟩

theorem alike_comparisonTest (alike : first.Alike second) {comparison : Comparison}
    (compares : first.operator.comparison? = some comparison)
    (made : first.comparisonTest comparison field = .ok question)
    (madeOther : second.comparisonTest comparison field = .ok other) : question.Alike other := by
  obtain ⟨operand, given, cases⟩ := comparisonTest_eq_ok made
  obtain ⟨operandOther, givenOther, casesOther⟩ := comparisonTest_eq_ok madeOther
  -- An ordering does not ask for null, and for the other comparisons both leaves agree on it.
  have agree : (operand.isNull && !comparison.isOrdering) =
      (operandOther.isNull && !comparison.isOrdering) := by
    by_cases tests : first.operator = .eq ∨ first.operator = .ne
    · have null := alike.null tests
      rw [given, givenOther] at null
      rw [Option.some.inj null]
    · have ordering : comparison.isOrdering = true := by
        revert compares tests
        cases first.operator <;> rintro ⟨⟩ tests <;> first | rfl | simp at tests
      rw [ordering, Bool.not_true, Bool.and_false, Bool.and_false]
  rw [← agree] at casesOther
  rcases cases with ⟨null, rfl⟩ | ⟨notNull, value, rfl⟩ <;>
    rcases casesOther with ⟨nullOther, rfl⟩ | ⟨notNullOther, valueOther, rfl⟩
  · split
    · exact .isNotNull
    · exact .isNull
  · rw [null] at notNullOther
    cases notNullOther
  · rw [notNull] at nullOther
    cases nullOther
  · exact .compare comparison value valueOther

/-- Leaves that differ in their operands only make tests that do. -/
theorem alike_test (alike : first.Alike second) (made : first.test field = .ok question)
    (madeOther : second.test field = .ok other) : question.Alike other := by
  unfold Leaf.test at made madeOther
  rw [← alike.operator] at madeOther
  cases compares : first.operator.comparison? with
  | some comparison =>
    simp only [compares] at made madeOther
    exact alike_comparisonTest alike compares made madeOther
  | none =>
    simp only [compares] at made madeOther
    by_cases membership : first.operator = .oneOf
    · rw [if_pos membership] at made madeOther
      obtain ⟨values, coerced, made⟩ := bind_eq_ok.1 made
      obtain ⟨others, coercedOther, madeOther⟩ := bind_eq_ok.1 madeOther
      cases made
      cases madeOther
      apply Test.Alike.oneOf
      rw [length_of_mapM coerced, length_of_mapM coercedOther, alike.count]
    · rw [if_neg membership] at made madeOther
      obtain ⟨-, -, -, -, -, rfl⟩ := containmentTest_eq_ok_iff.1 made
      obtain ⟨-, -, -, -, -, rfl⟩ := containmentTest_eq_ok_iff.1 madeOther
      rw [← alike.operator]
      exact .like _ _ _

end Leaf

namespace Filter

variable {schema : Schema} {root : String}

mutual

/-- Filters that differ in their operands only compile to conditions that do, if both compile. -/
theorem Alike.condition {first second : Filter} {condition other : Condition ResolvedField} :
    first.Alike second → (first.condition schema.resolver root).result = .ok condition →
      (second.condition schema.resolver root).result = .ok other → condition.Alike other
  | .leaf alike, compiled, compiledOther => by
    rw [result_condition_leaf] at compiled compiledOther
    obtain ⟨⟨field, question⟩, asked, rfl⟩ := map_eq_ok.1 compiled
    obtain ⟨⟨fieldOther, questionOther⟩, askedOther, rfl⟩ := map_eq_ok.1 compiledOther
    obtain ⟨found, resolved, asked⟩ := bind_eq_ok.1 asked
    obtain ⟨test, made, returned⟩ := bind_eq_ok.1 asked
    cases returned
    obtain ⟨foundOther, resolvedOther, askedOther⟩ := bind_eq_ok.1 askedOther
    obtain ⟨testOther, madeOther, returned⟩ := bind_eq_ok.1 askedOther
    cases returned
    rw [← alike.field, resolved] at resolvedOther
    cases resolvedOther
    exact .test field (Leaf.alike_test alike made madeOther)
  | .group connective alike, compiled, compiledOther => by
    rw [result_condition_group] at compiled compiledOther
    obtain ⟨members, compiledAll, rfl⟩ := map_eq_ok.1 compiled
    obtain ⟨others, compiledOthers, rfl⟩ := map_eq_ok.1 compiledOther
    exact (AllAlike.conditions alike compiledAll compiledOthers).join connective

theorem AllAlike.conditions {members others : List Filter}
    {conditions conditionsOther : List (Condition ResolvedField)} :
    AllAlike members others →
      (Filter.conditions schema.resolver root members).result = .ok conditions →
      (Filter.conditions schema.resolver root others).result = .ok conditionsOther →
      Condition.AllAlike conditions conditionsOther
  | .nil, compiled, compiledOther => by
    cases compiled
    cases compiledOther
    exact .nil
  | .cons alike onwards, compiled, compiledOther => by
    rw [result_conditions] at compiled compiledOther
    obtain ⟨condition, rest, compiledFirst, compiledRest, rfl⟩ := mapM_cons_eq_ok.1 compiled
    obtain ⟨other, restOther, compiledSecond, compiledOthers, rfl⟩ :=
      mapM_cons_eq_ok.1 compiledOther
    rw [← result_conditions] at compiledRest compiledOthers
    exact .cons (Alike.condition alike compiledFirst compiledSecond)
      (AllAlike.conditions onwards compiledRest compiledOthers)

end

end Filter

/-- Trees that differ in their operands only compile to conditions that do, if both compile. -/
theorem FilterTree.Alike.condition {schema : Schema} {root : String} {first second : FilterTree}
    {condition other : Condition ResolvedField} (alike : first.Alike second)
    (compiled : (first.condition schema.resolver root).result = .ok condition)
    (compiledOther : (second.condition schema.resolver root).result = .ok other) :
    Condition.Alike condition other := by
  rw [result_condition] at compiled compiledOther
  obtain ⟨members, compiledAll, rfl⟩ := map_eq_ok.1 compiled
  obtain ⟨others, compiledOthers, rfl⟩ := map_eq_ok.1 compiledOther
  exact (Filter.AllAlike.conditions alike compiledAll compiledOthers).join .and

end FilterQuery
