import FilterQuery.Proofs.Database.Lookup
import FilterQuery.Proofs.Filter.Compilation
/-! The operators among each other. Of a stored record either the field is null, and then
no comparison with an operand holds, or its value stands in exactly one order to the
operand, because both are of the type of the field. So no record is lost between an
operator and its opposite, and each operator can be told from the others. -/
namespace FilterQuery

theorem Operand.isNull_eq_false {operand : Operand} (given : operand ≠ .null) :
    operand.isNull = false := by
  rw [Bool.eq_false_iff]
  exact fun null => given (isNull_iff.1 null)

namespace Leaf

/-- Whether the leaf, compiled on its own, holds of a record. -/
def answer (schema : Schema) (root : String) (record : Record) (leaf : Leaf) :
    Except ExpressionError Bool :=
  (leaf.compileAlone schema root).map fun condition => condition.holds record

variable {schema : Schema} {root path : String} {record : Record} {field : ResolvedField}

/-- A leaf answers for the value at the end of its path. -/
theorem answer_of_test (leaf : Leaf) (test : Test)
    (resolved : schema.resolve root leaf.field = .ok field) (made : leaf.test field = .ok test) :
    leaf.answer schema root record = .ok (test.holds (record.lookup field.names)) := by
  have asked : leaf.question schema root = .ok (field, test) :=
    bind_eq_ok.2 ⟨field, resolved, bind_eq_ok.2 ⟨test, made, rfl⟩⟩
  rw [answer, compileAlone_eq, asked]
  rfl

theorem answer_eq_null (resolved : schema.resolve root path = .ok field) :
    answer schema root record ⟨path, .eq, [.null]⟩ = .ok (record.lookup field.names).isNull :=
  answer_of_test ⟨path, .eq, [.null]⟩ .isNull resolved rfl

theorem answer_ne_null (resolved : schema.resolve root path = .ok field) :
    answer schema root record ⟨path, .ne, [.null]⟩ = .ok (!(record.lookup field.names).isNull) :=
  answer_of_test ⟨path, .ne, [.null]⟩ .isNotNull resolved rfl

/-- A comparison with an operand answers by the order of the value and what the operand denotes. -/
theorem answer_comparison {operator : Operator} {comparison : Comparison} {operand : Operand}
    {meant : Value} (compares : operator.comparison? = some comparison)
    (resolved : schema.resolve root path = .ok field) (given : operand ≠ .null)
    (coerced : operand.coerce field.type = .ok meant)
    (ordered : comparison.isOrdering = true → field.isComparable = true) :
    answer schema root record ⟨path, operator, [operand]⟩ =
      .ok (((record.lookup field.names).compare? meant).any comparison.holds) := by
  have allowed : (comparison.isOrdering && !field.isComparable) = false := by
    cases isOrdering : comparison.isOrdering with
    | false => rfl
    | true => simp [ordered isOrdering]
  have made : test ⟨path, operator, [operand]⟩ field = .ok (.compare comparison meant) := by
    simp [test, compares, comparisonTest, Leaf.operand,
      Operand.isNull_eq_false given, allowed, coerced]
  exact answer_of_test ⟨path, operator, [operand]⟩ (.compare comparison meant) resolved made

/-- Membership answers whether the value equals something that the operands denote. -/
theorem answer_oneOf {operands : List Operand} {meant : List Value}
    (resolved : schema.resolve root path = .ok field)
    (coerced : operands.mapM (fun operand => operand.coerce field.type) = .ok meant) :
    answer schema root record ⟨path, .oneOf, operands⟩ =
      .ok (meant.any (record.lookup field.names).equals) := by
  have made : test ⟨path, .oneOf, operands⟩ field = .ok (.oneOf meant) := by
    show membershipTest ⟨path, .oneOf, operands⟩ field = .ok (.oneOf meant)
    exact bind_eq_ok.2 ⟨meant, coerced, rfl⟩
  exact answer_of_test ⟨path, .oneOf, operands⟩ (.oneOf meant) resolved made

end Leaf

/-- An operand that a field can be asked to equal: it is not null, its decimals are finite, and the
question compiles. -/
structure Operand.Suits (operand : Operand) (schema : Schema) (root path : String) : Prop where
  given : operand ≠ .null
  finite : operand.Finite
  compiles : ∃ condition, Leaf.compileAlone schema root ⟨path, .eq, [operand]⟩ = .ok condition

/-- Equality asks for the order of equality. -/
theorem Comparison.any_holds_eq (order? : Option Ordering) :
    order?.any Comparison.eq.holds = (order? == some .eq) := by
  cases order? <;> rfl

/-- What may stand in a field is null iff it has no order to a value of the type of the field. -/
theorem FieldType.Admits.isNone_compare? {type : FieldType} {meant stored : Value}
    (admitted : type.Admits meant) (possible : stored = .null ∨ type.Admits stored) :
    (stored.compare? meant).isNone = stored.isNull := by
  rcases possible with rfl | held
  · cases admitted <;> rfl
  · obtain ⟨order, compared⟩ := held.exists_compare? admitted
    rw [compared, held.isNull_eq_false]
    rfl

section Suits

variable {schema : Schema} {root path : String} {operand : Operand}

/-- An operand that suits a path denotes a value of the type of the path. -/
theorem Operand.Suits.exists_meant (suits : operand.Suits schema root path) :
    ∃ field meant, schema.resolve root path = .ok field ∧
      operand.coerce field.type = .ok meant ∧ field.type.Admits meant := by
  obtain ⟨condition, compiled⟩ := suits.compiles
  rw [Leaf.compileAlone_eq] at compiled
  obtain ⟨asked, questioned, -⟩ := map_eq_ok.1 compiled
  obtain ⟨field, resolved, questioned⟩ := bind_eq_ok.1 questioned
  obtain ⟨test, made, -⟩ := bind_eq_ok.1 questioned
  have compared : (do
      let value ← operand.coerce field.type
      return Test.compare .eq value) = .ok test := by
    simpa [Leaf.test, Operator.comparison?, Leaf.comparisonTest, Leaf.operand,
      isNull_eq_false suits.given, Comparison.isOrdering] using made
  obtain ⟨meant, coerced, -⟩ := bind_eq_ok.1 compared
  exact ⟨field, meant, resolved, coerced, admits_of_coerce suits.finite coerced⟩

/-- A question for equality is answered by equality with the value that the operand denotes. -/
theorem Operand.Suits.answer_eq_iff (suits : operand.Suits schema root path)
    {field : ResolvedField} (resolved : schema.resolve root path = .ok field) (record : Record) :
    Leaf.answer schema root record ⟨path, .eq, [operand]⟩ = .ok true ↔
      ∃ meant, operand.coerce field.type = .ok meant ∧
        (record.lookup field.names).equals meant = true := by
  obtain ⟨same, meant, resolvedAgain, coerced, admitted⟩ := suits.exists_meant
  rw [resolved] at resolvedAgain
  cases resolvedAgain
  rw [Leaf.answer_comparison rfl resolved suits.given coerced (by simp [Comparison.isOrdering]),
    Comparison.any_holds_eq, ← admitted.equals_eq, coerced]
  simp

/-- Membership in a list of operands is equality with one of them. -/
theorem Leaf.exists_answer_oneOf {operands : List Operand} (some : operands ≠ [])
    (suit : ∀ operand ∈ operands, operand.Suits schema root path) (record : Record) :
    ∃ among, answer schema root record ⟨path, .oneOf, operands⟩ = .ok among ∧
      (among = true ↔ ∃ operand ∈ operands,
        answer schema root record ⟨path, .eq, [operand]⟩ = .ok true) := by
  obtain ⟨first, others, rfl⟩ := List.exists_cons_of_ne_nil some
  obtain ⟨field, -, resolved, -⟩ := (suit first List.mem_cons_self).exists_meant
  have means : ∀ operand ∈ first :: others, ∃ meant, operand.coerce field.type = .ok meant := by
    intro operand inside
    obtain ⟨same, meant, resolvedAgain, coerced, -⟩ := (suit operand inside).exists_meant
    rw [resolved] at resolvedAgain
    cases resolvedAgain
    exact ⟨meant, coerced⟩
  obtain ⟨meant, coerced⟩ := exists_mapM_eq_ok_iff.2 means
  refine ⟨_, answer_oneOf resolved coerced, ?_⟩
  rw [List.any_eq_true]
  constructor
  · rintro ⟨value, among, same⟩
    obtain ⟨operand, inside, denoted⟩ := (mem_results_iff coerced).1 among
    exact ⟨operand, inside,
      ((suit operand inside).answer_eq_iff resolved record).2 ⟨value, denoted, same⟩⟩
  · rintro ⟨operand, inside, answered⟩
    obtain ⟨value, denoted, same⟩ :=
      ((suit operand inside).answer_eq_iff resolved record).1 answered
    exact ⟨value, (mem_results_iff coerced).2 ⟨operand, inside, denoted⟩, same⟩

end Suits

namespace Database.Reachable

variable {database : Database} {entity path : String} {record : Record}

/-- A stored record has at most one order to an operand. All comparisons answer by this order, and
without one the field is null. -/
theorem exists_order (reachable : database.Reachable) (distinct : database.schema.DistinctFields)
    (stored : record ∈ database.tables.rows entity) {operand : Operand}
    (suits : operand.Suits database.schema entity path) :
    ∃ field order?, database.schema.resolve entity path = .ok field ∧
      (∀ operator comparison, operator.comparison? = some comparison →
        (comparison.isOrdering = true → field.isComparable = true) →
        Leaf.answer database.schema entity record ⟨path, operator, [operand]⟩ =
          .ok (Option.any comparison.holds order?)) ∧
      Leaf.answer database.schema entity record ⟨path, .eq, [.null]⟩ = .ok order?.isNone ∧
      Leaf.answer database.schema entity record ⟨path, .ne, [.null]⟩ = .ok (!order?.isNone) := by
  obtain ⟨field, meant, resolved, coerced, admitted⟩ := suits.exists_meant
  have possible := reachable.null_or_admitted distinct resolved stored
  refine ⟨field, (record.lookup field.names).compare? meant, resolved, ?_, ?_, ?_⟩
  · intro operator comparison compares ordered
    exact Leaf.answer_comparison compares resolved suits.given coerced ordered
  · rw [admitted.isNone_compare? possible]
    exact Leaf.answer_eq_null resolved
  · rw [admitted.isNone_compare? possible]
    exact Leaf.answer_ne_null resolved

/-- In the records of a reachable database each operator can be told from the others. A field is
equal to an operand, unequal to it, or null; where it has an order, it is less, equal, greater, or
null; and it is in a list if it equals an item of the list. -/
theorem operators_tell_records_apart (reachable : database.Reachable)
    (distinct : database.schema.DistinctFields) (entity path : String) :
    ∀ record ∈ database.tables.rows entity,
      let told (operator : Operator) (operands : List Operand) : Except ExpressionError Bool :=
        Leaf.answer database.schema entity record ⟨path, operator, operands⟩
      (∀ operand : Operand, operand.Suits database.schema entity path →
        ∃ equal unequal absent,
          told .eq [operand] = .ok equal ∧ told .ne [operand] = .ok unequal ∧
          told .eq [.null] = .ok absent ∧ told .ne [.null] = .ok (!absent) ∧
          [equal, unequal, absent].count true = 1 ∧
          ∀ field, database.schema.resolve entity path = .ok field → field.isComparable = true →
            ∃ less greater,
              told .lt [operand] = .ok less ∧ told .gt [operand] = .ok greater ∧
              [less, equal, greater, absent].count true = 1 ∧
              told .lte [operand] = .ok (less || equal) ∧
              told .gte [operand] = .ok (greater || equal)) ∧
      ∀ operands : List Operand, operands ≠ [] →
        (∀ operand ∈ operands, operand.Suits database.schema entity path) →
        ∃ among, told .oneOf operands = .ok among ∧
          (among = true ↔ ∃ operand ∈ operands, told .eq [operand] = .ok true) := by
  intro record stored told
  constructor
  · intro operand suits
    obtain ⟨field, order?, resolved, compares, eqNull, neNull⟩ :=
      reachable.exists_order distinct stored suits
    refine ⟨_, _, _, compares .eq .eq rfl (by simp [Comparison.isOrdering]),
      compares .ne .ne rfl (by simp [Comparison.isOrdering]), eqNull, neNull, ?_, ?_⟩
    · rcases order? with _ | _ | _ | _ <;> rfl
    · intro same resolvedAgain comparable
      rw [resolved] at resolvedAgain
      cases resolvedAgain
      have ordered (comparison : Comparison) : comparison.isOrdering = true →
          field.isComparable = true := fun _ => comparable
      refine ⟨_, _, compares .lt .lt rfl (ordered .lt), compares .gt .gt rfl (ordered .gt), ?_, ?_, ?_⟩
      · rcases order? with _ | _ | _ | _ <;> rfl
      · refine (compares .lte .le rfl (ordered .le)).trans ?_
        rcases order? with _ | _ | _ | _ <;> rfl
      · refine (compares .gte .ge rfl (ordered .ge)).trans ?_
        rcases order? with _ | _ | _ | _ <;> rfl
  · intro operands some suit
    exact Leaf.exists_answer_oneOf some suit record

end Database.Reachable

/-- A price, a price that is null, and operands on either side of the price. -/
theorem Database.operators_tell_prices_apart :
    let item : Entity := ⟨"Item", none, none, [⟨"price", .decimal⟩]⟩
    let price : Binary64 := .finite false 0x4004000000000000 (by decide)
    let priced : Record := ⟨[("price", .dec price)]⟩
    let unpriced : Record := ⟨[("price", .null)]⟩
    let database : Database := ⟨⟨[item]⟩, .empty, [("Item", [priced, unpriced])]⟩
    database.Reachable ∧ database.schema.DistinctFields ∧
    ∀ record ∈ [priced, unpriced],
      let told (operator : Operator) (operands : List Operand) : Except ExpressionError Bool :=
        Leaf.answer database.schema "Item" record ⟨"price", operator, operands⟩
      (∃ less equal greater absent,
        told .lt [.int 2] = .ok less ∧ told .eq [.int 2] = .ok equal ∧
        told .gt [.int 2] = .ok greater ∧ told .eq [.null] = .ok absent ∧
        [less, equal, greater, absent].count true = 1) ∧
      ∃ among, told .oneOf [.int 2, .str "2.5"] = .ok among ∧
        (among = true ↔ ∃ operand ∈ [Operand.int 2, .str "2.5"], told .eq [operand] = .ok true) := by
  intro item price priced unpriced database
  let holding (tables : Tables) : Database := ⟨⟨[item]⟩, .empty, tables⟩
  have opening : Database.openEmpty ⟨[item]⟩ = .ok (holding []) := rfl
  have storedPriced : (holding []).insert "Item" (.obj [("price", .num (.float price rfl))]) =
      .ok (1, holding [("Item", [priced])]) := rfl
  have storedUnpriced : (holding [("Item", [priced])]).insert "Item" (.obj []) =
      .ok (2, database) := rfl
  have reachable : database.Reachable :=
    .next (.next (.opened opening) (.stored storedPriced)) (.stored storedUnpriced)
  have distinct : database.schema.DistinctFields := by
    simp [Schema.DistinctFields, database, item]
  have suitsTwo : (Operand.int 2).Suits database.schema "Item" "price" :=
    ⟨by simp, trivial, .test ["price"] (.compare .eq (.dec (.ofInt 2))), rfl⟩
  have suitsText : (Operand.str "2.5").Suits database.schema "Item" "price" :=
    ⟨by simp, trivial, .test ["price"] (.compare .eq (.dec price)), rfl⟩
  refine ⟨reachable, distinct, ?_⟩
  intro record stored told
  obtain ⟨single, list⟩ :=
    reachable.operators_tell_records_apart distinct "Item" "price" record stored
  constructor
  · obtain ⟨equal, unequal, absent, isEqual, isUnequal, isAbsent, isPresent, one, ordered⟩ :=
      single (.int 2) suitsTwo
    obtain ⟨less, greater, isLess, isGreater, oneOfFour, -⟩ := ordered _ rfl rfl
    exact ⟨less, equal, greater, absent, isLess, isEqual, isGreater, isAbsent, oneOfFour⟩
  · apply list [.int 2, .str "2.5"] (by simp)
    intro operand inside
    rcases List.mem_cons.1 inside with rfl | inside
    · exact suitsTwo
    · rw [List.mem_singleton.1 inside]
      exact suitsText

end FilterQuery
