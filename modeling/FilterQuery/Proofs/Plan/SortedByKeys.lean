import FilterQuery.Proofs.Plan.Interleaving
/-! What a sort makes of the rows of its source, said without the way in which it compares
them. A criterion puts nulls where it says, whatever its direction, and turns round only
the order of values. If the values that it looks at are of one kind, comparing rows tells
which of them ranks before the other one, and whether their keys are equal. So a sort gives
the rows in the order of their keys, and those with equal keys in the order in which they
came. There is one such list. -/
namespace FilterQuery

namespace SortCriterion

/-- A criterion puts a value before another one. -/
inductive PutsBefore (criterion : SortCriterion) : Value → Value → Prop where
  | nullFirst {value : Value} (first : criterion.nulls = .first) (given : value ≠ .null) :
    PutsBefore criterion .null value
  | nullLast {value : Value} (last : criterion.nulls = .last) (given : value ≠ .null) :
    PutsBefore criterion value .null
  | ascending {a b : Value} (ascends : criterion.direction = .asc) (before : a.Before b) :
    PutsBefore criterion a b
  | descending {a b : Value} (descends : criterion.direction = .desc) (before : b.Before a) :
    PutsBefore criterion a b

/-- A row ranks before another one: the first criterion under which their keys differ puts its key
first. -/
inductive RanksBefore : List SortCriterion → Record → Record → Prop where
  | decided {criterion : SortCriterion} {rest : List SortCriterion} {a b : Record}
    (before : criterion.PutsBefore (a.lookup criterion.path) (b.lookup criterion.path)) :
    RanksBefore (criterion :: rest) a b
  | left {criterion : SortCriterion} {rest : List SortCriterion} {a b : Record}
    (same : (a.lookup criterion.path).same (b.lookup criterion.path) = true)
    (later : RanksBefore rest a b) : RanksBefore (criterion :: rest) a b

/-- Whether two rows have equal keys under all criteria. -/
def sameKeys (criteria : List SortCriterion) (a b : Record) : Bool :=
  criteria.all fun criterion => (a.lookup criterion.path).same (b.lookup criterion.path)

end SortCriterion

/-- A list holds rows in the order of their keys, and those with equal keys in the order in which
they came. -/
structure SortedByKeys (criteria : List SortCriterion) (rows sorted : List Record) : Prop where
  perm : sorted.Perm rows
  ordered : sorted.Pairwise fun a b =>
    SortCriterion.RanksBefore criteria a b ∨ SortCriterion.sameKeys criteria a b = true
  stable : ∀ row ∈ rows,
    sorted.filter (SortCriterion.sameKeys criteria row) =
      rows.filter (SortCriterion.sameKeys criteria row)

namespace SortCriterion

section Values

variable {criterion : SortCriterion} {a b value : Value}

theorem putsBefore_null_left_iff (given : value ≠ .null) :
    criterion.PutsBefore .null value ↔ criterion.nulls = .first := by
  constructor
  · intro before
    cases before with
    | nullFirst first _ => exact first
    | nullLast _ given => exact absurd rfl given
    | ascending _ before => exact absurd rfl before.left_ne_null
    | descending _ before => exact absurd rfl before.right_ne_null
  · intro first
    exact .nullFirst first given

theorem putsBefore_null_right_iff (given : value ≠ .null) :
    criterion.PutsBefore value .null ↔ criterion.nulls = .last := by
  constructor
  · intro before
    cases before with
    | nullFirst _ given => exact absurd rfl given
    | nullLast last _ => exact last
    | ascending _ before => exact absurd rfl before.right_ne_null
    | descending _ before => exact absurd rfl before.left_ne_null
  · intro last
    exact .nullLast last given

theorem not_putsBefore_null : ¬ criterion.PutsBefore .null .null := by
  intro before
  cases before with
  | nullFirst _ given => exact given rfl
  | nullLast _ given => exact given rfl
  | ascending _ before => exact before.left_ne_null rfl
  | descending _ before => exact before.left_ne_null rfl

theorem putsBefore_iff_of_given (given : a ≠ .null) (otherGiven : b ≠ .null) :
    criterion.PutsBefore a b ↔
      if criterion.direction = .asc then a.Before b else b.Before a := by
  constructor
  · intro before
    cases before with
    | nullFirst => exact absurd rfl given
    | nullLast => exact absurd rfl otherGiven
    | ascending ascends before => rwa [if_pos ascends]
    | descending descends before =>
      rw [descends]
      exact before
  · intro before
    cases direction : criterion.direction with
    | asc =>
      rw [direction] at before
      exact .ascending direction before
    | desc =>
      rw [direction] at before
      exact .descending direction before

/-- Comparing two keys, of which each is null or of one kind, tells which one is put first, and
whether they are equal. -/
theorem compareValues_iff (criterion : SortCriterion) {kind : OrderedKind}
    (possible : a = .null ∨ kind.Covers a) (otherPossible : b = .null ∨ kind.Covers b) :
    (criterion.compareValues a b = .lt ↔ criterion.PutsBefore a b) ∧
      (criterion.compareValues a b = .eq ↔ a.same b = true) := by
  rcases possible with rfl | covers <;> rcases otherPossible with rfl | otherCovers
  · exact ⟨iff_of_false (by simp [compareValues, Value.isNull]) not_putsBefore_null,
      iff_of_true rfl (by simp [Value.same])⟩
  · rw [compareValues_null_left criterion otherCovers.isNull_eq_false,
      putsBefore_null_left_iff otherCovers.ne_null]
    have differs : Value.same .null b = false := by cases otherCovers <;> simp [Value.same]
    cases criterion.nulls <;> simp [differs]
  · rw [compareValues_null_right criterion covers.isNull_eq_false,
      putsBefore_null_right_iff covers.ne_null]
    have differs : a.same .null = false := by cases covers <;> simp [Value.same]
    cases criterion.nulls <;> simp [differs]
  · rw [compareValues_of_given criterion covers.isNull_eq_false otherCovers.isNull_eq_false,
      putsBefore_iff_of_given covers.ne_null otherCovers.ne_null]
    obtain ⟨order, compared, first, equal⟩ := covers.exists_compare? otherCovers
    obtain ⟨opposite, comparedBack, last, -⟩ := otherCovers.exists_compare? covers
    have turned : opposite = order.swap := by
      rw [Value.compare?_swap a b, compared] at comparedBack
      exact (Option.some.inj comparedBack).symm
    rw [compared, Option.getD_some, ← turned]
    cases criterion.direction with
    | asc => exact ⟨first, equal⟩
    | desc =>
      refine ⟨last, ?_⟩
      rw [← equal, turned]
      cases order <;> decide

end Values

section Rows

variable {criterion : SortCriterion} {criteria rest : List SortCriterion}
  {rows sorted : List Record} {a b : Record}

theorem ranksBefore_cons_iff : RanksBefore (criterion :: rest) a b ↔
    criterion.PutsBefore (a.lookup criterion.path) (b.lookup criterion.path) ∨
      (a.lookup criterion.path).same (b.lookup criterion.path) = true ∧ RanksBefore rest a b := by
  constructor
  · intro ranks
    cases ranks with
    | decided before => exact .inl before
    | left same later => exact .inr ⟨same, later⟩
  · rintro (before | ⟨same, later⟩)
    · exact .decided before
    · exact .left same later

/-- Comparing rows under criteria of which each looks at values of one kind tells which one ranks
first, and whether their keys are equal. -/
theorem compareAll_iff (uniform : ∀ criterion ∈ criteria, criterion.Uniform rows)
    (inside : a ∈ rows) (otherInside : b ∈ rows) :
    (compareAll criteria a b = .lt ↔ RanksBefore criteria a b) ∧
      (compareAll criteria a b = .eq ↔ sameKeys criteria a b = true) := by
  induction criteria with
  | nil => exact ⟨iff_of_false (by simp [compareAll]) nofun, iff_of_true rfl rfl⟩
  | cons criterion rest ih =>
    obtain ⟨⟨kind, possible⟩, others⟩ := List.forall_mem_cons.1 uniform
    obtain ⟨first, equal⟩ := criterion.compareValues_iff (possible a inside) (possible b otherInside)
    obtain ⟨later, equalLater⟩ := ih others
    rw [compareAll, Ordering.then_eq_lt, Ordering.then_eq_eq, later, equalLater, compareRows, first,
      equal, ranksBefore_cons_iff]
    simp [sameKeys]

theorem isLE_compareAll_iff (uniform : ∀ criterion ∈ criteria, criterion.Uniform rows)
    (inside : a ∈ rows) (otherInside : b ∈ rows) :
    (compareAll criteria a b).isLE = true ↔
      RanksBefore criteria a b ∨ sameKeys criteria a b = true := by
  obtain ⟨first, equal⟩ := compareAll_iff uniform inside otherInside
  rw [← first, ← equal, Ordering.isLE_iff_eq_lt_or_eq_eq]

theorem tied_eq_sameKeys (uniform : ∀ criterion ∈ criteria, criterion.Uniform rows)
    (inside : a ∈ rows) (otherInside : b ∈ rows) : tied criteria a b = sameKeys criteria a b := by
  rw [Bool.eq_iff_iff, ← (compareAll_iff uniform inside otherInside).2, tied, beq_iff_eq]

theorem filter_sameKeys (uniform : ∀ criterion ∈ criteria, criterion.Uniform rows)
    (inside : a ∈ rows) (perm : sorted.Perm rows) :
    sorted.filter (sameKeys criteria a) = sorted.filter (tied criteria a) :=
  List.filter_congr fun _ member =>
    (tied_eq_sameKeys uniform inside (perm.mem_iff.1 member)).symm

/-- Sorting gives the one list that holds the rows in the order of their keys, and those with equal
keys in the order in which they came. -/
theorem sortedByKeys_iff (uniform : ∀ criterion ∈ criteria, criterion.Uniform rows) :
    SortedByKeys criteria rows sorted ↔ sorted = sortRows criteria rows := by
  have transitive := transitiveOn_of_uniform uniform
  constructor
  · rintro ⟨perm, ordered, stable⟩
    apply eq_sortRows_of_filter_tied transitive perm
    · exact ordered.imp_of_mem fun member otherMember =>
        (isLE_compareAll_iff uniform (perm.mem_iff.1 member) (perm.mem_iff.1 otherMember)).2
    · intro row inside
      rw [← filter_sameKeys uniform inside perm, stable row inside,
        filter_sameKeys uniform inside (List.Perm.refl rows)]
  · rintro rfl
    have own := stablySorted_of_transitiveOn transitive
    refine ⟨own.perm, ?_, ?_⟩
    · exact own.ordered.imp_of_mem fun member otherMember =>
        (isLE_compareAll_iff uniform (own.perm.mem_iff.1 member)
          (own.perm.mem_iff.1 otherMember)).1
    · intro row inside
      rw [filter_sameKeys uniform inside own.perm, filter_of_stablySorted transitive own inside,
        filter_sameKeys uniform inside (List.Perm.refl rows)]

end Rows

end SortCriterion

namespace Plan

variable {criteria : List SortCriterion} {source : Plan} {rows : List Record}

/-- A plan that gives its rows has no criterion without a path. -/
theorem orderable_of_rows {plan : Plan} (supplied : plan.rows = .ok rows) : plan.Orderable := by
  cases pathless : plan.pathless? with
  | none => exact orderable_of_pathless? plan pathless
  | some criterion =>
    have fails := (refuses_of_pathless? plan pathless).starts []
    rcases started : plan.start plan.cursor with ⟨answer, state⟩
    have refused : answer = .error (.emptySortPath criterion) :=
      (congrArg Prod.fst started).symm.trans fails
    rw [Plan.rows, collect, started, refused] at supplied
    cases supplied

/-- A sort whose criteria have paths gives the rows of its source in the order of their keys. -/
theorem rows_sort (supplied : source.rows = .ok rows)
    (paths : ∀ criterion ∈ criteria, criterion.path ≠ []) :
    (Plan.sort criteria source).rows = .ok (SortCriterion.sortRows criteria rows) := by
  have ready := orderable_of_rows supplied
  rw [rows_eq_result ready] at supplied
  cases supplied
  have sorts : (Plan.sort criteria source).Orderable := ⟨paths, ready⟩
  rw [rows_eq_result sorts]
  rfl

/-- If each criterion has a path and looks at values of one kind, or at null, a sort gives the rows
of its source, in the order of their keys: criterion by criterion, ascending or descending, with
nulls before or after all values as the criterion says. Rows with equal keys come in the order in
which the source gives them, so there is one such list. -/
theorem sort_gives_rows_by_keys (supplied : source.rows = .ok rows)
    (paths : ∀ criterion ∈ criteria, criterion.path ≠ [])
    (uniform : ∀ criterion ∈ criteria, criterion.Uniform rows) :
    ∃ sorted, (Plan.sort criteria source).rows = .ok sorted ∧
      ∀ other, SortedByKeys criteria rows other ↔ other = sorted :=
  ⟨_, rows_sort supplied paths, fun _ => SortCriterion.sortedByKeys_iff uniform⟩

/-- Prices ascend with the missing one last, and among equal prices, of which one is a negative
zero, names descend. -/
theorem sort_gives_offers_by_price_and_name :
    let zero (negative : Bool) : Value := .dec (.finite negative 0 (by decide))
    let offer (id : Int64) (name : String) (price : Value) : Record :=
      ⟨[("id", .int id), ("name", .str name), ("price", price)]⟩
    let rows := [offer 1 "b" (zero false), offer 2 "c" .null, offer 3 "b" (zero true),
      offer 4 "c" (zero false)]
    let criteria : List SortCriterion := [⟨["price"], .asc, .last⟩, ⟨["name"], .desc, .first⟩]
    let sorted := [offer 4 "c" (zero false), offer 1 "b" (zero false), offer 3 "b" (zero true),
      offer 2 "c" .null]
    (∀ criterion ∈ criteria, criterion.Uniform rows) ∧
      (Plan.sort criteria (.scan rows)).rows = .ok sorted ∧
      ∀ other, SortedByKeys criteria rows other ↔ other = sorted := by
  intro zero offer rows criteria sorted
  have isDecimal (negative : Bool) : OrderedKind.decimal.Covers (zero negative) := by
    refine .decimal ?_
    intro undefined
    cases undefined
  have prices : ∀ row ∈ rows,
      row.lookup ["price"] = .null ∨ OrderedKind.decimal.Covers (row.lookup ["price"]) := by
    simp only [rows, List.forall_mem_cons]
    exact ⟨.inr (isDecimal false), .inl rfl, .inr (isDecimal true), .inr (isDecimal false),
      List.forall_mem_nil _⟩
  have names : ∀ row ∈ rows,
      row.lookup ["name"] = .null ∨ OrderedKind.string.Covers (row.lookup ["name"]) := by
    simp only [rows, List.forall_mem_cons]
    exact ⟨.inr (.string _), .inr (.string _), .inr (.string _), .inr (.string _),
      List.forall_mem_nil _⟩
  have uniform : ∀ criterion ∈ criteria, criterion.Uniform rows :=
    List.forall_mem_cons.2 ⟨⟨.decimal, prices⟩,
      List.forall_mem_cons.2 ⟨⟨.string, names⟩, List.forall_mem_nil _⟩⟩
  have paths : ∀ criterion ∈ criteria, criterion.path ≠ [] := by simp [criteria]
  have supplied : (Plan.scan rows).rows = .ok rows := rfl
  have zerosSame (a b : Bool) : (zero a).same (zero b) = true := by
    cases a <;> cases b <;>
      simp [zero, Value.same, Binary64.equal, Binary64.compare?, Binary64.place?]
  have zeroGiven (negative : Bool) : (zero negative).same .null = false ∧
      Value.null.same (zero negative) = false := by
    simp [zero, Value.same]
  have keys (id other : Int64) (name otherName : String) (price otherPrice : Value) :
      SortCriterion.sameKeys criteria (offer id name price) (offer other otherName otherPrice) =
        (price.same otherPrice && name == otherName) := by
    simp [criteria, SortCriterion.sameKeys, offer, Record.lookup, Record.get?, Entries.get?,
      Value.same]
  have byName (negative : Bool) (id : Int64) : SortCriterion.RanksBefore criteria
      (offer 4 "c" (zero false)) (offer id "b" (zero negative)) :=
    .left (zerosSame false negative) (.decided (.descending rfl (by decide : "b" < "c")))
  have last (negative : Bool) (id : Int64) (name : String) : SortCriterion.RanksBefore criteria
      (offer id name (zero negative)) (offer 2 "c" .null) :=
    .decided (.nullLast rfl (isDecimal negative).ne_null)
  have inOrder : SortedByKeys criteria rows sorted := by
    refine ⟨?_, ?_, ?_⟩
    · exact (List.perm_append_singleton _ [_, _, _]).symm.trans (.cons _ (.swap _ _ _))
    · have tie : SortCriterion.sameKeys criteria (offer 1 "b" (zero false))
          (offer 3 "b" (zero true)) = true := by
        simp [keys, zerosSame]
      simp only [sorted, List.pairwise_cons, List.forall_mem_cons]
      exact ⟨⟨.inl (byName false 1), .inl (byName true 3), .inl (last false 4 "c"),
          List.forall_mem_nil _⟩,
        ⟨.inr tie, .inl (last false 1 "b"), List.forall_mem_nil _⟩,
        ⟨.inl (last true 3 "b"), List.forall_mem_nil _⟩, List.forall_mem_nil _, .nil⟩
    · simp [rows, sorted, keys, zerosSame, zeroGiven, Value.same]
  obtain ⟨given, answered, only⟩ := sort_gives_rows_by_keys supplied paths uniform
  rw [← (only sorted).1 inOrder] at answered only
  exact ⟨uniform, answered, only⟩

end Plan

end FilterQuery
