import FilterQuery.Proofs.Value.Order
/-! Sorting of rows. If each criterion looks at values of one kind, or at null, then the
criteria put the rows into a total preorder. Sorting then gives the one list that holds
the same rows, has them in this order, and keeps the order of rows that are equal. The
order need only be transitive for this: whatever the values, two rows have the opposite
order the other way round. Where it is not, there may be no such list at all. -/
namespace FilterQuery

/-- A list holds rows in the order of the criteria, and rows in this order keep their places among
each other. -/
structure StablySorted (criteria : List SortCriterion) (rows sorted : List Record) : Prop where
  perm : sorted.Perm rows
  ordered : sorted.Pairwise fun a b => (SortCriterion.compareAll criteria a b).isLE = true
  stable : ∀ run : List Record,
    (run.Pairwise fun a b => (SortCriterion.compareAll criteria a b).isLE = true) →
      run.Sublist rows → run.Sublist sorted

namespace SortCriterion

/-- A criterion looks at values of one kind, or at null, in all rows. -/
def Uniform (criterion : SortCriterion) (rows : List Record) : Prop :=
  ∃ kind : OrderedKind, ∀ row ∈ rows,
    row.lookup criterion.path = .null ∨ kind.Covers (row.lookup criterion.path)

/-- A criterion looks at values of one type, or at null, in all rows. -/
def Typed (criterion : SortCriterion) (rows : List Record) : Prop :=
  ∃ type : FieldType, ∀ row ∈ rows,
    row.lookup criterion.path = .null ∨ type.Admits (row.lookup criterion.path)

variable {criterion : SortCriterion} {criteria : List SortCriterion} {rows : List Record}

theorem Typed.uniform (typed : criterion.Typed rows) : criterion.Uniform rows := by
  obtain ⟨type, possible⟩ := typed
  exact ⟨type.kind, fun row inside => (possible row inside).imp id FieldType.Admits.covers⟩

theorem compareValues_null_left (criterion : SortCriterion) {value : Value}
    (given : value.isNull = false) :
    criterion.compareValues .null value = if criterion.nulls = .first then .lt else .gt := by
  rw [compareValues, given]
  rfl

theorem compareValues_null_right (criterion : SortCriterion) {value : Value}
    (given : value.isNull = false) :
    criterion.compareValues value .null = if criterion.nulls = .first then .gt else .lt := by
  rw [compareValues, given]
  rfl

/-- The order of two values, neither of which is null, is turned round if the criterion
descends. -/
theorem compareValues_of_given (criterion : SortCriterion) {a b : Value}
    (given : a.isNull = false) (otherGiven : b.isNull = false) :
    criterion.compareValues a b =
      if criterion.direction = .asc then (a.compare? b).getD .eq
      else ((a.compare? b).getD .eq).swap := by
  rw [compareValues, given, otherGiven]

/-- A criterion puts the values of a kind into a total preorder, in either direction. -/
theorem transCmp_of_given (criterion : SortCriterion) (kind : OrderedKind) :
    Std.TransCmp fun a b : { value // kind.Covers value } =>
      criterion.compareValues a.1 b.1 := by
  let order (a b : { value // kind.Covers value }) : Ordering := (a.1.compare? b.1).getD .eq
  have preorder : Std.TransCmp order := kind.transCmp_compare?
  have given (a : { value // kind.Covers value }) : a.1.isNull = false := a.2.isNull_eq_false
  by_cases ascends : criterion.direction = .asc
  · apply transCmp_of_key order id
    intro a b
    rw [compareValues_of_given criterion (given a) (given b), if_pos ascends]
    rfl
  · have opposite : Std.TransCmp fun a b => order b a := .opposite
    apply transCmp_of_key (fun a b => order b a) id
    intro a b
    rw [compareValues_of_given criterion (given a) (given b), if_neg ascends]
    exact (preorder.eq_swap (a := b) (b := a)).symm

/-- A criterion puts nulls and the values of a kind into a total preorder. -/
theorem transCmp_compareValues (criterion : SortCriterion) (kind : OrderedKind) :
    Std.TransCmp fun a b : { value // value = .null ∨ kind.Covers value } =>
      criterion.compareValues a.1 b.1 := by
  have order := criterion.transCmp_of_given kind
  refine @Std.TransCmp.mk _ _ ⟨?_⟩ ?_
  · rintro ⟨a, rfl | heldA⟩ ⟨b, rfl | heldB⟩
    · rfl
    · rw [compareValues_null_left criterion heldB.isNull_eq_false,
        compareValues_null_right criterion heldB.isNull_eq_false]
      split <;> rfl
    · rw [compareValues_null_left criterion heldA.isNull_eq_false,
        compareValues_null_right criterion heldA.isNull_eq_false]
      split <;> rfl
    · exact order.eq_swap (a := ⟨a, heldA⟩) (b := ⟨b, heldB⟩)
  · rintro ⟨a, possibleA⟩ ⟨b, possibleB⟩ ⟨c, possibleC⟩ first second
    dsimp only at first second ⊢
    rcases possibleA with rfl | heldA <;> rcases possibleC with rfl | heldC
    · rfl
    · rcases possibleB with rfl | heldB
      · exact second
      · rw [compareValues_null_left criterion heldB.isNull_eq_false] at first
        rw [compareValues_null_left criterion heldC.isNull_eq_false]
        exact first
    · rcases possibleB with rfl | heldB
      · exact first
      · rw [compareValues_null_right criterion heldB.isNull_eq_false] at second
        rw [compareValues_null_right criterion heldA.isNull_eq_false]
        exact second
    · rcases possibleB with rfl | heldB
      · rw [compareValues_null_right criterion heldA.isNull_eq_false] at first
        rw [compareValues_null_left criterion heldC.isNull_eq_false] at second
        by_cases nullsFirst : criterion.nulls = .first
        · rw [if_pos nullsFirst] at first
          cases first
        · rw [if_neg nullsFirst] at second
          cases second
      · exact order.isLE_trans (a := ⟨a, heldA⟩) (b := ⟨b, heldB⟩) (c := ⟨c, heldC⟩) first second

/-- Criteria of which each looks at values of one kind put the rows into a total preorder. -/
theorem transCmp_compareAll (uniform : ∀ criterion ∈ criteria, criterion.Uniform rows) :
    Std.TransCmp fun a b : { row // row ∈ rows } => compareAll criteria a.1 b.1 := by
  induction criteria with
  | nil => exact transCmp_of_key (compare : Nat → Nat → Ordering) (fun _ => 0) fun _ _ => rfl
  | cons criterion rest ih =>
    obtain ⟨first, others⟩ := List.forall_mem_cons.1 uniform
    obtain ⟨kind, possible⟩ := first
    have values := criterion.transCmp_compareValues kind
    let value (row : { row // row ∈ rows }) : { value // value = .null ∨ kind.Covers value } :=
      ⟨row.1.lookup criterion.path, possible row.1 row.2⟩
    have byCriterion : Std.TransCmp fun a b : { row // row ∈ rows } =>
        criterion.compareRows a.1 b.1 :=
      transCmp_of_key (fun a b => criterion.compareValues a.1 b.1) value fun _ _ => rfl
    have byOthers := ih others
    exact inferInstanceAs (Std.TransCmp (compareLex
      (fun a b : { row // row ∈ rows } => criterion.compareRows a.1 b.1)
      (fun a b : { row // row ∈ rows } => compareAll rest a.1 b.1)))

/-- A criterion puts any two values in the opposite order the other way round. -/
theorem compareValues_swap (criterion : SortCriterion) (a b : Value) :
    criterion.compareValues b a = (criterion.compareValues a b).swap := by
  unfold compareValues
  cases a.isNull <;> cases b.isNull
  case false.false =>
    have opposite : (b.compare? a).getD .eq = ((a.compare? b).getD .eq).swap := by
      rw [Value.compare?_swap a b]
      cases a.compare? b <;> rfl
    dsimp only
    rw [opposite]
    by_cases ascends : criterion.direction = .asc <;> simp [ascends]
  all_goals by_cases nullsFirst : criterion.nulls = .first <;> simp [nullsFirst]

theorem compareAll_swap (criteria : List SortCriterion) (a b : Record) :
    compareAll criteria b a = (compareAll criteria a b).swap := by
  induction criteria with
  | nil => rfl
  | cons criterion rest ih =>
    have first : criterion.compareRows b a = (criterion.compareRows a b).swap :=
      criterion.compareValues_swap _ _
    rw [compareAll, compareAll, ih, first]
    cases criterion.compareRows a b <;> rfl

/-- The order in which criteria put these rows is transitive. -/
def TransitiveOn (criteria : List SortCriterion) (rows : List Record) : Prop :=
  ∀ a ∈ rows, ∀ b ∈ rows, ∀ c ∈ rows, (compareAll criteria a b).isLE = true →
    (compareAll criteria b c).isLE = true → (compareAll criteria a c).isLE = true

theorem transitiveOn_of_uniform (uniform : ∀ criterion ∈ criteria, criterion.Uniform rows) :
    TransitiveOn criteria rows := by
  intro a insideA b insideB c insideC first second
  exact (transCmp_compareAll uniform).isLE_trans (a := ⟨a, insideA⟩) (b := ⟨b, insideB⟩)
    (c := ⟨c, insideC⟩) first second

theorem transitiveOn_of_typed (typed : ∀ criterion ∈ criteria, criterion.Typed rows) :
    TransitiveOn criteria rows :=
  transitiveOn_of_uniform fun criterion inside => (typed criterion inside).uniform

theorem perm_sortRows (criteria : List SortCriterion) (rows : List Record) :
    (sortRows criteria rows).Perm rows := by
  rw [sortRows_eq_mergeSort]
  exact List.mergeSort_perm rows _

/-- Without criteria rows keep their order. -/
theorem sortRows_nil (rows : List Record) : sortRows [] rows = rows := by
  rw [sortRows_eq_mergeSort]
  exact List.mergeSort_of_pairwise (List.pairwise_of_forall fun _ _ => rfl)

/-- Rows that the criteria order transitively are sorted stably. -/
theorem stablySorted_of_transitiveOn (transitive : TransitiveOn criteria rows) :
    StablySorted criteria rows (sortRows criteria rows) := by
  let beforeRow (a b : Record) : Bool := (compareAll criteria a b).isLE
  let before (a b : { row // row ∈ rows }) : Bool := beforeRow a.1 b.1
  have trans (a b c : { row // row ∈ rows }) (first : before a b = true)
      (second : before b c = true) : before a c = true :=
    transitive a.1 a.2 b.1 b.2 c.1 c.2 first second
  have total (a b : { row // row ∈ rows }) : (before a b || before b a) = true := by
    show ((compareAll criteria a.1 b.1).isLE || (compareAll criteria b.1 a.1).isLE) = true
    rw [compareAll_swap criteria b.1 a.1]
    cases compareAll criteria b.1 a.1 <;> rfl
  -- The rows are sorted as members of the list, among which the order is total.
  have attached : sortRows criteria rows = (rows.attach.mergeSort before).map Subtype.val := by
    have same : ∀ a ∈ rows.attach, ∀ b ∈ rows.attach,
        before a b = beforeRow a.1 b.1 := fun _ _ _ _ => rfl
    rw [List.map_mergeSort same, List.attach_map_subtype_val, sortRows_eq_mergeSort]
  refine ⟨perm_sortRows criteria rows, ?_, ?_⟩
  · rw [attached, List.pairwise_map]
    exact List.pairwise_mergeSort trans total rows.attach
  · intro run ordered inside
    rw [← List.attach_map_subtype_val rows, List.sublist_map_iff] at inside
    obtain ⟨members, insideMembers, rfl⟩ := inside
    rw [List.pairwise_map] at ordered
    rw [attached]
    exact (List.sublist_mergeSort trans total ordered insideMembers).map Subtype.val

/-- Whether criteria leave it open which of two rows comes first. -/
def tied (criteria : List SortCriterion) (a b : Record) : Bool := compareAll criteria a b == .eq

theorem tied_iff {a b : Record} : tied criteria a b = true ↔
    (compareAll criteria a b).isLE = true ∧ (compareAll criteria b a).isLE = true := by
  rw [tied, compareAll_swap criteria a b]
  cases compareAll criteria a b <;> decide

theorem tied_self (criteria : List SortCriterion) (row : Record) :
    tied criteria row row = true := by
  have opposite := compareAll_swap criteria row row
  rw [tied]
  cases order : compareAll criteria row row with
  | eq => rfl
  | _ =>
    rw [order] at opposite
    cases opposite

/-- Of the rows that are tied with a row, a stable sort keeps the order. -/
theorem filter_of_stablySorted (transitive : TransitiveOn criteria rows) {sorted : List Record}
    (stably : StablySorted criteria rows sorted) {row : Record} (inside : row ∈ rows) :
    sorted.filter (tied criteria row) = rows.filter (tied criteria row) := by
  have ordered : (rows.filter (tied criteria row)).Pairwise fun a b =>
      (compareAll criteria a b).isLE = true := by
    apply List.pairwise_of_forall_mem_list
    intro a memberA b memberB
    obtain ⟨insideA, tiedA⟩ := List.mem_filter.1 memberA
    obtain ⟨insideB, tiedB⟩ := List.mem_filter.1 memberB
    exact transitive a insideA row inside b insideB (tied_iff.1 tiedA).2 (tied_iff.1 tiedB).1
  have kept := (stably.stable _ ordered List.filter_sublist).filter (tied criteria row)
  rw [List.filter_filter] at kept
  simp only [Bool.and_self] at kept
  exact (kept.eq_of_length (stably.perm.symm.filter _).length_eq).symm

/-- Ordered lists of the same rows are equal if rows with ties have the same order in them: their
first rows are tied, so one of them comes first among the ties in both. -/
theorem eq_of_filter_tied : ∀ first second : List Record, first.Perm second →
    (first.Pairwise fun a b => (compareAll criteria a b).isLE = true) →
    (second.Pairwise fun a b => (compareAll criteria a b).isLE = true) →
    (∀ row ∈ first, first.filter (tied criteria row) = second.filter (tied criteria row)) →
    first = second
  | [], second, perm, _, _, _ => perm.nil_eq
  | a :: first, [], perm, _, _, _ => absurd perm.length_eq (by simp)
  | a :: first, b :: second, perm, orderedFirst, orderedSecond, same => by
    rw [List.pairwise_cons] at orderedFirst orderedSecond
    have tie : tied criteria a b = true := by
      rcases List.mem_cons.1 (perm.mem_iff.1 List.mem_cons_self) with rfl | later
      · exact tied_self criteria a
      · rcases List.mem_cons.1 (perm.mem_iff.2 List.mem_cons_self) with rfl | laterOther
        · exact tied_self criteria _
        · exact tied_iff.2 ⟨orderedFirst.1 b laterOther, orderedSecond.1 a later⟩
    have heads := same a List.mem_cons_self
    rw [List.filter_cons_of_pos (tied_self criteria a), List.filter_cons_of_pos tie] at heads
    obtain ⟨rfl, -⟩ := List.cons.inj heads
    have tails : ∀ row ∈ first,
        first.filter (tied criteria row) = second.filter (tied criteria row) := by
      intro row member
      have all := same row (List.mem_cons_of_mem _ member)
      by_cases meets : tied criteria row a = true
      · rw [List.filter_cons_of_pos meets, List.filter_cons_of_pos meets] at all
        exact (List.cons.inj all).2
      · rwa [List.filter_cons_of_neg meets, List.filter_cons_of_neg meets] at all
    rw [eq_of_filter_tied first second perm.cons_inv orderedFirst.2 orderedSecond.2 tails]

/-- Sorting gives the one ordered list of the rows in which rows with ties have kept their order. -/
theorem eq_sortRows_of_filter_tied (transitive : TransitiveOn criteria rows) {sorted : List Record}
    (perm : sorted.Perm rows)
    (ordered : sorted.Pairwise fun a b => (compareAll criteria a b).isLE = true)
    (stable : ∀ row ∈ rows, sorted.filter (tied criteria row) = rows.filter (tied criteria row)) :
    sorted = sortRows criteria rows := by
  have own := stablySorted_of_transitiveOn transitive
  apply eq_of_filter_tied sorted _ (perm.trans own.perm.symm) ordered own.ordered
  intro row member
  have inside : row ∈ rows := perm.mem_iff.1 member
  rw [stable row inside, filter_of_stablySorted transitive own inside]

/-- Of rows that the criteria order transitively there is one stable sort. -/
theorem stablySorted_iff (transitive : TransitiveOn criteria rows) {sorted : List Record} :
    StablySorted criteria rows sorted ↔ sorted = sortRows criteria rows := by
  constructor
  · intro stably
    exact eq_sortRows_of_filter_tied transitive stably.perm stably.ordered
      fun _ inside => filter_of_stablySorted transitive stably inside
  · rintro rfl
    exact stablySorted_of_transitiveOn transitive

/-- If rows follow each other in order, but the last of them may not stand behind the first, then no
list is sorted stably: the middle row would have to keep its place between them. -/
theorem not_stablySorted_of_between (distinct : rows.Nodup) {first middle last : Record}
    (inside : [first, middle, last].Sublist rows)
    (early : (compareAll criteria first middle).isLE = true)
    (late : (compareAll criteria middle last).isLE = true)
    (wrong : (compareAll criteria first last).isLE = false) (sorted : List Record) :
    ¬ StablySorted criteria rows sorted := by
  intro stably
  have firstPair : [first, middle].Sublist sorted :=
    stably.stable _ (by simpa using early) (.trans (by simp) inside)
  have lastPair : [middle, last].Sublist sorted :=
    stably.stable _ (by simpa using late) (.trans (by simp) inside)
  obtain ⟨before, after, rfl, among, behind⟩ := List.cons_sublist_iff.1 firstPair
  have middleBehind : middle ∈ after := List.singleton_sublist.1 behind
  have apart := (List.nodup_append.1 (stably.perm.nodup_iff.2 distinct)).2.2
  have lastBehind : last ∈ after := by
    obtain ⟨ahead, rest, split, aheadInside, restInside⟩ := List.sublist_append_iff.1 lastPair
    cases ahead with
    | nil =>
      rw [List.nil_append] at split
      exact restInside.subset (split ▸ by simp)
    | cons row others =>
      obtain ⟨rfl, -⟩ := List.cons.inj split
      exact absurd rfl (apart middle (aheadInside.subset List.mem_cons_self) middle middleBehind)
  have ordered := (List.pairwise_append.1 stably.ordered).2.2 first among last lastBehind
  rw [wrong] at ordered
  cases ordered

end SortCriterion

end FilterQuery
