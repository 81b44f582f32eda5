import Mathlib.Order.Compare
import Mathlib.Data.String.Basic
import FilterQuery.Plan.Order
import FilterQuery.Proofs.Value.Typing
/-! The order of the values of a kind. Each kind has its values in the order of a key that
they have, so comparing them is a total preorder, and comparing tells which of two values
of a kind comes first. The values of a type are of one kind. Whatever their kinds, two
values have the opposite order the other way round. -/
namespace FilterQuery

/-- A comparison by a key is a total preorder if the keys have one. -/
theorem transCmp_of_key {α κ : Type} {cmp : α → α → Ordering} (order : κ → κ → Ordering)
    [Std.TransCmp order] (key : α → κ) (same : ∀ a b, cmp a b = order (key a) (key b)) :
    Std.TransCmp cmp where
  eq_swap := by
    intro a b
    rw [same a b, same b a]
    exact Std.OrientedCmp.eq_swap
  isLE_trans := by
    intro a b c first second
    rw [same] at first second ⊢
    exact Std.TransCmp.isLE_trans first second

instance Date.transCmp : Std.TransCmp Date.compare :=
  inferInstanceAs (Std.TransCmp (compareLex (compareOn Date.year)
    (compareLex (compareOn Date.month) (compareOn Date.day))))

instance Timestamp.transCmp : Std.TransCmp Timestamp.compare := by
  have days : Std.TransCmp fun a b : Timestamp => a.date.compare b.date :=
    transCmp_of_key Date.compare Timestamp.date fun _ _ => rfl
  exact inferInstanceAs (Std.TransCmp (compareLex (fun a b : Timestamp => a.date.compare b.date)
    (compareLex (compareOn Timestamp.second) (compareOn Timestamp.nano))))

/-- The place of a number on the line, unless it is undefined. -/
def Binary64.place (value : Binary64) : Int := value.place?.getD 0

theorem Binary64.place?_of_defined {value : Binary64} (defined : value ≠ .nan) :
    value.place? = some value.place := by
  cases value with
  | nan => exact absurd rfl defined
  | _ => rfl

theorem Binary64.compare?_of_defined {a b : Binary64} (defined : a ≠ .nan)
    (otherDefined : b ≠ .nan) : a.compare? b = some (compare a.place b.place) := by
  rw [compare?, place?_of_defined defined, place?_of_defined otherDefined]

theorem Binary64.compare?_swap (a b : Binary64) :
    b.compare? a = (a.compare? b).map Ordering.swap := by
  unfold compare?
  cases a.place? with
  | none => cases b.place? <;> rfl
  | some i =>
    cases b.place? with
    | none => rfl
    | some j => exact congrArg some Std.OrientedCmp.eq_swap

/-- Two values have the opposite order the other way round, if they have one. -/
theorem Value.compare?_swap (a b : Value) : b.compare? a = (a.compare? b).map Ordering.swap := by
  cases a with
  | int number => cases b with
    | int other => exact congrArg some Std.OrientedCmp.eq_swap
    | dec other => exact Binary64.compare?_swap _ _
    | _ => rfl
  | dec number => cases b with
    | int other => exact Binary64.compare?_swap _ _
    | dec other => exact Binary64.compare?_swap _ _
    | _ => rfl
  | bool _ | str _ | date _ | timestamp _ | symbol _ =>
    cases b <;> first | rfl | exact congrArg some Std.OrientedCmp.eq_swap
  | _ => cases b <;> rfl

/-- A kind of values that have an order among each other. -/
inductive OrderedKind where
  | boolean
  | integer
  | decimal
  | string
  | date
  | timestamp
  | symbol

/-- A value is of a kind. Of the decimals only the undefined one is of none. -/
inductive OrderedKind.Covers : OrderedKind → Value → Prop where
  | boolean (value : Bool) : Covers .boolean (.bool value)
  | integer (value : Int64) : Covers .integer (.int value)
  | decimal {value : Binary64} (defined : value ≠ .nan) : Covers .decimal (.dec value)
  | string (value : String) : Covers .string (.str value)
  | date (value : Date) : Covers .date (.date value)
  | timestamp (value : Timestamp) : Covers .timestamp (.timestamp value)
  | symbol (name : String) : Covers .symbol (.symbol name)

theorem OrderedKind.Covers.isNull_eq_false {kind : OrderedKind} {value : Value}
    (covers : kind.Covers value) : value.isNull = false := by
  cases covers <;> rfl

theorem OrderedKind.Covers.ne_null {kind : OrderedKind} {value : Value}
    (covers : kind.Covers value) : value ≠ .null := by
  rintro rfl
  cases covers

/-- The kind of the values of a type. A reference type has no values, so it does not matter which
one is named for it. -/
def FieldType.kind : FieldType → OrderedKind
  | .boolean | .entity _ => .boolean
  | .integer => .integer
  | .decimal => .decimal
  | .string => .string
  | .date => .date
  | .dateTime => .timestamp
  | .enum _ => .symbol

theorem FieldType.Admits.covers {type : FieldType} {value : Value} (admits : type.Admits value) :
    type.kind.Covers value := by
  cases admits with
  | decimal finite =>
    refine .decimal ?_
    rintro rfl
    cases finite
  | _ => constructor

/-- If all values of a kind are made of keys, and are compared by these, they are in a total
preorder. -/
theorem Value.transCmp_of_made {κ : Type} {Kind : Value → Prop} (make : κ → Value)
    (order : κ → κ → Ordering) [Std.TransCmp order]
    (made : ∀ value, Kind value → ∃ key, make key = value)
    (same : ∀ a b, (make a).compare? (make b) = some (order a b)) :
    Std.TransCmp fun a b : { value // Kind value } => (a.1.compare? b.1).getD .eq := by
  let key (value : { value // Kind value }) : κ := (made value.1 value.2).choose
  have makes (value) : make (key value) = value.1 := (made value.1 value.2).choose_spec
  apply transCmp_of_key order key
  intro a b
  rw [← makes a, ← makes b, same (key a) (key b)]
  rfl

/-- The values of a kind are in a total preorder. -/
theorem OrderedKind.transCmp_compare? (kind : OrderedKind) :
    Std.TransCmp fun a b : { value // kind.Covers value } => (a.1.compare? b.1).getD .eq := by
  cases kind with
  | boolean =>
    apply Value.transCmp_of_made Value.bool compare
    · intro value covers
      cases covers with
      | boolean truth => exact ⟨truth, rfl⟩
    · exact fun _ _ => rfl
  | integer =>
    have order : Std.TransCmp (compareOn Int64.toInt) := inferInstance
    apply Value.transCmp_of_made Value.int (compareOn Int64.toInt)
    · intro value covers
      cases covers with
      | integer number => exact ⟨number, rfl⟩
    · exact fun _ _ => rfl
  | decimal =>
    let place (value : { value : Binary64 // value ≠ .nan }) : Int := value.1.place
    apply Value.transCmp_of_made (fun value : { value : Binary64 // value ≠ .nan } =>
      Value.dec value.1) (compareOn place)
    · intro value covers
      cases covers with
      | decimal defined => exact ⟨⟨_, defined⟩, rfl⟩
    · exact fun a b => Binary64.compare?_of_defined a.2 b.2
  | string =>
    apply Value.transCmp_of_made Value.str compare
    · intro value covers
      cases covers with
      | string text => exact ⟨text, rfl⟩
    · exact fun _ _ => rfl
  | date =>
    apply Value.transCmp_of_made Value.date Date.compare
    · intro value covers
      cases covers with
      | date day => exact ⟨day, rfl⟩
    · exact fun _ _ => rfl
  | timestamp =>
    apply Value.transCmp_of_made Value.timestamp Timestamp.compare
    · intro value covers
      cases covers with
      | timestamp instant => exact ⟨instant, rfl⟩
    · exact fun _ _ => rfl
  | symbol =>
    apply Value.transCmp_of_made Value.symbol compare
    · intro value covers
      cases covers with
      | symbol name => exact ⟨name, rfl⟩
    · exact fun _ _ => rfl

/-- An earlier day: the year decides, then the month, then the day of the month. -/
def Date.Before (a b : Date) : Prop :=
  a.year < b.year ∨ a.year = b.year ∧ (a.month < b.month ∨ a.month = b.month ∧ a.day < b.day)

/-- An earlier instant: the day decides, then the second, then the fraction of the second. -/
def Timestamp.Before (a b : Timestamp) : Prop :=
  a.date.Before b.date ∨
    a.date = b.date ∧ (a.second < b.second ∨ a.second = b.second ∧ a.nano < b.nano)

theorem Date.compare_eq_lt_iff {a b : Date} : a.compare b = .lt ↔ a.Before b := by
  simp only [Date.compare, Ordering.then_eq_lt, compare_lt_iff_lt, compare_eq_iff_eq, Before]

theorem Date.compare_eq_eq_iff {a b : Date} : a.compare b = .eq ↔ a = b := by
  simp only [Date.compare, Ordering.then_eq_eq, compare_eq_iff_eq]
  constructor
  · intro same
    cases a
    cases b
    simpa using same
  · rintro rfl
    exact ⟨rfl, rfl, rfl⟩

theorem Timestamp.compare_eq_lt_iff {a b : Timestamp} : a.compare b = .lt ↔ a.Before b := by
  simp only [Timestamp.compare, Ordering.then_eq_lt, compare_lt_iff_lt, compare_eq_iff_eq,
    Date.compare_eq_lt_iff, Date.compare_eq_eq_iff, Before]

theorem Timestamp.compare_eq_eq_iff {a b : Timestamp} : a.compare b = .eq ↔ a = b := by
  simp only [Timestamp.compare, Ordering.then_eq_eq, compare_eq_iff_eq, Date.compare_eq_eq_iff]
  constructor
  · intro same
    cases a
    cases b
    simpa using same
  · rintro rfl
    exact ⟨rfl, rfl, rfl⟩

/-- A value comes before another one of its kind. -/
def Value.Before : Value → Value → Prop
  | .bool a, .bool b => a = false ∧ b = true
  | .int a, .int b => a.toInt < b.toInt
  | .dec a, .dec b =>
    ∃ place other, a.place? = some place ∧ b.place? = some other ∧ place < other
  | .str a, .str b => a < b
  | .date a, .date b => a.Before b
  | .timestamp a, .timestamp b => a.Before b
  | .symbol a, .symbol b => a < b
  | _, _ => False

theorem Value.Before.left_ne_null {a b : Value} (before : a.Before b) : a ≠ .null := by
  rintro rfl
  cases b <;> exact before

theorem Value.Before.right_ne_null {a b : Value} (before : a.Before b) : b ≠ .null := by
  rintro rfl
  cases a <;> exact before

/-- Comparing two values of a kind tells whether the first one comes before the other one, and
whether they are equal. -/
theorem OrderedKind.Covers.exists_compare? {kind : OrderedKind} {a b : Value}
    (covers : kind.Covers a) (otherCovers : kind.Covers b) :
    ∃ order, a.compare? b = some order ∧ (order = .lt ↔ a.Before b) ∧
      (order = .eq ↔ a.same b = true) := by
  cases covers with
  | boolean truth =>
    cases otherCovers with
    | boolean other =>
      have less : compare truth other = .lt ↔ truth = false ∧ other = true := by
        cases truth <;> cases other <;> decide
      exact ⟨_, rfl, less, by simp [Value.same]⟩
  | integer number =>
    cases otherCovers with
    | integer other => exact ⟨_, rfl, compare_lt_iff_lt, by simp [Value.same, Int64.toInt_inj]⟩
  | decimal defined =>
    cases otherCovers with
    | decimal otherDefined =>
      have compared := Binary64.compare?_of_defined defined otherDefined
      refine ⟨_, compared, compare_lt_iff_lt.trans ?_, ?_⟩
      · simp [Value.Before, Binary64.place?_of_defined, defined, otherDefined]
      · simp [Value.same, Binary64.equal, compared]
  | string text =>
    cases otherCovers with
    | string other => exact ⟨_, rfl, compare_lt_iff_lt, by simp [Value.same]⟩
  | date day =>
    cases otherCovers with
    | date other =>
      exact ⟨_, rfl, Date.compare_eq_lt_iff, by simp [Value.same, Date.compare_eq_eq_iff]⟩
  | timestamp instant =>
    cases otherCovers with
    | timestamp other =>
      exact ⟨_, rfl, Timestamp.compare_eq_lt_iff,
        by simp [Value.same, Timestamp.compare_eq_eq_iff]⟩
  | symbol name =>
    cases otherCovers with
    | symbol other => exact ⟨_, rfl, compare_lt_iff_lt, by simp [Value.same]⟩

end FilterQuery
