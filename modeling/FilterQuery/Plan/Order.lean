import FilterQuery.Value
/-! The order of sorted rows. Rows are ordered by several criteria, of which a
later one decides only between rows that are equal under those before it. The
values that the criteria look at are looked up once for each row. -/
namespace FilterQuery

/-- The direction of a sort key. -/
inductive Direction where
  | asc
  | desc
deriving DecidableEq

/-- Where the rows without a value go, whatever the direction. -/
inductive NullPlacement where
  | first
  | last
deriving DecidableEq

/-- One criterion of an order. -/
structure SortCriterion where
  /-- The field names that lead from a row to the value it is sorted by. -/
  path : List String
  direction : Direction
  nulls : NullPlacement
deriving DecidableEq

/-- Where the rows without a value go if nothing else is said: first when ascending, last when
descending. -/
def Direction.defaultNulls : Direction → NullPlacement
  | .asc => .first
  | .desc => .last

namespace SortCriterion

/-- The criterion with nulls in their default place. -/
def of (path : List String) (direction : Direction) : SortCriterion :=
  ⟨path, direction, direction.defaultNulls⟩

/-- The order of two values under a criterion. Values that have no order among each other count as
equal. -/
def compareValues (criterion : SortCriterion) (a b : Value) : Ordering :=
  match a.isNull, b.isNull with
  | true, true => .eq
  | true, false => if criterion.nulls = .first then .lt else .gt
  | false, true => if criterion.nulls = .first then .gt else .lt
  | false, false =>
    let ordering := (a.compare? b).getD .eq
    if criterion.direction = .asc then ordering else ordering.swap

/-- The order of two rows under a criterion. -/
def compareRows (criterion : SortCriterion) (a b : Record) : Ordering :=
  criterion.compareValues (a.lookup criterion.path) (b.lookup criterion.path)

/-- The order of two rows under criteria of which the first is the most important. -/
def compareAll : List SortCriterion → Record → Record → Ordering
  | [], _, _ => .eq
  | criterion :: rest, a, b => (criterion.compareRows a b).then (compareAll rest a b)

end SortCriterion

/-- A row that is looked through before sorting. -/
structure KeyedRow where
  /-- The values the row is sorted by, one for each criterion. -/
  keys : List Value
  row : Record

/-- Looks up the keys of a row. -/
def KeyedRow.of (criteria : List SortCriterion) (row : Record) : KeyedRow :=
  ⟨criteria.map fun criterion => row.lookup criterion.path, row⟩

namespace SortCriterion

/-- The order of two rows by their keys: the first criterion that tells them apart decides. -/
def compareKeys : List SortCriterion → List Value → List Value → Ordering
  | criterion :: criteria, key :: keys, other :: others =>
    (criterion.compareValues key other).then (compareKeys criteria keys others)
  | _, _, _ => .eq

/-- Sorts rows; rows that are equal under all criteria keep their order. -/
def sortRows (criteria : List SortCriterion) (rows : List Record) : List Record :=
  let keyed := rows.map (KeyedRow.of criteria)
  (keyed.mergeSort fun a b => (compareKeys criteria a.keys b.keys).isLE).map KeyedRow.row

/-- Keys are compared in the places of the criteria for which they were looked up. -/
theorem compareKeys_of (criteria : List SortCriterion) (a b : Record) :
    compareKeys criteria (KeyedRow.of criteria a).keys (KeyedRow.of criteria b).keys =
      compareAll criteria a b := by
  induction criteria with
  | nil => rfl
  | cons criterion rest ih => exact congrArg (criterion.compareRows a b).then ih

theorem sortRows_eq_mergeSort (criteria : List SortCriterion) (rows : List Record) :
    sortRows criteria rows = rows.mergeSort fun a b => (compareAll criteria a b).isLE := by
  have same : ∀ a ∈ rows, ∀ b ∈ rows, (compareAll criteria a b).isLE =
      (compareKeys criteria (KeyedRow.of criteria a).keys (KeyedRow.of criteria b).keys).isLE :=
    fun a _ b _ => by rw [compareKeys_of]
  have back : KeyedRow.row ∘ KeyedRow.of criteria = id := rfl
  rw [sortRows, ← List.map_mergeSort same, List.map_map, back, List.map_id]

end SortCriterion

end FilterQuery
