import FilterQuery.Condition
import FilterQuery.Failure
/-! Plans of queries. A plan scans the rows of a table and passes them through
filters, sorts and limits, one row at a time. Its cursor holds what has been
done so far. A cursor must be started before rows are taken from it; starting it
again changes nothing, but a bare scan goes back to its first row. -/
namespace FilterQuery

/-- A way of producing rows. -/
inductive Plan where
  | scan (rows : List Record)
  /-- Lets the rows pass that meet a condition. -/
  | filter (condition : RecordCondition) (source : Plan)
  | sort (criteria : List SortCriterion) (source : Plan)
  /-- Passes over the first rows and lets at most `count` of the others pass. -/
  | limit (count offset : Nat) (source : Plan)

/-- The progress of a filter over a source with progress `σ`. -/
structure FilterProgress (σ : Type) where
  source : σ
  started : Bool
  /-- The number of rows taken from the source. -/
  scanned : Nat
  /-- The number of rows that passed. -/
  matched : Nat

/-- The progress of a sort: once it is started, the sorted rows that are still to come. -/
structure SortProgress (σ : Type) where
  source : σ
  remaining? : Option (List Record)

/-- The progress of a limit. -/
structure LimitProgress (σ : Type) where
  source : σ
  started : Bool
  skipped : Nat
  returned : Nat

namespace Plan

/-- The progress of a plan. For a scan it is the rows still to come, once it is started. -/
def Cursor : Plan → Type
  | .scan _ => Option (List Record)
  | .filter _ source => FilterProgress (Cursor source)
  | .sort _ source => SortProgress (Cursor source)
  | .limit _ _ source => LimitProgress (Cursor source)

/-- The cursor of a plan that is not started. -/
def cursor : (plan : Plan) → Cursor plan
  | .scan _ => none
  | .filter _ source => FilterProgress.mk (cursor source) false 0 0
  | .sort _ source => SortProgress.mk (cursor source) none
  | .limit _ _ source => LimitProgress.mk (cursor source) false 0 0

/-- The number of rows that are scanned. No more can come out of the plan. -/
def rowCount : Plan → Nat
  | .scan rows => rows.length
  | .filter _ source => rowCount source
  | .sort _ source => rowCount source
  | .limit _ _ source => rowCount source

end Plan

/-- The result of an action on a cursor, and the cursor after it. -/
abbrev Reply (σ α : Type) := Except Failure α × σ

/-- Takes rows until there are none, but at most `bound`. -/
def drain {σ : Type} (next : σ → Reply σ (Option Record)) :
    (bound : Nat) → σ → Reply σ (List Record)
  | 0, state => (.ok [], state)
  | bound + 1, state =>
    match next state with
    | (.error failure, state) => (.error failure, state)
    | (.ok none, state) => (.ok [], state)
    | (.ok (some row), state) =>
      let (rows, state) := drain next bound state
      (rows.map (row :: ·), state)

/-- Takes rows from the source until one meets the condition, but at most `bound`. -/
def FilterProgress.pull {σ : Type} (next : σ → Reply σ (Option Record))
    (condition : RecordCondition) :
    (bound : Nat) → FilterProgress σ → Reply (FilterProgress σ) (Option Record)
  | 0, progress => (.ok none, progress)
  | bound + 1, progress =>
    match next progress.source with
    | (.error failure, source) => (.error failure, { progress with source })
    | (.ok none, source) => (.ok none, { progress with source })
    | (.ok (some row), source) =>
      let seen := { progress with source, scanned := progress.scanned + 1 }
      if condition.holds row then (.ok (some row), { seen with matched := seen.matched + 1 })
      else pull next condition bound seen

/-- Passes over this many rows of the source; tells whether there were as many. -/
def LimitProgress.skip {σ : Type} (next : σ → Reply σ (Option Record)) :
    (count : Nat) → LimitProgress σ → Reply (LimitProgress σ) Bool
  | 0, progress => (.ok true, progress)
  | count + 1, progress =>
    match next progress.source with
    | (.error failure, source) => (.error failure, { progress with source })
    | (.ok none, source) => (.ok false, { progress with source })
    | (.ok (some _), source) =>
      skip next count { progress with source, skipped := progress.skipped + 1 }

/-- Takes the next row that the limit lets pass. -/
def LimitProgress.pull {σ : Type} (next : σ → Reply σ (Option Record)) (count offset : Nat)
    (progress : LimitProgress σ) : Reply (LimitProgress σ) (Option Record) :=
  if count ≤ progress.returned then (.ok none, progress)
  else
    match progress.skip next (offset - progress.skipped) with
    | (.error failure, progress) => (.error failure, progress)
    | (.ok false, progress) => (.ok none, progress)
    | (.ok true, progress) =>
      match next progress.source with
      | (.error failure, source) => (.error failure, { progress with source })
      | (.ok none, source) => (.ok none, { progress with source })
      | (.ok (some row), source) =>
        (.ok (some row), { progress with source, returned := progress.returned + 1 })

namespace Plan

def next : (plan : Plan) → Cursor plan → Reply (Cursor plan) (Option Record)
  | .scan _, none => (.error .notStarted, none)
  | .scan _, some [] => (.ok none, some [])
  | .scan _, some (row :: rest) => (.ok (some row), some rest)
  | .filter condition source, (progress : FilterProgress (Cursor source)) =>
    if progress.started then progress.pull (next source) condition (rowCount source + 1)
    else (.error .notStarted, progress)
  | .sort _ _, (progress : SortProgress _) =>
    match progress.remaining? with
    | none => (.error .notStarted, progress)
    | some [] => (.ok none, progress)
    | some (row :: rest) => (.ok (some row), { progress with remaining? := some rest })
  | .limit count offset source, (progress : LimitProgress (Cursor source)) =>
    if progress.started then progress.pull (next source) count offset
    else (.error .notStarted, progress)

/-- Takes all rows of a source whose cursor is started and sorts them. -/
def fillSort (criteria : List SortCriterion) (source : Plan) (state : Cursor source) :
    Reply (SortProgress (Cursor source)) Unit :=
  match criteria.find? fun criterion => criterion.path.isEmpty with
  | some criterion => (.error (.emptySortPath criterion), ⟨state, none⟩)
  | none =>
    match drain (next source) (rowCount source + 1) state with
    | (.error failure, state) => (.error failure, ⟨state, none⟩)
    | (.ok rows, state) => (.ok (), ⟨state, some (SortCriterion.sortRows criteria rows)⟩)

/-- Starts a cursor. -/
def start : (plan : Plan) → Cursor plan → Reply (Cursor plan) Unit
  | .scan rows, _ => (.ok (), some rows)
  | .filter _ source, (progress : FilterProgress (Cursor source)) =>
    if progress.started then (.ok (), progress)
    else
      match start source progress.source with
      | (.error failure, state) => (.error failure, { progress with source := state })
      | (.ok (), state) => (.ok (), ⟨state, true, 0, 0⟩)
  | .sort criteria source, (progress : SortProgress (Cursor source)) =>
    if progress.remaining?.isSome then (.ok (), progress)
    else
      match start source progress.source with
      | (.error failure, state) => (.error failure, { progress with source := state })
      | (.ok (), state) => fillSort criteria source state
  | .limit _ _ source, (progress : LimitProgress (Cursor source)) =>
    if progress.started then (.ok (), progress)
    else
      match start source progress.source with
      | (.error failure, state) => (.error failure, { progress with source := state })
      | (.ok (), state) => (.ok (), ⟨state, true, 0, 0⟩)

/-- Starts a cursor and takes all rows. -/
def collect (plan : Plan) (state : Cursor plan) : Reply (Cursor plan) (List Record) :=
  match start plan state with
  | (.error failure, state) => (.error failure, state)
  | (.ok (), state) => drain (next plan) (rowCount plan + 1) state

/-- The rows of a plan. -/
def rows (plan : Plan) : Except Failure (List Record) := (plan.collect plan.cursor).1

end Plan

end FilterQuery
