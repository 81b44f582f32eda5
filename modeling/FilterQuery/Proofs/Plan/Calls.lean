import Mathlib.Data.List.Induction
import Mathlib.Data.List.TakeWhile
import FilterQuery.Proofs.Plan.Rows
import FilterQuery.Proofs.Plan.Sorting
/-! Calls on a cursor, in any order. A cursor can be started again and again, and be asked for
rows before it is started and after the last row. If all criteria of the plan have a path, the
plan hands out its rows one by one, whatever the order of the calls; the stages of the plan
determine which rows these are. -/
namespace FilterQuery

/-- A call on a cursor. -/
inductive Call where
  | start
  | next
deriving DecidableEq

namespace Plan

/-- The cursor after a call, whether or not the call has failed. -/
def step (plan : Plan) (state : Cursor plan) : Call → Cursor plan
  | .start => (start plan state).2
  | .next => (next plan state).2

/-- The cursor after these calls, the first of which finds it not started. -/
def cursorAfter (plan : Plan) (calls : List Call) : Cursor plan :=
  calls.foldl plan.step plan.cursor

/-- How many rows have been asked for since the cursor was started for the first time. A bare scan
goes back to its first row whenever it is started, so with a scan only the last start counts. -/
def asked : Plan → List Call → Nat
  | .scan _, calls => (calls.reverse.takeWhile fun call => call == .next).length
  | _, calls => (calls.dropWhile fun call => call == .next).count .next

variable {plan : Plan} {calls : List Call}

theorem cursorAfter_concat (plan : Plan) (calls : List Call) (call : Call) :
    plan.cursorAfter (calls ++ [call]) = plan.step (plan.cursorAfter calls) call := by
  simp [cursorAfter]

/-- Before the first start all calls ask for rows. -/
theorem dropWhile_eq_nil_iff {calls : List Call} :
    (calls.dropWhile fun call => call == .next) = [] ↔ Call.start ∉ calls := by
  rw [List.dropWhile_eq_nil_iff]
  constructor
  · intro all inside
    exact absurd (all .start inside) (by decide)
  · intro none call inside
    cases call with
    | start => exact absurd inside none
    | next => rfl

theorem asked_concat_next (plan : Plan) (started : Call.start ∈ calls) :
    plan.asked (calls ++ [.next]) = plan.asked calls + 1 := by
  have some : (calls.dropWhile fun call => call == .next) ≠ [] :=
    fun none => dropWhile_eq_nil_iff.1 none started
  cases plan with
  | scan rows => simp [asked]
  | _ => simp [asked, List.dropWhile_append, some]

theorem asked_concat_start_scan (rows : List Record) (calls : List Call) :
    (scan rows).asked (calls ++ [.start]) = 0 := by
  simp [asked]

theorem asked_concat_start (stages : ∀ rows, plan ≠ .scan rows) (started : Call.start ∈ calls) :
    plan.asked (calls ++ [.start]) = plan.asked calls := by
  have some : (calls.dropWhile fun call => call == .next) ≠ [] :=
    fun none => dropWhile_eq_nil_iff.1 none started
  cases plan with
  | scan rows => exact absurd rfl (stages rows)
  | _ => simp [asked, List.dropWhile_append, some]

theorem asked_first_start (plan : Plan) (unstarted : Call.start ∉ calls) :
    plan.asked (calls ++ [.start]) = 0 := by
  have none : (calls.dropWhile fun call => call == .next) = [] := dropWhile_eq_nil_iff.2 unstarted
  cases plan with
  | scan rows => exact asked_concat_start_scan rows calls
  | _ => simp [asked, List.dropWhile_append, none]

/-- Whether a cursor is started. -/
def isStarted : (plan : Plan) → Cursor plan → Bool
  | .scan _, (state : Option (List Record)) => state.isSome
  | .filter _ _, (progress : FilterProgress _) => progress.started
  | .sort _ _, (progress : SortProgress _) => progress.remaining?.isSome
  | .limit _ _ _, (progress : LimitProgress _) => progress.started

/-- A cursor that is not started hands out nothing and stays as it is. -/
theorem next_of_unstarted {state : Cursor plan} (unstarted : isStarted plan state = false) :
    next plan state = (.error .notStarted, state) := by
  cases plan with
  | scan all =>
    obtain _ | rows := (state : Option (List Record))
    · rfl
    · cases unstarted
  | sort criteria source =>
    obtain ⟨_, _ | remaining⟩ := (state : SortProgress (Cursor source))
    · rfl
    · cases unstarted
  | filter condition source => exact if_neg (Bool.eq_false_iff.1 unstarted)
  | limit count offset source => exact if_neg (Bool.eq_false_iff.1 unstarted)

/-- Starting a started cursor changes nothing, but for a bare scan. -/
theorem start_of_started {state : Cursor plan} (stages : ∀ rows, plan ≠ .scan rows)
    (started : isStarted plan state = true) : start plan state = (.ok (), state) := by
  cases plan with
  | scan all => exact absurd rfl (stages all)
  | filter condition source => exact if_pos started
  | sort criteria source => exact if_pos started
  | limit count offset source => exact if_pos started

theorem isStarted_cursor (plan : Plan) : isStarted plan plan.cursor = false := by
  cases plan <;> rfl

theorem isStarted_of_pending {state : Cursor plan} {rows : List Record}
    (pending : Pending plan state rows) : isStarted plan state = true := by
  cases plan with
  | scan all => exact congrArg Option.isSome pending.1
  | filter condition source => exact pending.1
  | sort criteria source => exact congrArg Option.isSome pending.1
  | limit count offset source => exact pending.1

/-- As long as a cursor has not been started it is as it was, and from then on it has all rows to
come but those that have been asked for. -/
theorem cursorAfter_cases (ready : plan.Orderable) (calls : List Call) :
    (Call.start ∉ calls ∧ plan.cursorAfter calls = plan.cursor) ∨
      (Call.start ∈ calls ∧
        Pending plan (plan.cursorAfter calls) (plan.result.drop (plan.asked calls))) := by
  induction calls using List.reverseRecOn with
  | nil => exact .inl ⟨by simp, rfl⟩
  | append_singleton calls call ih =>
    rw [cursorAfter_concat]
    rcases ih with ⟨unstarted, same⟩ | ⟨started, pending⟩
    · cases call with
      | start =>
        obtain ⟨state, ran, pending⟩ := start_cursor plan ready
        refine .inr ⟨by simp, ?_⟩
        rw [same, step, ran, asked_first_start plan unstarted]
        exact pending
      | next =>
        refine .inl ⟨by simp [unstarted], ?_⟩
        rw [same, step, next_of_unstarted plan.isStarted_cursor]
    · refine .inr ⟨by simp [started], ?_⟩
      cases call with
      | start =>
        by_cases bare : ∃ rows, plan = .scan rows
        · obtain ⟨rows, rfl⟩ := bare
          rw [asked_concat_start_scan]
          exact ⟨rfl, Nat.le_refl _⟩
        · have stages : ∀ rows, plan ≠ .scan rows := fun rows same => bare ⟨rows, same⟩
          rw [step, start_of_started stages (isStarted_of_pending pending),
            asked_concat_start stages started]
          exact pending
      | next =>
        obtain ⟨state, ran, left⟩ := next_supplies plan _ _ pending
        rw [step, ran, asked_concat_next plan started]
        rwa [List.tail_drop] at left

/-- The plan hands out these rows one by one, whatever the calls. -/
structure HandsOut (plan : Plan) (rows : List Record) : Prop where
  /-- Before the first start, to ask for a row fails and leaves the cursor as it was made. -/
  unstarted : ∀ calls, Call.start ∉ calls → plan.cursorAfter calls = plan.cursor ∧
    plan.next (plan.cursorAfter calls) = (.error .notStarted, plan.cursor)
  starts : ∀ calls, (plan.start (plan.cursorAfter calls)).1 = .ok ()
  /-- Started again, a plan stays as it is, but for a bare scan. -/
  again : ∀ calls, Call.start ∈ calls → (∀ rows, plan ≠ .scan rows) →
    (plan.start (plan.cursorAfter calls)).2 = plan.cursorAfter calls
  /-- The row in the place that has been reached; there is none behind the last row. -/
  row : ∀ calls, Call.start ∈ calls →
    (plan.next (plan.cursorAfter calls)).1 = .ok rows[plan.asked calls]?

theorem handsOut_result (ready : plan.Orderable) : plan.HandsOut plan.result := by
  refine ⟨?_, ?_, ?_, ?_⟩
  · intro calls unstarted
    rcases cursorAfter_cases ready calls with ⟨-, same⟩ | ⟨started, -⟩
    · exact ⟨same, by rw [same, next_of_unstarted plan.isStarted_cursor]⟩
    · exact absurd started unstarted
  · intro calls
    rcases cursorAfter_cases ready calls with ⟨-, same⟩ | ⟨started, pending⟩
    · obtain ⟨state, ran, -⟩ := start_cursor plan ready
      rw [same, ran]
    · cases plan with
      | scan rows => rfl
      | _ => rw [start_of_started (by simp) (isStarted_of_pending pending)]
  · intro calls started stages
    rcases cursorAfter_cases ready calls with ⟨unstarted, -⟩ | ⟨-, pending⟩
    · exact absurd started unstarted
    · rw [start_of_started stages (isStarted_of_pending pending)]
  · intro calls started
    rcases cursorAfter_cases ready calls with ⟨unstarted, -⟩ | ⟨-, pending⟩
    · exact absurd started unstarted
    · obtain ⟨state, ran, -⟩ := next_supplies plan _ _ pending
      rw [ran, List.head?_drop]

/-- The rows that a plan gives, stage by stage from the scan up. -/
def Gives : Plan → List Record → Prop
  | .scan all, rows => rows = all
  | .filter condition source, rows => ∃ given, Gives source given ∧
    rows = given.filter condition.holds
  | .sort criteria source, rows => ∃ given, Gives source given ∧ StablySorted criteria given rows
  | .limit count offset source, rows => ∃ given, Gives source given ∧
    rows = (given.drop offset).take count

/-- Each sort orders the rows of its source transitively. -/
def Transitive : Plan → Prop
  | .scan _ => True
  | .filter _ source | .limit _ _ source => source.Transitive
  | .sort criteria source =>
    SortCriterion.TransitiveOn criteria source.result ∧ source.Transitive

/-- The stages of a plan determine the rows that it gives. -/
theorem gives_iff {rows : List Record} :
    ∀ plan : Plan, plan.Transitive → (plan.Gives rows ↔ rows = plan.result)
  | .scan _, _ => Iff.rfl
  | .filter condition source, transitive => by
    simp only [Gives, gives_iff source transitive, exists_eq_left, result]
  | .sort criteria source, ⟨here, below⟩ => by
    simp only [Gives, gives_iff source below, exists_eq_left, result,
      SortCriterion.stablySorted_iff here]
  | .limit count offset source, transitive => by
    simp only [Gives, gives_iff source transitive, exists_eq_left, result]

end Plan

end FilterQuery
