import FilterQuery.Proofs.Plan.Stages
/-! Plans under calls in any order. A plan whose criteria all have a path hands out its rows, one
by one from the first start on; what it hands out is what its stages make of the scanned rows. If a
criterion has no path, no call on the plan succeeds. Each filter, wherever it stands in the plan,
counts the rows that it takes and those that it hands out. -/
namespace FilterQuery

/-- The row with which a request is answered, if it is answered with one. -/
def answeredRow : Except Failure (Option Record) → List Record
  | .ok (some row) => [row]
  | _ => []

namespace FilterProgress

variable {σ : Type} {next : σ → Reply σ (Option Record)}

/-- A filter counts the rows it hands out, whatever its source does. -/
theorem pull_counts (next : σ → Reply σ (Option Record)) (condition : RecordCondition)
    (bound : Nat) (progress : FilterProgress σ) :
    (progress.pull next condition bound).2.started = progress.started ∧
      (progress.pull next condition bound).2.matched =
        progress.matched + (answeredRow (progress.pull next condition bound).1).length := by
  induction bound generalizing progress with
  | zero => exact ⟨rfl, rfl⟩
  | succ bound ih =>
    rcases ran : next progress.source with ⟨failure | (_ | row), source⟩
    · simp [pull, ran, answeredRow]
    · simp [pull, ran, answeredRow]
    · by_cases meets : condition.holds row = true
      · simp [pull, ran, meets, answeredRow]
      · simpa only [pull, ran, if_neg meets] using
          ih { progress with source, scanned := progress.scanned + 1 }

/-- A filter that finds no row to hand out has taken all rows of its source. -/
theorem pull_exhausts {Pending : σ → List Record → Prop} (supplies : Supplies next Pending)
    (condition : RecordCondition) {rows : List Record} {progress : FilterProgress σ} {bound : Nat}
    (pending : Pending progress.source rows) (enough : rows.length < bound)
    (none : ∀ row ∈ rows, ¬ condition.holds row = true) :
    ∃ after, progress.pull next condition bound = (.ok .none, after) ∧
      after.started = progress.started ∧ Pending after.source [] ∧
      after.scanned = progress.scanned + rows.length := by
  induction rows generalizing progress bound with
  | nil =>
    obtain ⟨bound, rfl⟩ := Nat.exists_eq_add_one_of_ne_zero (Nat.ne_zero_of_lt enough)
    obtain ⟨source, stepped, left⟩ := supplies progress.source [] pending
    exact ⟨{ progress with source }, by simp [pull, stepped], rfl, left, rfl⟩
  | cons row rows ih =>
    obtain ⟨bound, rfl⟩ := Nat.exists_eq_add_one_of_ne_zero (Nat.ne_zero_of_lt enough)
    obtain ⟨source, stepped, left⟩ := supplies progress.source (row :: rows) pending
    obtain ⟨fails, others⟩ := List.forall_mem_cons.1 none
    let seen := { progress with source, scanned := progress.scanned + 1 }
    have pendingSeen : Pending seen.source rows := left
    obtain ⟨after, pulled, started, done, scanned⟩ :=
      ih pendingSeen (Nat.lt_of_succ_lt_succ enough) others
    refine ⟨after, ?_, started, done, ?_⟩
    · simpa [pull, stepped, fails] using pulled
    · rw [scanned, List.length_cons, Nat.add_right_comm]
      rfl

end FilterProgress

namespace Plan

variable {plan : Plan} {calls : List Call}

section Refusing

/-- The criterion that keeps a plan from being started: the first one without a path in the lowest
sort that has such a criterion. -/
def pathless? : Plan → Option SortCriterion
  | .scan _ => none
  | .filter _ source | .limit _ _ source => source.pathless?
  | .sort criteria source =>
    source.pathless?.or (criteria.find? fun criterion => criterion.path.isEmpty)

/-- Whatever the calls, starting the plan fails for this criterion, and asking it for a row fails
because it is not started. -/
structure Refuses (plan : Plan) (criterion : SortCriterion) : Prop where
  starts : ∀ calls,
    (plan.start (plan.cursorAfter calls)).1 = .error (.emptySortPath criterion)
  rows : ∀ calls,
    plan.next (plan.cursorAfter calls) = (.error .notStarted, plan.cursorAfter calls)

theorem path_of_pathless? {criterion : SortCriterion} :
    ∀ plan : Plan, plan.pathless? = some criterion → criterion.path = []
  | .scan _, found => by cases found
  | .filter _ source, found => path_of_pathless? source found
  | .limit _ _ source, found => path_of_pathless? source found
  | .sort criteria source, found => by
    rcases Option.or_eq_some_iff.1 found with below | ⟨-, here⟩
    · exact path_of_pathless? source below
    · simpa using List.find?_some here

theorem orderable_of_pathless? : ∀ plan : Plan, plan.pathless? = none → plan.Orderable
  | .scan _, _ => trivial
  | .filter _ source, nothing => orderable_of_pathless? source nothing
  | .limit _ _ source, nothing => orderable_of_pathless? source nothing
  | .sort criteria source, nothing => by
    obtain ⟨below, here⟩ := Option.or_eq_none_iff.1 nothing
    exact ⟨by simpa using here, orderable_of_pathless? source below⟩

/-- A plan whose start fails wherever calls may have led it is never started. -/
theorem refuses_of_start {criterion : SortCriterion}
    (fails : ∀ state, Called plan state → isStarted plan state = false →
      ∃ after, start plan state = (.error (.emptySortPath criterion), after) ∧
        isStarted plan after = false) :
    plan.Refuses criterion := by
  have never (calls : List Call) : isStarted plan (plan.cursorAfter calls) = false := by
    induction calls using List.reverseRecOn with
    | nil => exact isStarted_cursor plan
    | append_singleton calls call ih =>
      rw [cursorAfter_concat]
      cases call with
      | start =>
        obtain ⟨after, ran, unstarted⟩ := fails _ ⟨calls, rfl⟩ ih
        rwa [step, ran]
      | next => rwa [step, next_of_unstarted ih]
  constructor
  · intro calls
    obtain ⟨after, ran, -⟩ := fails _ ⟨calls, rfl⟩ (never calls)
    rw [ran]
  · intro calls
    exact next_of_unstarted (never calls)

/-- The source of a stage answers a start in the same way wherever calls have led it. -/
theorem exists_start_of_called {source : Plan} {state : Cursor source}
    {answer : Except Failure Unit} (called : Called source state)
    (starts : ∀ calls, (source.start (source.cursorAfter calls)).1 = answer) :
    ∃ after, start source state = (answer, after) := by
  obtain ⟨calls, rfl⟩ := called
  exact ⟨_, Prod.ext (starts calls) rfl⟩

/-- A plan with a criterion without a path refuses all calls: a stage above a sort that cannot be
started fails as the sort does. -/
theorem refuses_of_pathless? {criterion : SortCriterion} : ∀ plan : Plan,
    plan.pathless? = some criterion → plan.Refuses criterion
  | .scan _, found => by cases found
  | .filter condition source, found => by
    have below := refuses_of_pathless? source found
    refine refuses_of_start ?_
    intro (progress : FilterProgress (Cursor source)) called unstarted
    obtain ⟨after, ran⟩ := exists_start_of_called called.source_of_filter below.starts
    refine ⟨{ progress with source := after }, ?_, unstarted⟩
    rw [start_filter unstarted, ran]
  | .limit count offset source, found => by
    have below := refuses_of_pathless? source found
    refine refuses_of_start ?_
    intro (progress : LimitProgress (Cursor source)) called unstarted
    obtain ⟨after, ran⟩ := exists_start_of_called called.source_of_limit below.starts
    refine ⟨{ progress with source := after }, ?_, unstarted⟩
    rw [start_limit unstarted, ran]
  | .sort criteria source, found => by
    refine refuses_of_start ?_
    intro (progress : SortProgress (Cursor source)) called unstarted
    rcases Option.or_eq_some_iff.1 found with lower | ⟨nothing, here⟩
    · have below := refuses_of_pathless? source lower
      obtain ⟨after, ran⟩ := exists_start_of_called called.source_of_sort below.starts
      refine ⟨{ progress with source := after }, ?_, unstarted⟩
      rw [start_sort unstarted, ran]
    · have below := handsOut_result (orderable_of_pathless? source nothing)
      obtain ⟨after, ran⟩ := exists_start_of_called called.source_of_sort below.starts
      refine ⟨SortProgress.mk after none, ?_, rfl⟩
      rw [start_sort unstarted, ran]
      simp only [fillSort, here]
      rfl

end Refusing

section Counting

/-- The row with which a call is answered, if it is answered with one. -/
def answer (plan : Plan) (state : Cursor plan) : Call → List Record
  | .start => []
  | .next => answeredRow (next plan state).1

/-- The rows with which these calls are answered, the first of which finds the cursor here. -/
def answersFrom (plan : Plan) : Cursor plan → List Call → List Record
  | _, [] => []
  | state, call :: calls => plan.answer state call ++ answersFrom plan (plan.step state call) calls

/-- The rows that are handed out in these calls. -/
def handedOut (plan : Plan) (calls : List Call) : List Record := plan.answersFrom plan.cursor calls

/-- One of these calls has been told that there are no more rows. -/
def Exhausted (plan : Plan) (calls : List Call) : Prop :=
  ∃ earlier later, calls = earlier ++ .next :: later ∧
    (plan.next (plan.cursorAfter earlier)).1 = .ok none

theorem handedOut_concat (plan : Plan) (calls : List Call) (call : Call) :
    plan.handedOut (calls ++ [call]) =
      plan.handedOut calls ++ plan.answer (plan.cursorAfter calls) call := by
  have split (state : Cursor plan) : plan.answersFrom state (calls ++ [call]) =
      plan.answersFrom state calls ++ plan.answer (calls.foldl plan.step state) call := by
    induction calls generalizing state with
    | nil => simp [answersFrom]
    | cons first rest ih => simp [answersFrom, ih]
  exact split plan.cursor

variable {condition : RecordCondition} {source : Plan}

/-- A filter has counted this many rows that passed; before it is started these are none. -/
structure Counted (progress : FilterProgress (Cursor source)) (rows : Nat) : Prop where
  matched : progress.matched = rows
  fresh : progress.started = false → progress.matched = 0

/-- A call adds to the count of a filter as many rows as it is answered with. -/
theorem counted_step {progress : FilterProgress (Cursor source)} {rows : Nat}
    (counted : Counted progress rows) (call : Call) :
    Counted (step (.filter condition source) progress call)
      (rows + (answer (.filter condition source) progress call).length) := by
  cases call with
  | start =>
    show Counted (start (.filter condition source) progress).2 rows
    cases started : progress.started with
    | false =>
      -- Counting begins anew, but nothing has been counted before.
      have none : rows = 0 := counted.matched.symm.trans (counted.fresh started)
      rw [start_filter started]
      rcases start source progress.source with ⟨failure | _, state⟩
      · exact ⟨counted.matched, counted.fresh⟩
      · exact ⟨none.symm, fun _ => rfl⟩
    | true =>
      rw [start_filter_again started]
      exact counted
  | next =>
    show Counted (next (.filter condition source) progress).2
      (rows + (answeredRow (next (.filter condition source) progress).1).length)
    cases started : progress.started with
    | false =>
      rw [next_filter_early started]
      exact counted
    | true =>
      obtain ⟨still, matched⟩ :=
        FilterProgress.pull_counts (next source) condition (rowCount source + 1) progress
      rw [next_filter started]
      refine ⟨by rw [matched, counted.matched], fun stopped => ?_⟩
      rw [still, started] at stopped
      cases stopped

/-- A filter has counted as many rows as it has handed out. -/
theorem counted_cursorAfter (calls : List Call) :
    Counted ((filter condition source).cursorAfter calls)
      ((filter condition source).handedOut calls).length := by
  induction calls using List.reverseRecOn with
  | nil => exact ⟨rfl, fun _ => rfl⟩
  | append_singleton calls call ih =>
    rw [cursorAfter_concat, handedOut_concat, List.length_append]
    exact counted_step ih call

/-- The source of a filter has no more rows to come, and the filter has counted all of them. -/
def Spent (source : Plan) (progress : FilterProgress (Cursor source)) : Prop :=
  progress.started = true ∧ Pending source progress.source [] ∧
    progress.scanned = source.result.length

/-- A filter that has no more rows to hand out takes all rows of its source to find this out. -/
theorem spent_of_pending {progress : FilterProgress (Cursor source)}
    (pending : Pending (.filter condition source) progress []) :
    Spent source (next (.filter condition source) progress).2 := by
  obtain ⟨started, -, inner, pending, rejected, scanned⟩ := pending
  have bound := length_le_rowCount source progress.source inner pending
  obtain ⟨after, pulled, still, done, counted⟩ :=
    FilterProgress.pull_exhausts (next_supplies source) condition pending
      (Nat.lt_succ_of_le bound) (List.filter_eq_nil_iff.1 rejected)
  rw [next_filter started, pulled]
  exact ⟨still.trans started, done, counted.trans scanned⟩

/-- A spent filter stays spent. -/
theorem spent_step {progress : FilterProgress (Cursor source)} (spent : Spent source progress)
    (call : Call) : Spent source (step (.filter condition source) progress call) := by
  obtain ⟨started, pending, scanned⟩ := spent
  cases call with
  | start =>
    show Spent source (start (.filter condition source) progress).2
    rw [start_filter_again started]
    exact ⟨started, pending, scanned⟩
  | next =>
    show Spent source (next (.filter condition source) progress).2
    obtain ⟨after, pulled, still, done, counted⟩ :=
      FilterProgress.pull_exhausts (next_supplies source) condition pending (Nat.succ_pos _) (by simp)
    rw [next_filter started, pulled]
    exact ⟨still.trans started, done, counted.trans scanned⟩

/-- A filter that has told that there are no more rows has counted all rows of its source. -/
theorem scanned_cursorAfter {calls : List Call}
    (exhausted : (filter condition source).Exhausted calls) :
    FilterProgress.scanned ((filter condition source).cursorAfter calls) =
      source.result.length := by
  obtain ⟨earlier, later, rfl, told⟩ := exhausted
  have spent : Spent source ((filter condition source).cursorAfter (earlier ++ [.next])) := by
    rw [cursorAfter_concat]
    cases pathless : (filter condition source).pathless? with
    | some criterion =>
      rw [(refuses_of_pathless? _ pathless).rows earlier] at told
      cases told
    | none =>
      have ready := orderable_of_pathless? _ pathless
      rcases cursorAfter_cases ready earlier with ⟨unstarted, -⟩ | ⟨-, pending⟩
      · rw [((handsOut_result ready).unstarted earlier unstarted).2] at told
        cases told
      · obtain ⟨after, ran, -⟩ := next_supplies _ _ _ pending
        rw [ran] at told
        have nothing := List.head?_eq_none_iff.1 (Except.ok.inj told)
        rw [nothing] at pending
        exact spent_of_pending pending
  have still := holds_after_append (filter condition source) (Spent source)
    (fun _ call spent => spent_step spent call) spent later
  rw [List.append_assoc] at still
  exact still.2.2

end Counting

/-- Calls on a plan may come in any order. If all its criteria have a path, and each sort orders
the rows of its source transitively, the plan hands out one by one what its stages make of the
scanned rows. If a criterion has no path, every call fails. Calls of its own have led each filter
in the plan to where it is. Whatever these calls were, it has counted as many rows as it has handed
out, and once it has told that there are no more, all rows of its source. -/
theorem answers_calls_in_any_order (plan : Plan) :
    (plan.Orderable → plan.Transitive →
      (∀ rows, plan.Gives rows ↔ rows = plan.result) ∧ plan.HandsOut plan.result) ∧
    (¬ plan.Orderable → ∃ criterion, plan.pathless? = some criterion ∧ criterion.path = [] ∧
      plan.Refuses criterion) ∧
    ∀ calls condition source, ∀ progress : FilterProgress (Cursor source),
      Stage plan (plan.cursorAfter calls) (.filter condition source) progress →
      (∃ own, progress = (filter condition source).cursorAfter own) ∧
      ∀ own, progress = (filter condition source).cursorAfter own →
        progress.matched = ((filter condition source).handedOut own).length ∧
        ((filter condition source).Exhausted own → progress.scanned = source.result.length) := by
  refine ⟨?_, ?_, ?_⟩
  · intro ready transitive
    exact ⟨fun _ => gives_iff plan transitive, handsOut_result ready⟩
  · intro unready
    cases found : plan.pathless? with
    | none => exact absurd (orderable_of_pathless? plan found) unready
    | some criterion =>
      exact ⟨criterion, rfl, path_of_pathless? plan found, refuses_of_pathless? plan found⟩
  · intro calls condition source progress within
    refine ⟨within.called ⟨calls, rfl⟩, ?_⟩
    rintro own rfl
    exact ⟨(counted_cursorAfter own).matched, scanned_cursorAfter⟩

/-- A limit over a sort over a filter, asked too early, started twice, and asked once more than it
has rows; and the same plan with a criterion that has no path. -/
theorem answers_calls_on_page_by_price :
    let item (name : String) (price : Value) : Record := ⟨[("name", .str name), ("price", price)]⟩
    let rows := [item "a" (.int 3), item "b" .null, item "c" (.int 1), item "d" (.int 2)]
    let priced : Plan := .filter (.test ["price"] .isNotNull) (.scan rows)
    let page (path : List String) : Plan := .limit 2 1 (.sort [.of path .asc] priced)
    let calls : List Call := [.next, .start, .next, .start, .next, .next]
    (page ["price"]).Orderable ∧ (page ["price"]).Transitive ∧
    (∀ given, (page ["price"]).Gives given ↔ given = [item "d" (.int 2), item "a" (.int 3)]) ∧
    (page ["price"]).HandsOut [item "d" (.int 2), item "a" (.int 3)] ∧
    ((page ["price"]).next ((page ["price"]).cursorAfter calls)).1 = .ok none ∧
    (∃ progress : FilterProgress (Cursor (.scan rows)),
      Stage (page ["price"]) ((page ["price"]).cursorAfter [.next, .start]) priced progress ∧
      progress.matched = 3 ∧ progress.scanned = 4) ∧
    ¬ (page []).Orderable ∧ (page []).Refuses (.of [] .asc) := by
  intro item rows priced page calls
  have ready : (page ["price"]).Orderable := by simp [page, Orderable, SortCriterion.of, priced]
  have transitive : (page ["price"]).Transitive := by
    refine ⟨SortCriterion.transitiveOn_of_typed ?_, trivial⟩
    intro criterion inside
    rw [List.mem_singleton.1 inside]
    refine ⟨.integer, ?_⟩
    intro row found
    rcases List.mem_cons.1 found with rfl | found
    · exact .inr (.integer 3)
    · rcases List.mem_cons.1 found with rfl | found
      · exact .inr (.integer 1)
      · rw [List.mem_singleton.1 found]
        exact .inr (.integer 2)
  have sorted : (page ["price"]).result = [item "d" (.int 2), item "a" (.int 3)] := by
    let precedes (a b : Record) : Bool := (SortCriterion.compareAll [.of ["price"] .asc] a b).isLE
    have first : precedes (item "a" (.int 3)) (item "c" (.int 1)) = false := rfl
    have second : precedes (item "c" (.int 1)) (item "d" (.int 2)) = true := rfl
    have third : precedes (item "a" (.int 3)) (item "d" (.int 2)) = false := rfl
    have passed : priced.result =
        [item "a" (.int 3), item "c" (.int 1), item "d" (.int 2)] := rfl
    simp only [precedes] at first second third
    simp [page, result, passed, SortCriterion.sortRows_eq_mergeSort, List.mergeSort,
      List.MergeSort.Internal.splitInTwo, first, second, third]
  obtain ⟨hands, -, counts⟩ := answers_calls_in_any_order (page ["price"])
  obtain ⟨gives, handsOut⟩ := hands ready transitive
  rw [sorted] at gives handsOut
  obtain ⟨-, refuses, -⟩ := answers_calls_in_any_order (page [])
  have unready : ¬ (page []).Orderable := by simp [page, Orderable, SortCriterion.of]
  obtain ⟨criterion, found, -, refuses⟩ := refuses unready
  cases found
  -- Once it is started, the sort has taken all rows of the filter.
  let own : List Call := [.start, .next, .next, .next, .next]
  let progress : FilterProgress (Cursor (.scan rows)) := priced.cursorAfter own
  have within :
      Stage (page ["price"]) ((page ["price"]).cursorAfter [.next, .start]) priced progress :=
    .limit (.sort (.whole priced progress))
  obtain ⟨matched, scanned⟩ := (counts _ _ _ progress within).2 own rfl
  refine ⟨ready, transitive, gives, handsOut, ?_, ⟨progress, within, matched, ?_⟩, unready, refuses⟩
  · exact handsOut.row calls (by decide)
  · exact scanned ⟨[.start, .next, .next, .next], [], rfl, rfl⟩

end Plan

end FilterQuery
