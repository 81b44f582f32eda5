import FilterQuery.Plan.Basic
/-! The rows of a plan. A plan stands for a list of rows: those it scans, filtered,
sorted and cut as its stages say. A started cursor has some of these rows still to
come, and each step hands out the first of them. So a plan whose criteria all have
a path gives its rows without a failure. -/
namespace FilterQuery

section Sources

variable {σ : Type} {next : σ → Reply σ (Option Record)} {Pending : σ → List Record → Prop}

/-- Each step from a state with rows to come hands out the first of them and leaves the others. -/
def Supplies (next : σ → Reply σ (Option Record)) (Pending : σ → List Record → Prop) : Prop :=
  ∀ state rows, Pending state rows →
    ∃ after, next state = (.ok rows.head?, after) ∧ Pending after rows.tail

/-- Draining a source gives all rows to come. -/
theorem drain_of_supplies (supplies : Supplies next Pending) {rows : List Record} {state : σ}
    {bound : Nat} (pending : Pending state rows) (enough : rows.length < bound) :
    ∃ after, drain next bound state = (.ok rows, after) ∧ Pending after [] := by
  induction rows generalizing state bound with
  | nil =>
    obtain ⟨bound, rfl⟩ := Nat.exists_eq_add_one_of_ne_zero (Nat.ne_zero_of_lt enough)
    obtain ⟨after, stepped, left⟩ := supplies state [] pending
    exact ⟨after, by simp [drain, stepped], left⟩
  | cons row rest ih =>
    obtain ⟨bound, rfl⟩ := Nat.exists_eq_add_one_of_ne_zero (Nat.ne_zero_of_lt enough)
    obtain ⟨middle, stepped, left⟩ := supplies state (row :: rest) pending
    obtain ⟨after, drained, done⟩ := ih left (by simpa using enough)
    exact ⟨after, by simp [drain, stepped, drained, Except.map], done⟩

/-- A filter hands out the first row to come that meets the condition, and counts what it takes and
what it hands out. -/
theorem FilterProgress.pull_of_supplies (supplies : Supplies next Pending)
    (condition : RecordCondition) {rows : List Record} {progress : FilterProgress σ} {bound : Nat}
    (pending : Pending progress.source rows) (enough : rows.length < bound) :
    ∃ after rest, progress.pull next condition bound =
        (.ok (rows.filter condition.holds).head?, after) ∧
      after.started = progress.started ∧ Pending after.source rest ∧
      rest.filter condition.holds = (rows.filter condition.holds).tail ∧
      after.scanned + rest.length = progress.scanned + rows.length ∧
      after.matched + (rest.filter condition.holds).length =
        progress.matched + (rows.filter condition.holds).length := by
  induction rows generalizing progress bound with
  | nil =>
    obtain ⟨bound, rfl⟩ := Nat.exists_eq_add_one_of_ne_zero (Nat.ne_zero_of_lt enough)
    obtain ⟨source, stepped, left⟩ := supplies progress.source [] pending
    exact ⟨{ progress with source }, [], by simp [pull, stepped], rfl, left, rfl, rfl, rfl⟩
  | cons row rows ih =>
    obtain ⟨bound, rfl⟩ := Nat.exists_eq_add_one_of_ne_zero (Nat.ne_zero_of_lt enough)
    obtain ⟨source, stepped, left⟩ := supplies progress.source (row :: rows) pending
    simp only [List.head?_cons, List.tail_cons] at stepped left
    let seen := { progress with source, scanned := progress.scanned + 1 }
    by_cases meets : condition.holds row = true
    · refine ⟨{ seen with matched := seen.matched + 1 }, rows, ?_, rfl, left, ?_, ?_, ?_⟩
      · simp [pull, stepped, meets, seen]
      · simp [meets]
      · simp [seen]
        omega
      · simp [meets, seen]
        omega
    · have pendingSeen : Pending seen.source rows := left
      have enoughLeft : rows.length < bound := by simpa using enough
      obtain ⟨after, rest, pulled, started, pendingRest, same, scanned, matched⟩ :=
        ih pendingSeen enoughLeft
      refine ⟨after, rest, ?_, started, pendingRest, ?_, ?_, ?_⟩
      · have fails : (row :: rows).filter condition.holds = rows.filter condition.holds :=
          List.filter_cons_of_neg meets
        rw [pull, stepped, fails, ← pulled]
        simp [meets, seen]
      · simpa [meets] using same
      · simp [seen] at scanned
        simp
        omega
      · simpa [meets] using matched

/-- A limit passes over as many rows as there are, at most those it has to. -/
theorem LimitProgress.skip_of_supplies (supplies : Supplies next Pending) (count : Nat)
    {rows : List Record} {progress : LimitProgress σ} (pending : Pending progress.source rows) :
    ∃ after, progress.skip next count = (.ok (decide (count ≤ rows.length)), after) ∧
      after.started = progress.started ∧ after.returned = progress.returned ∧
      after.skipped = progress.skipped + min count rows.length ∧
      Pending after.source (rows.drop count) := by
  induction count generalizing rows progress with
  | zero => exact ⟨progress, by simp [skip], rfl, rfl, by simp, pending⟩
  | succ count ih =>
    obtain ⟨source, stepped, left⟩ := supplies progress.source rows pending
    cases rows with
    | nil => exact ⟨{ progress with source }, by simp [skip, stepped], rfl, rfl, by simp, left⟩
    | cons row rows =>
      let passed := { progress with source, skipped := progress.skipped + 1 }
      have pendingPassed : Pending passed.source rows := left
      obtain ⟨after, skipped, started, returned, total, pendingRest⟩ := ih pendingPassed
      refine ⟨after, ?_, started, returned, ?_, pendingRest⟩
      · have again : skip next count { progress with source, skipped := progress.skipped + 1 } =
            (.ok (decide (count ≤ rows.length)), after) := skipped
        simp [skip, stepped, again]
      · simp [passed] at total
        simp
        omega

/-- A limit hands out the first row to come after those it passes over, unless it has handed out
as many as it may. -/
theorem LimitProgress.pull_of_supplies (supplies : Supplies next Pending) (count offset : Nat)
    {rows : List Record} {progress : LimitProgress σ} (pending : Pending progress.source rows) :
    ∃ after rest, progress.pull next count offset =
        (.ok ((rows.drop (offset - progress.skipped)).take (count - progress.returned)).head?,
          after) ∧
      after.started = progress.started ∧ Pending after.source rest ∧
      (rest.drop (offset - after.skipped)).take (count - after.returned) =
        ((rows.drop (offset - progress.skipped)).take (count - progress.returned)).tail := by
  by_cases full : count ≤ progress.returned
  · have none : count - progress.returned = 0 := by omega
    exact ⟨progress, rows, by simp [pull, full, none], rfl, pending, by simp [none]⟩
  · obtain ⟨passed, skipped, started, returned, total, left⟩ :=
      skip_of_supplies supplies (offset - progress.skipped) pending
    obtain ⟨more, room⟩ : ∃ more, count - progress.returned = more + 1 :=
      ⟨count - progress.returned - 1, by omega⟩
    by_cases there : offset - progress.skipped ≤ rows.length
    · obtain ⟨source, stepped, after⟩ := supplies passed.source _ left
      have none : offset - passed.skipped = 0 := by omega
      cases coming : rows.drop (offset - progress.skipped) with
      | nil =>
        rw [coming] at stepped after
        refine ⟨{ passed with source }, [], ?_, started, after, by simp⟩
        simp [pull, full, skipped, there, stepped]
      | cons row rest =>
        rw [coming] at stepped after
        refine ⟨{ passed with source, returned := passed.returned + 1 }, rest,
          ?_, started, after, ?_⟩
        · simp [pull, full, skipped, there, stepped, room]
        · have left : count - (passed.returned + 1) = more := by omega
          simp [none, left, room]
    · have short : rows.drop (offset - progress.skipped) = [] := List.drop_of_length_le (by omega)
      rw [short] at left ⊢
      refine ⟨passed, [], ?_, started, left, by simp⟩
      simp [pull, full, skipped, there]

end Sources

namespace Plan

/-- The rows that a plan stands for. -/
def result : Plan → List Record
  | .scan rows => rows
  | .filter condition source => source.result.filter condition.holds
  | .sort criteria source => SortCriterion.sortRows criteria source.result
  | .limit count offset source => (source.result.drop offset).take count

/-- Whether all criteria of the plan have a path. -/
def Orderable : Plan → Prop
  | .scan _ => True
  | .filter _ source | .limit _ _ source => source.Orderable
  | .sort criteria source => (∀ criterion ∈ criteria, criterion.path ≠ []) ∧ source.Orderable

/-- The cursor is started, and these rows are still to come. -/
def Pending : (plan : Plan) → Cursor plan → List Record → Prop
  | .scan all, state, rows => state = some rows ∧ rows.length ≤ all.length
  | .filter condition source, (progress : FilterProgress (Cursor source)), rows =>
    progress.started = true ∧
      progress.matched + rows.length = (result (.filter condition source)).length ∧
      ∃ inner, Pending source progress.source inner ∧ inner.filter condition.holds = rows ∧
        progress.scanned + inner.length = source.result.length
  | .sort _ source, (progress : SortProgress _), rows =>
    progress.remaining? = some rows ∧ rows.length ≤ rowCount source
  | .limit count offset source, (progress : LimitProgress (Cursor source)), rows =>
    progress.started = true ∧ ∃ inner, Pending source progress.source inner ∧
      (inner.drop (offset - progress.skipped)).take (count - progress.returned) = rows

/-- No more rows are to come than are scanned. -/
theorem length_le_rowCount : ∀ (plan : Plan) (state : Cursor plan) (rows : List Record),
    Pending plan state rows → rows.length ≤ rowCount plan
  | .scan _, _, _, pending => pending.2
  | .filter condition source, progress, rows, pending => by
    obtain ⟨-, -, inner, pending, rfl, -⟩ := pending
    exact Nat.le_trans (List.length_filter_le _ _) (length_le_rowCount source _ inner pending)
  | .sort _ _, _, _, pending => pending.2
  | .limit count offset source, progress, rows, pending => by
    obtain ⟨-, inner, pending, rfl⟩ := pending
    have bound := length_le_rowCount source _ inner pending
    rw [rowCount, List.length_take, List.length_drop]
    omega

/-- A started plan hands out the first of the rows to come. -/
theorem next_supplies : ∀ plan : Plan, Supplies (next plan) (Pending plan)
  | .scan all => by
    rintro state rows ⟨rfl, bound⟩
    cases rows with
    | nil => exact ⟨some [], rfl, rfl, bound⟩
    | cons row rest => exact ⟨some rest, rfl, rfl, Nat.le_of_succ_le bound⟩
  | .filter condition source => by
    rintro (progress : FilterProgress (Cursor source)) rows
      ⟨started, matched, inner, pending, rfl, scanned⟩
    have bound := length_le_rowCount source progress.source inner pending
    obtain ⟨after, rest, pulled, startedAfter, pendingRest, same, scannedAfter, matchedAfter⟩ :=
      FilterProgress.pull_of_supplies (next_supplies source) condition pending
        (Nat.lt_succ_of_le bound)
    refine ⟨after, (if_pos started).trans pulled, startedAfter.trans started, ?_, rest, pendingRest,
      same, ?_⟩
    · rw [← same]
      omega
    · omega
  | .sort _ source => by
    rintro (progress : SortProgress (Cursor source)) rows ⟨remaining, bound⟩
    cases rows with
    | nil => exact ⟨progress, by simp [next, remaining], remaining, bound⟩
    | cons row rest =>
      exact ⟨{ progress with remaining? := some rest }, by simp [next, remaining], rfl,
        Nat.le_of_succ_le bound⟩
  | .limit count offset source => by
    rintro (progress : LimitProgress (Cursor source)) rows ⟨started, inner, pending, rfl⟩
    obtain ⟨after, rest, pulled, startedAfter, pendingRest, same⟩ :=
      LimitProgress.pull_of_supplies (next_supplies source) count offset pending
    exact ⟨after, (if_pos started).trans pulled, startedAfter.trans started,
      rest, pendingRest, same⟩

/-- Draining a started plan gives the rows to come. -/
theorem drain_next {plan : Plan} {state : Cursor plan} {rows : List Record}
    (pending : Pending plan state rows) :
    ∃ after, drain (next plan) (rowCount plan + 1) state = (.ok rows, after) ∧
      Pending plan after [] :=
  drain_of_supplies (next_supplies plan) pending
    (Nat.lt_succ_of_le (length_le_rowCount plan state rows pending))

/-- Starting the cursor of a plan leaves all rows of the plan to come. -/
theorem start_cursor : ∀ plan : Plan, plan.Orderable →
    ∃ state, start plan plan.cursor = (.ok (), state) ∧ Pending plan state plan.result
  | .scan rows, _ => ⟨some rows, rfl, rfl, Nat.le_refl _⟩
  | .filter condition source, ready => by
    obtain ⟨state, started, pending⟩ := start_cursor source ready
    refine ⟨⟨state, true, 0, 0⟩, ?_, rfl, Nat.zero_add _, source.result, pending, rfl,
      Nat.zero_add _⟩
    simp [start, cursor, started]
  | .sort criteria source, ⟨paths, ready⟩ => by
    obtain ⟨state, started, pending⟩ := start_cursor source ready
    obtain ⟨after, drained, -⟩ := drain_next pending
    have none : criteria.find? (fun criterion => criterion.path.isEmpty) = none := by
      rw [List.find?_eq_none]
      simpa using paths
    have bound := length_le_rowCount source state _ pending
    refine ⟨⟨after, some (SortCriterion.sortRows criteria source.result)⟩, ?_, rfl, ?_⟩
    · simp [start, cursor, started, fillSort, none, drained]
      rfl
    · simpa [result, SortCriterion.sortRows] using bound
  | .limit count offset source, ready => by
    obtain ⟨state, started, pending⟩ := start_cursor source ready
    refine ⟨⟨state, true, 0, 0⟩, ?_, rfl, source.result, pending, rfl⟩
    simp [start, cursor, started]

/-- Collecting an orderable plan gives its rows. -/
theorem collect_cursor {plan : Plan} (ready : plan.Orderable) :
    ∃ after, plan.collect plan.cursor = (.ok plan.result, after) ∧ Pending plan after [] := by
  obtain ⟨state, started, pending⟩ := start_cursor plan ready
  obtain ⟨after, drained, done⟩ := drain_next pending
  exact ⟨after, by simp [collect, started, drained], done⟩

theorem rows_eq_result {plan : Plan} (ready : plan.Orderable) : plan.rows = .ok plan.result := by
  obtain ⟨after, collected, -⟩ := collect_cursor ready
  rw [rows, collected]

end Plan

end FilterQuery
