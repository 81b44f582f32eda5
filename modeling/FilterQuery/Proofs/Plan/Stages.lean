import FilterQuery.Proofs.Plan.Calls
/-! The stages of a plan. A stage is called by the stage above it and by nothing else, so whatever
is called on a plan, each stage is where calls of its own have led it. So what holds of a plan for
calls in any order holds of each of its stages as well. -/
namespace FilterQuery

section Sources

variable {σ : Type} {next : σ → Reply σ (Option Record)} {Kept : σ → Prop}

/-- Asking a source for a row keeps what holds of it. -/
def Keeps (next : σ → Reply σ (Option Record)) (Kept : σ → Prop) : Prop :=
  ∀ state, Kept state → Kept (next state).2

theorem drain_keeps (keeps : Keeps next Kept) (bound : Nat) {state : σ} (kept : Kept state) :
    Kept (drain next bound state).2 := by
  induction bound generalizing state with
  | zero => exact kept
  | succ bound ih =>
    have after := keeps state kept
    rcases ran : next state with ⟨failure | row?, middle⟩
    · rw [ran] at after
      simpa only [drain, ran] using after
    · rw [ran] at after
      cases row? with
      | none => simpa only [drain, ran] using after
      | some row => simpa only [drain, ran] using ih after

namespace FilterProgress

theorem pull_keeps (keeps : Keeps next Kept) (condition : RecordCondition) (bound : Nat)
    {progress : FilterProgress σ} (kept : Kept progress.source) :
    Kept (progress.pull next condition bound).2.source := by
  induction bound generalizing progress with
  | zero => exact kept
  | succ bound ih =>
    have after := keeps progress.source kept
    rcases ran : next progress.source with ⟨failure | row?, source⟩
    · rw [ran] at after
      simpa only [pull, ran] using after
    · rw [ran] at after
      cases row? with
      | none => simpa only [pull, ran] using after
      | some row =>
        by_cases meets : condition.holds row = true
        · simpa only [pull, ran, meets, if_true] using after
        · let seen := { progress with source, scanned := progress.scanned + 1 }
          have keptSeen : Kept seen.source := after
          simpa only [pull, ran, if_neg meets] using ih keptSeen

end FilterProgress

namespace LimitProgress

theorem skip_keeps (keeps : Keeps next Kept) (count : Nat) {progress : LimitProgress σ}
    (kept : Kept progress.source) : Kept (progress.skip next count).2.source := by
  induction count generalizing progress with
  | zero => exact kept
  | succ count ih =>
    have after := keeps progress.source kept
    rcases ran : next progress.source with ⟨failure | row?, source⟩
    · rw [ran] at after
      simpa only [skip, ran] using after
    · rw [ran] at after
      cases row? with
      | none => simpa only [skip, ran] using after
      | some row =>
        let passed := { progress with source, skipped := progress.skipped + 1 }
        have keptPassed : Kept passed.source := after
        simpa only [skip, ran] using ih keptPassed

theorem pull_keeps (keeps : Keeps next Kept) (count offset : Nat) {progress : LimitProgress σ}
    (kept : Kept progress.source) : Kept (progress.pull next count offset).2.source := by
  by_cases full : count ≤ progress.returned
  · simpa only [pull, if_pos full] using kept
  · have passed := skip_keeps keeps (offset - progress.skipped) kept
    rcases skipped : progress.skip next (offset - progress.skipped) with
      ⟨failure | (_ | _), middle⟩
    · rw [skipped] at passed
      simpa only [pull, if_neg full, skipped] using passed
    · rw [skipped] at passed
      simpa only [pull, if_neg full, skipped] using passed
    · rw [skipped] at passed
      have after := keeps middle.source passed
      rcases ran : next middle.source with ⟨failure | (_ | row), source⟩ <;> rw [ran] at after <;>
        simpa only [pull, if_neg full, skipped, ran] using after

end LimitProgress

end Sources

namespace Plan

variable {plan : Plan} {calls : List Call}

/-- What holds of a cursor and is kept by each call holds after all later calls. -/
theorem holds_after_append (plan : Plan) (Kept : Cursor plan → Prop)
    (kept : ∀ state call, Kept state → Kept (plan.step state call)) {before : List Call}
    (holds : Kept (plan.cursorAfter before)) (calls : List Call) :
    Kept (plan.cursorAfter (before ++ calls)) := by
  induction calls using List.reverseRecOn with
  | nil => rwa [List.append_nil]
  | append_singleton calls call ih =>
    rw [← List.append_assoc, cursorAfter_concat]
    exact kept _ call ih

/-- What holds of the cursor before all calls and is kept by each call holds after all calls. -/
theorem holds_cursorAfter (plan : Plan) (Kept : Cursor plan → Prop)
    (kept : ∀ state call, Kept state → Kept (plan.step state call)) (fresh : Kept plan.cursor)
    (calls : List Call) : Kept (plan.cursorAfter calls) :=
  @holds_after_append plan Kept kept [] fresh calls

/-- Some calls have led the cursor here. -/
def Called (plan : Plan) (state : Cursor plan) : Prop := ∃ calls, state = plan.cursorAfter calls

theorem called_cursor (plan : Plan) : Called plan plan.cursor := ⟨[], rfl⟩

theorem Called.step {state : Cursor plan} (called : Called plan state) (call : Call) :
    Called plan (plan.step state call) := by
  obtain ⟨calls, rfl⟩ := called
  exact ⟨calls ++ [call], (cursorAfter_concat plan calls call).symm⟩

theorem keeps_called (plan : Plan) : Keeps (next plan) (Called plan) :=
  fun _ called => called.step .next

section FilterStage

variable {condition : RecordCondition} {source : Plan} {progress : FilterProgress (Cursor source)}

theorem next_filter (started : progress.started = true) :
    next (.filter condition source) progress =
      progress.pull (next source) condition (rowCount source + 1) :=
  if_pos started

theorem next_filter_early (unstarted : progress.started = false) :
    next (.filter condition source) progress = (.error .notStarted, progress) :=
  next_of_unstarted unstarted

/-- A filter is started when its source is, and then begins to count. -/
theorem start_filter (unstarted : progress.started = false) :
    start (.filter condition source) progress =
      match start source progress.source with
      | (.error failure, state) => (.error failure, { progress with source := state })
      | (.ok (), state) => (.ok (), ⟨state, true, 0, 0⟩) :=
  if_neg (Bool.eq_false_iff.1 unstarted)

theorem start_filter_again (started : progress.started = true) :
    start (.filter condition source) progress = (.ok (), progress) :=
  if_pos started

/-- A filter calls its source by starting it and by asking it for rows. -/
theorem called_step_filter (called : Called source progress.source) (call : Call) :
    Called source (FilterProgress.source (step (.filter condition source) progress call)) := by
  cases call with
  | start =>
    show Called source (FilterProgress.source (start (.filter condition source) progress).2)
    cases started : progress.started with
    | false =>
      have begun := called.step .start
      rw [start_filter started]
      rcases ran : start source progress.source with ⟨_ | _, state⟩ <;> rwa [step, ran] at begun
    | true => rwa [start_filter_again started]
  | next =>
    show Called source (FilterProgress.source (next (.filter condition source) progress).2)
    cases started : progress.started with
    | false => rwa [next_filter_early started]
    | true =>
      rw [next_filter started]
      exact FilterProgress.pull_keeps (keeps_called source) condition _ called

theorem Called.source_of_filter (called : Called (.filter condition source) progress) :
    Called source progress.source := by
  obtain ⟨calls, rfl⟩ := called
  exact holds_cursorAfter (.filter condition source)
    (fun progress => Called source (FilterProgress.source progress))
    (fun _ call called => called_step_filter called call) (called_cursor source) calls

end FilterStage

section LimitStage

variable {count offset : Nat} {source : Plan} {progress : LimitProgress (Cursor source)}

/-- A limit is started when its source is. -/
theorem start_limit (unstarted : progress.started = false) :
    start (.limit count offset source) progress =
      match start source progress.source with
      | (.error failure, state) => (.error failure, { progress with source := state })
      | (.ok (), state) => (.ok (), ⟨state, true, 0, 0⟩) :=
  if_neg (Bool.eq_false_iff.1 unstarted)

/-- A limit calls its source by starting it and by asking it for rows. -/
theorem called_step_limit (called : Called source progress.source) (call : Call) :
    Called source (LimitProgress.source (step (.limit count offset source) progress call)) := by
  cases call with
  | start =>
    show Called source (LimitProgress.source (start (.limit count offset source) progress).2)
    cases started : progress.started with
    | false =>
      have begun := called.step .start
      rw [start_limit started]
      rcases ran : start source progress.source with ⟨_ | _, state⟩ <;> rwa [step, ran] at begun
    | true =>
      have same : start (.limit count offset source) progress = (.ok (), progress) := if_pos started
      rwa [same]
  | next =>
    show Called source (LimitProgress.source (next (.limit count offset source) progress).2)
    cases started : progress.started with
    | false =>
      have same : next (.limit count offset source) progress = (.error .notStarted, progress) :=
        next_of_unstarted started
      rwa [same]
    | true =>
      have pulled : next (.limit count offset source) progress =
          progress.pull (next source) count offset := if_pos started
      rw [pulled]
      exact LimitProgress.pull_keeps (keeps_called source) count offset called

theorem Called.source_of_limit (called : Called (.limit count offset source) progress) :
    Called source progress.source := by
  obtain ⟨calls, rfl⟩ := called
  exact holds_cursorAfter (.limit count offset source)
    (fun progress => Called source (LimitProgress.source progress))
    (fun _ call called => called_step_limit called call) (called_cursor source) calls

end LimitStage

section SortStage

variable {criteria : List SortCriterion} {source : Plan} {progress : SortProgress (Cursor source)}

/-- A sort is started when its source is and when it has taken and sorted all rows. -/
theorem start_sort (unstarted : progress.remaining?.isSome = false) :
    start (.sort criteria source) progress =
      match start source progress.source with
      | (.error failure, state) => (.error failure, { progress with source := state })
      | (.ok (), state) => fillSort criteria source state :=
  if_neg (Bool.eq_false_iff.1 unstarted)

theorem called_fillSort {state : Cursor source} (called : Called source state) :
    Called source (fillSort criteria source state).2.source := by
  have drained := drain_keeps (keeps_called source) (rowCount source + 1) called
  rw [fillSort]
  cases criteria.find? fun criterion => criterion.path.isEmpty with
  | some criterion => exact called
  | none =>
    rcases ran : drain (next source) (rowCount source + 1) state with ⟨_ | _, after⟩ <;>
      rwa [ran] at drained

/-- A sort calls its source by starting it and by asking it for all rows. -/
theorem called_step_sort (called : Called source progress.source) (call : Call) :
    Called source (SortProgress.source (step (.sort criteria source) progress call)) := by
  cases call with
  | start =>
    show Called source (SortProgress.source (start (.sort criteria source) progress).2)
    cases started : progress.remaining?.isSome with
    | false =>
      have begun := called.step .start
      rw [start_sort started]
      rcases ran : start source progress.source with ⟨_ | _, state⟩ <;> rw [step, ran] at begun
      · exact begun
      · exact called_fillSort begun
    | true =>
      have same : start (.sort criteria source) progress = (.ok (), progress) := if_pos started
      rwa [same]
  | next =>
    obtain ⟨state, _ | _ | ⟨row, rest⟩⟩ := progress <;> exact called

theorem Called.source_of_sort (called : Called (.sort criteria source) progress) :
    Called source progress.source := by
  obtain ⟨calls, rfl⟩ := called
  exact holds_cursorAfter (.sort criteria source)
    (fun progress => Called source (SortProgress.source progress))
    (fun _ call called => called_step_sort called call) (called_cursor source) calls

end SortStage

/-- A stage of a plan, and the progress that it has made when the plan has made this progress. -/
inductive Stage : (plan : Plan) → Cursor plan → (stage : Plan) → Cursor stage → Prop where
  | whole (plan : Plan) (state : Cursor plan) : Stage plan state plan state
  | filter {condition : RecordCondition} {source stage : Plan}
      {progress : FilterProgress (Cursor source)} {state : Cursor stage}
      (within : Stage source progress.source stage state) :
    Stage (.filter condition source) progress stage state
  | sort {criteria : List SortCriterion} {source stage : Plan}
      {progress : SortProgress (Cursor source)} {state : Cursor stage}
      (within : Stage source progress.source stage state) :
    Stage (.sort criteria source) progress stage state
  | limit {count offset : Nat} {source stage : Plan}
      {progress : LimitProgress (Cursor source)} {state : Cursor stage}
      (within : Stage source progress.source stage state) :
    Stage (.limit count offset source) progress stage state

/-- Each stage is where calls of its own have led it. -/
theorem Stage.called {stage : Plan} {state : Cursor plan} {progress : Cursor stage}
    (within : Stage plan state stage progress) (called : Called plan state) :
    Called stage progress := by
  induction within with
  | whole plan state => exact called
  | filter within ih => exact ih called.source_of_filter
  | sort within ih => exact ih called.source_of_sort
  | limit within ih => exact ih called.source_of_limit

end Plan

end FilterQuery
