import FilterQuery.Sql.Join
/-! The column that a field denotes under a list of joins. It is named by the label
of the table that the steps of the field lead to. Reading a column may add joins
at the end of the list. The label of a path stays the same from then on, because a
path that has been joined is found again and never joined a second time. -/
namespace FilterQuery.Sql

/-- The label of the table at the end of a path of field names. -/
def label? (joins : List Join) : List String → Option String
  | [] => some rootLabel
  | path => (joins.find? fun join => join.path == path).map Join.label

/-- The text of the column that holds a field, if the table of the field is among the joined
ones. -/
def columnText? (dialect : Dialect) (joins : List Join) (field : ResolvedField) : Option String :=
  (label? joins (field.steps.map Step.field)).map fun label =>
    String.ofList (dialect.quote label) ++ "." ++ String.ofList (dialect.quote (columnName field))

theorem label?_of_ne_nil {path : List String} (some : path ≠ []) (joins : List Join) :
    label? joins path = (joins.find? fun join => join.path == path).map Join.label := by
  cases path with
  | nil => exact absurd rfl some
  | cons name rest => rfl

/-- Later joins do not change the label of a path. -/
theorem label?_of_prefix {joins later : List Join} (grown : joins <+: later)
    {path : List String} {label : String} (known : label? joins path = some label) :
    label? later path = some label := by
  cases path with
  | nil => exact known
  | cons name rest =>
    obtain ⟨join, found, rfl⟩ := Option.map_eq_some_iff.1 known
    exact Option.map_eq_some_iff.2 ⟨join, grown.find?_eq_some found, rfl⟩

/-- An action that has run is followed by the next one. -/
theorem run_bind_of_run {σ α β : Type} {action : StateM σ α} {before middle : σ} {value : α}
    (ran : action.run before = (value, middle)) (next : α → StateM σ β) :
    (action >>= next).run before = (next value).run middle := by
  simp only [StateT.run_bind, ran]
  rfl

variable (schema : Schema)

/-- The join of a declared entity is made of what the entity declares. -/
theorem Join.table_of {entity : String} {declared : Entity}
    (found : schema.get? entity = some declared) (path : List String) (number : Nat)
    (parent : String) : (Join.of schema path number parent entity).table = declared.table := by
  rw [Join.of, found]

theorem Join.identifier_of {entity : String} {declared : Entity}
    (found : schema.get? entity = some declared) (path : List String) (number : Nat)
    (parent : String) :
    (Join.of schema path number parent entity).identifier = declared.identifier?.getD "id" := by
  rw [Join.of, found]
  rfl

theorem Join.foreignKey_of (path : List String) (name : String) (number : Nat)
    (parent entity : String) :
    (Join.of schema (path ++ [name]) number parent entity).foreignKey = referenceColumn name := by
  rw [Join.of, List.getLastD_concat]

/-- A path that is joined already is not joined again. -/
theorem run_join_of_found {path : List String} {bindings : Bindings} {known : Join}
    (found : bindings.join? path = some known) (parent entity : String) :
    (join schema path parent entity).run bindings = (known.label, bindings) := by
  simp [join, found]
  rfl

/-- A path that is not joined yet is joined behind all others. -/
theorem run_join_of_fresh {path : List String} {bindings : Bindings}
    (fresh : bindings.join? path = none) (parent entity : String) :
    (join schema path parent entity).run bindings =
      let added := Join.of schema path (bindings.joins.length + 1) parent entity
      (added.label, { bindings with joins := bindings.joins ++ [added] }) := by
  simp [join, fresh]
  rfl

/-- Joining a path gives the label that the path has from then on. -/
theorem run_join {path : List String} (some : path ≠ []) (parent entity : String)
    (bindings : Bindings) :
    ∃ label added,
      (join schema path parent entity).run bindings =
        (label, { bindings with joins := bindings.joins ++ added }) ∧
      label? (bindings.joins ++ added) path = .some label := by
  cases found : bindings.join? path with
  | some known =>
    refine ⟨known.label, [], ?_, ?_⟩
    · rw [run_join_of_found schema found, List.append_nil]
    · rw [List.append_nil, label?_of_ne_nil some]
      exact Option.map_eq_some_iff.2 ⟨known, found, rfl⟩
  | none =>
    let added := Join.of schema path (bindings.joins.length + 1) parent entity
    refine ⟨added.label, [added], run_join_of_fresh schema found parent entity, ?_⟩
    have fresh : bindings.joins.find? (fun join => join.path == path) = none := found
    have here : added.path = path := rfl
    rw [label?_of_ne_nil some, List.find?_append, fresh]
    simp [here]

/-- Joining the tables that steps lead through gives the label of the last of them. -/
theorem run_joinSteps (steps : List Step) (path : List String) (label : String)
    (bindings : Bindings) (known : label? bindings.joins path = some label) :
    ∃ last added,
      (joinSteps schema path label steps).run bindings =
        (last, { bindings with joins := bindings.joins ++ added }) ∧
      label? (bindings.joins ++ added) (path ++ steps.dropLast.map Step.field) = some last := by
  have nothing : bindings = { bindings with joins := bindings.joins ++ [] } := by simp
  match steps with
  | [] => exact ⟨label, [], congrArg (Prod.mk label) nothing, by simpa using known⟩
  | [_] => exact ⟨label, [], congrArg (Prod.mk label) nothing, by simpa using known⟩
  | step :: next :: rest =>
    have some : path ++ [step.field] ≠ [] := by simp
    obtain ⟨nextLabel, added, ran, knownNext⟩ := run_join schema some label next.entity bindings
    obtain ⟨last, more, ranRest, knownLast⟩ :=
      run_joinSteps (next :: rest) (path ++ [step.field]) nextLabel
        { bindings with joins := bindings.joins ++ added } knownNext
    refine ⟨last, added ++ more, ?_, ?_⟩
    · rw [joinSteps, run_bind_of_run ran, ranRest, List.append_assoc]
    · simpa using knownLast

/-- Reading a column gives the text that denotes the field from then on. -/
theorem run_column (field : ResolvedField) (bindings : Bindings) :
    ∃ fragments added,
      (column schema field).run bindings =
        (fragments, { bindings with joins := bindings.joins ++ added }) ∧
      ∀ dialect joins, bindings.joins ++ added <+: joins →
        columnText? dialect joins field = some (dialect.text fragments) := by
  obtain ⟨label, added, ran, known⟩ :=
    run_joinSteps schema (field.steps ++ [field.target]) [] rootLabel bindings rfl
  refine ⟨[.name label, .fixed ".", .name (columnName field)], added, ?_, ?_⟩
  · rw [column, run_bind_of_run ran]
    rfl
  · intro dialect joins grown
    have labelled : label? joins (field.steps.map Step.field) = some label := by
      simpa using label?_of_prefix grown known
    simp [columnText?, labelled, Dialect.text, Dialect.fragmentChars, String.append_assoc]

end FilterQuery.Sql
