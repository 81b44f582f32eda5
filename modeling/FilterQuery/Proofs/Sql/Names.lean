import FilterQuery.Proofs.Schema.Paths
import FilterQuery.Proofs.Sql.Columns
/-! The names in the text of a query. Each names a table, a column, or the label of a
table. A table is that of a declared entity, a column holds a declared field or a
reference or identifies the records of an entity, and labels are made up by the query
itself. This holds of every join, because joins are only added along references that a
resolved path leads through. -/
namespace FilterQuery.Sql

/-- What a query over a schema may name. -/
inductive Nameable (schema : Schema) : String → Prop where
  | root : Nameable schema "t"
  | label (number : Nat) : Nameable schema ("t_" ++ toString number)
  | table {entity : Entity} (declared : entity ∈ schema.entities) : Nameable schema entity.table
  | identifier {entity : Entity} (declared : entity ∈ schema.entities) :
    Nameable schema (entity.identifier?.getD "id")
  | field {entity : Entity} {field : Field} (declared : entity ∈ schema.entities)
      (inside : field ∈ entity.fields) : Nameable schema field.name
  | reference {entity : Entity} {field : Field} {target : String}
      (declared : entity ∈ schema.entities) (inside : field ∈ entity.fields)
      (refers : field.type = .entity target) : Nameable schema (field.name ++ "_id")

/-- A join names what a query may name. -/
structure Join.Named (schema : Schema) (join : Join) : Prop where
  label : Nameable schema join.label
  table : Nameable schema join.table
  parent : Nameable schema join.parent
  foreignKey : Nameable schema join.foreignKey
  identifier : Nameable schema join.identifier

variable {schema : Schema}

theorem Nameable.of_fieldType? {entity : Entity} {name : String} {type : FieldType}
    (declared : entity ∈ schema.entities) (typed : entity.fieldType? name = some type) :
    Nameable schema name := by
  obtain ⟨field, inside, rfl, -⟩ := Entity.mem_of_fieldType? typed
  exact .field declared inside

theorem Nameable.of_reference {entity : Entity} {name target : String}
    (declared : entity ∈ schema.entities) (refers : entity.fieldType? name = some (.entity target)) :
    Nameable schema (referenceColumn name) := by
  obtain ⟨field, inside, rfl, type⟩ := Entity.mem_of_fieldType? refers
  exact .reference declared inside type

/-- Run over joins that name what a query may name, and after this many parameters, the action keeps
the joins so and adds parameters at the end. Their number and its result are as told. -/
def Yields {α : Type} (schema : Schema) (start : Nat) (action : StateM Bindings α)
    (told : Nat → α → Prop) : Prop :=
  ∀ bindings, bindings.params.length = start → (∀ join ∈ bindings.joins, join.Named schema) →
    ∃ result joins values,
      action.run bindings = (result, ⟨joins, bindings.params ++ values⟩) ∧
      (∀ join ∈ joins, join.Named schema) ∧ told values.length result

section Rules

variable {α β : Type} {start : Nat}

theorem yields_pure {value : α} {told : Nat → α → Prop} (holds : told 0 value) :
    Yields schema start (pure value) told := by
  intro bindings _ named
  refine ⟨value, bindings.joins, [], ?_, named, holds⟩
  rw [List.append_nil]
  rfl

theorem yields_bind {action : StateM Bindings α} {next : α → StateM Bindings β}
    {middle : Nat → α → Prop} {told : Nat → β → Prop} (first : Yields schema start action middle)
    (onwards : ∀ count value, middle count value →
      Yields schema (start + count) (next value) fun more result => told (count + more) result) :
    Yields schema start (action >>= next) told := by
  intro bindings reached named
  obtain ⟨value, joins, values, ran, namedThen, holds⟩ := first bindings reached named
  have reachedThen : (bindings.params ++ values).length = start + values.length := by
    rw [List.length_append, reached]
  obtain ⟨result, after, more, ranThen, namedAfter, holdsAfter⟩ :=
    onwards values.length value holds ⟨joins, bindings.params ++ values⟩ reachedThen namedThen
  refine ⟨result, after, values ++ more, ?_, namedAfter, ?_⟩
  · rw [run_bind_of_run ran, ranThen, List.append_assoc]
  · rw [List.length_append]
    exact holdsAfter

theorem yields_mono {action : StateM Bindings α} {middle told : Nat → α → Prop}
    (yields : Yields schema start action middle)
    (implies : ∀ count value, middle count value → told count value) :
    Yields schema start action told := by
  intro bindings reached named
  obtain ⟨result, joins, values, ran, namedAfter, holds⟩ := yields bindings reached named
  exact ⟨result, joins, values, ran, namedAfter, implies _ _ holds⟩

end Rules

/-- Joining the entity that a reference leads to gives it a label. -/
theorem yields_join {entity next : Entity} {name target label : String} {start : Nat}
    (path : List String) (declared : entity ∈ schema.entities)
    (refers : entity.fieldType? name = some (.entity target))
    (found : schema.get? target = some next) (labelled : Nameable schema label) :
    Yields schema start (join schema (path ++ [name]) label next.name) fun count given =>
      count = 0 ∧ Nameable schema given := by
  intro bindings _ named
  cases known : bindings.join? (path ++ [name]) with
  | some joined =>
    refine ⟨joined.label, bindings.joins, [], ?_, named, rfl, ?_⟩
    · rw [run_join_of_found schema known, List.append_nil]
    · exact (named joined (List.mem_of_find?_eq_some known)).label
  | none =>
    let added := Join.of schema (path ++ [name]) (bindings.joins.length + 1) label next.name
    have self : schema.get? next.name = some next := Schema.get?_name found
    have inside : next ∈ schema.entities := Schema.mem_of_get? found
    have labelledNext : Nameable schema added.label := .label (bindings.joins.length + 1)
    have namedAdded : added.Named schema := by
      refine ⟨labelledNext, ?_, labelled, ?_, ?_⟩
      · rw [Join.table_of schema self]
        exact .table inside
      · rw [Join.foreignKey_of]
        exact .of_reference declared refers
      · rw [Join.identifier_of schema self]
        exact .identifier inside
    refine ⟨added.label, bindings.joins ++ [added], [], ?_, ?_, rfl, labelledNext⟩
    · rw [run_join_of_fresh schema known, List.append_nil]
    · intro joined among
      rcases List.mem_append.1 among with earlier | last
      · exact named joined earlier
      · rw [List.mem_singleton.1 last]
        exact namedAdded

/-- Joining what the steps of a path lead through gives the label of the last entity. -/
theorem yields_joinSteps {entity last : Entity} {steps : List Step}
    (leads : Leads schema entity steps last) (declared : entity ∈ schema.entities)
    (name : String) {path : List String} {label : String} {start : Nat}
    (labelled : Nameable schema label) :
    Yields schema start (joinSteps schema path label (steps ++ [⟨last.name, name⟩]))
      fun count given => count = 0 ∧ Nameable schema given := by
  induction leads generalizing path label start with
  | here entity => exact yields_pure ⟨rfl, labelled⟩
  | through refers found onwards ih =>
    obtain ⟨field, rest, steps⟩ := onwards.exists_head name
    have later := @ih (Schema.mem_of_get? found)
    rw [steps] at later
    rw [List.cons_append, steps, joinSteps]
    apply yields_bind (yields_join path declared refers found labelled)
    rintro count given ⟨rfl, labelledNext⟩
    simp only [Nat.zero_add]
    exact later labelledNext

/-- The column of a field is named by the label of its table and by itself. -/
theorem yields_column {root : Entity} {field : ResolvedField} (declared : root ∈ schema.entities)
    (lies : field.LiesAt schema root) (start : Nat) :
    Yields schema start (column schema field) fun count fragments => count = 0 ∧
      ∃ label column, Nameable schema label ∧ Nameable schema column ∧
        fragments = [.name label, .fixed ".", .name column] := by
  have named : ∃ last name, Leads schema root field.steps last ∧ field.target = ⟨last.name, name⟩ ∧
      Nameable schema (columnName field) := by
    cases lies with
    | plain leads typed plain =>
      exact ⟨_, _, leads, rfl, .of_fieldType? (leads.mem_entities declared) typed⟩
    | reference leads refers found identified typed =>
      exact ⟨_, _, leads, rfl, .of_reference (leads.mem_entities declared) refers⟩
  obtain ⟨last, name, leads, target, columned⟩ := named
  rw [column, target]
  apply yields_bind (yields_joinSteps leads declared name .root)
  rintro count label ⟨rfl, labelled⟩
  exact yields_pure ⟨rfl, label, _, labelled, columned, rfl⟩

end FilterQuery.Sql
