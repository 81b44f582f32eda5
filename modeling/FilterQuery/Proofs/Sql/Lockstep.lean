import FilterQuery.Proofs.Filter.Alike
import FilterQuery.Proofs.Sql.Agreement
/-! The text of a query does not depend on the values of its operands. Two runs of the builder, for
filters that differ in their operands only, go in lockstep: they have the same joins and equally
many parameters at every point, and so they choose the same labels and the same placeholders and
write the same text. -/
namespace FilterQuery.Sql

/-- The same joins, and equally many parameters. -/
structure Bindings.Parallel (first second : Bindings) : Prop where
  joins : first.joins = second.joins
  count : first.params.length = second.params.length

/-- Begun with parallel bindings, both actions have the same result and end with parallel ones. -/
def Lockstep {α : Type} (first second : StateM Bindings α) : Prop :=
  ∀ bindings others, bindings.Parallel others →
    (first.run bindings).1 = (second.run others).1 ∧
    (first.run bindings).2.Parallel (second.run others).2

section Rules

variable {α β : Type} {first second : StateM Bindings α}

theorem lockstep_pure (value : α) : Lockstep (pure value) (pure value) :=
  fun _ _ parallel => ⟨rfl, parallel⟩

theorem lockstep_bind {next nextOther : α → StateM Bindings β} (begins : Lockstep first second)
    (onwards : ∀ value, Lockstep (next value) (nextOther value)) :
    Lockstep (first >>= next) (second >>= nextOther) := by
  intro bindings others parallel
  obtain ⟨same, middle⟩ := begins bindings others parallel
  rcases ran : first.run bindings with ⟨value, after⟩
  rcases ranOther : second.run others with ⟨valueOther, afterOther⟩
  rw [ran, ranOther] at same middle
  cases same
  rw [run_bind_of_run ran, run_bind_of_run ranOther]
  exact onwards value after afterOther middle

end Rules

/-- Which label a path gets depends on the joins alone. -/
theorem lockstep_join (schema : Schema) (path : List String) (parent entity : String) :
    Lockstep (join schema path parent entity) (join schema path parent entity) := by
  intro bindings others parallel
  have sameSearch : others.join? path = bindings.join? path := by
    rw [Bindings.join?, Bindings.join?, parallel.joins]
  cases found : bindings.join? path with
  | some known =>
    rw [run_join_of_found schema found, run_join_of_found schema (sameSearch.trans found)]
    exact ⟨rfl, parallel⟩
  | none =>
    rw [run_join_of_fresh schema found, run_join_of_fresh schema (sameSearch.trans found),
      parallel.joins]
    exact ⟨rfl, rfl, parallel.count⟩

theorem lockstep_joinSteps (schema : Schema) : ∀ (path : List String) (label : String)
    (steps : List Step), Lockstep (joinSteps schema path label steps)
      (joinSteps schema path label steps)
  | _, label, [] => lockstep_pure label
  | _, label, [_] => lockstep_pure label
  | path, label, step :: next :: rest => by
    rw [joinSteps]
    apply lockstep_bind (lockstep_join schema (path ++ [step.field]) label next.entity)
    intro nextLabel
    exact lockstep_joinSteps schema (path ++ [step.field]) nextLabel (next :: rest)

theorem lockstep_column (schema : Schema) (field : ResolvedField) :
    Lockstep (column schema field) (column schema field) := by
  apply lockstep_bind (lockstep_joinSteps schema [] rootLabel (field.steps ++ [field.target]))
  intro label
  exact lockstep_pure _

/-- The placeholder of a value depends on the number of parameters alone. -/
theorem lockstep_bind_value (value other : Value) : Lockstep (bind value) (bind other) := by
  intro bindings others parallel
  refine ⟨congrArg Fragment.placeholder parallel.count, parallel.joins, ?_⟩
  show (bindings.params ++ [value]).length = (others.params ++ [other]).length
  rw [List.length_append, List.length_append, parallel.count]
  rfl

theorem lockstep_bindAll : ∀ operands others : List Value, operands.length = others.length →
    Lockstep (bindAll operands) (bindAll others)
  | [], [], _ => lockstep_pure []
  | operand :: rest, other :: others, count => by
    rw [bindAll, bindAll]
    apply lockstep_bind (lockstep_bind_value operand other)
    intro placeholder
    apply lockstep_bind (lockstep_bindAll rest others (Nat.succ.inj count))
    intro placeholders
    exact lockstep_pure _

/-- Tests that differ in their operands only have the same text. -/
theorem lockstep_testText (schema : Schema) (field : ResolvedField) {question other : Test}
    (alike : question.Alike other) :
    Lockstep (testText schema field question) (testText schema field other) := by
  apply lockstep_bind (lockstep_column schema field)
  intro column
  cases alike with
  | isNull => exact lockstep_pure _
  | isNotNull => exact lockstep_pure _
  | compare comparison operand other =>
    apply lockstep_bind (lockstep_bind_value operand other)
    intro placeholder
    exact lockstep_pure _
  | @oneOf operands others count =>
    apply lockstep_bind (lockstep_bindAll operands others count)
    intro placeholders
    exact lockstep_pure _
  | like pattern other ignoreCase =>
    apply lockstep_bind (lockstep_bind_value (.str pattern) (.str other))
    intro placeholder
    cases ignoreCase with
    | false => exact lockstep_pure _
    | true => exact lockstep_pure _

mutual

/-- Conditions that differ in their operands only have the same text. -/
theorem lockstep_assemble (schema : Schema) {condition other : Condition ResolvedField} :
    condition.Alike other → Lockstep (condition.assemble (textBuilder schema))
      (other.assemble (textBuilder schema))
  | .always => lockstep_pure _
  | .test field alike => lockstep_testText schema field alike
  | .all alike => lockstep_bind (lockstep_assembleAll schema alike) fun _ => lockstep_pure _
  | .any alike => lockstep_bind (lockstep_assembleAll schema alike) fun _ => lockstep_pure _

theorem lockstep_assembleAll (schema : Schema) {members others : List (Condition ResolvedField)} :
    Condition.AllAlike members others →
      Lockstep (Condition.assembleAll (textBuilder schema) members)
        (Condition.assembleAll (textBuilder schema) others)
  | .nil => lockstep_pure []
  | .cons alike onwards => by
    rw [Condition.assembleAll, Condition.assembleAll]
    apply lockstep_bind (lockstep_assemble schema alike)
    intro part
    apply lockstep_bind (lockstep_assembleAll schema onwards)
    intro parts
    exact lockstep_pure _

end

variable {schema : Schema} {root : String}

/-- Trees that differ in their operands only have the same text and leave parallel bindings. -/
theorem predicate_parallel {first second : FilterTree} (alike : first.Alike second)
    {fragments fragmentsOther : List Fragment} {bindings others : Bindings}
    (written : predicate schema root first = .ok (fragments, bindings))
    (writtenOther : predicate schema root second = .ok (fragmentsOther, others)) :
    fragments = fragmentsOther ∧ bindings.Parallel others := by
  rw [predicate_eq] at written writtenOther
  obtain ⟨condition, compiled, ran⟩ := map_eq_ok.1 written
  obtain ⟨other, compiledOther, ranOther⟩ := map_eq_ok.1 writtenOther
  have started : Bindings.Parallel .empty .empty := ⟨rfl, rfl⟩
  have parallel := lockstep_assemble schema (alike.condition compiled compiledOther) _ _ started
  rw [ran, ranOther] at parallel
  exact parallel

/-- The columns to sort by are the same over parallel bindings. -/
theorem orderColumns_parallel {keys : List SortKey} {bindings others : Bindings}
    (parallel : bindings.Parallel others)
    {columns columnsOther : List (List Fragment) × Bindings}
    (ordered : (orderColumns schema root keys).run bindings = .ok columns)
    (orderedOther : (orderColumns schema root keys).run others = .ok columnsOther) :
    columns.1 = columnsOther.1 ∧ columns.2.Parallel columnsOther.2 := by
  induction keys generalizing bindings others columns columnsOther with
  | nil =>
    cases ordered
    cases orderedOther
    exact ⟨rfl, parallel⟩
  | cons key rest ih =>
    rw [run_orderColumns_cons] at ordered orderedOther
    obtain ⟨field, resolved, ordered⟩ := bind_eq_ok.1 ordered
    obtain ⟨fieldOther, resolvedOther, orderedOther⟩ := bind_eq_ok.1 orderedOther
    rw [resolved] at resolvedOther
    cases resolvedOther
    obtain ⟨later, orderedLater, returned⟩ := bind_eq_ok.1 ordered
    obtain ⟨laterOther, orderedLaterOther, returnedOther⟩ := bind_eq_ok.1 orderedOther
    cases returned
    cases returnedOther
    obtain ⟨same, middle⟩ := lockstep_column schema field bindings others parallel
    obtain ⟨sameLater, after⟩ := ih middle orderedLater orderedLaterOther
    exact ⟨by rw [same, sameLater], after⟩

theorem pageColumns_parallel {page? : Option PageRequest} {bindings others : Bindings}
    (parallel : bindings.Parallel others)
    {columns columnsOther : List (List Fragment) × Bindings}
    (ordered : (pageColumns schema root page?).run bindings = .ok columns)
    (orderedOther : (pageColumns schema root page?).run others = .ok columnsOther) :
    columns.1 = columnsOther.1 ∧ columns.2.Parallel columnsOther.2 := by
  cases page? with
  | none =>
    cases ordered
    cases orderedOther
    exact ⟨rfl, parallel⟩
  | some request =>
    rw [run_pageColumns_some] at ordered orderedOther
    obtain ⟨-, -, ordered⟩ := bind_eq_ok.1 ordered
    obtain ⟨-, -, orderedOther⟩ := bind_eq_ok.1 orderedOther
    exact orderColumns_parallel parallel ordered orderedOther

/-- Whatever the values of its operands, a query has the same text, in each dialect, and as many
parameters. -/
theorem Select.text_independent_of_operands {first second : FilterTree}
    (alike : first.Alike second) {page? : Option PageRequest} {select selectOther : Select}
    (rendered : Select.of schema root first page? = .ok select)
    (renderedOther : Select.of schema root second page? = .ok selectOther) :
    (∀ dialect, select.text dialect = selectOther.text dialect) ∧
      select.params.length = selectOther.params.length := by
  obtain ⟨entity, declared, rendered⟩ := bind_eq_ok.1 rendered
  obtain ⟨entityOther, declaredOther, renderedOther⟩ := bind_eq_ok.1 renderedOther
  rw [declared] at declaredOther
  cases declaredOther
  obtain ⟨⟨fragments, bindings⟩, written, rendered⟩ := bind_eq_ok.1 rendered
  obtain ⟨⟨fragmentsOther, others⟩, writtenOther, renderedOther⟩ := bind_eq_ok.1 renderedOther
  obtain ⟨rfl, parallel⟩ := predicate_parallel alike (Failure.ofExcept_eq_ok.1 written)
    (Failure.ofExcept_eq_ok.1 writtenOther)
  obtain ⟨⟨columns, after⟩, ordered, rendered⟩ := bind_eq_ok.1 rendered
  obtain ⟨⟨columnsOther, afterOther⟩, orderedOther, renderedOther⟩ := bind_eq_ok.1 renderedOther
  cases rendered
  cases renderedOther
  obtain ⟨sameColumns, final⟩ := pageColumns_parallel parallel ordered orderedOther
  dsimp only at sameColumns final
  refine ⟨?_, final.count⟩
  intro dialect
  rw [Select.text, Select.text, sameColumns, final.joins]

/-- Operands that a text could be broken out of, beside harmless ones. -/
theorem Select.text_same_for_hostile_operands :
    let schema : Schema :=
      ⟨[⟨"Worker", none, some "id", [⟨"id", .integer⟩, ⟨"team", .entity "Team"⟩]⟩,
        ⟨"Team", none, some "id", [⟨"id", .integer⟩, ⟨"name", .string⟩]⟩]⟩
    let tree (needle : String) (ids : List Operand) : FilterTree :=
      ⟨[.leaf ⟨"team.name", .contains, [.str needle]⟩,
        .group .or [.leaf ⟨"id", .oneOf, ids⟩, .leaf ⟨"team", .eq, [.null]⟩]]⟩
    let harmless := tree "a" [.int 1, .int 2]
    let hostile := tree "' OR 1 = 1 --" [.str "3", .int 4]
    let page : PageRequest := ⟨1, 3, ⟨[⟨"team.name", .desc⟩]⟩⟩
    let text := "SELECT \"t\".* FROM \"worker\" AS \"t\" " ++
      "LEFT JOIN \"team\" AS \"t_1\" ON \"t_1\".\"id\" = \"t\".\"team_id\" " ++
      "WHERE (\"t_1\".\"name\" LIKE $1 AND " ++
      "(\"t\".\"id\" IN ($2, $3) OR \"t\".\"team_id\" IS NULL)) " ++
      "ORDER BY \"t_1\".\"name\" DESC LIMIT 3 OFFSET 3"
    harmless.Alike hostile ∧
    ∃ select selectOther, Select.of schema "Worker" harmless (some page) = .ok select ∧
      Select.of schema "Worker" hostile (some page) = .ok selectOther ∧
      select.params.map Value.text = ["'%a%'", "1", "2"] ∧
      selectOther.params.map Value.text = ["'%' OR 1 = 1 --%'", "3", "4"] ∧
      selectOther.text .postgres = text := by
  intro schema tree harmless hostile page text
  have alike : harmless.Alike hostile := by
    refine .cons (.leaf ⟨rfl, rfl, rfl, by simp⟩) (.cons (.group .or ?_) .nil)
    exact .cons (.leaf ⟨rfl, rfl, rfl, by simp⟩) (.cons (.leaf ⟨rfl, rfl, rfl, fun _ => rfl⟩) .nil)
  have written : (Select.of schema "Worker" harmless (some page)).toOption.map
      (fun select => (select.text .postgres, select.params.map Value.text)) =
        some (text, ["'%a%'", "1", "2"]) := by decide +kernel
  have writtenOther : (Select.of schema "Worker" hostile (some page)).toOption.map
      (fun select => select.params.map Value.text) =
        some ["'%' OR 1 = 1 --%'", "3", "4"] := by decide +kernel
  cases rendered : Select.of schema "Worker" harmless (some page) with
  | error cause =>
    rw [rendered] at written
    cases written
  | ok select =>
    cases renderedOther : Select.of schema "Worker" hostile (some page) with
    | error cause =>
      rw [renderedOther] at writtenOther
      cases writtenOther
    | ok selectOther =>
      rw [rendered] at written
      rw [renderedOther] at writtenOther
      obtain ⟨sameText, params⟩ := Prod.mk.inj (Option.some.inj written)
      obtain ⟨same, -⟩ := text_independent_of_operands alike rendered renderedOther
      exact ⟨alike, select, selectOther, rfl, rfl, params, Option.some.inj writtenOther,
        (same .postgres).symm.trans sameText⟩

end FilterQuery.Sql
