import FilterQuery.Database.Query
import FilterQuery.Proofs.Filter.Compilation
import FilterQuery.Proofs.Plan.Rows
/-! Queries answer for the schema and the stored records alone. What a database
remembers of earlier queries is sound, so a query over it gives what the schema and
the tables say, and leaves them as they are. -/
namespace FilterQuery

section Resolving

variable {ν : Type} {Sound : ν → Prop} {schema : Schema} {resolve : Resolver ν}

mutual

/-- Under a resolver that answers as the schema does, filters have the conditions that they have
under the schema. -/
theorem Filter.condition_answers
    (resolves : ∀ root path, Answers Sound (resolve root path) (schema.resolve root path))
    (root : String) : ∀ filter : Filter,
    Answers Sound (filter.condition resolve root) (filter.condition schema.resolver root).result
  | .leaf question => by
    rw [condition_leaf, condition_leaf]
    simp only [Resolution.result_bind, Resolution.result_except, Resolution.result_pure,
      Resolution.result_resolver]
    apply answers_bind (resolves root question.field)
    intro field
    exact answers_bind (answers_except _) fun test => answers_pure _
  | .group connective members => by
    rw [condition_group, condition_group, Resolution.result_bind]
    exact answers_bind (Filter.conditions_answers resolves root members) fun parts => answers_pure _

theorem Filter.conditions_answers
    (resolves : ∀ root path, Answers Sound (resolve root path) (schema.resolve root path))
    (root : String) : ∀ members : List Filter,
    Answers Sound (Filter.conditions resolve root members)
      (Filter.conditions schema.resolver root members).result
  | [] => answers_pure []
  | member :: rest => by
    rw [conditions_cons, conditions_cons, Resolution.result_bind]
    apply answers_bind (Filter.condition_answers resolves root member)
    intro part
    rw [Resolution.result_bind]
    exact answers_bind (Filter.conditions_answers resolves root rest) fun parts => answers_pure _

end

/-- The same holds of the condition of a tree on records. -/
theorem FilterTree.compileForRecords_answers
    (resolves : ∀ root path, Answers Sound (resolve root path) (schema.resolve root path))
    (root : String) (tree : FilterTree) :
    Answers Sound (tree.compileForRecords resolve root)
      (tree.compileForRecords schema.resolver root).result := by
  have answers : Answers Sound (tree.condition resolve root)
      (tree.condition schema.resolver root).result := by
    rw [condition_eq, condition_eq, Resolution.result_bind]
    exact answers_bind (Filter.conditions_answers resolves root tree.nodes) fun parts =>
      answers_pure _
  intro notes sound
  obtain ⟨after, kept, ran⟩ := answers notes sound
  refine ⟨after, kept, ?_⟩
  have started : (tree.condition resolve root).start notes =
    ((tree.condition schema.resolver root).result, after) := ran
  have compiled := tree.start_compileForRecords resolve root notes
  rw [started] at compiled
  rw [result_compileForRecords]
  exact compiled

end Resolving

namespace Database

/-- The database is over this schema, stores these records, and what it remembers is sound. -/
structure Serves (schema : Schema) (tables : Tables) (database : Database) : Prop where
  schema_eq : database.schema = schema
  tables_eq : database.tables = tables
  sound : database.cache.Sound schema

section Answers

variable {schema : Schema} {tables : Tables} {α : Type}

theorem answers_get {next : Database → Query α} {answer : Except Failure α}
    (each : ∀ database, Serves schema tables database →
      Answers (Serves schema tables) (next database) answer) :
    Answers (Serves schema tables) (do next (← get)) answer :=
  fun database serves => each database serves database serves

/-- A resolution over the cache answers as it would over the schema. -/
theorem resolving_answers {resolution : Resolution FieldCache α}
    {answer : Except ExpressionError α}
    (answers : Answers (FieldCache.Sound schema) resolution answer) :
    Answers (Serves schema tables) (resolving resolution) (Failure.ofExcept answer) := by
  intro database serves
  obtain ⟨cache, kept, ran⟩ := answers database.cache serves.sound
  refine ⟨{ database with cache }, ⟨serves.schema_eq, serves.tables_eq, kept⟩, ?_⟩
  have resolved : (resolving resolution).run.run database =
    (Failure.ofExcept (resolution.run.run database.cache).1,
      { database with cache := (resolution.run.run database.cache).2 }) := rfl
  rw [resolved, ran]

theorem resolve_answers (root path : String) :
    Answers (Serves schema tables) (resolve root path)
      (Failure.ofExcept (schema.resolve root path)) := by
  apply answers_get
  intro database serves
  rw [serves.schema_eq]
  exact resolving_answers (schema.cachedResolver_answers root path)

end Answers

section Pure

variable (schema : Schema) (tables : Tables) (entity : String)

/-- What a plan for the records of an entity is made of, over a schema and tables. -/
def planOver (tree : FilterTree) : Except Failure (RecordCondition × List Record) := do
  let condition ← Failure.ofExcept (tree.compileForRecords schema.resolver entity).result
  discard (Failure.ofExcept (schema.entity entity))
  return (condition, tables.rows entity)

/-- The records of an entity that meet a filter, over a schema and tables. -/
def foundOver (tree : FilterTree) : Except Failure (List Record) := do
  let (condition, rows) ← planOver schema tables entity tree
  return rows.filter condition.holds

/-- The criteria that sort keys stand for, over a schema. -/
def criteriaOver : List SortKey → Except Failure (List SortCriterion)
  | [] => return []
  | key :: rest => do
    let field ← Failure.ofExcept (schema.resolve entity key.property)
    let criteria ← criteriaOver rest
    return .of field.names key.direction :: criteria

/-- One page of the records of an entity that meet a filter, over a schema and tables. -/
def pageOver (tree : FilterTree) (request : PageRequest) : Except Failure (Page Record) := do
  request.validate
  let criteria ← criteriaOver schema entity request.sort.keys
  let found ← foundOver schema tables entity tree
  let content ← (pagePlan criteria request found).rows
  return .of content request found.length

end Pure

section Answers

variable {schema : Schema} {tables : Tables}

theorem planFor_answers (entity : String) (tree : FilterTree) :
    Answers (Serves schema tables) (planFor entity tree) (planOver schema tables entity tree) := by
  apply answers_get
  intro database serves
  have compiled : Answers (FieldCache.Sound schema)
      (tree.compileForRecords schema.cachedResolver entity)
      (tree.compileForRecords schema.resolver entity).result :=
    tree.compileForRecords_answers schema.cachedResolver_answers entity
  rw [serves.schema_eq, serves.tables_eq]
  apply answers_bind (resolving_answers compiled)
  intro condition
  exact answers_bind (answers_discard (answers_except _)) fun _ => answers_pure _

theorem findAll_answers (entity : String) (tree : FilterTree) :
    Answers (Serves schema tables) (findAll entity tree) (foundOver schema tables entity tree) := by
  apply answers_bind (planFor_answers entity tree)
  rintro ⟨condition, rows⟩
  have scanned : (Plan.filter condition (.scan rows)).rows = .ok (rows.filter condition.holds) :=
    Plan.rows_eq_result trivial
  show Answers (Serves schema tables) (liftM (Plan.filter condition (.scan rows)).rows) _
  rw [scanned]
  exact answers_except (.ok _)

/-- The count is the number of the records that are found. -/
theorem count_answers (entity : String) (tree : FilterTree) :
    Answers (Serves schema tables) (count entity tree)
      ((foundOver schema tables entity tree).map List.length) := by
  have counted : (foundOver schema tables entity tree).map List.length =
      planOver schema tables entity tree >>= fun made =>
        .ok (made.2.filter made.1.holds).length := by
    rw [foundOver]
    cases planOver schema tables entity tree <;> rfl
  rw [counted]
  apply answers_bind (planFor_answers entity tree)
  rintro ⟨condition, rows⟩
  have ready : (Plan.filter condition (.scan rows)).Orderable := trivial
  obtain ⟨progress, collected, -, matched, -⟩ := Plan.collect_cursor ready
  have total : FilterProgress.matched progress = (rows.filter condition.holds).length := by
    simpa [Plan.result] using matched
  dsimp only
  rw [collected, ← total]
  exact answers_pure _

theorem sortCriteria_answers (entity : String) : ∀ keys : List SortKey,
    Answers (Serves schema tables) (sortCriteria entity keys) (criteriaOver schema entity keys)
  | [] => answers_pure []
  | key :: rest => by
    apply answers_bind (resolve_answers entity key.property)
    intro field
    exact answers_bind (sortCriteria_answers entity rest) fun criteria => answers_pure _

theorem findPage_answers (entity : String) (tree : FilterTree) (request : PageRequest) :
    Answers (Serves schema tables) (findPage entity tree request)
      (pageOver schema tables entity tree request) := by
  apply answers_bind (answers_except request.validate)
  intro _
  apply answers_bind (sortCriteria_answers entity request.sort.keys)
  intro criteria
  apply answers_bind (findAll_answers entity tree)
  intro found
  exact answers_bind (answers_except _) fun content => answers_pure _

end Answers

end Database

end FilterQuery
