import FilterQuery.Proofs.Database.Queries
/-! The databases that can be reached. A database is opened over a valid schema and
then changed by calls: a record is stored, or a query is asked, which may add to
what the database remembers. No call changes the schema, and what is remembered
stays sound. -/
namespace FilterQuery.Database

/-- The queries that a database offers. -/
inductive Offered : {α : Type} → Query α → Prop where
  | resolve (root path : String) : Offered (resolve root path)
  | findAll (entity : String) (tree : FilterTree) : Offered (findAll entity tree)
  | count (entity : String) (tree : FilterTree) : Offered (count entity tree)
  | findPage (entity : String) (tree : FilterTree) (request : PageRequest) :
    Offered (findPage entity tree request)

/-- One call on a database that leads to another one. Failed calls count if they may leave
something behind. -/
inductive Step : Database → Database → Prop where
  | stored {database next : Database} {entity : String} {row : Json} {count : Nat}
      (inserted : database.insert entity row = .ok (count, next)) : Step database next
  | asked {α : Type} {query : Query α} (offered : Offered query) (database : Database) :
      Step database (query.run.run database).2

/-- The database can be reached by calls from an empty one over a valid schema. -/
inductive Reachable : Database → Prop where
  | opened {schema : Schema} {database : Database}
      (opening : openEmpty schema = .ok database) : Reachable database
  | next {database after : Database} (reachable : Reachable database)
      (step : Step database after) : Reachable after

theorem Offered.answers {α : Type} {query : Query α} (offered : Offered query) (schema : Schema)
    (tables : Tables) : ∃ answer, Answers (Serves schema tables) query answer := by
  cases offered with
  | resolve root path => exact ⟨_, resolve_answers root path⟩
  | findAll entity tree => exact ⟨_, findAll_answers entity tree⟩
  | count entity tree => exact ⟨_, count_answers entity tree⟩
  | findPage entity tree request => exact ⟨_, findPage_answers entity tree request⟩

/-- A call keeps the schema, and what is remembered of it stays sound. -/
theorem Step.keeps {database after : Database} (step : Step database after)
    (sound : database.cache.Sound database.schema) :
    after.schema = database.schema ∧ after.cache.Sound after.schema := by
  cases step with
  | stored inserted =>
    obtain ⟨declared, -, inserted⟩ := bind_eq_ok.1 inserted
    obtain ⟨record, -, inserted⟩ := bind_eq_ok.1 inserted
    cases inserted
    exact ⟨rfl, sound⟩
  | asked offered =>
    obtain ⟨answer, answers⟩ := offered.answers database.schema database.tables
    obtain ⟨left, serves, ran⟩ := answers database ⟨rfl, rfl, sound⟩
    rw [ran]
    refine ⟨serves.schema_eq, ?_⟩
    rw [serves.schema_eq]
    exact serves.sound

/-- What a reachable database remembers is sound, and its schema is valid. -/
theorem Reachable.keeps {database : Database} (reachable : database.Reachable) :
    database.schema.validate = .ok () ∧ database.cache.Sound database.schema := by
  induction reachable with
  | opened opening =>
    rename_i schema database
    cases valid : schema.validate with
    | error cause => simp [openEmpty, valid] at opening
    | ok checked =>
      simp only [openEmpty, valid] at opening
      cases opening
      exact ⟨valid, FieldCache.sound_empty schema⟩
  | next reachable step ih =>
    obtain ⟨same, sound⟩ := step.keeps ih.2
    rw [same] at sound ⊢
    exact ⟨ih.1, sound⟩

theorem Reachable.serves {database : Database} (reachable : database.Reachable) :
    Serves database.schema database.tables database :=
  ⟨rfl, rfl, reachable.keeps.2⟩

end FilterQuery.Database
