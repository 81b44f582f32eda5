import FilterQuery.Proofs.Database.Conformance
/-! Insertions in any number and order, some of which fail. A call that fails leaves
the database as it was, however much of its record had been read. One that succeeds
appends one record to the rows of its entity, answers with their number, and touches
nothing else. So the calls that fail might as well not have been made: without them
the others give the same results and lead to the same database. -/
namespace FilterQuery.Database

/-- The record that an object is for an entity of the database. -/
def readRecord (database : Database) (entity : String) (row : Json) :
    Except ExpressionError Record := do
  let declared ← database.schema.entity entity
  Record.ofJson database.schema database.tables declared row

/-- Stores a record of an entity in the place of the database. Gives the number of its records. -/
def store (entity : String) (row : Json) : ExceptT ExpressionError (StateM Database) Nat := do
  let database ← get
  let record ← database.readRecord entity row
  let rows := database.tables.rows entity ++ [record]
  set { database with tables := Entries.set database.tables entity rows }
  return rows.length

/-- Stores records one after the other, whether or not those before could be stored. -/
def storeAll : List (String × Json) → StateM Database (List (Except ExpressionError Nat))
  | [] => return []
  | (entity, row) :: rest => do
    let result ← (store entity row).run
    let results ← storeAll rest
    return result :: results

/-- The calls that have succeeded. -/
def succeeded (calls : List (String × Json)) (results : List (Except ExpressionError Nat)) :
    List (String × Json) :=
  ((calls.zip results).filter fun answered => answered.2.isOk).map Prod.fst

/-- The numbers that successful calls for an entity have given. -/
def counts (entity : String) (calls : List (String × Json))
    (results : List (Except ExpressionError Nat)) : List Nat :=
  (calls.zip results).filterMap fun answered =>
    if answered.1.1 = entity then answered.2.toOption else none

/-- The second database is the first with one more record, at the end of the rows of this entity. -/
structure Appends (database after : Database) (entity : String) (record : Record) : Prop where
  schema_eq : after.schema = database.schema
  cache_eq : after.cache = database.cache
  rows_eq : after.tables.rows entity = database.tables.rows entity ++ [record]
  others_eq : ∀ other, other ≠ entity →
    Entries.get? after.tables other = Entries.get? database.tables other

/-- What one call does: if the object is a record, it appends it and gives the new number of rows,
and if not, it fails for that reason and leaves the database as it was. -/
def Stores (database : Database) (entity : String) (row : Json) :
    Except ExpressionError Nat × Database → Prop
  | (.ok count, after) => ∃ record, database.readRecord entity row = .ok record ∧
    Appends database after entity record ∧ count = (after.tables.rows entity).length
  | (.error cause, after) => database.readRecord entity row = .error cause ∧ after = database

variable {database after last : Database} {entity : String} {row : Json} {record : Record}

theorem Appends.rows (appends : Appends database after entity record) (name : String) :
    after.tables.rows name =
      if name = entity then database.tables.rows name ++ [record]
      else database.tables.rows name := by
  split
  · rename_i same
    rw [same, appends.rows_eq]
  · rename_i apart
    rw [Tables.rows, appends.others_eq name apart, Tables.rows]

theorem appends_set (database : Database) (entity : String) (record : Record) :
    Appends database
      { database with
        tables := Entries.set database.tables entity (database.tables.rows entity ++ [record]) }
      entity record where
  schema_eq := rfl
  cache_eq := rfl
  rows_eq := by rw [Tables.rows_set, if_pos rfl]
  others_eq other apart := by rw [Entries.get?_set, if_neg apart.symm]

/-- A call reads the record before it changes anything. -/
theorem run_store_eq (database : Database) (entity : String) (row : Json) :
    (store entity row).run.run database =
      match database.readRecord entity row with
      | .ok record =>
        let rows := database.tables.rows entity ++ [record]
        (.ok rows.length, { database with tables := Entries.set database.tables entity rows })
      | .error cause => (.error cause, database) := by
  have ran : (store entity row).run.run database = (do
      let record ← liftM (database.readRecord entity row)
      let rows := database.tables.rows entity ++ [record]
      set { database with tables := Entries.set database.tables entity rows }
      return rows.length : ExceptT ExpressionError (StateM Database) Nat).run.run database := rfl
  rw [ran]
  cases database.readRecord entity row <;> rfl

/-- What is left in the place of the database is the database after the insertion, or the database
itself. -/
theorem run_store (database : Database) (entity : String) (row : Json) :
    (store entity row).run.run database =
      match database.insert entity row with
      | .ok (count, after) => (.ok count, after)
      | .error cause => (.error cause, database) := by
  rw [run_store_eq, readRecord, insert]
  cases database.schema.entity entity with
  | error cause => rfl
  | ok declared =>
    simp only [ok_bind]
    cases Record.ofJson database.schema database.tables declared row <;> rfl

theorem stores (database : Database) (entity : String) (row : Json) :
    Stores database entity row ((store entity row).run.run database) := by
  rw [run_store_eq]
  cases read : database.readRecord entity row with
  | error cause => exact ⟨read, rfl⟩
  | ok record =>
    have appends := appends_set database entity record
    refine ⟨record, read, appends, ?_⟩
    rw [appends.rows_eq]

section Runs

variable {calls rest : List (String × Json)} {results : List (Except ExpressionError Nat)}

/-- A run makes its first call and goes on from what that leaves. -/
theorem run_storeAll_cons_iff :
    (storeAll ((entity, row) :: rest)).run database = (results, last) ↔
      ∃ result after others, (store entity row).run.run database = (result, after) ∧
        (storeAll rest).run after = (others, last) ∧ results = result :: others := by
  constructor
  · intro ran
    cases ran
    exact ⟨_, _, _, rfl, rfl, rfl⟩
  · rintro ⟨result, after, others, first, second, rfl⟩
    have split : (storeAll ((entity, row) :: rest)).run database =
        let reached := (store entity row).run.run database
        (reached.1 :: ((storeAll rest).run reached.2).1, ((storeAll rest).run reached.2).2) := rfl
    rw [split, first]
    show (result :: ((storeAll rest).run after).1, ((storeAll rest).run after).2) = _
    rw [second]

theorem length_of_storeAll (ran : (storeAll calls).run database = (results, last)) :
    results.length = calls.length := by
  induction calls generalizing database results with
  | nil =>
    cases ran
    rfl
  | cons call rest ih =>
    obtain ⟨result, after, others, -, ranRest, rfl⟩ := run_storeAll_cons_iff.1 ran
    simp [ih ranRest]

/-- Without the calls that fail, the others give the same results and lead to the same database. -/
theorem storeAll_succeeded (ran : (storeAll calls).run database = (results, last)) :
    (storeAll (succeeded calls results)).run database =
      (results.filter fun result => result.isOk, last) := by
  induction calls generalizing database results with
  | nil =>
    cases ran
    rfl
  | cons call rest ih =>
    obtain ⟨entity, row⟩ := call
    obtain ⟨result, after, others, first, ranRest, rfl⟩ := run_storeAll_cons_iff.1 ran
    have kept := ih ranRest
    have stored := stores database entity row
    rw [first] at stored
    cases result with
    | error cause =>
      -- The rest of the run begins where the failed call began.
      obtain ⟨-, rfl⟩ := stored
      exact kept
    | ok count => exact run_storeAll_cons_iff.2 ⟨_, _, _, first, kept, rfl⟩

/-- The rows of an entity grow at the end, by one record for each successful call for it, and these
calls give the numbers of its rows one after the other. -/
theorem rows_of_storeAll (ran : (storeAll calls).run database = (results, last)) (name : String) :
    ∃ added, last.tables.rows name = database.tables.rows name ++ added ∧
      counts name calls results =
        List.range' ((database.tables.rows name).length + 1) added.length := by
  induction calls generalizing database results with
  | nil =>
    cases ran
    exact ⟨[], by simp, rfl⟩
  | cons call rest ih =>
    obtain ⟨entity, row⟩ := call
    obtain ⟨result, after, others, first, ranRest, rfl⟩ := run_storeAll_cons_iff.1 ran
    obtain ⟨added, grown, numbered⟩ := ih ranRest
    have stored := stores database entity row
    rw [first] at stored
    cases result with
    | error cause =>
      obtain ⟨-, rfl⟩ := stored
      refine ⟨added, grown, ?_⟩
      rw [← numbered]
      simp [counts, Except.toOption]
    | ok count =>
      obtain ⟨record, -, appends, rfl⟩ := stored
      -- Only for the entity of the call do the numbers of the rest begin one later.
      have rows := appends.rows name
      by_cases same : name = entity
      · subst same
        rw [if_pos rfl] at rows
        rw [rows] at grown numbered
        refine ⟨record :: added, by rw [grown]; simp, ?_⟩
        have later : counts name ((name, row) :: rest)
            (.ok (after.tables.rows name).length :: others) =
              (after.tables.rows name).length :: counts name rest others := by
          simp [counts, Except.toOption]
        rw [later, numbered, rows]
        simp [List.range'_succ]
      · rw [if_neg same] at rows
        rw [rows] at grown numbered
        refine ⟨added, grown, ?_⟩
        rw [← numbered]
        simp [counts, Ne.symm same]

/-- From any database, without the calls of a run that fail the others give the same results and
lead to the same database. A call that fails leaves the database as it was. One that succeeds
appends one record to the rows of its entity, answers with their number and changes no other rows;
so over a run the rows of every entity keep those before, and their numbers are given one after the
other. -/
theorem storeAll_forgets_failed (database last : Database) (calls : List (String × Json))
    (results : List (Except ExpressionError Nat))
    (ran : (storeAll calls).run database = (results, last)) :
    (∀ before entity row, Stores before entity row ((store entity row).run.run before) ∧
      (store entity row).run.run before =
        match before.insert entity row with
        | .ok (count, after) => (.ok count, after)
        | .error cause => (.error cause, before)) ∧
    results.length = calls.length ∧
    (storeAll (succeeded calls results)).run database =
      (results.filter fun result => result.isOk, last) ∧
    ∀ name, ∃ added, last.tables.rows name = database.tables.rows name ++ added ∧
      counts name calls results =
        List.range' ((database.tables.rows name).length + 1) added.length :=
  ⟨fun before entity row => ⟨stores before entity row, run_store before entity row⟩,
    length_of_storeAll ran, storeAll_succeeded ran, rows_of_storeAll ran⟩

/-- A stored team, one whose identifier is no number, a worker with the stored team, one with a
nested team that has an unknown field, one with a nested team, and a record of no entity. -/
theorem storeAll_forgets_failed_nested :
    let team : Entity := ⟨"Team", none, some "id", [⟨"id", .integer⟩, ⟨"title", .string⟩]⟩
    let worker : Entity := ⟨"Worker", none, none, [⟨"name", .string⟩, ⟨"team", .entity "Team"⟩]⟩
    let database : Database := ⟨⟨[worker, team]⟩, .empty, []⟩
    let one : Json := .num (.int 1 (by decide))
    let teamCall : String × Json := ("Team", .obj [("id", one), ("title", .str "A")])
    let referring : String × Json := ("Worker", .obj [("team", one), ("name", .str "a")])
    let nested : String × Json := ("Worker", .obj [("team", .obj [("title", .str "B")])])
    let calls : List (String × Json) :=
      [teamCall, ("Team", .obj [("id", .bool true)]), referring,
        ("Worker", .obj [("name", .str "b"), ("team", .obj [("size", one)])]), nested,
        ("Lead", .obj [])]
    let results : List (Except ExpressionError Nat) :=
      [.ok 1, .error (.coercion (.bool true) .integer), .ok 1, .error (.unknownField "size"), .ok 2,
        .error (.unknownEntity "Lead")]
    let stored : Record := ⟨[("id", .int 1), ("title", .str "A")]⟩
    let hired : Record := ⟨[("name", .str "a"), ("team", .entity stored.fields)]⟩
    let other : Record :=
      ⟨[("name", .null), ("team", .entity [("id", .null), ("title", .str "B")])]⟩
    let last : Database :=
      ⟨database.schema, .empty, [("Team", [stored]), ("Worker", [hired, other])]⟩
    database.Reachable ∧ (storeAll calls).run database = (results, last) ∧
      (storeAll [teamCall, referring, nested]).run database = ([.ok 1, .ok 1, .ok 2], last) := by
  intro team worker database one teamCall referring nested calls results stored hired other last
  have opening : openEmpty ⟨[worker, team]⟩ = .ok database := rfl
  let first : Database := ⟨database.schema, .empty, [("Team", [stored])]⟩
  let second : Database := ⟨database.schema, .empty, [("Team", [stored]), ("Worker", [hired])]⟩
  have ran : (storeAll calls).run database = (results, last) := by
    refine run_storeAll_cons_iff.2 ⟨.ok 1, first, _, rfl, ?_, rfl⟩
    refine run_storeAll_cons_iff.2
      ⟨.error (.coercion (.bool true) .integer), first, _, rfl, ?_, rfl⟩
    refine run_storeAll_cons_iff.2 ⟨.ok 1, second, _, rfl, ?_, rfl⟩
    refine run_storeAll_cons_iff.2 ⟨.error (.unknownField "size"), second, _, rfl, ?_, rfl⟩
    refine run_storeAll_cons_iff.2 ⟨.ok 2, last, _, rfl, ?_, rfl⟩
    exact run_storeAll_cons_iff.2 ⟨.error (.unknownEntity "Lead"), last, [], rfl, rfl, rfl⟩
  obtain ⟨-, -, kept, -⟩ := storeAll_forgets_failed database last calls results ran
  have successful : succeeded calls results = [teamCall, referring, nested] := rfl
  have answers : (results.filter fun result => result.isOk) = [.ok 1, .ok 1, .ok 2] := rfl
  rw [successful, answers] at kept
  exact ⟨.opened opening, ran, kept⟩

end Runs

end FilterQuery.Database
