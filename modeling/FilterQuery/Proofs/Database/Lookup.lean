import FilterQuery.Proofs.Database.Conformance
/-! Where lookups lead in stored records. A path that resolves goes from one conforming
record to the next, as long as references are given and lead to whole records. It ends
with null or with a value of the type that it was resolved to: a record that is known by
its identifier alone answers null to everything else. -/
namespace FilterQuery

variable {schema : Schema}

/-- What stands in a field that is no reference is null or a value of its type. -/
theorem Value.Conforms.null_or_admitted {type : FieldType} {value : Value}
    (conforms : value.Conforms schema type) (plain : ∀ target, type ≠ .entity target) :
    value = .null ∨ type.Admits value := by
  cases conforms with
  | null type => exact .inl rfl
  | plain admitted => exact .inr admitted
  | entity declared stands => exact absurd rfl (plain _)

/-- A conforming record has a value for each declared field, which may stand in it. -/
theorem FieldsConform.exists_get? {fields : List Field} {entries : List (String × Value)}
    (conform : FieldsConform schema fields entries) {name : String} {field : Field}
    (declared : fields.find? (fun field => field.name == name) = some field) :
    ∃ value, Entries.get? entries name = some value ∧ value.Conforms schema field.type := by
  induction fields generalizing entries with
  | nil => cases declared
  | cons first rest ih =>
    cases conform with
    | @cons _ value _ others conforms conformRest =>
      rw [Entries.get?_cons]
      by_cases here : first.name = name
      · rw [List.find?_cons_of_pos (by simpa using here)] at declared
        cases declared
        exact ⟨value, if_pos here, conforms⟩
      · rw [List.find?_cons_of_neg (by simpa using here)] at declared
        obtain ⟨found, got, conforms⟩ := ih conformRest declared
        exact ⟨found, by rw [if_neg here, got], conforms⟩

/-- In a record that stands for an entity, the value of a declared field may stand in it. A field
that is missing counts as null. -/
theorem StandsFor.conforms_getD {entity : Entity} {entries : List (String × Value)}
    (stands : StandsFor schema entity entries) {name : String} {type : FieldType}
    (typed : entity.fieldType? name = some type) :
    ((Entries.get? entries name).getD .null).Conforms schema type := by
  cases stands with
  | whole conform =>
    obtain ⟨field, declared, rfl⟩ := Option.map_eq_some_iff.1 typed
    obtain ⟨value, got, conforms⟩ := conform.exists_get? declared
    rw [got]
    exact conforms
  | @identifierOnly _ identifier identifierType value identified identifierTyped admitted =>
    rw [Entries.get?_cons]
    by_cases same : identifier = name
    · subst same
      rw [typed] at identifierTyped
      cases identifierTyped
      rw [if_pos rfl]
      exact .plain admitted
    · rw [if_neg same]
      exact .null type

/-- A lookup with more than one name goes on in the record that the first name leads to. -/
theorem Record.lookup_cons {names : List String} (some : names ≠ []) (record : Record)
    (name : String) :
    record.lookup (name :: names) =
      match (record.get? name).getD .null with
      | .entity fields => lookup ⟨fields⟩ names
      | _ => .null := by
  cases names with
  | nil => exact absurd rfl some
  | cons next rest =>
    rw [lookup]
    cases record.get? name with
    | none => rfl
    | some value => cases value <;> rfl

/-- Looking up a path that begins with references ends in null, or goes on in a record that stands
for the entity to which they lead. -/
theorem Leads.lookup {entity last : Entity} {steps : List Step}
    (leads : Leads schema entity steps last) {record : Record}
    (stands : StandsFor schema entity record.fields) {names : List String} (some : names ≠ []) :
    record.lookup (steps.map Step.field ++ names) = .null ∨
      ∃ reached : Record, StandsFor schema last reached.fields ∧
        record.lookup (steps.map Step.field ++ names) = reached.lookup names := by
  induction leads generalizing record with
  | here entity => exact .inr ⟨record, stands, rfl⟩
  | through refers declared onwards ih =>
    rename_i entity next last name target steps
    have more : steps.map Step.field ++ names ≠ [] := by simp [some]
    rw [List.map_cons, List.cons_append, Record.lookup_cons more]
    have conforms := stands.conforms_getD refers
    rw [show Entries.get? record.fields name = record.get? name from rfl] at conforms
    cases given : (record.get? name).getD .null with
    | entity fields =>
      rw [given] at conforms
      cases conforms with
      | plain admitted => cases admitted
      | entity found standsNext =>
        rw [declared] at found
        cases found
        let referenced : Record := ⟨fields⟩
        have standsThere : StandsFor schema next referenced.fields := standsNext
        exact ih standsThere
    | _ => exact .inl rfl

theorem ResolvedField.names_of_plain (path : String) (steps : List Step) (target : Step)
    (type : FieldType) :
    names ⟨path, steps, target, none, type⟩ = steps.map Step.field ++ [target.field] := by
  simp [names, segments]

theorem ResolvedField.names_of_reference (path : String) (steps : List Step)
    (target identifier : Step) (type : FieldType) :
    names ⟨path, steps, target, some identifier, type⟩ =
      (steps ++ [target]).map Step.field ++ [identifier.field] := by
  simp [names, segments]

/-- At the end of a path stands null or a value of the type of the path. -/
theorem ResolvedField.LiesAt.null_or_admitted {entity : Entity} {field : ResolvedField}
    (lies : field.LiesAt schema entity) (sound : ∀ entity ∈ schema.entities, entity.Sound schema)
    {record : Record} (stands : StandsFor schema entity record.fields) :
    record.lookup field.names = .null ∨ field.type.Admits (record.lookup field.names) := by
  cases lies with
  | @plain path name steps last type leads typed plain =>
    rw [ResolvedField.names_of_plain]
    rcases leads.lookup stands (List.cons_ne_nil name [])
      with nothing | ⟨reached, standsLast, same⟩
    · exact .inl nothing
    · rw [same]
      exact (standsLast.conforms_getD typed).null_or_admitted plain
  | @reference path name target identifier steps last referenced type leads refers declared
      identified typed =>
    have plain : ∀ target, type ≠ .entity target := by
      obtain ⟨other, otherTyped, plain⟩ :=
        (sound referenced (Schema.mem_of_get? declared)).identifier identifier identified
      rw [typed] at otherTyped
      cases otherTyped
      exact plain
    rw [ResolvedField.names_of_reference]
    rcases (leads.further refers declared).lookup stands (List.cons_ne_nil identifier [])
      with nothing | ⟨reached, standsLast, same⟩
    · exact .inl nothing
    · rw [same]
      exact (standsLast.conforms_getD typed).null_or_admitted plain

namespace Database.Reachable

variable {database : Database}

/-- In a record stored for an entity, a path that resolves from this entity leads to null or to a
value of the type of the path. -/
theorem null_or_admitted (reachable : database.Reachable)
    (distinct : database.schema.DistinctFields) {root path : String} {field : ResolvedField}
    (resolved : database.schema.resolve root path = .ok field) {record : Record}
    (stored : record ∈ database.tables.rows root) :
    record.lookup field.names = .null ∨ field.type.Admits (record.lookup field.names) := by
  obtain ⟨entity, declared, conform⟩ := reachable.conform distinct root record stored
  obtain ⟨root, found, lies⟩ := Schema.liesAt_of_resolve resolved
  rw [declared] at found
  cases found
  have sound := Schema.sound_of_validate reachable.keeps.1
  exact lies.null_or_admitted sound (.whole conform)

end Database.Reachable

/-- The records that a reachable database stores for an entity conform to it. So each path that
resolves from the entity leads, in each of them, to null or to a value of the type of the path. -/
theorem Database.Reachable.records_conform_and_paths_are_typed {database : Database}
    (reachable : database.Reachable) (distinct : database.schema.DistinctFields) :
    (∀ name, ∀ record ∈ database.tables.rows name, ∃ entity,
      database.schema.get? name = some entity ∧
        FieldsConform database.schema entity.fields record.fields) ∧
    ∀ root path field, database.schema.resolve root path = .ok field →
      ∀ record ∈ database.tables.rows root,
        record.lookup field.names = .null ∨ field.type.Admits (record.lookup field.names) := by
  constructor
  · exact reachable.conform distinct
  · intro root path field resolved record stored
    exact reachable.null_or_admitted distinct resolved stored

/-- A worker with a team of its own, one with a stored team, and one whose team is not stored. -/
theorem Database.records_conform_across_references :
    let team : Entity := ⟨"Team", none, some "id", [⟨"id", .integer⟩, ⟨"title", .string⟩]⟩
    let worker : Entity := ⟨"Worker", none, some "id", [⟨"id", .integer⟩, ⟨"team", .entity "Team"⟩]⟩
    let first : Record := ⟨[("id", .int 1), ("title", .str "A")]⟩
    let nested : Record := ⟨[("id", .int 1), ("team", .entity [("id", .int 5), ("title", .null)])]⟩
    let copied : Record := ⟨[("id", .int 2), ("team", .entity first.fields)]⟩
    let unknown : Record := ⟨[("id", .int 3), ("team", .entity [("id", .int 9)])]⟩
    let database : Database :=
      ⟨⟨[worker, team]⟩, .empty, [("Team", [first]), ("Worker", [nested, copied, unknown])]⟩
    database.Reachable ∧ database.schema.DistinctFields ∧
      (∀ record ∈ [nested, copied, unknown],
        FieldsConform database.schema worker.fields record.fields) ∧
      ∃ field, database.schema.resolve "Worker" "team.title" = .ok field ∧
        field.type = .string ∧
        [nested, copied, unknown].map (fun record => record.lookup field.names) =
          [.null, .str "A", .null] ∧
        ∀ record ∈ [nested, copied, unknown],
          record.lookup field.names = .null ∨ FieldType.Admits .string (record.lookup field.names) := by
  intro team worker first nested copied unknown database
  let number (n : Int) (inRange) : Json := .num (.int n inRange)
  let holding (tables : Tables) : Database := ⟨⟨[worker, team]⟩, .empty, tables⟩
  have opening : Database.openEmpty ⟨[worker, team]⟩ = .ok (holding []) := rfl
  have storedTeam : (holding []).insert "Team"
      (.obj [("id", number 1 (by decide)), ("title", .str "A")]) =
        .ok (1, holding [("Team", [first])]) := rfl
  have storedNested : (holding [("Team", [first])]).insert "Worker"
      (.obj [("id", number 1 (by decide)), ("team", .obj [("id", number 5 (by decide))])]) =
        .ok (1, holding [("Team", [first]), ("Worker", [nested])]) := rfl
  have storedCopied : (holding [("Team", [first]), ("Worker", [nested])]).insert "Worker"
      (.obj [("id", number 2 (by decide)), ("team", number 1 (by decide))]) =
        .ok (2, holding [("Team", [first]), ("Worker", [nested, copied])]) := rfl
  have storedUnknown : (holding [("Team", [first]), ("Worker", [nested, copied])]).insert "Worker"
      (.obj [("id", number 3 (by decide)), ("team", number 9 (by decide))]) =
        .ok (3, database) := rfl
  have reachable : database.Reachable :=
    .next (.next (.next (.next (.opened opening) (.stored storedTeam)) (.stored storedNested))
      (.stored storedCopied)) (.stored storedUnknown)
  have distinct : database.schema.DistinctFields := by
    simp [Schema.DistinctFields, database, worker, team]
  obtain ⟨conform, typed⟩ := reachable.records_conform_and_paths_are_typed distinct
  refine ⟨reachable, distinct, ?_, ?_⟩
  · intro record stored
    obtain ⟨entity, declared, conforms⟩ := conform "Worker" record stored
    cases declared
    exact conforms
  · let field : ResolvedField :=
      ⟨"team.title", [⟨"Worker", "team"⟩], ⟨"Team", "title"⟩, none, .string⟩
    have resolved : database.schema.resolve "Worker" "team.title" = .ok field := rfl
    exact ⟨field, resolved, rfl, rfl, typed "Worker" "team.title" field resolved⟩

end FilterQuery
