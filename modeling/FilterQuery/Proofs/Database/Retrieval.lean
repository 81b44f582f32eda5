import FilterQuery.Proofs.Database.Operators
import FilterQuery.Proofs.Database.Requests
import FilterQuery.Proofs.Schema.Declarations
import FilterQuery.Proofs.Value.Order
/-! Stored records are found by what they were stored with. A scalar that is given for a field is
read by the type of the field when the record is stored, and by the type of the path when it is
asked for, and these are the same: that of the field, or for a reference that of the identifier
which the scalar stands for. -/
namespace FilterQuery

/-- Every field has a name, and no point stands in it. -/
def Schema.PlainNames (schema : Schema) : Prop :=
  ∀ entity ∈ schema.entities, ∀ field ∈ entity.fields, field.name ≠ "" ∧ '.' ∉ field.name.toList

section Reading

variable {schema : Schema} {tables : Tables}

/-- Fields that are not filled in stay as they are. -/
theorem Record.get?_of_filled {readers : Entries FieldReader} {fields : List Field}
    {record result : Record} {name : String} (filled : fill readers record fields = .ok result)
    (other : name ∉ fields.map Field.name) : result.get? name = record.get? name := by
  induction fields generalizing record with
  | nil =>
    cases filled
    rfl
  | cons field rest ih =>
    obtain ⟨value, -, filled⟩ := filled_cons filled
    have apart : ¬ field.name = name := Ne.symm (List.ne_of_not_mem_cons other)
    rw [ih filled (List.not_mem_of_not_mem_cons other), get?_set, if_neg apart]

/-- A field that is filled in has what its reader says. -/
theorem Record.exists_get?_of_filled {readers : Entries FieldReader} {fields : List Field}
    {record result : Record} (distinct : (fields.map Field.name).Nodup)
    (filled : fill readers record fields = .ok result) {field : Field} (inside : field ∈ fields)
    {reader : FieldReader} (given : readers.get? field.name = some reader) :
    ∃ value, reader field.type = .ok value ∧ result.get? field.name = some value := by
  induction fields generalizing record with
  | nil => cases inside
  | cons first rest ih =>
    obtain ⟨fresh, distinct⟩ := List.nodup_cons.1 distinct
    obtain ⟨value, said, filled⟩ := filled_cons filled
    rcases List.mem_cons.1 inside with rfl | later
    · rcases said with ⟨nothing, -⟩ | ⟨found, same, read⟩
      · rw [nothing] at given
        cases given
      · rw [given] at same
        cases same
        exact ⟨value, read, by rw [get?_of_filled filled fresh, get?_set, if_pos rfl]⟩
    · exact ih distinct filled later

theorem Value.get?_readers (schema : Schema) (tables : Tables) (members : List (String × Json))
    (key : String) :
    Entries.get? (readers schema tables members) key =
      (Entries.get? members key).map (ofJson schema tables) := by
  induction members with
  | nil => rfl
  | cons member rest ih =>
    obtain ⟨name, json⟩ := member
    rw [readers, Entries.get?_cons, Entries.get?_cons, ih]
    split <;> rfl

/-- What is given for a field of an object is read by the type of the field, which is declared. -/
theorem Record.exists_get?_of_ofJson {entity : Entity} {members : List (String × Json)}
    {record : Record} (distinct : (entity.fields.map Field.name).Nodup)
    (read : ofJson schema tables entity (.obj members) = .ok record) {key : String} {json : Json}
    (given : Entries.get? members key = some json) :
    ∃ type value, entity.fieldType? key = some type ∧
      Value.ofJson schema tables json type = .ok value ∧ record.get? key = some value := by
  have reader : Entries.get? (Value.readers schema tables members) key =
      some (Value.ofJson schema tables json) := by
    rw [Value.get?_readers, given]
    rfl
  have read : ofReaders entity (Value.readers schema tables members) = .ok record := read
  unfold ofReaders at read
  split at read
  · cases read
  · rename_i known
    have among : key ∈ Entries.keys (Value.readers schema tables members) :=
      List.mem_map_of_mem (Entries.mem_of_get?_eq_some reader)
    have declared := List.find?_eq_none.1 known key among
    cases typed : entity.fieldType? key with
    | none => simp [typed] at declared
    | some type =>
      obtain ⟨field, inside, rfl, rfl⟩ := Entity.mem_of_fieldType? typed
      obtain ⟨value, said, got⟩ := exists_get?_of_filled distinct read inside reader
      exact ⟨field.type, value, rfl, said, got⟩

end Reading

section Asking

/-- A value of a type is in the order of equality with itself. -/
theorem FieldType.Admits.compare?_self {type : FieldType} {value : Value}
    (admitted : type.Admits value) : value.compare? value = some .eq := by
  obtain ⟨order, compared⟩ := admitted.exists_compare? admitted
  have opposite := Value.compare?_swap value value
  rw [compared] at opposite ⊢
  cases order with
  | eq => rfl
  | _ => cases opposite

theorem Operand.ne_null_of_coerce {operand : Operand} {type : FieldType} {value : Value}
    (coerced : operand.coerce type = .ok value) : operand ≠ .null := by
  rintro rfl
  cases type <;> cases coerced

variable {schema : Schema} {tables : Tables} {json : Json}

theorem Value.ofJson_of_plain {type : FieldType} (given : json ≠ .null)
    (plain : ∀ target, type ≠ .entity target) :
    ofJson schema tables json type =
      Operand.ofJson json >>= fun operand => operand.coerce type := by
  cases type with
  | entity target => exact absurd rfl (plain target)
  | _ => cases json <;> first | rfl | exact absurd rfl given

theorem Value.ofJson_of_reference {target : String} (given : json ≠ .null)
    (scalar : ∀ members, json ≠ .obj members) :
    ofJson schema tables json (.entity target) = do
      let entity ← schema.entity target
      let record ← Record.ofIdentifier tables entity json
      return .entity record.fields := by
  cases json with
  | null => exact absurd rfl given
  | obj members => exact absurd rfl (scalar members)
  | _ => rfl

/-- What is read for a field equals what the path of the field is asked to equal. -/
theorem Value.exists_resolved_of_read {root key : String} {entity : Entity} {type : FieldType}
    {value : Value} (found : schema.get? root = some entity) (named : key ≠ "")
    (plain : '.' ∉ key.toList) (typed : entity.fieldType? key = some type) (given : json ≠ .null)
    (scalar : ∀ members, json ≠ .obj members)
    (read : ofJson schema tables json type = .ok value) :
    ∃ field operand meant, schema.resolve root key = .ok field ∧
      Operand.ofJson json = .ok operand ∧ operand.coerce field.type = .ok meant ∧
      ∀ record : Record, record.get? key = some value →
        (record.lookup field.names).compare? meant = some .eq := by
  have followed := Schema.resolve_of_plain_name found named plain
  by_cases refers : ∃ target, type = .entity target
  · obtain ⟨target, rfl⟩ := refers
    rw [ofJson_of_reference given scalar] at read
    obtain ⟨referenced, declared, read⟩ := bind_eq_ok.1 read
    obtain ⟨embedded, readRecord, read⟩ := bind_eq_ok.1 read
    cases read
    obtain ⟨identifier, identifierType, operand, meant, identified, identifierTyped, readOperand,
      coerced, made⟩ := Record.exists_of_ofIdentifier readRecord
    have admitted : identifierType.Admits meant :=
      Operand.admits_of_coerce (Operand.finite_of_ofJson json operand readOperand) coerced
    rw [Schema.follow_reference typed (Schema.entity_eq_ok.1 declared) identified
      identifierTyped] at followed
    refine ⟨_, operand, meant, followed, readOperand, coerced, ?_⟩
    intro record stored
    have reached : record.lookup [key, identifier] = (embedded.get? identifier).getD .null := by
      rw [Record.lookup_cons (List.cons_ne_nil identifier []), stored]
      rfl
    show (record.lookup [key, identifier]).compare? meant = some .eq
    rw [reached]
    rcases made with rfl | ⟨-, copied, got, same⟩
    · have own : Record.get? ⟨[(identifier, meant)]⟩ identifier = some meant := if_pos rfl
      rw [own]
      exact admitted.compare?_self
    · rw [admitted.equals_eq] at same
      rw [got]
      exact beq_iff_eq.1 same
  · have noReference : ∀ target, type ≠ .entity target := fun target same => refers ⟨target, same⟩
    rw [ofJson_of_plain given noReference] at read
    obtain ⟨operand, readOperand, coerced⟩ := bind_eq_ok.1 read
    have admitted : type.Admits value :=
      Operand.admits_of_coerce (Operand.finite_of_ofJson json operand readOperand) coerced
    rw [Schema.follow_plain typed noReference] at followed
    refine ⟨_, operand, value, followed, readOperand, coerced, ?_⟩
    intro record stored
    have reached : record.lookup [key] = value := by
      rw [Record.lookup, stored]
      rfl
    show (record.lookup [key]).compare? value = some .eq
    rw [reached]
    exact admitted.compare?_self

end Asking

namespace Database

/-- A record that has been inserted is found by each scalar that it was inserted with: the leaf that
asks the field to equal the scalar compiles, and the new record is the last one that it finds. A
bare identifier in a reference is such a scalar, whether or not a record with it is stored. -/
theorem Reachable.inserted_record_is_found {database after : Database}
    (reachable : database.Reachable) (distinct : database.schema.DistinctFields)
    (names : database.schema.PlainNames) {entity : String} {members : List (String × Json)}
    {count : Nat} (inserted : database.insert entity (.obj members) = .ok (count, after))
    {key : String} {json : Json} (given : Entries.get? members key = some json)
    (notNull : json ≠ .null) (scalar : ∀ nested, json ≠ .obj nested) :
    ∃ operand condition record earlier, Operand.ofJson json = .ok operand ∧
      ((FilterTree.single (.leaf ⟨key, .eq, [operand]⟩)).compileForRecords
        after.schema.resolver entity).result = .ok condition ∧
      after.tables.rows entity = database.tables.rows entity ++ [record] ∧
      ((findAll entity (.single (.leaf ⟨key, .eq, [operand]⟩))).run.run after).1 =
        .ok (earlier ++ [record]) := by
  have serves := (reachable.next (.stored inserted)).serves
  obtain ⟨declared, found, inserted⟩ := bind_eq_ok.1 inserted
  obtain ⟨record, read, inserted⟩ := bind_eq_ok.1 inserted
  cases inserted
  have declaredRoot := Schema.entity_eq_ok.1 found
  have inside := Schema.mem_of_get? declaredRoot
  obtain ⟨type, value, typed, readValue, stored⟩ :=
    Record.exists_get?_of_ofJson (distinct declared inside) read given
  obtain ⟨named, plain⟩ : key ≠ "" ∧ '.' ∉ key.toList := by
    obtain ⟨field, among, rfl, -⟩ := Entity.mem_of_fieldType? typed
    exact names declared inside field among
  obtain ⟨field, operand, meant, resolved, readOperand, coerced, equals⟩ :=
    Value.exists_resolved_of_read declaredRoot named plain typed notNull scalar readValue
  have answered : Leaf.answer database.schema entity record ⟨key, .eq, [operand]⟩ = .ok true := by
    rw [Leaf.answer_comparison rfl resolved (Operand.ne_null_of_coerce coerced) coerced
      (by simp [Comparison.isOrdering]), equals record stored]
    rfl
  obtain ⟨condition, compiled, holds⟩ := map_eq_ok.1 answered
  let rows := database.tables.rows entity
  have storedRows : Tables.rows (Entries.set database.tables entity (rows ++ [record])) entity =
      rows ++ [record] := by
    rw [Tables.rows_set, if_pos rfl]
  have passes : [record].filter (fun record => condition.holds record) = [record] :=
    List.filter_cons_of_pos holds
  refine ⟨operand, condition, record, rows.filter condition.holds, readOperand, compiled,
    storedRows, ?_⟩
  obtain ⟨left, -, ran⟩ :=
    findAll_answers entity (.single (.leaf ⟨key, .eq, [operand]⟩)) _ serves
  rw [ran, foundOver_of_compiled compiled found, storedRows, List.filter_append, passes]

/-- A worker found by the identifier of a stored team, and one found by that of a team which is not
stored, both written as texts. -/
theorem inserted_worker_is_found_by_team :
    let team : Entity := ⟨"Team", none, some "id", [⟨"id", .integer⟩, ⟨"title", .string⟩]⟩
    let worker : Entity := ⟨"Worker", none, none, [⟨"name", .string⟩, ⟨"team", .entity "Team"⟩]⟩
    let first : Record := ⟨[("id", .int 1), ("title", .str "A")]⟩
    let database : Database := ⟨⟨[worker, team]⟩, .empty, [("Team", [first])]⟩
    let row (identifier : String) : Json := .obj [("team", .str identifier), ("name", .str "a")]
    let hired (fields : List (String × Value)) : Record :=
      ⟨[("name", .str "a"), ("team", .entity fields)]⟩
    let Found (identifier : String) (record : Record) : Prop :=
      ∃ after earlier, database.insert "Worker" (row identifier) = .ok (1, after) ∧
        ((findAll "Worker" (.single (.leaf ⟨"team", .eq, [.str identifier]⟩))).run.run after).1 =
          .ok (earlier ++ [record])
    database.Reachable ∧ database.schema.DistinctFields ∧ database.schema.PlainNames ∧
      Found "1" (hired first.fields) ∧ Found "9" (hired [("id", .int 9)]) := by
  intro team worker first database row hired Found
  have opening : openEmpty ⟨[worker, team]⟩ = .ok ⟨⟨[worker, team]⟩, .empty, []⟩ := rfl
  have storedTeam : Database.insert ⟨⟨[worker, team]⟩, .empty, []⟩ "Team"
      (.obj [("id", .num (.int 1 (by decide))), ("title", .str "A")]) = .ok (1, database) := rfl
  have reachable : database.Reachable := .next (.opened opening) (.stored storedTeam)
  have distinct : database.schema.DistinctFields := by
    simp [Schema.DistinctFields, database, worker, team]
  have names : database.schema.PlainNames := by
    simp [Schema.PlainNames, database, worker, team]
  have found (identifier : String) (fields : List (String × Value)) (after : Database)
      (rows : after.tables.rows "Worker" = [hired fields])
      (inserted : database.insert "Worker" (row identifier) = .ok (1, after)) :
      Found identifier (hired fields) := by
    have given : Entries.get? [("team", Json.str identifier), ("name", .str "a")] "team" =
        some (.str identifier) := rfl
    obtain ⟨operand, condition, record, earlier, read, -, stored, answered⟩ :=
      reachable.inserted_record_is_found distinct names inserted given (by simp) (by simp)
    cases read
    have nothing : database.tables.rows "Worker" = [] := rfl
    rw [rows, nothing] at stored
    cases stored
    exact ⟨after, earlier, inserted, answered⟩
  refine ⟨reachable, distinct, names, ?_, ?_⟩
  · exact found "1" first.fields _ rfl rfl
  · exact found "9" [("id", .int 9)] _ rfl rfl

end Database

end FilterQuery
