import FilterQuery.Proofs.Database.Reachable
import FilterQuery.Proofs.Schema.Validation
import FilterQuery.Proofs.Value.Typing
/-! Stored records conform to the schema. A record has the declared fields of its
entity in their order, and each of them holds null, a value of its type, or the record
that a reference leads to. Where a reference was given by an identifier that no stored
record has, the record referred to has nothing but this identifier. Conformance is
kept by every insertion, because a record is only read in full or copied from a table. -/
namespace FilterQuery

mutual

/-- A value may stand in a field of this type. -/
inductive Value.Conforms (schema : Schema) : FieldType → Value → Prop where
  | null (type : FieldType) : Value.Conforms schema type .null
  | plain {type : FieldType} {value : Value} (admitted : type.Admits value) :
    Value.Conforms schema type value
  | entity {target : String} {entity : Entity} {fields : List (String × Value)}
      (declared : schema.get? target = some entity) (stands : StandsFor schema entity fields) :
    Value.Conforms schema (.entity target) (.entity fields)

/-- The fields of a record to which a reference to this entity may lead. -/
inductive StandsFor (schema : Schema) : Entity → List (String × Value) → Prop where
  | whole {entity : Entity} {fields : List (String × Value)}
      (conform : FieldsConform schema entity.fields fields) : StandsFor schema entity fields
  | identifierOnly {entity : Entity} {identifier : String} {type : FieldType} {value : Value}
      (identified : entity.identifier? = some identifier)
      (typed : entity.fieldType? identifier = some type) (admitted : type.Admits value) :
    StandsFor schema entity [(identifier, value)]

/-- The fields of a record are these declared ones in this order, each with a value that may stand
in it. -/
inductive FieldsConform (schema : Schema) : List Field → List (String × Value) → Prop where
  | nil : FieldsConform schema [] []
  | cons {field : Field} {value : Value} {fields : List Field} {entries : List (String × Value)}
      (conforms : Value.Conforms schema field.type value)
      (rest : FieldsConform schema fields entries) :
    FieldsConform schema (field :: fields) ((field.name, value) :: entries)

end

/-- No entity declares two fields of one name. -/
def Schema.DistinctFields (schema : Schema) : Prop :=
  ∀ entity ∈ schema.entities, (entity.fields.map Field.name).Nodup

/-- Every stored record conforms to the entity of its table. -/
def Tables.Conform (schema : Schema) (tables : Tables) : Prop :=
  ∀ name, ∀ record ∈ tables.rows name, ∃ entity,
    schema.get? name = some entity ∧ FieldsConform schema entity.fields record.fields

section Reading

variable {schema : Schema} {tables : Tables}

/-- Whatever the reader makes of a type may stand in a field of this type. -/
def FieldReader.Conforms (schema : Schema) (reader : FieldReader) : Prop :=
  ∀ type value, reader type = .ok value → value.Conforms schema type

/-- The first field takes null if it is not given, and otherwise what its reader says. -/
theorem Record.filled_cons {readers : Entries FieldReader} {field : Field} {rest : List Field}
    {record result : Record} (filled : fill readers record (field :: rest) = .ok result) :
    ∃ value, (readers.get? field.name = none ∧ value = .null ∨
        ∃ reader, readers.get? field.name = some reader ∧ reader field.type = .ok value) ∧
      fill readers (record.set field.name value) rest = .ok result := by
  unfold fill at filled
  cases given : readers.get? field.name with
  | none =>
    rw [given] at filled
    exact ⟨.null, .inl ⟨rfl, rfl⟩, filled⟩
  | some reader =>
    rw [given] at filled
    obtain ⟨value, read, filled⟩ := bind_eq_ok.1 filled
    exact ⟨value, .inr ⟨reader, rfl, read⟩, filled⟩

/-- Filling in declared fields of distinct names appends just these fields to a record. -/
theorem Record.fieldsConform_of_fill {readers : Entries FieldReader}
    (reads : ∀ key reader, readers.get? key = some reader → reader.Conforms schema)
    {fields : List Field} {record result : Record}
    (distinct : (record.fields.keys ++ fields.map Field.name).Nodup)
    (filled : fill readers record fields = .ok result) :
    ∃ added, result.fields = record.fields ++ added ∧ FieldsConform schema fields added := by
  induction fields generalizing record with
  | nil =>
    cases filled
    exact ⟨[], by simp, .nil⟩
  | cons field rest ih =>
    obtain ⟨value, said, filled⟩ := filled_cons filled
    have conforms : Value.Conforms schema field.type value := by
      rcases said with ⟨-, rfl⟩ | ⟨reader, given, read⟩
      · exact .null field.type
      · exact reads field.name reader given field.type value read
    have fresh : field.name ∉ record.fields.keys := by
      rw [List.map_cons] at distinct
      exact not_mem_of_nodup distinct
    have written : (record.set field.name value).fields =
        record.fields ++ [(field.name, value)] := Entries.set_of_fresh fresh value
    have distinctRest :
        ((record.set field.name value).fields.keys ++ rest.map Field.name).Nodup := by
      rw [written]
      simpa [Entries.keys] using distinct
    obtain ⟨added, same, conform⟩ := ih distinctRest filled
    exact ⟨(field.name, value) :: added, by simp [same, written], .cons conforms conform⟩

theorem Record.fieldsConform_of_ofReaders {readers : Entries FieldReader} {entity : Entity}
    {record : Record} (reads : ∀ key reader, readers.get? key = some reader → reader.Conforms schema)
    (distinct : (entity.fields.map Field.name).Nodup)
    (read : ofReaders entity readers = .ok record) :
    FieldsConform schema entity.fields record.fields := by
  unfold ofReaders at read
  split at read
  · cases read
  · have fresh : (empty.fields.keys ++ entity.fields.map Field.name).Nodup := by
      simpa [empty, Entries.keys] using distinct
    obtain ⟨added, same, conform⟩ := fieldsConform_of_fill reads fresh read
    rw [same]
    exact conform

/-- An identifier gives a stored record whose identifier equals it, or a record that has nothing but
this identifier. -/
theorem Record.exists_of_ofIdentifier {entity : Entity} {json : Json} {record : Record}
    (read : ofIdentifier tables entity json = .ok record) :
    ∃ identifier type operand value, entity.identifier? = some identifier ∧
      entity.fieldType? identifier = some type ∧ Operand.ofJson json = .ok operand ∧
      operand.coerce type = .ok value ∧
      (record = ⟨[(identifier, value)]⟩ ∨ record ∈ tables.rows entity.name ∧
        ∃ stored, record.get? identifier = some stored ∧ stored.equals value = true) := by
  unfold ofIdentifier at read
  cases identified : entity.identifier? with
  | none => simp [identified] at read
  | some identifier =>
    cases typed : entity.fieldType? identifier with
    | none => simp [identified, typed] at read
    | some type =>
      simp only [identified, typed] at read
      obtain ⟨operand, readOperand, read⟩ := bind_eq_ok.1 read
      obtain ⟨value, coerced, read⟩ := bind_eq_ok.1 read
      refine ⟨identifier, type, operand, value, rfl, typed, readOperand, coerced, ?_⟩
      cases found : (tables.rows entity.name).find? fun record =>
          (record.get? identifier).any fun stored => stored.equals value with
      | none =>
        rw [found] at read
        cases read
        exact .inl rfl
      | some copied =>
        rw [found] at read
        cases read
        have matching := List.find?_some found
        obtain ⟨stored, got, same⟩ := (Option.any_eq_true _ _).1 matching
        exact .inr ⟨List.mem_of_find?_eq_some found, stored, got, same⟩

/-- Either record stands for the entity, as the stored ones conform. -/
theorem Record.standsFor_of_ofIdentifier {entity : Entity} {json : Json} {record : Record}
    (stored : tables.Conform schema) (declared : schema.get? entity.name = some entity)
    (read : ofIdentifier tables entity json = .ok record) :
    StandsFor schema entity record.fields := by
  obtain ⟨identifier, type, operand, value, identified, typed, readOperand, coerced, rfl | copied⟩ :=
    exists_of_ofIdentifier read
  · have finite := Operand.finite_of_ofJson json operand readOperand
    exact .identifierOnly identified typed (Operand.admits_of_coerce finite coerced)
  · obtain ⟨other, same, conform⟩ := stored entity.name record copied.1
    rw [declared] at same
    cases same
    exact .whole conform

/-- An operand that is read and coerced may stand in a field of the type. -/
theorem Value.conforms_of_coerced {json : Json} {type : FieldType} {value : Value}
    (read : (do let operand ← Operand.ofJson json; operand.coerce type) = .ok value) :
    value.Conforms schema type := by
  obtain ⟨operand, readOperand, coerced⟩ := bind_eq_ok.1 read
  exact .plain (Operand.admits_of_coerce (Operand.finite_of_ofJson json operand readOperand) coerced)

/-- A reference that is read leads to a record that stands for its target. -/
theorem Value.conforms_of_reference {target : String} {value : Value}
    {embed : Entity → Except ExpressionError Record}
    (embeds : ∀ entity record, schema.get? target = some entity → embed entity = .ok record →
      StandsFor schema entity record.fields)
    (read : (do
      let entity ← schema.entity target
      let record ← embed entity
      return Value.entity record.fields) = .ok value) :
    value.Conforms schema (.entity target) := by
  obtain ⟨entity, declared, read⟩ := bind_eq_ok.1 read
  obtain ⟨record, embedded, returned⟩ := bind_eq_ok.1 read
  cases returned
  have found := Schema.entity_eq_ok.1 declared
  exact .entity found (embeds entity record found embedded)

mutual

/-- What is read for a field may stand in it. -/
theorem Value.conforms_of_ofJson (distinct : schema.DistinctFields)
    (stored : tables.Conform schema) : ∀ json : Json,
    FieldReader.Conforms schema (ofJson schema tables json)
  | .null => fun type value read => by
    unfold ofJson at read
    cases read
    exact .null type
  | .obj members => fun type value read => by
    cases type with
    | entity target =>
      refine conforms_of_reference (fun entity record declared embedded => ?_) read
      have reads := readers_conform distinct stored members
      have fresh := distinct entity (Schema.mem_of_get? declared)
      exact .whole (Record.fieldsConform_of_ofReaders reads fresh embedded)
    | _ => exact conforms_of_coerced read
  | .bool _ | .num _ | .str _ | .arr _ => fun type value read => by
    cases type with
    | entity target =>
      refine conforms_of_reference (fun entity record declared embedded => ?_) read
      exact Record.standsFor_of_ofIdentifier stored (Schema.get?_name declared) embedded
    | _ => exact conforms_of_coerced read

/-- What is read for the members of an object may stand in the fields of their names. -/
theorem Value.readers_conform (distinct : schema.DistinctFields)
    (stored : tables.Conform schema) : ∀ members : List (String × Json),
    ∀ key reader, Entries.get? (readers schema tables members) key = some reader →
      reader.Conforms schema
  | [] => fun key reader found => by cases found
  | (name, json) :: rest => fun key reader found => by
    rw [readers, Entries.get?_cons] at found
    split at found
    · cases found
      exact conforms_of_ofJson distinct stored json
    · exact readers_conform distinct stored rest key reader found

end

theorem Record.fieldsConform_of_ofJson (distinct : schema.DistinctFields)
    (stored : tables.Conform schema) {entity : Entity} (declared : entity ∈ schema.entities)
    {json : Json} {record : Record} (read : ofJson schema tables entity json = .ok record) :
    FieldsConform schema entity.fields record.fields := by
  cases json with
  | obj members =>
    exact fieldsConform_of_ofReaders (Value.readers_conform distinct stored members)
      (distinct entity declared) read
  | _ => cases read

end Reading

section Storing

variable {schema : Schema} {tables : Tables}

theorem Tables.rows_set (tables : Tables) (entity name : String) (rows : List Record) :
    Tables.rows (Entries.set tables entity rows) name =
      if entity = name then rows else tables.rows name := by
  unfold Tables.rows
  rw [Entries.get?_set]
  split <;> rfl

theorem Tables.conform_nil (schema : Schema) : Tables.Conform schema [] := by
  intro name record inside
  cases inside

/-- A conforming record is stored after conforming ones. -/
theorem Tables.Conform.append (stored : tables.Conform schema) {name : String} {entity : Entity}
    (declared : schema.get? name = some entity) {record : Record}
    (conform : FieldsConform schema entity.fields record.fields) :
    Tables.Conform schema (Entries.set tables name (tables.rows name ++ [record])) := by
  intro other row inside
  rw [rows_set] at inside
  split at inside
  · rename_i same
    subst same
    rcases List.mem_append.1 inside with earlier | last
    · exact stored name row earlier
    · rw [List.mem_singleton.1 last]
      exact ⟨entity, declared, conform⟩
  · exact stored other row inside

end Storing

namespace Database

/-- A call keeps the stored records conforming. -/
theorem Step.conform {database after : Database} (step : Step database after)
    (sound : database.cache.Sound database.schema) (distinct : database.schema.DistinctFields)
    (stored : database.tables.Conform database.schema) : after.tables.Conform after.schema := by
  cases step with
  | stored inserted =>
    obtain ⟨declared, found, inserted⟩ := bind_eq_ok.1 inserted
    obtain ⟨record, read, inserted⟩ := bind_eq_ok.1 inserted
    cases inserted
    have declared := Schema.entity_eq_ok.1 found
    exact stored.append declared
      (Record.fieldsConform_of_ofJson distinct stored (Schema.mem_of_get? declared) read)
  | asked offered =>
    obtain ⟨answer, answers⟩ := offered.answers database.schema database.tables
    obtain ⟨left, serves, ran⟩ := answers database ⟨rfl, rfl, sound⟩
    rw [ran, serves.schema_eq, serves.tables_eq]
    exact stored

/-- The stored records of a reachable database conform to its schema. -/
theorem Reachable.conform {database : Database} (reachable : database.Reachable)
    (distinct : database.schema.DistinctFields) : database.tables.Conform database.schema := by
  induction reachable with
  | opened opening =>
    rename_i schema database
    cases valid : schema.validate with
    | error cause => simp [openEmpty, valid] at opening
    | ok checked =>
      simp only [openEmpty, valid] at opening
      cases opening
      exact Tables.conform_nil schema
  | next reachable step ih =>
    have sound := reachable.keeps.2
    rw [(step.keeps sound).1] at distinct
    exact step.conform sound distinct (ih distinct)

end Database

end FilterQuery
