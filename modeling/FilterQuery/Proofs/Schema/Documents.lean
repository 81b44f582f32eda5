import FilterQuery.Schema.Document
/-! Schemas and their documents. A type is written in one of three forms, and no reader
that comes before the one for its form accepts it. So a schema is read back from its
document, unless one of its enumerations has no symbols; such a schema is never read. -/
namespace FilterQuery

section Lists

variable {α β : Type} {read? : β → Option α}

/-- What follows on what is read under a condition is read under the condition. -/
theorem ite_some_bind (kept : Prop) [Decidable kept] (item : α) (next : α → Option β) :
    (if kept then some item else none).bind next = if kept then next item else none := by
  split <;> rfl

/-- Written items are read back as a list if each of them is read back, and else not at all. -/
theorem mapM_map_of_read {write : α → β} {Kept : α → Prop} [DecidablePred Kept]
    (each : ∀ item, read? (write item) = if Kept item then some item else none)
    (items : List α) :
    (items.map write).mapM read? = if ∀ item ∈ items, Kept item then some items else none := by
  induction items with
  | nil => simp
  | cons item rest ih =>
    rw [List.map_cons, List.mapM_cons, each, ih, Option.bind_eq_bind, ite_some_bind,
      Option.bind_eq_bind, ite_some_bind]
    by_cases kept : Kept item
    · simp [kept]
    · simp [kept]

/-- Each result of reading a list is read from some item. -/
theorem exists_of_mem_mapM {items : List β} {results : List α}
    (read : items.mapM read? = some results) :
    ∀ result ∈ results, ∃ item, read? item = some result := by
  induction items generalizing results with
  | nil =>
    cases read
    simp
  | cons item rest ih =>
    rw [List.mapM_cons] at read
    obtain ⟨first, readFirst, read⟩ := Option.bind_eq_some_iff.1 read
    obtain ⟨others, readOthers, read⟩ := Option.bind_eq_some_iff.1 read
    cases read
    exact List.forall_mem_cons.2 ⟨⟨item, readFirst⟩, ih readOthers⟩

theorem exists_of_mem_list? {read? : Json → Option α} {json : Json} {results : List α}
    (read : json.list? read? = some results) :
    ∀ result ∈ results, ∃ item, read? item = some result := by
  unfold Json.list? at read
  split at read
  · exact exists_of_mem_mapM read
  · cases read

end Lists

namespace FieldType

/-- An enumeration has symbols. -/
def HasSymbols : FieldType → Prop
  | .enum enumeration => enumeration.symbols ≠ []
  | _ => True

instance : DecidablePred HasSymbols
  | .enum enumeration => inferInstanceAs (Decidable (enumeration.symbols ≠ []))
  | .boolean | .integer | .decimal | .string | .date | .dateTime | .entity _ => isTrue trivial

theorem enumeration?_toJson (enumeration : Enumeration) :
    enumeration? (toJson (.enum enumeration)) = some enumeration := by
  have each (symbol : String) :
      Json.text? (.str symbol) = if True then some symbol else none := by
    simp [Json.text?]
  have symbols : (enumeration.symbols.map Json.str).mapM Json.text? = some enumeration.symbols := by
    simpa using mapM_map_of_read each enumeration.symbols
  simp [toJson, enumeration?, Json.list?, Json.optionalText?, symbols]

/-- Each type is read by the reader for its form. -/
theorem ofJson?_toJson (type : FieldType) :
    ofJson? type.toJson = if type.HasSymbols then some type else none := by
  cases type with
  | enum enumeration =>
    have other : scalar? (toJson (.enum enumeration)) = none := rfl
    simp only [ofJson?, other, enumeration?_toJson]
    by_cases empty : enumeration.symbols = []
    · simp [HasSymbols, empty]
    · simp [HasSymbols, empty]
  | _ => rfl

theorem hasSymbols_of_scalar? {json : Json} {type : FieldType} (read : scalar? json = some type) :
    type.HasSymbols := by
  have named {name : String} (found : Entries.get? scalars name = some type) :
      type.HasSymbols := by
    have all : ∀ entry ∈ scalars, entry.2.HasSymbols := by decide
    exact all _ (Entries.mem_of_get?_eq_some found)
  unfold scalar? at read
  split at read
  · exact named read
  · exact named read
  · cases read

/-- An enumeration that is read has symbols. -/
theorem hasSymbols_of_ofJson? {json : Json} {type : FieldType}
    (read : ofJson? json = some type) : type.HasSymbols := by
  unfold ofJson? at read
  split at read
  · rename_i scalar
    cases read
    exact hasSymbols_of_scalar? scalar
  · split at read
    · split at read
      · cases read
      · rename_i some
        cases read
        simpa [HasSymbols] using some
    · unfold reference? at read
      split at read
      · obtain ⟨target, -, read⟩ := Option.bind_eq_some_iff.1 read
        obtain ⟨name, -, read⟩ := Option.bind_eq_some_iff.1 read
        cases read
        exact trivial
      · cases read

end FieldType

namespace Field

/-- A field is read back if its type is. -/
theorem ofJson?_toJson (field : Field) :
    ofJson? field.toJson = if field.type.HasSymbols then some field else none := by
  have parts : field.toJson.parts? ["name", "type"] =
      some [some (.str field.name), some field.type.toJson] := rfl
  simp only [ofJson?, parts, Option.bind_eq_bind, Option.bind_some, Json.text?,
    FieldType.ofJson?_toJson, ite_some_bind]
  rfl

theorem hasSymbols_of_ofJson? {json : Json} {field : Field} (read : ofJson? json = some field) :
    field.type.HasSymbols := by
  obtain ⟨parts, -, read⟩ := Option.bind_eq_some_iff.1 read
  split at read
  · obtain ⟨name, -, read⟩ := Option.bind_eq_some_iff.1 read
    obtain ⟨type, readType, read⟩ := Option.bind_eq_some_iff.1 read
    cases read
    exact FieldType.hasSymbols_of_ofJson? readType
  · cases read

end Field

namespace Entity

/-- The enumerations among the types of the fields have symbols. -/
def HasSymbols (entity : Entity) : Prop := ∀ field ∈ entity.fields, field.type.HasSymbols

instance : DecidablePred HasSymbols :=
  fun entity => inferInstanceAs (Decidable (∀ field ∈ entity.fields, field.type.HasSymbols))

theorem optionalPart?_ofOptionalText (text? : Option String) :
    optionalPart? (some (.ofOptionalText text?)) = some text? := by
  cases text? <;> rfl

/-- An entity is read back if its fields are. -/
theorem ofJson?_toJson (entity : Entity) :
    ofJson? entity.toJson = if entity.HasSymbols then some entity else none := by
  have parts : entity.toJson.parts? ["name", "table", "identifier", "fields"] =
      some [some (.str entity.name), some (.ofOptionalText entity.table?),
        some (.ofOptionalText entity.identifier?),
        some (.arr (entity.fields.map Field.toJson))] := rfl
  simp only [ofJson?, parts, Option.bind_eq_bind, Option.bind_some, Json.text?,
    optionalPart?_ofOptionalText, Option.getD_some, Json.list?,
    mapM_map_of_read Field.ofJson?_toJson, ite_some_bind]
  rfl

theorem hasSymbols_of_ofJson? {json : Json} {entity : Entity}
    (read : ofJson? json = some entity) : entity.HasSymbols := by
  obtain ⟨parts, -, read⟩ := Option.bind_eq_some_iff.1 read
  split at read
  · obtain ⟨name, -, read⟩ := Option.bind_eq_some_iff.1 read
    obtain ⟨table, -, read⟩ := Option.bind_eq_some_iff.1 read
    obtain ⟨identifier, -, read⟩ := Option.bind_eq_some_iff.1 read
    obtain ⟨fields, readFields, read⟩ := Option.bind_eq_some_iff.1 read
    cases read
    intro field inside
    obtain ⟨item, readField⟩ := exists_of_mem_list? readFields field inside
    exact Field.hasSymbols_of_ofJson? readField
  · cases read

end Entity

namespace Schema

/-- All enumerations of the schema have symbols. -/
def HasSymbols (schema : Schema) : Prop := ∀ entity ∈ schema.entities, entity.HasSymbols

instance : DecidablePred HasSymbols :=
  fun schema => inferInstanceAs (Decidable (∀ entity ∈ schema.entities, entity.HasSymbols))

/-- A schema is read back if its entities are. -/
theorem ofJson?_toJson (schema : Schema) :
    ofJson? schema.toJson = if schema.HasSymbols then some schema else none := by
  have parts : schema.toJson.parts? ["entities"] =
      some [some (.arr (schema.entities.map Entity.toJson))] := rfl
  simp only [ofJson?, parts, Option.bind_eq_bind, Option.bind_some, Option.getD_some, Json.list?,
    mapM_map_of_read Entity.ofJson?_toJson, ite_some_bind]
  rfl

theorem hasSymbols_of_ofJson? {json : Json} {schema : Schema}
    (read : ofJson? json = some schema) : schema.HasSymbols := by
  obtain ⟨parts, -, read⟩ := Option.bind_eq_some_iff.1 read
  split at read
  · obtain ⟨entities, readEntities, read⟩ := Option.bind_eq_some_iff.1 read
    cases read
    intro entity inside
    obtain ⟨item, readEntity⟩ := exists_of_mem_list? readEntities entity inside
    exact Entity.hasSymbols_of_ofJson? readEntity
  · cases read

/-- The schema that is read after a schema has been written and read this many times. -/
def reloaded (schema : Schema) : Nat → Option Schema
  | 0 => some schema
  | rounds + 1 => (schema.reloaded rounds).bind fun before => ofJson? before.toJson

theorem reloaded_of_hasSymbols {schema : Schema} (listed : schema.HasSymbols) (rounds : Nat) :
    schema.reloaded rounds = some schema := by
  induction rounds with
  | zero => rfl
  | succ rounds ih => rw [reloaded, ih, Option.bind_some, ofJson?_toJson, if_pos listed]

/-- The document of a schema is read as the schema if all its enumerations have symbols, and is
refused otherwise. A schema that is read from any document is of this kind, and stays the same
however often it is written and read. -/
theorem documents_read_back (schema : Schema) :
    (ofJson? schema.toJson = if schema.HasSymbols then some schema else none) ∧
    ∀ document, ofJson? document = some schema →
      schema.HasSymbols ∧ ∀ rounds, schema.reloaded rounds = some schema := by
  refine ⟨ofJson?_toJson schema, fun document read => ?_⟩
  have listed := hasSymbols_of_ofJson? read
  exact ⟨listed, reloaded_of_hasSymbols listed⟩

/-- Names that are also the keys and the tags of documents, fields and symbols that are repeated,
and a document that has lists for its structures, a tag as a key, and a type with the keys of two
forms. -/
theorem documents_read_back_under_borrowed_names :
    let document : Json := .arr [.arr [.arr [.str "entity", .null, .str "enum", .arr [
      .arr [.str "enum", .obj [("integer", .null)]],
      .obj [("type", .obj [("entity", .str "enum"), ("enum", .arr [.str "date", .str "date"])]),
        ("name", .str "enum")],
      .arr [.str "name", .obj [("entity", .str "entity"), ("name", .null)]]]]]]
    let schema : Schema := ⟨[⟨"entity", none, some "enum", [⟨"enum", .integer⟩,
      ⟨"enum", .enum ⟨"enum", ["date", "date"]⟩⟩, ⟨"name", .entity "entity"⟩]⟩]⟩
    ofJson? document = some schema ∧
    (ofJson? schema.toJson = if schema.HasSymbols then some schema else none) ∧
    schema.HasSymbols ∧ ∀ rounds, schema.reloaded rounds = some schema := by
  intro document schema
  have read : ofJson? document = some schema := rfl
  obtain ⟨written, kept⟩ := documents_read_back schema
  exact ⟨read, written, kept document read⟩

end Schema

end FilterQuery
