import FilterQuery.Proofs.Schema.Completeness
/-! Fields under their own names. An entity of a valid schema is the one that its name
denotes. The name of a field is asked for as a path, which is divided at its points, and
it denotes the first declaration of the name. So a declared field is found under its
name iff the name is not empty and has no point in it, and the first declaration has
values of the same type. -/
namespace FilterQuery

/-- Fields of the first type have values of the second: their own, or for a reference those of the
identifier of the entity referred to. -/
inductive FieldType.HasValues (schema : Schema) : FieldType → FieldType → Prop where
  | own {type : FieldType} (plain : ∀ target, type ≠ .entity target) : HasValues schema type type
  | identifier {target identifier : String} {referenced : Entity} {type : FieldType}
      (declared : schema.get? target = some referenced)
      (identified : referenced.identifier? = some identifier)
      (typed : referenced.fieldType? identifier = some type) :
      HasValues schema (.entity target) type

/-- A declared name denotes a field. -/
theorem Entity.exists_fieldType? {entity : Entity} {field : Field}
    (inside : field ∈ entity.fields) : ∃ first, entity.fieldType? field.name = some first := by
  cases found : entity.fields.find? fun other => other.name == field.name with
  | none => simpa using List.find?_eq_none.1 found field inside
  | some first => exact ⟨first.type, by simp [fieldType?, found]⟩

namespace Schema

variable {schema : Schema} {entity : Entity}

theorem distinct_of_checkEntities {earlier : List String} {entities : List Entity}
    (checked : schema.checkEntities earlier entities = .ok ()) :
    (entities.map Entity.name).Nodup ∧ ∀ entity ∈ entities, entity.name ∉ earlier := by
  induction entities generalizing earlier with
  | nil => simp
  | cons entity rest ih =>
    unfold checkEntities at checked
    split at checked
    · cases checked
    · rename_i fresh
      obtain ⟨⟨⟩, -, checked⟩ := bind_eq_ok.1 checked
      obtain ⟨⟨⟩, -, checked⟩ := bind_eq_ok.1 checked
      obtain ⟨distinct, apart⟩ := ih checked
      refine ⟨List.nodup_cons.2 ⟨?_, distinct⟩, List.forall_mem_cons.2 ⟨by simpa using fresh, ?_⟩⟩
      · intro again
        obtain ⟨other, among, same⟩ := List.mem_map.1 again
        exact apart other among (by simp [same])
      · exact fun other among => fun known => apart other among (List.mem_cons_of_mem _ known)

/-- An entity of a valid schema is the one that its name denotes. -/
theorem get?_of_mem (valid : schema.validate = .ok ()) (inside : entity ∈ schema.entities) :
    schema.get? entity.name = some entity := by
  have distinct := (distinct_of_checkEntities valid).1
  obtain ⟨before, after, split⟩ := List.append_of_mem inside
  rw [split, List.map_append, List.map_cons] at distinct
  have apart : ∀ other ∈ before, ¬ (other.name == entity.name) = true := by
    intro other among same
    exact not_mem_of_nodup distinct (List.mem_map.2 ⟨other, among, by simpa using same⟩)
  rw [get?, split, List.find?_append, List.find?_eq_none.2 apart]
  simp

/-- A path without a point has one part. -/
theorem pathNames_of_plain {name : String} (plain : '.' ∉ name.toList) : pathNames name = [name] :=
  pathNames_eq_iff.2 ⟨by simp, by simpa using plain, by simp⟩

/-- A path of one name is followed from the root. -/
theorem resolve_of_plain_name {root name : String} (found : schema.get? root = some entity)
    (given : name ≠ "") (plain : '.' ∉ name.toList) :
    schema.resolve root name = schema.follow name entity [] [name] := by
  rw [resolve_of_found found, pathNames_of_plain plain, if_neg (by simpa using Ne.symm given)]

/-- A field that is no reference is found under its name. -/
theorem follow_plain {path name : String} {type : FieldType}
    (typed : entity.fieldType? name = some type) (plain : ∀ target, type ≠ .entity target) :
    schema.follow path entity [] [name] = .ok ⟨path, [], ⟨entity.name, name⟩, none, type⟩ := by
  unfold follow
  cases type with
  | entity target => exact absurd rfl (plain target)
  | _ => simp only [typed, List.reverse_nil]

/-- A reference is found under its name and leads to the identifier of the entity referred to. -/
theorem follow_reference {path name target identifier : String} {referenced : Entity}
    {type : FieldType} (refers : entity.fieldType? name = some (.entity target))
    (declared : schema.get? target = some referenced)
    (identified : referenced.identifier? = some identifier)
    (typed : referenced.fieldType? identifier = some type) :
    schema.follow path entity [] [name] =
      .ok ⟨path, [], ⟨entity.name, name⟩, some ⟨referenced.name, identifier⟩, type⟩ := by
  unfold follow
  simp only [refers, Schema.entity_eq_ok.2 declared, ok_bind, identified, typed, List.reverse_nil]
  rfl

/-- What is found under a name has values of the type of the field that the name denotes. -/
theorem hasValues_of_follow {path name : String} {found : ResolvedField}
    (followed : schema.follow path entity [] [name] = .ok found) {first : FieldType}
    (denotes : entity.fieldType? name = some first) : first.HasValues schema found.type := by
  cases first with
  | entity target =>
    unfold follow at followed
    simp only [denotes] at followed
    obtain ⟨referenced, declared, followed⟩ := bind_eq_ok.1 followed
    split at followed
    · cases followed
    · rename_i identifier identified
      split at followed
      · cases followed
      · rename_i type typed
        cases followed
        exact .identifier (entity_eq_ok.1 declared) identified typed
  | _ =>
    have plain : schema.follow path entity [] [name] = _ := follow_plain denotes (by simp)
    rw [plain] at followed
    cases followed
    exact .own (by simp)

/-- Over a valid schema a field has values, unless it refers to an entity without identifier. -/
theorem exists_hasValues (valid : schema.validate = .ok ()) (declared : entity ∈ schema.entities)
    {field : Field} (inside : field ∈ entity.fields)
    (identified : ∀ target referenced, field.type = .entity target →
      schema.get? target = some referenced → referenced.identifier? ≠ none) :
    ∃ type, field.type.HasValues schema type := by
  have sound := sound_of_validate valid
  by_cases plain : ∀ target, field.type ≠ .entity target
  · exact ⟨field.type, .own plain⟩
  · simp only [ne_eq, not_forall, not_not] at plain
    obtain ⟨target, refers⟩ := plain
    obtain ⟨referenced, found⟩ := (sound entity declared).references field inside target refers
    obtain ⟨identifier, named⟩ :=
      Option.ne_none_iff_exists'.1 (identified target referenced refers found)
    obtain ⟨type, typed, -⟩ :=
      (sound referenced (mem_of_get? found)).identifier identifier named
    exact ⟨type, refers ▸ .identifier found named typed⟩

/-- A name without a point is found at the root, with values of the type that it denotes. -/
theorem exists_resolve_of_plain {name : String} {first type : FieldType}
    (found : schema.get? entity.name = some entity) (given : name ≠ "")
    (plain : '.' ∉ name.toList) (denotes : entity.fieldType? name = some first)
    (values : first.HasValues schema type) :
    ∃ field, schema.resolve entity.name name = .ok field ∧
      field.segments.head? = some ⟨entity.name, name⟩ ∧ field.type = type := by
  rw [resolve_of_plain_name found given plain]
  cases values with
  | own plain => exact ⟨_, follow_plain denotes plain, rfl, rfl⟩
  | identifier declared identified typed =>
    exact ⟨_, follow_reference denotes declared identified typed, rfl, rfl⟩

/-- A path whose first segment is named like the whole path has no point in it. -/
theorem plain_of_head {root name : String} {start : String} {field : ResolvedField}
    (resolved : schema.resolve root name = .ok field)
    (head : field.segments.head? = some ⟨start, name⟩) : name ≠ "" ∧ '.' ∉ name.toList := by
  obtain ⟨entity, declared, -⟩ := bind_eq_ok.1 resolved
  rw [resolve_of_found (entity_eq_ok.1 declared)] at resolved
  split at resolved
  · cases resolved
  · rename_i filled
    have first : (field.steps.map Step.field ++ [field.target.field]).head? = some name := by
      cases steps : field.steps with
      | nil => simp_all [ResolvedField.segments]
      | cons step rest => simp_all [ResolvedField.segments]
    have inside : name ∈ pathNames name := by
      rw [(names_of_follow resolved).2] at first
      exact List.mem_of_mem_head? first
    exact ⟨fun empty => filled (empty ▸ inside), (pathNames_eq_iff.1 rfl).free name inside⟩

/-- Over a valid schema a declared field has values, unless it refers to an entity without
identifier. It is found under its name, at the root and with the type of its values, iff the name is
not empty and has no point in it, and the first declaration of the name has values of this type. -/
theorem declared_field_is_found_iff_plain (schema : Schema) (valid : schema.validate = .ok ())
    {entity : Entity} (declared : entity ∈ schema.entities) {field : Field}
    (inside : field ∈ entity.fields)
    (identified : ∀ target referenced, field.type = .entity target →
      schema.get? target = some referenced → referenced.identifier? ≠ none) :
    ∃ first type, entity.fieldType? field.name = some first ∧ field.type.HasValues schema type ∧
      ((∃ found, schema.resolve entity.name field.name = .ok found ∧
          found.segments.head? = some ⟨entity.name, field.name⟩ ∧ found.type = type) ↔
        field.name ≠ "" ∧ '.' ∉ field.name.toList ∧ first.HasValues schema type) := by
  obtain ⟨first, denotes⟩ := Entity.exists_fieldType? inside
  obtain ⟨type, values⟩ := exists_hasValues valid declared inside identified
  have known := get?_of_mem valid declared
  refine ⟨first, type, denotes, values, ?_, ?_⟩
  · rintro ⟨found, resolved, head, rfl⟩
    obtain ⟨given, plain⟩ := plain_of_head resolved head
    rw [resolve_of_plain_name known given plain] at resolved
    exact ⟨given, plain, hasValues_of_follow resolved denotes⟩
  · rintro ⟨given, plain, same⟩
    exact exists_resolve_of_plain known given plain denotes same

/-- A reference that is declared twice, first as what its values are. -/
theorem declared_field_is_found_iff_plain_twice :
    let team : Entity := ⟨"Team", none, some "code", [⟨"code", .string⟩]⟩
    let field : Field := ⟨"team", .entity "Team"⟩
    let worker : Entity := ⟨"Worker", none, none, [⟨"team", .string⟩, field]⟩
    let schema : Schema := ⟨[worker, team]⟩
    schema.validate = .ok () ∧ worker ∈ schema.entities ∧ field ∈ worker.fields ∧
    (∀ target referenced, field.type = .entity target → schema.get? target = some referenced →
      referenced.identifier? ≠ none) ∧
    ∃ first type, worker.fieldType? field.name = some first ∧ field.type.HasValues schema type ∧
      ((∃ found, schema.resolve worker.name field.name = .ok found ∧
          found.segments.head? = some ⟨worker.name, field.name⟩ ∧ found.type = type) ↔
        field.name ≠ "" ∧ '.' ∉ field.name.toList ∧ first.HasValues schema type) := by
  intro team field worker schema
  have valid : schema.validate = .ok () := rfl
  have declared : worker ∈ schema.entities := List.mem_cons_self
  have inside : field ∈ worker.fields := by simp [worker]
  have identified : ∀ target referenced, field.type = .entity target →
      schema.get? target = some referenced → referenced.identifier? ≠ none := by
    rintro target referenced ⟨⟩ found
    have known : schema.get? "Team" = some team := rfl
    rw [known] at found
    cases found
    simp [team]
  exact ⟨valid, declared, inside, identified,
    declared_field_is_found_iff_plain schema valid declared inside identified⟩

/-- Over a valid schema, a field whose name is declared once, is not empty and has no point in it is
found under its name, at the root and with the type of its values. -/
theorem exists_resolve_of_declared_once (valid : schema.validate = .ok ())
    (declared : entity ∈ schema.entities) {field : Field} (inside : field ∈ entity.fields)
    (identified : ∀ target referenced, field.type = .entity target →
      schema.get? target = some referenced → referenced.identifier? ≠ none)
    (once : ∀ other ∈ entity.fields, other.name = field.name → other = field)
    (given : field.name ≠ "") (plain : '.' ∉ field.name.toList) :
    ∃ found, schema.resolve entity.name field.name = .ok found ∧
      found.segments.head? = some ⟨entity.name, field.name⟩ ∧
      field.type.HasValues schema found.type := by
  obtain ⟨first, denotes⟩ := Entity.exists_fieldType? inside
  obtain ⟨other, among, named, rfl⟩ := Entity.mem_of_fieldType? denotes
  rw [once other among named] at denotes
  obtain ⟨type, values⟩ := exists_hasValues valid declared inside identified
  obtain ⟨found, resolved, head, rfl⟩ :=
    exists_resolve_of_plain (get?_of_mem valid declared) given plain denotes values
  exact ⟨found, resolved, head, values⟩

/-- Not every declared field is found under its name: a point divides the name, an empty name is
no path, and a name that is declared before as a reference without values stays one. -/
theorem declared_fields_out_of_reach :
    let note : Entity := ⟨"Note", none, none,
      [⟨"a.b", .integer⟩, ⟨"", .integer⟩, ⟨"c", .entity "Tag"⟩, ⟨"c", .integer⟩]⟩
    let schema : Schema := ⟨[⟨"Tag", none, none, []⟩, note]⟩
    schema.validate = .ok () ∧ note ∈ schema.entities ∧
    ∀ name ∈ ["a.b", "", "c"], ⟨name, .integer⟩ ∈ note.fields ∧
      ¬ ∃ found, schema.resolve note.name name = .ok found := by
  intro note schema
  have lost : ∀ name ∈ ["a.b", "", "c"],
      schema.resolve note.name name = .error (.unknownField name) := by
    simp only [List.forall_mem_cons]
    exact ⟨rfl, rfl, rfl, by simp⟩
  refine ⟨rfl, by simp [schema], fun name among => ⟨?_, ?_⟩⟩
  · simp only [List.mem_cons, List.not_mem_nil, or_false] at among
    rcases among with rfl | rfl | rfl <;> simp [note]
  · rintro ⟨found, resolved⟩
    rw [lost name among] at resolved
    cases resolved

end Schema

end FilterQuery
