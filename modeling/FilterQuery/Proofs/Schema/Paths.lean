import FilterQuery.Proofs.Checks
import FilterQuery.Schema.Resolve
/-! Where a resolved path leads. Every name of the path but the last is a reference of
the entity reached so far, and leads to the entity that it refers to. The last name is
a field of the entity reached in the end; if it is a reference as well, the path goes
on to the identifier of the entity referred to. -/
namespace FilterQuery

namespace Schema

variable {schema : Schema} {name : String} {entity : Entity}

theorem entity_eq_ok : schema.entity name = .ok entity ↔ schema.get? name = some entity := by
  unfold Schema.entity
  cases schema.get? name <;> simp

theorem mem_of_get? (found : schema.get? name = some entity) : entity ∈ schema.entities :=
  List.mem_of_find?_eq_some found

theorem name_of_get? (found : schema.get? name = some entity) : entity.name = name := by
  simpa using List.find?_some found

/-- An entity that is found is the first one of its name. -/
theorem get?_name (found : schema.get? name = some entity) :
    schema.get? entity.name = some entity := by
  rw [name_of_get? found]
  exact found

end Schema

/-- A field that has a type is declared. -/
theorem Entity.mem_of_fieldType? {entity : Entity} {name : String} {type : FieldType}
    (typed : entity.fieldType? name = some type) :
    ∃ field ∈ entity.fields, field.name = name ∧ field.type = type := by
  obtain ⟨field, found, rfl⟩ := Option.map_eq_some_iff.1 typed
  exact ⟨field, List.mem_of_find?_eq_some found, by simpa using List.find?_some found, rfl⟩

/-- Steps through references lead from one entity to another. -/
inductive Leads (schema : Schema) : Entity → List Step → Entity → Prop where
  | here (entity : Entity) : Leads schema entity [] entity
  | through {entity next last : Entity} {name target : String} {steps : List Step}
      (refers : entity.fieldType? name = some (.entity target))
      (declared : schema.get? target = some next) (onwards : Leads schema next steps last) :
      Leads schema entity (⟨entity.name, name⟩ :: steps) last

/-- A field lies at the end of a path from an entity. -/
inductive ResolvedField.LiesAt (schema : Schema) (root : Entity) : ResolvedField → Prop where
  | plain {path name : String} {steps : List Step} {last : Entity} {type : FieldType}
      (leads : Leads schema root steps last) (typed : last.fieldType? name = some type)
      (plain : ∀ target, type ≠ .entity target) :
      LiesAt schema root ⟨path, steps, ⟨last.name, name⟩, none, type⟩
  | reference {path name target identifier : String} {steps : List Step}
      {last referenced : Entity} {type : FieldType} (leads : Leads schema root steps last)
      (refers : last.fieldType? name = some (.entity target))
      (declared : schema.get? target = some referenced)
      (identified : referenced.identifier? = some identifier)
      (typed : referenced.fieldType? identifier = some type) :
      LiesAt schema root
        ⟨path, steps, ⟨last.name, name⟩, some ⟨referenced.name, identifier⟩, type⟩

variable {schema : Schema}

/-- One more reference leads further. -/
theorem Leads.further {entity middle next : Entity} {steps : List Step} {name target : String}
    (leads : Leads schema entity steps middle)
    (refers : middle.fieldType? name = some (.entity target))
    (declared : schema.get? target = some next) :
    Leads schema entity (steps ++ [⟨middle.name, name⟩]) next := by
  induction leads with
  | here entity => exact .through refers declared (.here next)
  | through first found _ ih => exact .through first found (ih refers)

/-- Steps begin at the entity from which they lead. -/
theorem Leads.exists_head {entity last : Entity} {steps : List Step}
    (leads : Leads schema entity steps last) (name : String) :
    ∃ field rest, steps ++ [⟨last.name, name⟩] = ⟨entity.name, field⟩ :: rest := by
  cases leads with
  | here entity => exact ⟨name, [], rfl⟩
  | through refers declared onwards => exact ⟨_, _, rfl⟩

theorem Leads.mem_entities {entity last : Entity} {steps : List Step}
    (leads : Leads schema entity steps last) (declared : entity ∈ schema.entities) :
    last ∈ schema.entities := by
  induction leads with
  | here entity => exact declared
  | through refers found onwards ih => exact ih (Schema.mem_of_get? found)

/-- Following names from an entity that steps have led to ends at the end of a path from where the
steps began. -/
theorem Schema.liesAt_of_follow {root : Entity} {path : String} {names : List String}
    {entity : Entity} {steps : List Step} {field : ResolvedField}
    (leads : Leads schema root steps.reverse entity)
    (followed : schema.follow path entity steps names = .ok field) : field.LiesAt schema root := by
  match names with
  | [] => cases followed
  | [name] =>
    unfold Schema.follow at followed
    cases typed : entity.fieldType? name with
    | none => simp [typed] at followed
    | some type =>
      cases type with
      | entity other =>
        simp only [typed] at followed
        obtain ⟨referenced, declared, followed⟩ := bind_eq_ok.1 followed
        cases identified : referenced.identifier? with
        | none => simp [identified] at followed
        | some identifier =>
          cases identifierType : referenced.fieldType? identifier with
          | none => simp [identified, identifierType] at followed
          | some type =>
            simp only [identified, identifierType] at followed
            cases followed
            exact .reference leads typed (entity_eq_ok.1 declared) identified identifierType
      | _ =>
        simp only [typed] at followed
        cases followed
        exact .plain leads typed (by simp)
  | name :: next :: rest =>
    unfold Schema.follow at followed
    split at followed
    · rename_i other refers
      obtain ⟨nextEntity, declared, followed⟩ := bind_eq_ok.1 followed
      refine Schema.liesAt_of_follow ?_ followed
      simpa using leads.further refers (entity_eq_ok.1 declared)
    · cases followed

theorem Schema.liesAt_of_resolve {root path : String} {field : ResolvedField}
    (resolved : schema.resolve root path = .ok field) :
    ∃ entity, schema.get? root = some entity ∧ field.LiesAt schema entity := by
  obtain ⟨entity, declared, resolved⟩ := bind_eq_ok.1 resolved
  refine ⟨entity, entity_eq_ok.1 declared, ?_⟩
  dsimp only at resolved
  split at resolved
  · cases resolved
  · exact Schema.liesAt_of_follow (.here entity) resolved

end FilterQuery
