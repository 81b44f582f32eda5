import FilterQuery.Proofs.Schema.Paths
/-! What validation tells about a schema: every reference leads to a declared entity,
and every identifier is a declared field with values of its own. -/
namespace FilterQuery

/-- The references and the identifier of an entity are sound. -/
structure Entity.Sound (schema : Schema) (entity : Entity) : Prop where
  references : ∀ field ∈ entity.fields, ∀ target, field.type = .entity target →
    ∃ declared, schema.get? target = some declared
  identifier : ∀ identifier, entity.identifier? = some identifier →
    ∃ type, entity.fieldType? identifier = some type ∧ ∀ target, type ≠ .entity target

namespace Schema

variable {schema : Schema}

theorem references_of_check {fields : List Field}
    (checked : schema.checkReferences fields = .ok ()) :
    ∀ field ∈ fields, ∀ target, field.type = .entity target →
      ∃ declared, schema.get? target = some declared := by
  induction fields with
  | nil => simp
  | cons field rest ih =>
    obtain ⟨name, type⟩ := field
    cases type with
    | entity target =>
      obtain ⟨⟨⟩, found, checked⟩ := bind_eq_ok.1 checked
      refine List.forall_mem_cons.2 ⟨?_, ih checked⟩
      rintro other ⟨⟩
      cases declared : schema.entity target with
      | ok entity => exact ⟨entity, entity_eq_ok.1 declared⟩
      | error cause =>
        rw [declared] at found
        cases found
    | _ => exact List.forall_mem_cons.2 ⟨by simp, ih checked⟩

theorem identifier_of_check {entity : Entity} (checked : checkIdentifier entity = .ok ())
    {identifier : String} (identified : entity.identifier? = some identifier) :
    ∃ type, entity.fieldType? identifier = some type ∧ ∀ target, type ≠ .entity target := by
  unfold checkIdentifier at checked
  rw [identified] at checked
  dsimp only at checked
  split at checked
  · cases checked
  · cases checked
  · rename_i type notReference typed
    exact ⟨type, typed, notReference⟩

theorem sound_of_checkEntities {earlier : List String} {entities : List Entity}
    (checked : schema.checkEntities earlier entities = .ok ()) :
    ∀ entity ∈ entities, entity.Sound schema := by
  induction entities generalizing earlier with
  | nil => simp
  | cons entity rest ih =>
    unfold checkEntities at checked
    split at checked
    · cases checked
    · obtain ⟨⟨⟩, references, checked⟩ := bind_eq_ok.1 checked
      obtain ⟨⟨⟩, identifier, checked⟩ := bind_eq_ok.1 checked
      refine List.forall_mem_cons.2 ⟨⟨references_of_check references, ?_⟩, ih checked⟩
      exact fun name identified => identifier_of_check identifier identified

/-- The entities of a valid schema are sound. -/
theorem sound_of_validate (valid : schema.validate = .ok ()) :
    ∀ entity ∈ schema.entities, entity.Sound schema :=
  sound_of_checkEntities valid

end Schema

end FilterQuery
