import Mathlib.Data.List.Chain
import FilterQuery.Proofs.Schema.Validation
/-! Which paths can be resolved. The parts of a path between its points must be names
that lead from the root entity to a value: every one but the last is a reference, and
the last is a field with values of its own or a reference to an entity with an
identifier. Over a valid schema such a path is resolved, and its segments are linked
from the root to the field of the value; any other path fails, and the error names the
whole path. A path may go through an entity any number of times, so the proofs follow
the names and not the entities. -/
namespace FilterQuery

/-- The names are the parts of a path between its points. -/
structure PartsOf (path : String) (names : List String) : Prop where
  some : names ≠ []
  free : ∀ name ∈ names, '.' ∉ name.toList
  joined : ".".intercalate names = path

namespace Text

theorem splitChars_eq_splitOn (separator : Char) (cs : List Char) :
    splitChars separator cs = cs.splitOn separator := by
  induction cs with
  | nil => rfl
  | cons c rest ih =>
    rw [splitChars, List.splitOn_cons_eq_if_modifyHead, ih]
    by_cases same : c = separator
    · simp [same]
    · cases parts : rest.splitOn separator with
      | nil => exact absurd parts (List.splitOn_ne_nil separator rest)
      | cons part others => simp [same]

theorem not_mem_of_mem_splitChars {separator : Char} {cs part : List Char}
    (inside : part ∈ splitChars separator cs) : separator ∉ part := by
  induction cs generalizing part with
  | nil => simp_all [splitChars]
  | cons c rest ih =>
    rw [splitChars] at inside
    split at inside
    · rcases List.mem_cons.1 inside with rfl | among
      · simp
      · exact ih among
    · rename_i other
      split at inside
      · rename_i first parts split
        rcases List.mem_cons.1 inside with rfl | among
        · have free : separator ∉ first := ih (by simp [split])
          simp [free, Ne.symm other]
        · exact ih (by simp [split, among])
      · rw [List.mem_singleton.1 inside]
        simpa using Ne.symm other

end Text

/-- A path is split into its parts, and there is no other way of splitting it. -/
theorem Schema.pathNames_eq_iff {path : String} {names : List String} :
    pathNames path = names ↔ PartsOf path names := by
  have point : ".".toList = ['.'] := rfl
  constructor
  · rintro rfl
    refine ⟨?_, ?_, ?_⟩
    · simp [pathNames, Text.splitAt, Text.splitChars_eq_splitOn]
    · intro name inside
      obtain ⟨part, among, rfl⟩ := List.mem_map.1 inside
      simpa using Text.not_mem_of_mem_splitChars among
    · rw [← String.toList_inj, String.toList_intercalate, point]
      simp [pathNames, Text.splitAt, Text.splitChars_eq_splitOn, Function.comp_def]
  · rintro ⟨some, free, rfl⟩
    rw [pathNames, Text.splitAt, Text.splitChars_eq_splitOn, String.toList_intercalate, point,
      List.splitOn_intercalate '.' ?_ (by simpa using some)]
    · simp [Function.comp_def]
    · intro part inside
      obtain ⟨name, among, rfl⟩ := List.mem_map.1 inside
      exact free name among

/-- Names lead from an entity to a value. -/
inductive Entity.Offers (schema : Schema) : Entity → List String → Prop where
  | value {entity : Entity} {name : String} {type : FieldType}
      (typed : entity.fieldType? name = some type) (plain : ∀ target, type ≠ .entity target) :
      Offers schema entity [name]
  | identifier {entity referenced : Entity} {name target identifier : String}
      (refers : entity.fieldType? name = some (.entity target))
      (declared : schema.get? target = some referenced)
      (identified : referenced.identifier? = some identifier) : Offers schema entity [name]
  | through {entity next : Entity} {name target : String} {names : List String}
      (refers : entity.fieldType? name = some (.entity target))
      (declared : schema.get? target = some next) (onwards : Offers schema next names) :
      Offers schema entity (name :: names)

variable {schema : Schema}

/-- Names offered by the entity that steps lead to are offered, after those of the steps, by the
entity from which they lead. -/
theorem Leads.offers {entity last : Entity} {steps : List Step} {names : List String}
    (leads : Leads schema entity steps last) (offers : last.Offers schema names) :
    entity.Offers schema (steps.map Step.field ++ names) := by
  induction leads with
  | here entity => exact offers
  | through refers declared _ ih => exact .through refers declared (ih offers)

theorem ResolvedField.LiesAt.offers {root : Entity} {field : ResolvedField}
    (lies : field.LiesAt schema root) :
    root.Offers schema (field.steps.map Step.field ++ [field.target.field]) := by
  cases lies with
  | plain leads typed plain => exact leads.offers (.value typed plain)
  | reference leads refers declared identified _ =>
    exact leads.offers (.identifier refers declared identified)

namespace Schema

variable {path : String}

/-- A field that is found has its path and the names that have been followed. -/
theorem names_of_follow {names : List String} {entity : Entity} {steps : List Step}
    {field : ResolvedField} (followed : schema.follow path entity steps names = .ok field) :
    field.path = path ∧
      field.steps.map Step.field ++ [field.target.field] =
        steps.reverse.map Step.field ++ names := by
  match names with
  | [] => cases followed
  | [name] =>
    unfold follow at followed
    split at followed
    · cases followed
    · obtain ⟨referenced, -, followed⟩ := bind_eq_ok.1 followed
      split at followed
      · cases followed
      · split at followed
        · cases followed
        · cases followed
          exact ⟨rfl, rfl⟩
    · cases followed
      exact ⟨rfl, rfl⟩
  | name :: next :: rest =>
    unfold follow at followed
    split at followed
    · obtain ⟨nextEntity, -, followed⟩ := bind_eq_ok.1 followed
      simpa using names_of_follow followed
    · cases followed

/-- Over sound entities, names that lead to a value are followed to the end. -/
theorem exists_follow (sound : ∀ entity ∈ schema.entities, entity.Sound schema) {entity : Entity}
    {names : List String} (offers : entity.Offers schema names) (steps : List Step) :
    ∃ field, schema.follow path entity steps names = .ok field := by
  induction offers generalizing steps with
  | @value entity name type typed plain =>
    unfold follow
    rw [typed]
    cases type with
    | entity target => exact absurd rfl (plain target)
    | _ => exact ⟨_, rfl⟩
  | @identifier entity referenced name target identifier refers declared identified =>
    obtain ⟨type, typed, -⟩ := (sound referenced (mem_of_get? declared)).identifier identifier
      identified
    unfold follow
    simp [refers, entity_eq_ok.2 declared, identified, typed]
  | @through entity next name target names refers declared onwards ih =>
    cases names with
    | nil => cases onwards
    | cons second rest =>
      unfold follow
      simpa [refers, entity_eq_ok.2 declared] using ih (⟨entity.name, name⟩ :: steps)

/-- Over sound entities no reference is dangling, so the error names the path. -/
theorem error_of_follow (sound : ∀ entity ∈ schema.entities, entity.Sound schema)
    {names : List String} {entity : Entity} (inside : entity ∈ schema.entities)
    {steps : List Step} {cause : ExpressionError}
    (failed : schema.follow path entity steps names = .error cause) :
    cause = .unknownField path := by
  have found {name target : String} (refers : entity.fieldType? name = some (.entity target)) :
      ∃ next, schema.get? target = some next := by
    obtain ⟨field, declared, -, typed⟩ := Entity.mem_of_fieldType? refers
    exact (sound entity inside).references field declared target typed
  match names with
  | [] =>
    cases failed
    rfl
  | [name] =>
    unfold follow at failed
    split at failed
    · cases failed
      rfl
    · rename_i refers
      obtain ⟨referenced, declared⟩ := found refers
      rw [entity_eq_ok.2 declared, ok_bind] at failed
      split at failed
      · cases failed
        rfl
      · split at failed <;> cases failed
        rfl
    · cases failed
  | name :: next :: rest =>
    unfold follow at failed
    split at failed
    · rename_i refers
      obtain ⟨nextEntity, declared⟩ := found refers
      rw [entity_eq_ok.2 declared, ok_bind] at failed
      exact error_of_follow sound (mem_of_get? declared) failed
    · cases failed
      rfl

end Schema

/-- The declared type of the field that a step denotes. -/
def Step.type? (schema : Schema) (step : Step) : Option FieldType :=
  (schema.get? step.entity).bind fun entity => entity.fieldType? step.field

/-- The field of the step is a reference to the entity of the next one. -/
def Step.RefersTo (schema : Schema) (step next : Step) : Prop :=
  step.type? schema = some (.entity next.entity)

theorem Step.type?_of_found {entity : Entity} (found : schema.get? entity.name = some entity)
    (name : String) : type? schema ⟨entity.name, name⟩ = entity.fieldType? name := by
  simp [type?, found]

namespace Leads

variable {entity last : Entity} {steps : List Step}

theorem found (leads : Leads schema entity steps last)
    (begins : schema.get? entity.name = some entity) : schema.get? last.name = some last := by
  induction leads with
  | here entity => exact begins
  | through refers declared _ ih => exact ih (Schema.get?_name declared)

/-- Steps that lead to an entity are linked with the segments that begin there. -/
theorem linked (leads : Leads schema entity steps last)
    (begins : schema.get? entity.name = some entity) (segments : List Step)
    (first : segments.head?.map Step.entity = some last.name)
    (rest : segments.IsChain (Step.RefersTo schema)) :
    (steps ++ segments).head?.map Step.entity = some entity.name ∧
      (steps ++ segments).IsChain (Step.RefersTo schema) := by
  induction leads with
  | here entity => exact ⟨first, rest⟩
  | @through entity next last name target steps refers declared _ ih =>
    obtain ⟨head, chain⟩ := ih (Schema.get?_name declared) first
    refine ⟨rfl, List.isChain_cons.2 ⟨?_, chain⟩⟩
    intro step isHead
    rw [show (steps ++ segments).head? = some step from isHead] at head
    have same : step.entity = next.name := Option.some.inj head
    rw [Step.RefersTo, Step.type?_of_found begins, refers, same, Schema.name_of_get? declared]

end Leads

/-- The segments of a field connect a root entity with a value by following names. -/
structure ResolvedField.Connects (schema : Schema) (root : String) (names : List String)
    (field : ResolvedField) : Prop where
  begins : field.segments.head?.map Step.entity = some root
  linked : field.segments.IsChain (Step.RefersTo schema)
  ends : ∃ step, field.segments.getLast? = some step ∧ step.type? schema = some field.type
  plain : ∀ target, field.type ≠ .entity target
  /-- The names that were followed come first. Only the identifier of a reference may be added. -/
  names : field.names = names ++ field.reference?.toList.map Step.field
  identifier : ∀ step ∈ field.reference?, ∃ referenced,
    schema.get? step.entity = some referenced ∧ referenced.identifier? = some step.field

/-- A field at the end of a path connects the entity from which the path leads with a value, if
the identifiers of the schema have values of their own. -/
theorem ResolvedField.LiesAt.connects {root : Entity} {field : ResolvedField}
    (lies : field.LiesAt schema root) (begins : schema.get? root.name = some root)
    (sound : ∀ entity ∈ schema.entities, entity.Sound schema) :
    field.Connects schema root.name (field.steps.map Step.field ++ [field.target.field]) := by
  cases lies with
  | @plain path name steps last type leads typed plain =>
    have reached : schema.get? last.name = some last := leads.found begins
    obtain ⟨head, chain⟩ := leads.linked begins [⟨last.name, name⟩] rfl
      (List.isChain_singleton _)
    refine ⟨head, chain, ⟨⟨last.name, name⟩, by simp [segments], ?_⟩, plain, ?_, by simp⟩
    · rw [Step.type?_of_found reached, typed]
    · simp [ResolvedField.names, segments]
  | @reference path name target identifier steps last referenced type leads refers declared
      identified typed =>
    have reached : schema.get? last.name = some last := leads.found begins
    have link : Step.RefersTo schema ⟨last.name, name⟩ ⟨referenced.name, identifier⟩ := by
      rw [Step.RefersTo, Step.type?_of_found reached, refers, Schema.name_of_get? declared]
    obtain ⟨head, chain⟩ := leads.linked begins
      [⟨last.name, name⟩, ⟨referenced.name, identifier⟩] rfl
      (List.isChain_cons_cons.2 ⟨link, List.isChain_singleton _⟩)
    refine ⟨head, chain, ⟨⟨referenced.name, identifier⟩, by simp [segments], ?_⟩, ?_, ?_, ?_⟩
    · rw [Step.type?_of_found (Schema.get?_name declared), typed]
    · obtain ⟨own, ownTyped, plain⟩ :=
        (sound referenced (Schema.mem_of_get? declared)).identifier identifier identified
      rw [typed] at ownTyped
      cases ownTyped
      exact plain
    · simp [ResolvedField.names, segments]
    · rintro step ⟨⟩
      exact ⟨referenced, Schema.get?_name declared, identified⟩

namespace Schema

theorem resolve_of_found {root path : String} {entity : Entity}
    (found : schema.get? root = some entity) :
    schema.resolve root path =
      if "" ∈ pathNames path then .error (.unknownField path)
      else schema.follow path entity [] (pathNames path) := by
  rw [resolve, entity_eq_ok.2 found, ok_bind]
  by_cases empty : "" ∈ pathNames path
  · simp [empty]
    rfl
  · simp [empty]

/-- Over a valid schema a path is resolved from an entity iff the entity is declared and the parts
of the path are not empty and lead from it to a value. The field that is found connects the entity
with that value by following the parts. A root that is not declared is named by the error, and
every other error names the path. -/
theorem resolve_succeeds_iff_parts_lead (schema : Schema) (valid : schema.validate = .ok ())
    (root path : String) :
    ∃ names, PartsOf path names ∧
      (schema.resolve root path = .error (.unknownEntity root) ↔ schema.get? root = none) ∧
      ∀ entity, schema.get? root = some entity →
        ((∃ field, schema.resolve root path = .ok field) ↔
          (∀ name ∈ names, name ≠ "") ∧ entity.Offers schema names) ∧
        (∀ cause, schema.resolve root path = .error cause → cause = .unknownField path) ∧
        ∀ field, schema.resolve root path = .ok field →
          field.path = path ∧ field.Connects schema root names := by
  have sound := sound_of_validate valid
  refine ⟨pathNames path, pathNames_eq_iff.1 rfl, ?_, ?_⟩
  · cases found : schema.get? root with
    | none => simp [resolve, entity, found, error_bind]
    | some entity =>
      rw [resolve_of_found found]
      split
      · simp
      · simp only [reduceCtorEq, iff_false]
        intro failed
        cases error_of_follow sound (mem_of_get? found) failed
  · intro entity found
    have named : entity.name = root := name_of_get? found
    have followed {field : ResolvedField} (resolved : schema.resolve root path = .ok field) :
        "" ∉ pathNames path ∧ schema.follow path entity [] (pathNames path) = .ok field := by
      rw [resolve_of_found found] at resolved
      split at resolved
      · cases resolved
      · exact ⟨‹_›, resolved⟩
    refine ⟨⟨?_, ?_⟩, ?_, ?_⟩
    · rintro ⟨field, resolved⟩
      obtain ⟨filled, leads⟩ := followed resolved
      refine ⟨fun name inside empty => filled (empty ▸ inside), ?_⟩
      have offers := (liesAt_of_follow (.here entity) leads).offers
      rw [(names_of_follow leads).2] at offers
      exact offers
    · rintro ⟨filled, offers⟩
      rw [resolve_of_found found, if_neg fun inside => filled "" inside rfl]
      exact exists_follow sound offers []
    · intro cause failed
      rw [resolve_of_found found] at failed
      split at failed
      · cases failed
        rfl
      · exact error_of_follow sound (mem_of_get? found) failed
    · intro field resolved
      obtain ⟨-, leads⟩ := followed resolved
      obtain ⟨same, names⟩ := names_of_follow leads
      have connects := (liesAt_of_follow (.here entity) leads).connects (get?_name found) sound
      rw [names, named] at connects
      exact ⟨same, connects⟩

/-- A path that goes around a reference twice before it ends at another one. -/
theorem resolve_succeeds_iff_parts_lead_around :
    let schema : Schema :=
      ⟨[⟨"Worker", none, some "id",
          [⟨"id", .integer⟩, ⟨"boss", .entity "Worker"⟩, ⟨"team", .entity "Team"⟩]⟩,
        ⟨"Team", none, some "code", [⟨"code", .string⟩]⟩]⟩
    schema.validate = .ok () ∧
    ∃ names, PartsOf "boss.boss.team" names ∧ ∃ field,
      schema.resolve "Worker" "boss.boss.team" = .ok field ∧ field.type = .string ∧
        field.Connects schema "Worker" names := by
  intro schema
  have valid : schema.validate = .ok () := rfl
  obtain ⟨names, parts, -, declared⟩ :=
    resolve_succeeds_iff_parts_lead schema valid "Worker" "boss.boss.team"
  have found : schema.get? "Worker" = schema.entities[0]? := rfl
  obtain ⟨-, -, connects⟩ := declared _ found
  let field : ResolvedField :=
    ⟨"boss.boss.team", [⟨"Worker", "boss"⟩, ⟨"Worker", "boss"⟩], ⟨"Worker", "team"⟩,
      some ⟨"Team", "code"⟩, .string⟩
  have resolved : schema.resolve "Worker" "boss.boss.team" = .ok field := rfl
  exact ⟨valid, names, parts, field, resolved, rfl, (connects field resolved).2⟩

end Schema

end FilterQuery
