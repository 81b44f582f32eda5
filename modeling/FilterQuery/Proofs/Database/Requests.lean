import FilterQuery.Proofs.Database.Queries
/-! Requests for pages. A request is answered iff it is for a declared entity, with a
tree that compiles, a page that can hold something, and sort keys that have fields.
Whether a page lies within the result does not matter. -/
namespace FilterQuery

theorem Failure.ofExcept_eq_ok {α : Type} {check : Except ExpressionError α} {value : α} :
    Failure.ofExcept check = .ok value ↔ check = .ok value := by
  cases check <;> simp

namespace Database

variable {schema : Schema} {tables : Tables} {entity : String}

theorem path_ne_nil_of_criteriaOver {keys : List SortKey} {criteria : List SortCriterion}
    (made : criteriaOver schema entity keys = .ok criteria) :
    ∀ criterion ∈ criteria, criterion.path ≠ [] := by
  induction keys generalizing criteria with
  | nil =>
    cases made
    simp
  | cons key rest ih =>
    obtain ⟨field, -, made⟩ := bind_eq_ok.1 made
    obtain ⟨others, madeOthers, made⟩ := bind_eq_ok.1 made
    cases made
    exact List.forall_mem_cons.2 ⟨field.names_ne_nil, ih madeOthers⟩

theorem exists_criteriaOver_iff {keys : List SortKey} :
    (∃ criteria, criteriaOver schema entity keys = .ok criteria) ↔
      ∀ key ∈ keys, ∃ field, schema.resolve entity key.property = .ok field := by
  induction keys with
  | nil => simp [criteriaOver]
  | cons key rest ih =>
    rw [List.forall_mem_cons, ← ih]
    constructor
    · rintro ⟨criteria, made⟩
      obtain ⟨field, resolved, made⟩ := bind_eq_ok.1 made
      obtain ⟨others, madeOthers, -⟩ := bind_eq_ok.1 made
      exact ⟨⟨field, Failure.ofExcept_eq_ok.1 resolved⟩, others, madeOthers⟩
    · rintro ⟨⟨field, resolved⟩, others, madeOthers⟩
      refine ⟨.of field.names key.direction :: others, ?_⟩
      rw [criteriaOver, resolved, Failure.ofExcept_ok, ok_bind, madeOthers]
      rfl

/-- A tree that compiles finds the records of which its condition holds. -/
theorem foundOver_of_compiled {tree : FilterTree} {condition : RecordCondition} {declared : Entity}
    (compiled : (tree.compileForRecords schema.resolver entity).result = .ok condition)
    (found : schema.entity entity = .ok declared) :
    foundOver schema tables entity tree = .ok ((tables.rows entity).filter condition.holds) := by
  rw [foundOver, planOver, compiled, found]
  rfl

theorem exists_foundOver_iff {tree : FilterTree} :
    (∃ found, foundOver schema tables entity tree = .ok found) ↔
      (∃ condition, (tree.condition schema.resolver entity).result = .ok condition) ∧
        ∃ found, schema.entity entity = .ok found := by
  rw [foundOver, planOver, FilterTree.result_compileForRecords]
  cases (tree.condition schema.resolver entity).result with
  | error cause =>
    rw [map_error, Failure.ofExcept_error, error_bind, error_bind]
    simp
  | ok condition =>
    cases schema.entity entity with
    | error cause =>
      constructor
      · rintro ⟨found, ⟨⟩⟩
      · rintro ⟨-, found, ⟨⟩⟩
    | ok declared => exact ⟨fun _ => ⟨⟨condition, rfl⟩, declared, rfl⟩, fun _ => ⟨_, rfl⟩⟩

theorem orderable_pagePlan {criteria : List SortCriterion}
    (paths : ∀ criterion ∈ criteria, criterion.path ≠ []) (request : PageRequest)
    (rows : List Record) : (pagePlan criteria request rows).Orderable := by
  unfold pagePlan
  split
  · trivial
  · exact ⟨paths, trivial⟩

end Database

end FilterQuery
