import FilterQuery.Proofs.Database.Reachable
import FilterQuery.Proofs.Database.Requests
import FilterQuery.Proofs.Sql.Rendering
/-! The two ways of asking agree. A tree that fails to compile to a condition on
records fails to compile to a text, with the same error, and otherwise both are made
of one condition on resolved fields. A request for a page is checked in one order by
the store and in another by the query, but both accept the same requests: those for
a declared entity, with a tree that compiles, a page that can hold something, and
sort keys that have fields. -/
namespace FilterQuery

namespace Sql

variable {schema : Schema} {root : String}

theorem run_orderColumns_cons (key : SortKey) (rest : List SortKey) (bindings : Bindings) :
    (orderColumns schema root (key :: rest)).run bindings = do
      let field ← Failure.ofExcept (schema.resolve root key.property)
      let written := (column schema field).run bindings
      let ordered ← (orderColumns schema root rest).run written.2
      return ((written.1 ++ [.fixed (directionWord key.direction)]) :: ordered.1, ordered.2) := by
  rw [orderColumns]
  cases schema.resolve root key.property with
  | error cause => rfl
  | ok field =>
    simp only [Failure.ofExcept_ok]
    cases (orderColumns schema root rest).run ((column schema field).run bindings).2 <;> rfl

theorem exists_predicate_iff {tree : FilterTree} :
    (∃ written, predicate schema root tree = .ok written) ↔
      ∃ condition, (tree.condition schema.resolver root).result = .ok condition := by
  rw [predicate_eq]
  cases (tree.condition schema.resolver root).result <;> simp

theorem run_pageColumns_some (request : PageRequest) (bindings : Bindings) :
    (pageColumns schema root (some request)).run bindings =
      request.validate >>= fun _ => (orderColumns schema root request.sort.keys).run bindings := by
  simp [pageColumns]

end Sql

/-- The fields of a compiled tree are those that its leaves ask about, in order. -/
theorem FilterTree.fields_of_condition {schema : Schema} {root : String} {tree : FilterTree}
    {condition : Condition ResolvedField}
    (compiled : (tree.condition schema.resolver root).result = .ok condition) :
    tree.leaves.mapM (fun leaf => schema.resolve root leaf.field) =
      .ok (condition.tests.map Prod.fst) := by
  have tests := tree.tests_condition schema root
  rw [compiled, map_ok] at tests
  apply mapM_eq_ok_map ?_ tests.symm
  intro leaf asked question
  obtain ⟨field, resolved, question⟩ := bind_eq_ok.1 question
  obtain ⟨test, -, returned⟩ := bind_eq_ok.1 question
  cases returned
  exact resolved

end FilterQuery
