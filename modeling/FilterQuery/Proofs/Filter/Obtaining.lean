import FilterQuery.Proofs.Filter.Compilation
import FilterQuery.Proofs.Filter.Reading
/-! Filters and trees that can be obtained, by building, joining, reading and taking
apart in any order. All of them are well formed. So a leaf has the operand that its
test asks for, and a builder is asked for a predicate of everything by the empty
tree only, and never to join fewer than two parts. -/
namespace FilterQuery

mutual

/-- The filters that can be built, joined, or taken out of a group or a tree. -/
inductive Filter.Obtainable : Filter → Prop where
  | leaf {field : String} {operator : Operator} {operands : List Operand} {question : Leaf}
      (built : Leaf.of field operator operands = .ok question) :
      Filter.Obtainable (.leaf question)
  | of {field : String} {operator : Operator} {operands : List Operand} {filter : Filter}
      (built : Filter.of field operator operands = .ok filter) : Filter.Obtainable filter
  | join {connective : Connective} {members : List Filter} {filter : Filter}
      (each : ∀ member ∈ members, Filter.Obtainable member)
      (built : Filter.join connective members = .ok filter) : Filter.Obtainable filter
  | member {connective : Connective} {members : List Filter} {member : Filter}
      (whole : Filter.Obtainable (.group connective members)) (among : member ∈ members) :
      Filter.Obtainable member
  | node {tree : FilterTree} {node : Filter} (whole : FilterTree.Obtainable tree)
      (among : node ∈ tree.nodes) : Filter.Obtainable node

/-- The trees that can be built, extended, with or without success, or read. -/
inductive FilterTree.Obtainable : FilterTree → Prop where
  | empty : FilterTree.Obtainable .empty
  | single {filter : Filter} (given : Filter.Obtainable filter) :
      FilterTree.Obtainable (.single filter)
  | and {tree : FilterTree} {filter : Filter} (before : FilterTree.Obtainable tree)
      (given : Filter.Obtainable filter) : FilterTree.Obtainable (tree.and filter)
  | or {tree : FilterTree} {filter : Filter} (before : FilterTree.Obtainable tree)
      (given : Filter.Obtainable filter) : FilterTree.Obtainable (tree.or filter)
  | addWhere {tree next : FilterTree} {field : String} {operator : Operator}
      {operands : List Operand} {answer : Except ExpressionError Unit}
      (before : FilterTree.Obtainable tree)
      (ran : (FilterTree.addWhere field operator operands).run.run tree = (answer, next)) :
      FilterTree.Obtainable next
  | ofJson {document : Json} {tree : FilterTree} (read : FilterTree.ofJson document = .ok tree) :
      FilterTree.Obtainable tree

end

namespace FilterTree

variable {tree next : FilterTree} {field : String} {operator : Operator} {operands : List Operand}

theorem wellFormed_addWhere {answer : Except ExpressionError Unit} (ready : tree.WellFormed)
    (ran : (addWhere field operator operands).run.run tree = (answer, next)) :
    next.WellFormed := by
  rw [run_addWhere, andWhere] at ran
  cases built : Filter.of field operator operands with
  | error cause =>
    rw [built] at ran
    cases ran
    exact ready
  | ok filter =>
    rw [built] at ran
    cases ran
    exact wellFormed_and ready (Filter.wellFormed_of_of built)

theorem wellFormed_of_ofJson {document : Json} (read : ofJson document = .ok tree) :
    tree.WellFormed := by
  cases document with
  | obj members =>
    obtain ⟨nodes, readNodes, rfl⟩ := map_eq_ok.1 read
    exact Filter.allWellFormed_iff.2 fun node among =>
      (Filter.writable_of_readConjuncts members nodes readNodes node among).ready
  | _ => cases read

end FilterTree

mutual

/-- Every way to obtain a filter keeps it well formed. -/
theorem Filter.Obtainable.wellFormed {filter : Filter} : filter.Obtainable → filter.WellFormed
  | .leaf built => Leaf.wellFormed_of_built built
  | .of built => Filter.wellFormed_of_of built
  | .join each built => Filter.wellFormed_of_join
    (Filter.allWellFormed_iff.2 fun member among => (each member among).wellFormed) built
  | .member whole among => Filter.allWellFormed_iff.1 whole.wellFormed.2 filter among
  | .node whole among => Filter.allWellFormed_iff.1 whole.wellFormed filter among

/-- Every way to obtain a tree keeps it well formed. -/
theorem FilterTree.Obtainable.wellFormed {tree : FilterTree} : tree.Obtainable → tree.WellFormed
  | .empty => trivial
  | .single given => ⟨given.wellFormed, trivial⟩
  | .and before given => FilterTree.wellFormed_and before.wellFormed given.wellFormed
  | .or before given => FilterTree.wellFormed_or before.wellFormed given.wellFormed
  | .addWhere before ran => FilterTree.wellFormed_addWhere before.wellFormed ran
  | .ofJson read => FilterTree.wellFormed_of_ofJson read

end

theorem Operand.coerce_eq_error {operand : Operand} {type : FieldType} {cause : ExpressionError}
    (failed : operand.coerce type = .error cause) : cause = .coercion operand type.dataType := by
  unfold coerce at failed
  split at failed <;> cases failed
  rfl

namespace Leaf

variable {leaf : Leaf} {field : ResolvedField} {cause : ExpressionError}

/-- A well-formed leaf has an operand, whatever its operator. -/
theorem exists_operand (ready : leaf.WellFormed) :
    ∃ operand ∈ leaf.operands, leaf.operand = .ok operand := by
  obtain ⟨path, operator, operands⟩ := leaf
  cases operands with
  | nil => cases operator <;> cases ready
  | cons operand rest => exact ⟨operand, List.mem_cons_self, rfl⟩

/-- What a leaf that has its operands can be refused for: an operand without a meaning for the
field, or an operator that does not apply to the field. -/
def Refused (leaf : Leaf) (field : ResolvedField) (cause : ExpressionError) : Prop :=
  (∃ operand ∈ leaf.operands, ∃ target, cause = .coercion operand target) ∨
    cause = .notComparable field.dataType ∨ cause = .typeMismatch leaf.operator field.dataType

theorem refused_of_comparisonTest {comparison : Comparison} {operand : Operand}
    (among : operand ∈ leaf.operands) (has : leaf.operand = .ok operand)
    (failed : leaf.comparisonTest comparison field = .error cause) : leaf.Refused field cause := by
  simp only [comparisonTest, has, ok_bind] at failed
  split at failed
  · cases failed
  · split at failed
    · cases failed
      exact .inr (.inl rfl)
    · cases meant : operand.coerce field.type with
      | ok value =>
        rw [meant] at failed
        cases failed
      | error reason =>
        rw [meant] at failed
        cases failed
        exact .inl ⟨operand, among, _, Operand.coerce_eq_error meant⟩

theorem refused_of_membershipTest (failed : leaf.membershipTest field = .error cause) :
    leaf.Refused field cause := by
  cases coerced : leaf.operands.mapM fun operand => operand.coerce field.type with
  | ok values =>
    rw [membershipTest, coerced] at failed
    cases failed
  | error reason =>
    rw [membershipTest, coerced] at failed
    cases failed
    obtain ⟨before, operand, after, split, -, refused⟩ := mapM_eq_error_iff.1 coerced
    exact .inl ⟨operand, by simp [split], _, Operand.coerce_eq_error refused⟩

theorem refused_of_containmentTest {operand : Operand} (among : operand ∈ leaf.operands)
    (has : leaf.operand = .ok operand) (failed : leaf.containmentTest field = .error cause) :
    leaf.Refused field cause := by
  simp only [containmentTest, has, ok_bind] at failed
  split at failed
  · cases failed
    exact .inr (.inr rfl)
  · split at failed
    · cases failed
      exact .inl ⟨operand, among, _, rfl⟩
    · cases failed

/-- No test of a well-formed leaf ends for want of an operand. -/
theorem refused_of_test (ready : leaf.WellFormed) (failed : leaf.test field = .error cause) :
    leaf.Refused field cause := by
  obtain ⟨operand, among, has⟩ := exists_operand ready
  unfold test at failed
  split at failed
  · exact refused_of_comparisonTest among has failed
  · split at failed
    · exact refused_of_membershipTest failed
    · exact refused_of_containmentTest among has failed

end Leaf

namespace Filter

mutual

theorem wellFormed_of_mem_leaves {leaf : Leaf} : ∀ filter : Filter, filter.WellFormed →
    leaf ∈ filter.leaves → leaf.WellFormed
  | .leaf question, ready, among => by
    cases List.mem_singleton.1 among
    exact ready
  | .group _ members, ready, among => wellFormed_of_mem_leavesOfAll members ready.2 among

theorem wellFormed_of_mem_leavesOfAll {leaf : Leaf} : ∀ members : List Filter,
    AllWellFormed members → leaf ∈ leavesOfAll members → leaf.WellFormed
  | member :: rest, ready, among => by
    rcases List.mem_append.1 among with first | later
    · exact wellFormed_of_mem_leaves member ready.1 first
    · exact wellFormed_of_mem_leavesOfAll rest ready.2 later

end

end Filter

section Guarded

variable {ν π α : Type} {m : Type → Type} [Monad m]

/-- The builder that gives up instead, when it is asked for a predicate of everything or to join
fewer than two parts. -/
def Builder.guarded (builder : Builder m π) (givenUp : m π) : Builder m π where
  always := givenUp
  test := builder.test
  all parts := if 2 ≤ parts.length then builder.all parts else givenUp
  any parts := if 2 ≤ parts.length then builder.any parts else givenUp

variable {builder : Builder m π} {givenUp : m π}

theorem Builder.join_guarded {connective : Connective} {parts : List π} (some : parts ≠ []) :
    (builder.guarded givenUp).join connective parts = builder.join connective parts := by
  match parts, some with
  | [_], _ => rfl
  | first :: second :: rest, _ =>
    have several : 2 ≤ (first :: second :: rest).length := by simp
    cases connective with
    | and => simp only [join, guarded, if_pos several]
    | or => simp only [join, guarded, if_pos several]

variable {resolve : Resolver ν} {root : String}

namespace Filter

/-- What comes after the compilation of filters matters only for as many predicates as there are
filters. -/
theorem compileAll_bind_congr [LawfulMonad m] {members : List Filter}
    {next other : List π → Compilation ν m α}
    (same : ∀ parts, parts.length = members.length → next parts = other parts) :
    compileAll builder resolve root members >>= next =
      compileAll builder resolve root members >>= other := by
  induction members generalizing next other with
  | nil => simp [compileAll, same [] rfl]
  | cons member rest ih =>
    simp only [compileAll, bind_assoc, pure_bind]
    refine bind_congr fun part => ?_
    exact ih fun parts size => same (part :: parts) (by simp [size])

theorem join_compileAll_guarded [LawfulMonad m] {connective : Connective} {members : List Filter}
    (some : members ≠ []) :
    (compileAll builder resolve root members >>= fun parts =>
      (builder.guarded givenUp).join connective parts : Compilation ν m π) =
      compileAll builder resolve root members >>= fun parts => builder.join connective parts := by
  -- In an arbitrary monad nothing is known of the parts but their number.
  apply compileAll_bind_congr
  intro parts size
  have nonempty : parts ≠ [] := by
    rw [← List.length_pos_iff, size]
    exact List.length_pos_iff.2 some
  rw [Builder.join_guarded nonempty]

mutual

/-- For a well-formed filter a guarded builder never gives up. -/
theorem compile_guarded [LawfulMonad m] : ∀ filter : Filter, filter.WellFormed →
    compile (builder.guarded givenUp) resolve root filter = compile builder resolve root filter
  | .leaf _, _ => rfl
  | .group connective members, ready => by
    rw [compile, compile, compileAll_guarded members ready.2]
    exact join_compileAll_guarded ready.1

theorem compileAll_guarded [LawfulMonad m] : ∀ members : List Filter, AllWellFormed members →
    compileAll (builder.guarded givenUp) resolve root members =
      compileAll builder resolve root members
  | [], _ => rfl
  | member :: rest, ready => by
    rw [compileAll, compileAll, compile_guarded member ready.1, compileAll_guarded rest ready.2]

end

end Filter

namespace FilterTree

/-- For a well-formed tree with nodes a guarded builder never gives up. -/
theorem compile_guarded [LawfulMonad m] {tree : FilterTree} (ready : tree.WellFormed)
    (some : tree.nodes ≠ []) :
    tree.compile (builder.guarded givenUp) resolve root = tree.compile builder resolve root := by
  rw [compile, compile, Filter.compileAll_guarded tree.nodes ready]
  exact Filter.join_compileAll_guarded some

/-- Of the empty tree a builder makes the predicate of everything. -/
theorem compile_empty [LawfulMonad m] :
    empty.compile builder resolve root = liftM builder.always := by
  simp [compile, empty, Filter.compileAll, Builder.join]

end FilterTree

end Guarded

namespace FilterTree

/-- Compilation finds the operand that a test asks for, and asks no builder for a predicate of
everything, unless the tree is empty, or to join fewer than two parts. -/
structure SafeToCompile (tree : FilterTree) : Prop where
  operand : ∀ leaf ∈ tree.leaves, ∃ operand ∈ leaf.operands, leaf.operand = .ok operand
  refused : ∀ leaf ∈ tree.leaves, ∀ field cause, leaf.test field = .error cause →
    leaf.Refused field cause
  always : tree.nodes = [] → ∀ {ν π : Type} {m : Type → Type} [Monad m] [LawfulMonad m]
    (builder : Builder m π) (resolve : Resolver ν) (root : String),
      tree.compile builder resolve root = liftM builder.always
  joins : tree.nodes ≠ [] → ∀ {ν π : Type} {m : Type → Type} [Monad m] [LawfulMonad m]
    (builder : Builder m π) (givenUp : m π) (resolve : Resolver ν) (root : String),
      tree.compile (builder.guarded givenUp) resolve root = tree.compile builder resolve root

theorem safeToCompile_of_wellFormed {tree : FilterTree} (ready : tree.WellFormed) :
    tree.SafeToCompile where
  operand leaf among :=
    Leaf.exists_operand (Filter.wellFormed_of_mem_leavesOfAll tree.nodes ready among)
  refused leaf among field cause failed :=
    Leaf.refused_of_test (Filter.wellFormed_of_mem_leavesOfAll tree.nodes ready among) failed
  always none := by
    obtain ⟨nodes⟩ := tree
    cases none
    intros
    exact compile_empty
  joins some := by
    intros
    exact compile_guarded ready some

/-- Whatever can be obtained is well formed, and every tree that can be obtained is safe to compile:
over every schema, from every entity, with every builder. Asking it for one more leaf leaves the
tree with the leaf, or the tree as it was if the leaf is refused. -/
theorem safeToCompile_of_obtainable :
    (∀ filter : Filter, filter.Obtainable → filter.WellFormed) ∧
    ∀ tree : FilterTree, tree.Obtainable → tree.WellFormed ∧ tree.SafeToCompile ∧
      ∀ field operator operands, (addWhere field operator operands).run.run tree =
        match tree.andWhere field operator operands with
        | .ok next => (.ok (), next)
        | .error cause => (.error cause, tree) :=
  ⟨fun _ given => given.wellFormed, fun tree given =>
    ⟨given.wellFormed, safeToCompile_of_wellFormed given.wellFormed, run_addWhere tree⟩⟩

/-- A document that is read, a disjunction with a member of a group, a leaf that is refused and one
that is not. -/
theorem safeToCompile_of_obtainable_mixed :
    let adult : Leaf := ⟨"age", .gte, [.int 18]⟩
    let young : Leaf := ⟨"age", .lt, [.int 65]⟩
    let named : Leaf := ⟨"name", .oneOf, [.str "Ann", .null]⟩
    let group : Filter := .group .or [.leaf named, .leaf adult]
    let tree : FilterTree := ⟨[.group .or [.group .and [.leaf adult, .leaf young], .leaf named],
      .leaf young]⟩
    (group.Obtainable ∧ group.WellFormed) ∧ tree.Obtainable ∧ tree.WellFormed ∧
      tree.SafeToCompile ∧
      (addWhere "age" .oneOf []).run.run tree = (.error (.arityMismatch .oneOf 0), tree) := by
  intro adult young named group tree
  have ofNamed : Filter.of "name" .oneOf [.str "Ann", .null] = .ok (.leaf named) := rfl
  have ofAdult : Leaf.of "age" .gte [.int 18] = .ok adult := rfl
  have joined : Filter.join .or [.leaf named, .leaf adult] = .ok group := rfl
  have grouped : group.Obtainable :=
    .join (List.forall_mem_cons.2 ⟨.of ofNamed, List.forall_mem_singleton.2 (.leaf ofAdult)⟩) joined
  have read : ofJson (.obj [("age", .obj [("$gte", .num (.int 18 (by decide))),
      ("$lt", .num (.int 65 (by decide)))])]) = .ok ⟨[.leaf adult, .leaf young]⟩ := rfl
  have widened := (Obtainable.ofJson read).or (grouped.member List.mem_cons_self)
  have refused := widened.addWhere (run_addWhere _ "name" .eq [])
  have given : tree.Obtainable := refused.addWhere (run_addWhere _ "age" .lt [.int 65])
  obtain ⟨filters, trees⟩ := safeToCompile_of_obtainable
  obtain ⟨ready, safe, adds⟩ := trees tree given
  exact ⟨⟨grouped, filters group grouped⟩, given, ready, safe, adds "age" .oneOf []⟩

end FilterTree

end FilterQuery
