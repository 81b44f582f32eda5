import Mathlib.Data.List.Induction
import Mathlib.Data.List.Nodup
import FilterQuery.Proofs.Schema.Paths
import FilterQuery.Proofs.Sql.Rendering
/-! The joins of a query under requests in any order. A request for a column or for a test may add
joins, always at the end, and only along references that its field leads through. So the joins are
numbered in the order in which they are added, each stands behind the joins of all beginnings of
its path, and it refers to the table of the entity that its path leads to. -/
namespace FilterQuery.Sql

/-- A request to the builder of texts. -/
inductive Request where
  | column (field : ResolvedField)
  | test (field : ResolvedField) (question : Test)
  | always
  | all (parts : List (List Fragment))
  | any (parts : List (List Fragment))

namespace Request

/-- What the builder does for a request. -/
def action (schema : Schema) : Request → StateM Bindings (List Fragment)
  | .column field => Sql.column schema field
  | .test field question => (textBuilder schema).test field question
  | .always => (textBuilder schema).always
  | .all parts => (textBuilder schema).all parts
  | .any parts => (textBuilder schema).any parts

/-- The field that a request is about. -/
def field? : Request → Option ResolvedField
  | .column field => some field
  | .test field _ => some field
  | _ => none

/-- The field of a request is what the schema says of a path from the root. -/
def Resolved (schema : Schema) (root : String) (request : Request) : Prop :=
  ∀ field, request.field? = some field → ∃ path, schema.resolve root path = .ok field

end Request

/-- The joins and parameters after these requests, the first of which finds none. -/
def bindingsAfter (schema : Schema) (requests : List Request) : Bindings :=
  requests.foldl (fun bindings request => ((request.action schema).run bindings).2) .empty

/-- How a join is made that stands behind these. -/
structure Join.Registered (schema : Schema) (root : String) (earlier : List Join) (join : Join) :
    Prop where
  label : join.label = "t_" ++ toString (earlier.length + 1)
  /-- What the path leads through has been joined before. -/
  beginnings : ∀ front, front ≠ [] → front <+: join.path → front ≠ join.path →
    ∃ other ∈ earlier, other.path = front
  parent_of_root : join.path.length = 1 → join.parent = "t"
  parent_of_join : ∀ other ∈ earlier, other.path = join.path.dropLast → join.parent = other.label
  foreignKey : ∀ name, join.path.getLast? = some name → join.foreignKey = name ++ "_id"
  /-- The path leads to the joined entity. -/
  target : ∃ start steps entity, schema.get? root = some start ∧
    Leads schema start steps entity ∧ steps.map Step.field = join.path ∧
    join.table = entity.table ∧ join.identifier = entity.identifier?.getD "id"

/-- Joins of distinct paths, each made as it is to be made behind the ones before it. -/
structure Registry (schema : Schema) (root : String) (joins : List Join) : Prop where
  nonempty : ∀ join ∈ joins, join.path ≠ []
  distinct : (joins.map Join.path).Nodup
  registered : ∀ (index : Nat) (join : Join), joins[index]? = some join →
    join.Registered schema root (joins.take index)

variable {schema : Schema} {root : String} {joins : List Join}

theorem registry_nil (schema : Schema) (root : String) : Registry schema root [] := by
  refine ⟨by simp, List.nodup_nil, ?_⟩
  intro index join found
  simp at found

namespace Registry

theorem concat (registry : Registry schema root joins) {join : Join} (some : join.path ≠ [])
    (fresh : join.path ∉ joins.map Join.path) (registered : join.Registered schema root joins) :
    Registry schema root (joins ++ [join]) := by
  refine ⟨?_, ?_, ?_⟩
  · intro other inside
    rcases List.mem_append.1 inside with earlier | last
    · exact registry.nonempty other earlier
    · rw [List.mem_singleton.1 last]
      exact some
  · rw [List.map_append, List.map_singleton]
    exact nodup_concat registry.distinct fresh
  · intro index other found
    rcases Nat.lt_trichotomy index joins.length with earlier | rfl | beyond
    · rw [List.getElem?_append_left earlier] at found
      rw [List.take_append_of_le_length (Nat.le_of_lt earlier)]
      exact registry.registered index other found
    · rw [List.getElem?_concat_length] at found
      cases found
      rwa [List.take_left]
    · have past : joins.length + 1 ≤ index := beyond
      rw [List.getElem?_eq_none (by simpa using past)] at found
      cases found

/-- A path has one join. -/
theorem eq_of_path (registry : Registry schema root joins) {join other : Join}
    (inside : join ∈ joins) (otherInside : other ∈ joins) (same : join.path = other.path) :
    join = other :=
  List.inj_on_of_nodup_map registry.distinct inside otherInside same

/-- A path with a label has a join, and so have its beginnings. -/
theorem exists_join_of_prefix (registry : Registry schema root joins) {path front : List String}
    {label : String} (known : label? joins path = some label) (some : front ≠ [])
    (begins : front <+: path) : ∃ join ∈ joins, join.path = front := by
  have somePath : path ≠ [] := by
    rintro rfl
    exact some (List.prefix_nil.1 begins)
  rw [label?_of_ne_nil somePath] at known
  obtain ⟨join, found, -⟩ := Option.map_eq_some_iff.1 known
  have inside := List.mem_of_find?_eq_some found
  have here : join.path = path := by simpa using List.find?_some found
  by_cases whole : front = path
  · exact ⟨join, inside, here.trans whole.symm⟩
  · obtain ⟨index, atIndex⟩ := List.mem_iff_getElem?.1 inside
    rw [← here] at begins whole
    obtain ⟨other, earlier, otherPath⟩ :=
      (registry.registered index join atIndex).beginnings front some begins whole
    exact ⟨other, List.mem_of_mem_take earlier, otherPath⟩

/-- Joining what a reference leads to keeps the registry. -/
theorem join (bindings : Bindings) (registry : Registry schema root bindings.joins)
    {start current next : Entity} {walked : List Step} {name target label : String}
    (declared : schema.get? root = some start) (leads : Leads schema start walked current)
    (refers : current.fieldType? name = some (.entity target))
    (found : schema.get? target = some next)
    (known : label? bindings.joins (walked.map Step.field) = some label) :
    Registry schema root ((Sql.join schema (walked.map Step.field ++ [name]) label next.name).run
      bindings).2.joins := by
  cases joined : bindings.join? (walked.map Step.field ++ [name]) with
  | some other => rwa [run_join_of_found schema joined]
  | none =>
    rw [run_join_of_fresh schema joined]
    have self : schema.get? next.name = some next := Schema.get?_name found
    refine registry.concat (by simp [Join.of]) ?_ ⟨rfl, ?_, ?_, ?_, ?_, ?_⟩
    · intro inside
      obtain ⟨other, among, same⟩ := List.mem_map.1 inside
      exact List.find?_eq_none.1 joined other among (beq_iff_eq.2 same)
    · intro front some begins proper
      rcases List.prefix_concat_iff.1 begins with whole | begins
      · exact absurd whole proper
      · exact registry.exists_join_of_prefix known some begins
    · intro single
      have atRoot : walked.map Step.field = [] := by simpa [Join.of] using single
      rw [atRoot] at known
      exact (Option.some.inj known).symm
    · intro other among same
      have here : other.path = walked.map Step.field := by
        rw [same]
        exact List.dropLast_concat
      have some : walked.map Step.field ≠ [] := by
        rw [← here]
        exact registry.nonempty other among
      rw [label?_of_ne_nil some] at known
      obtain ⟨parent, first, rfl⟩ := Option.map_eq_some_iff.1 known
      have parentPath : parent.path = walked.map Step.field := by simpa using List.find?_some first
      have same : parent = other :=
        registry.eq_of_path (List.mem_of_find?_eq_some first) among (parentPath.trans here.symm)
      rw [← same]
      rfl
    · intro last ends
      have same : name = last := by simpa [Join.of] using ends
      rw [Join.foreignKey_of, same]
      rfl
    · refine ⟨start, walked ++ [⟨current.name, name⟩], next, declared,
        leads.further refers found, by simp [Join.of], ?_, ?_⟩
      · exact Join.table_of schema self _ _ _
      · exact Join.identifier_of schema self _ _ _

/-- Joining what the steps of a path lead through keeps the registry. -/
theorem joinSteps {start current last : Entity} {walked steps : List Step} {path : List String}
    {label : String} {bindings : Bindings} (registry : Registry schema root bindings.joins)
    (declared : schema.get? root = some start) (leads : Leads schema start walked current)
    (here : walked.map Step.field = path) (onwards : Leads schema current steps last)
    (name : String) (known : label? bindings.joins path = some label) :
    Registry schema root ((Sql.joinSteps schema path label
      (steps ++ [⟨last.name, name⟩])).run bindings).2.joins := by
  induction onwards generalizing walked path label bindings with
  | here entity => exact registry
  | @through entity next last reference target steps refers found onwards ih =>
    subst here
    obtain ⟨field, rest, split⟩ := onwards.exists_head name
    have some : walked.map Step.field ++ [reference] ≠ [] := by simp
    obtain ⟨nextLabel, added, ran, knownNext⟩ := run_join schema some label next.name bindings
    have registryNext := registry.join bindings declared leads refers found known
    rw [ran] at registryNext
    have later := ih registryNext (leads.further refers found) (by simp) knownNext
    rw [split] at later
    rw [List.cons_append, split, Sql.joinSteps, run_bind_of_run ran]
    exact later

/-- Reading a column keeps the registry. -/
theorem column {bindings : Bindings} (registry : Registry schema root bindings.joins)
    {path : String} {field : ResolvedField} (resolved : schema.resolve root path = .ok field) :
    Registry schema root ((Sql.column schema field).run bindings).2.joins := by
  obtain ⟨start, declared, lies⟩ := Schema.liesAt_of_resolve resolved
  cases lies with
  | plain leads => exact registry.joinSteps declared (.here start) rfl leads _ rfl
  | reference leads => exact registry.joinSteps declared (.here start) rfl leads _ rfl

end Registry

/-- A test adds the joins of its column. -/
theorem joins_testText (schema : Schema) (field : ResolvedField) (test : Test)
    (bindings : Bindings) :
    ((testText schema field test).run bindings).2.joins =
      ((column schema field).run bindings).2.joins := by
  rcases ran : (column schema field).run bindings with ⟨fragments, after⟩
  rw [testText, run_bind_of_run ran]
  cases test with
  | oneOf operands => rw [run_bind_of_run (run_bindAll operands after)]; rfl
  | like pattern ignoreCase => cases ignoreCase <;> rfl
  | _ => rfl

/-- A request adds joins for its field, if it is about one. -/
theorem joins_action (schema : Schema) (request : Request) (bindings : Bindings) :
    ((request.action schema).run bindings).2.joins =
      match request.field? with
      | some field => ((column schema field).run bindings).2.joins
      | none => bindings.joins := by
  cases request with
  | test field question => exact joins_testText schema field question bindings
  | _ => rfl

/-- A request leaves the joins so far as they are. -/
theorem joins_prefix_action (schema : Schema) (request : Request) (bindings : Bindings) :
    bindings.joins <+: ((request.action schema).run bindings).2.joins := by
  rw [joins_action]
  cases request.field? with
  | none => exact List.prefix_refl _
  | some field =>
    obtain ⟨fragments, added, ran, -⟩ := run_column schema field bindings
    simp only [ran]
    exact List.prefix_append _ _

/-- A request for a resolved field keeps the registry. -/
theorem Registry.action {bindings : Bindings} (registry : Registry schema root bindings.joins)
    {request : Request} (resolved : request.Resolved schema root) :
    Registry schema root ((request.action schema).run bindings).2.joins := by
  rw [joins_action]
  cases about : request.field? with
  | none => exact registry
  | some field =>
    obtain ⟨path, resolved⟩ := resolved field about
    exact registry.column resolved

theorem bindingsAfter_concat (schema : Schema) (requests : List Request) (request : Request) :
    bindingsAfter schema (requests ++ [request]) =
      ((request.action schema).run (bindingsAfter schema requests)).2 := by
  simp [bindingsAfter]

theorem registry_bindingsAfter {requests : List Request}
    (resolved : ∀ request ∈ requests, request.Resolved schema root) :
    Registry schema root (bindingsAfter schema requests).joins := by
  induction requests using List.reverseRecOn with
  | nil => exact registry_nil schema root
  | append_singleton requests request ih =>
    obtain ⟨before, last⟩ := List.forall_mem_append.1 resolved
    rw [bindingsAfter_concat]
    exact (ih before).action (last request (List.mem_singleton_self request))

/-- The joins after some requests stay as they are. -/
theorem joins_prefix_bindingsAfter {earlier requests : List Request}
    (begins : earlier <+: requests) :
    (bindingsAfter schema earlier).joins <+: (bindingsAfter schema requests).joins := by
  obtain ⟨later, rfl⟩ := begins
  induction later using List.reverseRecOn with
  | nil => simp
  | append_singleton later request ih =>
    rw [← List.append_assoc, bindingsAfter_concat]
    exact ih.trans (joins_prefix_action schema request _)

/-- Reading a column gives the label of the join that the references of the field lead to, and the
name of the column there. -/
theorem text_column (schema : Schema) (field : ResolvedField) (bindings : Bindings) :
    ∃ label, label? ((column schema field).run bindings).2.joins (field.steps.map Step.field) =
        some label ∧
      ∀ dialect : Dialect, dialect.text ((column schema field).run bindings).1 =
        String.ofList (dialect.quote label) ++ "." ++
          String.ofList (dialect.quote (columnName field)) := by
  obtain ⟨fragments, added, ran, text⟩ := run_column schema field bindings
  simp only [ran]
  obtain ⟨label, known, -⟩ :=
    Option.map_eq_some_iff.1 (text .postgres _ (List.prefix_refl (bindings.joins ++ added)))
  refine ⟨label, known, ?_⟩
  intro dialect
  have written := text dialect _ (List.prefix_refl (bindings.joins ++ added))
  rw [columnText?, known] at written
  exact (Option.some.inj written).symm

/-- Whatever is requested, and in whatever order, the joins so far are registered along the
references that the fields of the requests lead through, and later requests leave them as they are.
A column is read from the join of the references that its field leads through, or from the root if
there are none; a reference at the end of a path is read from its own column. -/
theorem joins_registered_by_requests (schema : Schema) (root : String) (requests : List Request)
    (resolved : ∀ request ∈ requests, request.Resolved schema root) :
    (∀ earlier, earlier <+: requests →
      Registry schema root (bindingsAfter schema earlier).joins ∧
      (bindingsAfter schema earlier).joins <+: (bindingsAfter schema requests).joins) ∧
    ∀ earlier field, ∃ label name,
      (∀ dialect : Dialect,
        dialect.text ((Request.action schema (.column field)).run
          (bindingsAfter schema earlier)).1 =
        String.ofList (dialect.quote label) ++ "." ++ String.ofList (dialect.quote name)) ∧
      (field.steps = [] → label = "t") ∧
      (field.steps ≠ [] → ∃ join ∈ (bindingsAfter schema (earlier ++ [.column field])).joins,
        join.path = field.steps.map Step.field ∧ join.label = label) ∧
      (field.reference? = none → name = field.last.field) ∧
      (field.reference? ≠ none → name = field.target.field ++ "_id") := by
  refine ⟨?_, ?_⟩
  · intro earlier begins
    have resolvedEarlier : ∀ request ∈ earlier, request.Resolved schema root :=
      fun request inside => resolved request (begins.subset inside)
    exact ⟨registry_bindingsAfter resolvedEarlier, joins_prefix_bindingsAfter begins⟩
  · intro earlier field
    obtain ⟨label, known, text⟩ := text_column schema field (bindingsAfter schema earlier)
    refine ⟨label, columnName field, text, ?_, ?_, ?_, ?_⟩
    · intro direct
      rw [direct] at known
      exact (Option.some.inj known).symm
    · intro some
      rw [label?_of_ne_nil (by simpa using some)] at known
      obtain ⟨join, found, rfl⟩ := Option.map_eq_some_iff.1 known
      rw [bindingsAfter_concat]
      exact ⟨join, List.mem_of_find?_eq_some found, by simpa using List.find?_some found, rfl⟩
    · intro plain
      simp [columnName, plain, ResolvedField.last]
    · intro refers
      have reference : field.reference?.isSome = true := Option.isSome_iff_ne_none.2 refers
      rw [columnName, if_pos reference]
      rfl

/-- A path with an underscore in a name, one with a point in the same place, and a reference that
shares a join with it. -/
theorem joins_registered_for_similar_paths :
    let schema : Schema :=
      ⟨[⟨"X", none, some "id", [⟨"id", .integer⟩, ⟨"name", .string⟩]⟩,
        ⟨"Y", none, some "id", [⟨"id", .integer⟩, ⟨"b", .entity "X"⟩]⟩,
        ⟨"Z", none, none, [⟨"a", .entity "Y"⟩, ⟨"a_b", .entity "X"⟩]⟩]⟩
    let direct : ResolvedField :=
      ⟨"a_b.name", [⟨"Z", "a_b"⟩], ⟨"X", "name"⟩, none, .string⟩
    let nested : ResolvedField :=
      ⟨"a.b.name", [⟨"Z", "a"⟩, ⟨"Y", "b"⟩], ⟨"X", "name"⟩, none, .string⟩
    let reference : ResolvedField :=
      ⟨"a.b", [⟨"Z", "a"⟩], ⟨"Y", "b"⟩, some ⟨"X", "id"⟩, .integer⟩
    let requests : List Request := [.column direct, .test nested .isNull, .column reference]
    (∀ request ∈ requests, request.Resolved schema "Z") ∧
    Registry schema "Z" (bindingsAfter schema requests).joins ∧
    (bindingsAfter schema requests).joins =
      [⟨["a_b"], "t_1", "x", "t", "a_b_id", "id"⟩, ⟨["a"], "t_2", "y", "t", "a_id", "id"⟩,
        ⟨["a", "b"], "t_3", "x", "t_2", "b_id", "id"⟩] ∧
    ∃ label, (∀ dialect : Dialect,
      dialect.text ((Request.action schema (.column reference)).run
        (bindingsAfter schema requests)).1 =
      String.ofList (dialect.quote label) ++ "." ++ String.ofList (dialect.quote "b_id")) ∧
      ∃ join ∈ (bindingsAfter schema (requests ++ [.column reference])).joins,
        join.path = ["a"] ∧ join.label = label := by
  intro schema direct nested reference requests
  have resolved : ∀ request ∈ requests, request.Resolved schema "Z" := by
    intro request inside field about
    simp only [requests, List.mem_cons, List.not_mem_nil, or_false] at inside
    rcases inside with rfl | rfl | rfl
    · cases about
      exact ⟨"a_b.name", rfl⟩
    · cases about
      exact ⟨"a.b.name", rfl⟩
    · cases about
      exact ⟨"a.b", rfl⟩
  obtain ⟨registered, columns⟩ := joins_registered_by_requests schema "Z" requests resolved
  obtain ⟨label, name, text, -, joined, -, referenced⟩ := columns requests reference
  have column : name = "b_id" := referenced (by simp [reference])
  rw [column] at text
  exact ⟨resolved, (registered requests (List.prefix_refl _)).1, by decide +kernel, label, text,
    joined (by simp [reference])⟩

end FilterQuery.Sql
