import Mathlib.Data.List.Induction
import FilterQuery.Proofs.Database.Reachable
import FilterQuery.Proofs.Filter.Caching
import FilterQuery.Sql.Select
/-! What is remembered is never seen. A resolver is asked for fields and for conditions,
one enquiry after the other, and some of them fail. Over what the earlier ones left
behind, each enquiry is answered as if the schema had been asked; only the size of the
cache tells what has been found. So a database answers queries from its schema and its
records, whatever it was asked before. -/
namespace FilterQuery

/-- What a resolver is used for: to find a field, or to compile a tree into a condition on records
or into the text of one. A text has the names of a schema and goes on from what has been bound. -/
inductive Enquiry where
  | field (root path : String)
  | condition (root : String) (tree : FilterTree)
  | text (root : String) (tree : FilterTree) (names : Schema) (bound : Sql.Bindings)

/-- What an enquiry gives. A text also binds joins and parameters, even if it fails. -/
inductive Enquiry.Answer where
  | field (answer : Except ExpressionError ResolvedField)
  | condition (answer : Except ExpressionError RecordCondition)
  | text (answer : Except ExpressionError (List Sql.Fragment)) (bound : Sql.Bindings)

namespace Enquiry

/-- The answer to an enquiry, and the notes after it. -/
def ask {ν : Type} (resolve : Resolver ν) (notes : ν) : Enquiry → Answer × ν
  | field root path =>
    let (answer, notes) := (resolve root path).start notes
    (.field answer, notes)
  | condition root tree =>
    let (answer, notes) := (tree.compileForRecords resolve root).start notes
    (.condition answer, notes)
  | text root tree names bound =>
    let compilation := tree.compile (Sql.textBuilder names) resolve root
    let ((answer, notes), bound) := (compilation.start notes).run bound
    (.text answer bound, notes)

theorem ask_field_resolver (schema : Schema) (root path : String) :
    ((field root path).ask schema.resolver ()).1 = .field (schema.resolve root path) := rfl

/-- The entities and paths of the fields that are found for an enquiry. -/
def found (schema : Schema) : Enquiry → List (String × String)
  | field root path => schema.found root path
  | condition root tree | text root tree _ _ => schema.foundFor root tree.leaves

/-- One enquiry over a cache is answered as by the schema, and what it found is remembered. -/
theorem ask_cachedResolver {schema : Schema} {keys : List (String × String)} {cache : FieldCache}
    (remembers : cache.Remembers schema keys) (enquiry : Enquiry) :
    ∃ after, after.Remembers schema (keys ++ enquiry.found schema) ∧
      enquiry.ask schema.cachedResolver cache = ((enquiry.ask schema.resolver ()).1, after) := by
  cases enquiry with
  | field root path =>
    obtain ⟨after, kept, answered⟩ := remembers.start_cachedResolver root path
    refine ⟨after, kept, ?_⟩
    rw [ask, answered]
    rfl
  | condition root tree =>
    obtain ⟨after, kept, mirrors⟩ := tree.exists_mirrors recordBuilder root remembers
    have answered : (tree.compileForRecords schema.cachedResolver root).start cache =
      (((tree.compileForRecords schema.resolver root).start ()).1, after) := mirrors
    refine ⟨after, kept, ?_⟩
    rw [ask, answered]
    rfl
  | text root tree names bound =>
    obtain ⟨after, kept, mirrors⟩ := tree.exists_mirrors (Sql.textBuilder names) root remembers
    have mirrors : (tree.compile (Sql.textBuilder names) schema.cachedResolver root).start cache =
      _ := mirrors
    refine ⟨after, kept, ?_⟩
    simp only [ask, mirrors]
    rfl

end Enquiry

/-- What is remembered after these enquiries. -/
def Schema.cacheAfter (schema : Schema) (earlier : List Enquiry) : FieldCache :=
  earlier.foldl (fun cache enquiry => (enquiry.ask schema.cachedResolver cache).2) .empty

theorem Schema.cacheAfter_append_singleton (schema : Schema) (before : List Enquiry)
    (last : Enquiry) : schema.cacheAfter (before ++ [last]) =
      (last.ask schema.cachedResolver (schema.cacheAfter before)).2 := by
  simp [cacheAfter, List.foldl_append]

/-- After any enquiries, the fields that were found for them are remembered, and no others. -/
theorem Schema.remembers_cacheAfter (schema : Schema) (earlier : List Enquiry) :
    (schema.cacheAfter earlier).Remembers schema (earlier.flatMap (Enquiry.found schema)) := by
  -- reverse induction: the last enquiry is asked over what the ones before it left
  induction earlier using List.reverseRecOn with
  | nil => exact FieldCache.remembers_empty schema
  | append_singleton before last ih =>
    obtain ⟨after, kept, answered⟩ := last.ask_cachedResolver ih
    rw [cacheAfter_append_singleton, answered]
    simpa using kept

namespace Database

section Rows

variable {tables others : Tables} (same : ∀ entity, tables.rows entity = others.rows entity)
variable (schema : Schema) (entity : String) (tree : FilterTree)

include same

/-- Of the tables, what is found for a filter depends on the rows alone. -/
theorem foundOver_congr :
    foundOver schema tables entity tree = foundOver schema others entity tree := by
  rw [foundOver, foundOver, planOver, planOver, same]

theorem pageOver_congr (request : PageRequest) :
    pageOver schema tables entity tree request = pageOver schema others entity tree request := by
  rw [pageOver, pageOver, foundOver_congr same]

/-- A query has one answer over all databases with this schema and these rows. -/
theorem Offered.shared_answer {α : Type} {query : Query α} (offered : Offered query) :
    ∃ answer, Answers (Serves schema tables) query answer ∧
      Answers (Serves schema others) query answer := by
  cases offered with
  | resolve root path => exact ⟨_, resolve_answers root path, resolve_answers root path⟩
  | findAll entity tree =>
    refine ⟨_, findAll_answers entity tree, ?_⟩
    rw [foundOver_congr same]
    exact findAll_answers entity tree
  | count entity tree =>
    refine ⟨_, count_answers entity tree, ?_⟩
    rw [foundOver_congr same]
    exact count_answers entity tree
  | findPage entity tree request =>
    refine ⟨_, findPage_answers entity tree request, ?_⟩
    rw [pageOver_congr same]
    exact findPage_answers entity tree request

end Rows

/-- The cache is invisible. Over any schema, after any enquiries, the next one is answered as if
the schema were the resolver, and the size of the cache is the number of different entities and
paths that have been found. Databases over the schema that store the same records answer each query
alike, whatever they were asked before, and keep their records. -/
theorem cache_is_invisible (schema : Schema) :
    (∀ (earlier : List Enquiry) (enquiry : Enquiry),
      (enquiry.ask schema.cachedResolver (schema.cacheAfter earlier)).1 =
        (enquiry.ask schema.resolver ()).1) ∧
    (∀ earlier : List Enquiry, (schema.cacheAfter earlier).size =
      (earlier.flatMap (Enquiry.found schema)).dedup.length) ∧
    ∀ first second : Database, first.Reachable → second.Reachable →
      first.schema = schema → second.schema = schema →
      (∀ entity, first.tables.rows entity = second.tables.rows entity) →
      ∀ {α : Type} {query : Query α}, Offered query →
        (query.run.run first).1 = (query.run.run second).1 ∧
        (query.run.run first).2.tables = first.tables := by
  refine ⟨?_, ?_, ?_⟩
  · intro earlier enquiry
    obtain ⟨after, -, answered⟩ := enquiry.ask_cachedResolver (schema.remembers_cacheAfter earlier)
    rw [answered]
  · intro earlier
    exact (schema.remembers_cacheAfter earlier).size_eq
  · intro first second reachedFirst reachedSecond overFirst overSecond same α query offered
    have servesFirst := reachedFirst.serves
    have servesSecond := reachedSecond.serves
    rw [overFirst] at servesFirst
    rw [overSecond] at servesSecond
    obtain ⟨answer, answersFirst, answersSecond⟩ := offered.shared_answer same schema
    obtain ⟨leftFirst, kept, ranFirst⟩ := answersFirst first servesFirst
    obtain ⟨leftSecond, -, ranSecond⟩ := answersSecond second servesSecond
    rw [ranFirst, ranSecond]
    exact ⟨rfl, kept.tables_eq⟩

/-- A compilation that ends at its second leaf leaves one field behind. A database that was asked
between two insertions remembers it, another one does not, and both find the same records. -/
theorem cache_of_items_is_invisible :
    let item : Entity := ⟨"Item", none, none, [⟨"name", .string⟩, ⟨"price", .integer⟩]⟩
    let schema : Schema := ⟨[item]⟩
    let price : ResolvedField := ⟨"price", [], ⟨"Item", "price"⟩, none, .integer⟩
    let priced : Filter := .leaf ⟨"price", .eq, [.int 7]⟩
    let weighed : Filter := .leaf ⟨"weight", .eq, [.int 7]⟩
    let named : Filter := .leaf ⟨"name", .eq, [.str "a"]⟩
    let history : List Enquiry :=
      [.condition "Item" ⟨[priced, weighed, named]⟩, .field "Item" "weight",
        .text "Item" ⟨[priced]⟩ schema .empty]
    let record (name : String) : Record := ⟨[("name", .str name), ("price", .int 7)]⟩
    let quiet : Database := ⟨schema, .empty, [("Item", [record "a", record "b"])]⟩
    let asked : Database := { quiet with cache := FieldCache.empty.insert "Item" "price" price }
    (schema.cacheAfter history).size = 1 ∧
    ((Enquiry.field "Item" "price").ask schema.cachedResolver (schema.cacheAfter history)).1 =
      .field (.ok price) ∧
    quiet.Reachable ∧ asked.Reachable ∧
    ((findAll "Item" ⟨[named]⟩).run.run asked).1 = .ok [record "a"] := by
  intro item schema price priced weighed named history record quiet asked
  obtain ⟨answered, counted, alike⟩ := cache_is_invisible schema
  have found : history.flatMap (Enquiry.found schema) = [("Item", "price"), ("Item", "price")] :=
    rfl
  have resolved : schema.resolve "Item" "price" = .ok price := rfl
  let row (name : String) : Json := .obj [("name", .str name), ("price", .num (.int 7 (by decide)))]
  let holding (cache : FieldCache) : Database := ⟨schema, cache, [("Item", [record "a"])]⟩
  have opening : openEmpty schema = .ok ⟨schema, .empty, []⟩ := rfl
  have storedFirst : Database.insert ⟨schema, .empty, []⟩ "Item" (row "a") =
      .ok (1, holding .empty) := rfl
  have queried : ((findAll "Item" ⟨[priced, weighed]⟩).run.run (holding .empty)).2 =
      holding asked.cache := rfl
  have storedSecond (cache : FieldCache) :
      (holding cache).insert "Item" (row "b") = .ok (2, { quiet with cache }) := rfl
  have reachable : (holding .empty).Reachable := .next (.opened opening) (.stored storedFirst)
  have reachedQuiet : quiet.Reachable := .next reachable (.stored (storedSecond .empty))
  have reachedQueried : (holding asked.cache).Reachable := by
    rw [← queried]
    exact .next reachable (.asked (.findAll "Item" ⟨[priced, weighed]⟩) (holding .empty))
  have reachedAsked : asked.Reachable := .next reachedQueried (.stored (storedSecond asked.cache))
  have sameAnswer := (alike quiet asked reachedQuiet reachedAsked rfl rfl (fun _ => rfl)
    (.findAll "Item" ⟨[named]⟩)).1
  refine ⟨?_, ?_, reachedQuiet, reachedAsked, ?_⟩
  · rw [counted, found]
    decide
  · rw [answered, Enquiry.ask_field_resolver, resolved]
  · rw [← sameAnswer]
    rfl

end Database

end FilterQuery
