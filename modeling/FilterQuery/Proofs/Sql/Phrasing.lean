import FilterQuery.Proofs.Sql.Agreement
import FilterQuery.Proofs.Sql.Phrases
/-! The parts of a query are phrases: the text of a test on a column, that of a condition,
the clauses of joins, the columns to sort by, and the limits of a page. So the whole text
is one, with a placeholder for each parameter in their order, although the joins are
written before the condition and after it has been built. -/
namespace FilterQuery.Sql

variable {schema : Schema}

section Conditions

/-- The numbers of so many texts that one is one. -/
def ones (pairs : Nat) : List Nat := List.replicate (2 * pairs) 1

theorem ones_append (pairs more : Nat) : ones pairs ++ ones more = ones (pairs + more) := by
  rw [ones, ones, ones, List.replicate_append_replicate, Nat.mul_add]

theorem yields_placeholder (value : Value) (start : Nat) :
    Yields schema start (bind value) fun count fragment =>
      count = 1 ∧ fragment = .placeholder start := by
  intro bindings reached named
  refine ⟨.placeholder bindings.params.length, bindings.joins, [value], rfl, named, rfl, ?_⟩
  rw [reached]

theorem yields_bindAll (values : List Value) (start : Nat) :
    Yields schema start (bindAll values) fun count parts =>
      Phrase schema start count [] (separate ", " parts) := by
  induction values generalizing start with
  | nil => exact yields_pure (Phrase.nil schema start)
  | cons value rest ih =>
    apply yields_bind (yields_placeholder value start)
    rintro count fragment ⟨rfl, rfl⟩
    apply yields_bind (ih (start + 1))
    intro count parts phrase
    exact yields_pure ((Phrase.placeholder schema start).separate_cons (by decide) phrase)

/-- The column of a field is a phrase. -/
theorem Phrase.column {label column : String} (labelled : Nameable schema label)
    (columned : Nameable schema column) (start : Nat) :
    Phrase schema start 0 [] [.name label, .fixed ".", .name column] :=
  (Phrase.name labelled start).join "." (Phrase.name columned start)

theorem mem_joiningTexts_of_symbol (comparison : Comparison) :
    comparison.symbol ∈ joiningTexts := by
  cases comparison <;> decide

/-- The text of a test is a phrase with a placeholder for each of its operands. -/
theorem yields_testText {root : Entity} {field : ResolvedField} (declared : root ∈ schema.entities)
    (lies : field.LiesAt schema root) (test : Test) (start : Nat) :
    Yields schema start (testText schema field test) fun count fragments =>
      Phrase schema start count [] fragments := by
  apply yields_bind (yields_column declared lies start)
  rintro count fragments ⟨rfl, label, column, labelled, columned, rfl⟩
  have phrase := Phrase.column labelled columned start
  have nothing := Phrase.nil schema start
  cases test with
  | isNull => exact yields_pure (phrase.trail " IS NULL")
  | isNotNull => exact yields_pure (phrase.trail " IS NOT NULL")
  | compare comparison operand =>
    apply yields_bind (yields_placeholder operand start)
    rintro count fragment ⟨rfl, rfl⟩
    have operand := nothing.join " " (Phrase.placeholder schema start)
    have compared := nothing.join comparison.symbol operand (mem_joiningTexts_of_symbol comparison)
    exact yields_pure (phrase.join " " compared)
  | oneOf operands =>
    apply yields_bind (yields_bindAll operands start)
    intro count parts listed
    apply yields_pure
    have among := phrase.append (listed.enclose encloses_list) (by
      rintro last - next ⟨⟩
      exact .inr (by decide +kernel))
    rw [Nat.zero_add] at among
    rw [Nat.zero_add]
    exact among
  | like pattern ignoreCase =>
    apply yields_bind (yields_placeholder (.str pattern) start)
    rintro count fragment ⟨rfl, rfl⟩
    cases ignoreCase with
    | false =>
      exact yields_pure (phrase.join " LIKE " (Phrase.placeholder schema start))
    | true =>
      have ends : (Fragment.fixed ") LIKE ").endsTight = false := by decide +kernel
      have lowered := (phrase.enclose encloses_lower).append (Phrase.placeholder schema start) (by
        rintro last ⟨⟩ next -
        exact .inl ends)
      exact yields_pure lowered

mutual

/-- The text of a condition is a phrase. -/
theorem yields_assemble : ∀ condition : Condition ResolvedField,
    (∀ asked ∈ condition.tests, ∃ root ∈ schema.entities, asked.1.LiesAt schema root) →
    ∀ start, Yields schema start (condition.assemble (textBuilder schema)) fun count fragments =>
      ∃ pairs, Phrase schema start count (ones pairs) fragments
  | .always, _, start => by
    have truth := (Phrase.number schema start 1).join " = " (Phrase.number schema start 1)
    exact yields_pure ⟨1, truth⟩
  | .test field question, lies, start => by
    obtain ⟨root, declared, lies⟩ := lies (field, question) List.mem_cons_self
    have written := yields_testText declared lies question start
    exact yields_mono written fun count fragments phrase => ⟨0, phrase⟩
  | .all members, lies, start => by
    apply yields_bind (yields_assembleAll members lies " AND " (by decide) start)
    rintro count parts ⟨pairs, phrase⟩
    exact yields_pure ⟨pairs, phrase.enclose encloses_parentheses⟩
  | .any members, lies, start => by
    apply yields_bind (yields_assembleAll members lies " OR " (by decide) start)
    rintro count parts ⟨pairs, phrase⟩
    exact yields_pure ⟨pairs, phrase.enclose encloses_parentheses⟩

theorem yields_assembleAll : ∀ members : List (Condition ResolvedField),
    (∀ asked ∈ Condition.testsOfAll members,
      ∃ root ∈ schema.entities, asked.1.LiesAt schema root) →
    ∀ word, word ∈ joiningTexts → ∀ start,
      Yields schema start (Condition.assembleAll (textBuilder schema) members) fun count parts =>
        ∃ pairs, Phrase schema start count (ones pairs) (separate word parts)
  | [], _, _, _, start => yields_pure ⟨0, Phrase.nil schema start⟩
  | member :: rest, lies, word, joins, start => by
    rw [Condition.testsOfAll, List.forall_mem_append] at lies
    rw [Condition.assembleAll]
    apply yields_bind (yields_assemble member lies.1 start)
    rintro count part ⟨pairs, phrase⟩
    apply yields_bind (yields_assembleAll rest lies.2 word joins (start + count))
    rintro more parts ⟨morePairs, phrases⟩
    refine yields_pure ⟨pairs + morePairs, ?_⟩
    rw [← ones_append]
    exact phrase.separate_cons joins phrases

end

/-- The text of a tree is a phrase, and its joins name what a query may name. -/
theorem phrase_of_predicate {root : String} {tree : FilterTree} {fragments : List Fragment}
    {bindings : Bindings} (written : predicate schema root tree = .ok (fragments, bindings)) :
    (∀ join ∈ bindings.joins, join.Named schema) ∧
      ∃ pairs, Phrase schema 0 bindings.params.length (ones pairs) fragments := by
  rw [predicate_eq] at written
  obtain ⟨condition, compiled, assembled⟩ := map_eq_ok.1 written
  have fields := FilterTree.fields_of_condition compiled
  have lies : ∀ asked ∈ condition.tests, ∃ root ∈ schema.entities, asked.1.LiesAt schema root := by
    intro asked among
    have field : asked.1 ∈ condition.tests.map Prod.fst := List.mem_map_of_mem among
    obtain ⟨leaf, -, resolved⟩ := (mem_results_iff fields).1 field
    obtain ⟨entity, found, lies⟩ := Schema.liesAt_of_resolve resolved
    exact ⟨entity, Schema.mem_of_get? found, lies⟩
  obtain ⟨result, joins, values, ran, named, phrase⟩ :=
    yields_assemble condition lies 0 .empty rfl (by simp [Bindings.empty])
  rw [assembled] at ran
  cases ran
  exact ⟨named, phrase⟩

end Conditions

section Clauses

variable {root : String} {start count : Nat} {numbers : List Nat} {left : List Fragment}

/-- The columns to sort by are phrases. They add joins, but no parameters. -/
theorem phrase_of_orderColumns {keys : List SortKey} {bindings after : Bindings}
    {columns : List (List Fragment)} (named : ∀ join ∈ bindings.joins, join.Named schema)
    (ordered : (orderColumns schema root keys).run bindings = .ok (columns, after)) (start : Nat) :
    (∀ join ∈ after.joins, join.Named schema) ∧ after.params = bindings.params ∧
      Phrase schema start 0 [] (separate ", " columns) := by
  induction keys generalizing bindings columns with
  | nil =>
    cases ordered
    exact ⟨named, rfl, Phrase.nil schema start⟩
  | cons key rest ih =>
    rw [run_orderColumns_cons] at ordered
    obtain ⟨field, resolved, ordered⟩ := bind_eq_ok.1 ordered
    obtain ⟨⟨others, last⟩, orderedRest, returned⟩ := bind_eq_ok.1 ordered
    cases returned
    obtain ⟨entity, found, lies⟩ := Schema.liesAt_of_resolve (Failure.ofExcept_eq_ok.1 resolved)
    obtain ⟨fragments, joins, values, ran, namedThen, none, label, column, labelled, columned, rfl⟩ :=
      yields_column (Schema.mem_of_get? found) lies bindings.params.length bindings rfl named
    rw [ran] at orderedRest
    obtain ⟨namedAfter, params, phrases⟩ := ih namedThen orderedRest
    rw [List.length_eq_zero_iff.1 none, List.append_nil] at params
    refine ⟨namedAfter, params, ?_⟩
    have directed : Phrase schema start 0 []
        ([.name label, .fixed ".", .name column] ++ [.fixed (directionWord key.direction)]) := by
      have phrase := Phrase.column labelled columned start
      cases key.direction with
      | asc => exact phrase.trail " ASC"
      | desc => exact phrase.trail " DESC"
    rw [ran]
    exact directed.separate_cons (by decide) phrases

theorem phrase_of_pageColumns {page? : Option PageRequest} {bindings after : Bindings}
    {columns : List (List Fragment)} (named : ∀ join ∈ bindings.joins, join.Named schema)
    (ordered : (pageColumns schema root page?).run bindings = .ok (columns, after)) (start : Nat) :
    (∀ join ∈ after.joins, join.Named schema) ∧ after.params = bindings.params ∧
      Phrase schema start 0 [] (separate ", " columns) := by
  cases page? with
  | none =>
    cases ordered
    exact ⟨named, rfl, Phrase.nil schema start⟩
  | some request =>
    rw [run_pageColumns_some] at ordered
    obtain ⟨⟨⟩, -, ordered⟩ := bind_eq_ok.1 ordered
    exact phrase_of_orderColumns named ordered start

/-- The clause of a join, after the words with which it begins, is a phrase. -/
theorem Join.Named.phrase {join : Join} (named : join.Named schema) (start : Nat) :
    Phrase schema start 0 [] join.clause.tail := by
  have table := Phrase.name named.table start
  have label := Phrase.name named.label start
  have own := Phrase.column named.label named.identifier start
  have other := Phrase.column named.parent named.foreignKey start
  exact table.join " AS " (label.join " ON " (own.join " = " other))

/-- Joins may follow a phrase. -/
theorem Phrase.joinClauses {joins : List Join} (named : ∀ join ∈ joins, join.Named schema)
    (before : Phrase schema start count numbers left) :
    Phrase schema start count numbers (left ++ joinClauses joins) := by
  induction joins generalizing left with
  | nil => simpa [Sql.joinClauses] using before
  | cons join rest ih =>
    obtain ⟨first, others⟩ := List.forall_mem_cons.1 named
    have joined := before.join " LEFT JOIN " (first.phrase (start + count))
    rw [List.append_nil] at joined
    have all := ih others joined
    rw [List.append_assoc] at all
    exact all

/-- Columns to sort by may follow a phrase. -/
theorem Phrase.orderClause {columns : List (List Fragment)}
    (before : Phrase schema start count numbers left)
    (phrases : Phrase schema (start + count) 0 [] (separate ", " columns)) :
    Phrase schema start count numbers (left ++ orderClause columns) := by
  unfold Sql.orderClause
  split
  · rw [List.append_nil]
    exact before
  · have ordered := before.join " ORDER BY " phrases
    rw [List.append_nil] at ordered
    exact ordered

/-- The numbers of the clause that limits rows to a page. -/
def pageNumbers : Option PageRequest → List Nat
  | none => []
  | some request => [request.size, request.offset]

/-- The limits of a page may follow a phrase. -/
theorem Phrase.pageClause (before : Phrase schema start count numbers left)
    (page? : Option PageRequest) :
    Phrase schema start count (numbers ++ pageNumbers page?) (left ++ pageClause page?) := by
  cases page? with
  | none =>
    rw [pageNumbers, Sql.pageClause, List.append_nil, List.append_nil]
    exact before
  | some request =>
    have size := Phrase.number schema (start + count) request.size
    have offset := Phrase.number schema (start + count) request.offset
    exact before.join " LIMIT " (size.join " OFFSET " offset)

/-- The text of a query is a phrase from its first placeholder to its last. -/
theorem Select.phrase {tree : FilterTree} {page? : Option PageRequest} {select : Select}
    (given : Select.of schema root tree page? = .ok select) :
    ∃ pairs, Phrase schema 0 select.params.length (ones pairs ++ pageNumbers page?)
      select.fragments := by
  obtain ⟨entity, found, given⟩ := bind_eq_ok.1 given
  obtain ⟨⟨fragments, bindings⟩, written, given⟩ := bind_eq_ok.1 given
  obtain ⟨⟨columns, after⟩, ordered, returned⟩ := bind_eq_ok.1 given
  cases returned
  obtain ⟨named, pairs, predicate⟩ := phrase_of_predicate (Failure.ofExcept_eq_ok.1 written)
  obtain ⟨namedAfter, params, sorted⟩ :=
    phrase_of_pageColumns named ordered (0 + bindings.params.length)
  have declared : entity ∈ schema.entities :=
    Schema.mem_of_get? (Schema.entity_eq_ok.1 (Failure.ofExcept_eq_ok.1 found))
  have label : Phrase schema 0 0 [] [.name rootLabel] := Phrase.name .root 0
  have table := Phrase.name (.table declared) 0
  have selected := label.join ".* FROM " (table.join " AS " label)
  have opening : Phrase schema 0 0 [] _ :=
    selected.lead "SELECT " (by decide) (by decide +kernel) (by decide +kernel)
  have filtered := (opening.joinClauses namedAfter).join " WHERE " predicate
  rw [Nat.zero_add] at filtered
  rw [params]
  exact ⟨pairs, (filtered.orderClause sorted).pageClause page?⟩

end Clauses

end FilterQuery.Sql
