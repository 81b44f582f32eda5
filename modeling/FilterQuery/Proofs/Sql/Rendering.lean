import FilterQuery.Proofs.Filter.Building
import FilterQuery.Proofs.Sql.Columns
import FilterQuery.Sql.Select
/-! The text of a condition, written down without any state. Given the final joins,
the text of each part follows from the part alone and from the number of the first
placeholder in it. The builder of texts, which adds joins and parameters as it goes,
writes this very text: joins that are added later change no label, and a part with
some operands uses up as many placeholders. -/
namespace FilterQuery

/-- The sign of a comparison in a text. -/
def Comparison.sign : Comparison → String
  | .eq => "="
  | .ne => "<>"
  | .lt => "<"
  | .le => "<="
  | .gt => ">"
  | .ge => ">="

theorem Comparison.symbol_eq_sign (comparison : Comparison) :
    comparison.symbol = comparison.sign := by
  cases comparison <;> rfl

/-- The text of a test on a column, with placeholders from this one on. -/
def Test.rendering (dialect : Sql.Dialect) (column : String) (first : Nat) : Test → String
  | .isNull => column ++ " IS NULL"
  | .isNotNull => column ++ " IS NOT NULL"
  | .compare comparison _ =>
    column ++ " " ++ comparison.sign ++ " " ++ String.ofList (dialect.placeholder first)
  | .oneOf operands =>
    let placeholders := (List.range' first operands.length).map dialect.placeholder
    column ++ " IN (" ++ ", ".intercalate (placeholders.map String.ofList) ++ ")"
  | .like _ ignoreCase =>
    let text := if ignoreCase then "LOWER(" ++ column ++ ")" else column
    text ++ " LIKE " ++ String.ofList (dialect.placeholder first)

namespace Condition

/-- The values that the tests of a condition compare with, from left to right. -/
def operands {φ : Type} (condition : Condition φ) : List Value :=
  condition.tests.flatMap fun asked => asked.2.operands

variable {φ ψ : Type}

mutual

theorem tests_map (denote : φ → ψ) : ∀ condition : Condition φ,
    (condition.map denote).tests = condition.tests.map fun asked => (denote asked.1, asked.2)
  | .always => rfl
  | .test _ _ => rfl
  | .all members => testsOfAll_mapAll denote members
  | .any members => testsOfAll_mapAll denote members

theorem testsOfAll_mapAll (denote : φ → ψ) : ∀ members : List (Condition φ),
    testsOfAll (mapAll denote members) =
      (testsOfAll members).map fun asked => (denote asked.1, asked.2)
  | [] => rfl
  | member :: rest => by
    simp [testsOfAll, mapAll, tests_map denote member, testsOfAll_mapAll denote rest]

end

@[simp] theorem operands_map (denote : φ → ψ) (condition : Condition φ) :
    (condition.map denote).operands = condition.operands := by
  simp [operands, tests_map, List.flatMap_map]

mutual

/-- The text of a condition under these joins, with placeholders from this one on. -/
def rendering? (dialect : Sql.Dialect) (joins : List Sql.Join) :
    Nat → Condition ResolvedField → Option String
  | _, .always => some "1 = 1"
  | first, .test field question => do
    let column ← Sql.columnText? dialect joins field
    return question.rendering dialect column first
  | first, .all members => do
    let parts ← renderings? dialect joins first members
    return "(" ++ " AND ".intercalate parts ++ ")"
  | first, .any members => do
    let parts ← renderings? dialect joins first members
    return "(" ++ " OR ".intercalate parts ++ ")"

/-- The texts of these conditions, each with placeholders after those of the one before. -/
def renderings? (dialect : Sql.Dialect) (joins : List Sql.Join) :
    Nat → List (Condition ResolvedField) → Option (List String)
  | _, [] => some []
  | first, member :: rest => do
    let part ← rendering? dialect joins first member
    let parts ← renderings? dialect joins (first + member.operands.length) rest
    return part :: parts

end

end Condition

namespace Sql

namespace Dialect

variable (dialect : Dialect)

@[simp] theorem text_nil : dialect.text [] = "" := rfl

@[simp] theorem text_cons (fragment : Fragment) (rest : List Fragment) :
    dialect.text (fragment :: rest) =
      String.ofList (dialect.fragmentChars fragment) ++ dialect.text rest := by
  simp [text]

@[simp] theorem text_append (fragments rest : List Fragment) :
    dialect.text (fragments ++ rest) = dialect.text fragments ++ dialect.text rest := by
  simp [text]

theorem text_separate (separator : String) (parts : List (List Fragment)) :
    dialect.text (separate separator parts) = separator.intercalate (parts.map dialect.text) := by
  induction parts with
  | nil => rfl
  | cons part rest ih =>
    cases rest with
    | nil => simp [separate]
    | cons next rest =>
      rw [separate, text_append, text_cons, ih]
      · simp [fragmentChars, String.append_assoc]
      · simp

theorem text_parenthesized (word : String) (parts : List (List Fragment)) :
    dialect.text (parenthesized word parts) =
      "(" ++ word.intercalate (parts.map dialect.text) ++ ")" := by
  simp [parenthesized, text_separate, fragmentChars, String.append_assoc]

end Dialect

/-- Over all bindings the action adds these operands to the parameters and no join but at the end,
and the text of its result is the one given, under all joins that begin with those so far. -/
def Writes {α β : Type} (view : Dialect → α → β) (action : StateM Bindings α)
    (operands : List Value) (text? : Dialect → List Join → Nat → Option β) : Prop :=
  ∀ bindings, ∃ result added,
    action.run bindings = (result, ⟨bindings.joins ++ added, bindings.params ++ operands⟩) ∧
    ∀ dialect joins, bindings.joins ++ added <+: joins →
      text? dialect joins bindings.params.length = some (view dialect result)

variable (schema : Schema)

theorem run_bindAll (values : List Value) (bindings : Bindings) :
    (bindAll values).run bindings =
      ((List.range' bindings.params.length values.length).map fun index => [.placeholder index],
        { bindings with params := bindings.params ++ values }) := by
  induction values generalizing bindings with
  | nil => simp [bindAll]; rfl
  | cons value rest ih =>
    have bound : (bind value).run bindings = (.placeholder bindings.params.length,
        { bindings with params := bindings.params ++ [value] }) := rfl
    rw [bindAll, run_bind_of_run bound, run_bind_of_run (ih _)]
    simp [List.range'_succ]
    rfl

/-- The builder writes the text of a test on the column of its field. -/
theorem writes_testText (field : ResolvedField) (test : Test) :
    Writes Dialect.text (testText schema field test) test.operands fun dialect joins first => do
      let column ← columnText? dialect joins field
      return test.rendering dialect column first := by
  intro bindings
  obtain ⟨column, added, ran, denoted⟩ := run_column schema field bindings
  suffices written : ∃ fragments, (testText schema field test).run bindings =
        (fragments, ⟨bindings.joins ++ added, bindings.params ++ test.operands⟩) ∧
      ∀ dialect : Dialect, test.rendering dialect (dialect.text column) bindings.params.length =
        dialect.text fragments by
    obtain ⟨fragments, ran, text⟩ := written
    refine ⟨fragments, added, ran, ?_⟩
    intro dialect joins grown
    simp [denoted dialect joins grown, text]
  rw [testText, run_bind_of_run ran]
  cases test with
  | isNull =>
    refine ⟨column ++ [.fixed " IS NULL"], by simp [Test.operands]; rfl, fun dialect => ?_⟩
    simp [Test.rendering, Dialect.fragmentChars]
  | isNotNull =>
    refine ⟨column ++ [.fixed " IS NOT NULL"], by simp [Test.operands]; rfl, fun dialect => ?_⟩
    simp [Test.rendering, Dialect.fragmentChars]
  | compare comparison operand =>
    refine ⟨_, rfl, fun dialect => ?_⟩
    simp [Test.rendering, Dialect.fragmentChars, String.append_assoc, comparison.symbol_eq_sign]
  | oneOf operands =>
    refine ⟨_, run_bind_of_run (run_bindAll operands _) _, fun dialect => ?_⟩
    simp [Test.rendering, Dialect.fragmentChars, Dialect.text_separate, Function.comp_def,
      String.append_assoc]
  | like pattern ignoreCase =>
    cases ignoreCase with
    | false =>
      refine ⟨_, rfl, fun dialect => ?_⟩
      simp [Test.rendering, Dialect.fragmentChars, String.append_assoc]
    | true =>
      refine ⟨_, rfl, fun dialect => ?_⟩
      simp [Test.rendering, Dialect.fragmentChars, String.append_assoc]

/-- Under joins that begin with those so far, and with as many parameters before it, the text of a
part is the same. -/
theorem writes_join (word : String) {members : List (Condition ResolvedField)}
    {parts : StateM Bindings (List (List Fragment))} {operands : List Value}
    (written : Writes (fun dialect => List.map dialect.text) parts operands
      fun dialect joins first => Condition.renderings? dialect joins first members) :
    Writes Dialect.text (do return parenthesized word (← parts)) operands
      fun dialect joins first => do
        let parts ← Condition.renderings? dialect joins first members
        return "(" ++ word.intercalate parts ++ ")" := by
  intro bindings
  obtain ⟨result, added, ran, text⟩ := written bindings
  refine ⟨parenthesized word result, added, run_bind_of_run ran _, ?_⟩
  intro dialect joins grown
  simp [text dialect joins grown, Dialect.text_parenthesized]

mutual

/-- The builder writes the text of a condition. -/
theorem writes_assemble : ∀ condition : Condition ResolvedField,
    Writes Dialect.text (condition.assemble (textBuilder schema)) condition.operands
      fun dialect joins first => condition.rendering? dialect joins first
  | .always => fun bindings =>
    ⟨[.number 1, .fixed " = ", .number 1], [],
      by simp [Condition.operands, Condition.tests, Condition.assemble]; rfl,
      fun dialect _ _ => by cases dialect <;> rfl⟩
  | .test field question => by
    have same : (Condition.test field question).operands = question.operands := by
      simp [Condition.operands, Condition.tests]
    rw [same]
    exact writes_testText schema field question
  | .all members => writes_join " AND " (writes_assembleAll members)
  | .any members => writes_join " OR " (writes_assembleAll members)

theorem writes_assembleAll : ∀ members : List (Condition ResolvedField),
    Writes (fun dialect => List.map dialect.text)
      (Condition.assembleAll (textBuilder schema) members)
      ((Condition.testsOfAll members).flatMap fun asked => asked.2.operands)
      fun dialect joins first => Condition.renderings? dialect joins first members
  | [] => fun bindings =>
    ⟨[], [], by simp [Condition.testsOfAll, Condition.assembleAll]; rfl, fun _ _ _ => rfl⟩
  | member :: rest => by
    intro bindings
    obtain ⟨part, added, ran, text⟩ := writes_assemble member bindings
    obtain ⟨parts, more, ranRest, textRest⟩ := writes_assembleAll rest
      ⟨bindings.joins ++ added, bindings.params ++ member.operands⟩
    refine ⟨part :: parts, added ++ more, ?_, ?_⟩
    · rw [Condition.assembleAll, run_bind_of_run ran, run_bind_of_run ranRest]
      simp [Condition.testsOfAll, Condition.operands]
      rfl
    · intro dialect joins grown
      rw [← List.append_assoc] at grown
      have textPart := text dialect joins ((List.prefix_append _ more).trans grown)
      have textParts := textRest dialect joins grown
      rw [List.length_append] at textParts
      simp [Condition.renderings?, textPart, textParts]

end

/-- The text of a tree is what the builder of texts makes of the condition of the tree. -/
theorem predicate_eq (root : String) (tree : FilterTree) :
    predicate schema root tree = (tree.condition schema.resolver root).result.map
      fun condition => (condition.assemble (textBuilder schema)).run .empty := by
  let compilation := tree.compile (textBuilder schema) schema.resolver root
  have built := tree.builds_compile (textBuilder schema) schema.resolver root ()
  have given : (tree.condition schema.resolver root).result =
    ((tree.condition schema.resolver root).start ()).1 := rfl
  rw [given]
  cases ran : (tree.condition schema.resolver root).start () with
  | mk answer after =>
    rw [ran] at built
    cases answer with
    | error cause =>
      obtain ⟨effects, built⟩ := built
      have whole : compilation.run.run () = (fun _ => (.error cause, after)) <$> effects := built
      rw [predicate, whole]
      rfl
    | ok condition =>
      have whole : compilation.run.run () =
        (fun part => (.ok part, after)) <$> condition.assemble (textBuilder schema) := built
      rw [predicate, whole]
      rfl

/-- The text of a tree is the rendering of its condition under the joins in which it ends, and its
parameters are the operands of the condition. -/
theorem predicate_renders {schema : Schema} {root : String} {tree : FilterTree}
    {condition : Condition ResolvedField} {fragments : List Fragment} {bindings : Bindings}
    (compiled : (tree.condition schema.resolver root).result = .ok condition)
    (written : predicate schema root tree = .ok (fragments, bindings)) :
    bindings.params = condition.operands ∧
      ∀ dialect, condition.rendering? dialect bindings.joins 0 = some (dialect.text fragments) := by
  obtain ⟨result, added, ran, text⟩ := writes_assemble schema condition .empty
  rw [predicate_eq, compiled, map_ok, ran] at written
  cases written
  exact ⟨rfl, fun dialect => text dialect _ (List.prefix_refl _)⟩

example :
    let schema : Schema :=
      ⟨[⟨"Worker", none, some "id", [⟨"id", .integer⟩, ⟨"team", .entity "Team"⟩]⟩,
        ⟨"Team", none, some "id", [⟨"id", .integer⟩, ⟨"name", .string⟩]⟩]⟩
    let tree : FilterTree :=
      ⟨[.leaf ⟨"team.name", .icontains, [.str "a"]⟩,
        .group .or [.leaf ⟨"id", .oneOf, [.int 1, .int 2]⟩, .leaf ⟨"team", .eq, [.null]⟩]]⟩
    (predicate schema "Worker" tree).toOption.map (fun written => Dialect.postgres.text written.1) =
      some ("(LOWER(\"t_1\".\"name\") LIKE $1 AND " ++
        "(\"t\".\"id\" IN ($2, $3) OR \"t\".\"team_id\" IS NULL))") := by
  decide +kernel

end Sql

end FilterQuery
