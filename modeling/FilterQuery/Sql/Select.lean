import FilterQuery.Filter.Compile
import FilterQuery.Paging.Basic
import FilterQuery.Sql.Join
/-! Queries that select the rows of an entity which meet a filter. Operands are
never written into the text: they are parameters, in the order of their
placeholders. -/
namespace FilterQuery.Sql

/-- The text of a test on a column. -/
def testText (schema : Schema) (field : ResolvedField) (test : Test) :
    StateM Bindings (List Fragment) := do
  let column ← column schema field
  match test with
  | .isNull => return column ++ [.fixed " IS NULL"]
  | .isNotNull => return column ++ [.fixed " IS NOT NULL"]
  | .compare comparison operand =>
    let placeholder ← bind operand
    return column ++ [.fixed " ", .fixed comparison.symbol, .fixed " ", placeholder]
  | .oneOf operands =>
    let placeholders ← bindAll operands
    return column ++ .fixed " IN (" :: separate ", " placeholders ++ [.fixed ")"]
  | .like pattern ignoreCase =>
    let placeholder ← bind (.str pattern)
    if ignoreCase then return .fixed "LOWER(" :: column ++ [.fixed ") LIKE ", placeholder]
    else return column ++ [.fixed " LIKE ", placeholder]

/-- Texts in parentheses, with a word between any two. -/
def parenthesized (word : String) (parts : List (List Fragment)) : List Fragment :=
  .fixed "(" :: separate word parts ++ [.fixed ")"]

/-- Builds the text of conditions. -/
def textBuilder (schema : Schema) : Builder (StateM Bindings) (List Fragment) where
  always := return [.number 1, .fixed " = ", .number 1]
  test := testText schema
  all parts := return parenthesized " AND " parts
  any parts := return parenthesized " OR " parts

/-- The text of the condition of a tree, with the joins and parameters that it relies on. -/
def predicate (schema : Schema) (root : String) (tree : FilterTree) :
    Except ExpressionError (List Fragment × Bindings) :=
  let compilation := tree.compile (textBuilder schema) schema.resolver root
  let ((answer, ()), bindings) := (compilation.run.run ()).run .empty
  answer.map fun text => (text, bindings)

def directionWord : Direction → String
  | .asc => " ASC"
  | .desc => " DESC"

/-- The columns to sort by, each with its direction. -/
def orderColumns (schema : Schema) (root : String) :
    List SortKey → StateT Bindings (Except Failure) (List (List Fragment))
  | [] => return []
  | key :: rest => do
    let field ← (Failure.ofExcept (schema.resolve root key.property) : Except Failure ResolvedField)
    let column ← modifyGet (column schema field).run
    let columns ← orderColumns schema root rest
    return (column ++ [.fixed (directionWord key.direction)]) :: columns

/-- The columns that the page of a request is sorted by. -/
def pageColumns (schema : Schema) (root : String) :
    Option PageRequest → StateT Bindings (Except Failure) (List (List Fragment))
  | none => return []
  | some request => do
    request.validate
    orderColumns schema root request.sort.keys

def orderClause (columns : List (List Fragment)) : List Fragment :=
  if columns.isEmpty then [] else .fixed " ORDER BY " :: separate ", " columns

/-- The clause that limits rows to a page. -/
def pageClause : Option PageRequest → List Fragment
  | none => []
  | some request =>
    [.fixed " LIMIT ", .number request.size, .fixed " OFFSET ", .number request.offset]

/-- A query and its parameters, in the order of their placeholders. -/
structure Select where
  fragments : List Fragment
  params : List Value

namespace Select

/-- The query for the records of an entity that meet a filter, and for one page of them if that is
requested. -/
def of (schema : Schema) (root : String) (tree : FilterTree) (page? : Option PageRequest) :
    Except Failure Select := do
  let entity ← Failure.ofExcept (schema.entity root)
  let (predicate, bindings) ← Failure.ofExcept (predicate schema root tree)
  let (columns, bindings) ← (pageColumns schema root page?).run bindings
  let start := [.fixed "SELECT ", .name rootLabel, .fixed ".* FROM ", .name entity.table,
    .fixed " AS ", .name rootLabel]
  return ⟨start ++ joinClauses bindings.joins ++ .fixed " WHERE " :: predicate ++
    orderClause columns ++ pageClause page?, bindings.params⟩

/-- The text of the query. -/
def text (select : Select) (dialect : Dialect) : String := dialect.text select.fragments

def paramsToJson (select : Select) : Json := .arr (select.params.map Value.toJson)

end Select

end FilterQuery.Sql
