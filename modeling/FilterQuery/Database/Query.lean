import FilterQuery.Database.Basic
import FilterQuery.Filter.Compile
import FilterQuery.Paging.Basic
import FilterQuery.Plan.Basic
/-! Queries on databases. A query leaves the stored records as they are; it only
adds to the fields that have been found in the schema. -/
namespace FilterQuery

/-- A query on a database, which may add to its cache even if it fails. -/
abbrev Query := ExceptT Failure (StateM Database)

namespace Database

/-- Resolves paths with the cache of the database. -/
def resolving {α : Type} (resolution : Resolution FieldCache α) : Query α :=
  ExceptT.mk do
    let database ← get
    let (result, cache) := resolution.run.run database.cache
    set { database with cache }
    return Failure.ofExcept result

/-- The field at the end of a path. -/
def resolve (root path : String) : Query ResolvedField := do
  let database ← get
  resolving (database.schema.cachedResolver root path)

/-- The plan for the records of an entity that meet a filter: the condition and the rows to be
scanned. -/
def planFor (entity : String) (tree : FilterTree) : Query (RecordCondition × List Record) := do
  let database ← get
  let condition ← resolving (tree.compileForRecords database.schema.cachedResolver entity)
  discard (Failure.ofExcept (database.schema.entity entity) : Except Failure Entity)
  return (condition, database.tables.rows entity)

/-- The records of an entity that meet a filter, in the order of their insertion. -/
def findAll (entity : String) (tree : FilterTree) : Query (List Record) := do
  let (condition, rows) ← planFor entity tree
  (Plan.filter condition (.scan rows)).rows

/-- The number of records of an entity that meet a filter. -/
def count (entity : String) (tree : FilterTree) : Query Nat := do
  let (condition, rows) ← planFor entity tree
  let plan := Plan.filter condition (.scan rows)
  match plan.collect plan.cursor with
  | (.ok _, (progress : FilterProgress _)) => return progress.matched
  | (.error failure, _) => throw failure

/-- The criteria of a sort of the records of an entity. -/
def sortCriteria (entity : String) : List SortKey → Query (List SortCriterion)
  | [] => return []
  | key :: rest => do
    let field ← resolve entity key.property
    let criteria ← sortCriteria entity rest
    return .of field.names key.direction :: criteria

/-- The plan for one page of rows in this order. Without criteria the rows keep their order. -/
def pagePlan (criteria : List SortCriterion) (request : PageRequest) (rows : List Record) : Plan :=
  let sorted := if criteria.isEmpty then Plan.scan rows else .sort criteria (.scan rows)
  .limit request.size request.offset sorted

/-- One page of the records of an entity that meet a filter. -/
def findPage (entity : String) (tree : FilterTree) (request : PageRequest) :
    Query (Page Record) := do
  request.validate
  let criteria ← sortCriteria entity request.sort.keys
  let found ← findAll entity tree
  let content ← (pagePlan criteria request found).rows
  return .of content request found.length

end Database

end FilterQuery
