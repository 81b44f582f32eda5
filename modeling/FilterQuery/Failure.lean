import FilterQuery.ExpressionError
import FilterQuery.Plan.Order
/-! What can go wrong when a database is built or queried. A failure is a cause,
inside the undertakings that it has brought to an end. -/
namespace FilterQuery

/-- An undertaking that a failure has brought to an end. -/
inductive Undertaking where
  | openingSchema
  | readingDataset
  | readingText (path : String)
  | inserting (entity : String) (row : Json)
  | loading (path : String)
  | querying (entity : String)
  | readingFilter
  | readingFilterFile (path : String)

/-- Why something failed. -/
inductive Failure where
  /-- An error in a filter, a schema or a record. -/
  | expression (cause : ExpressionError)
  /-- A document that does not have the form of what it should describe. -/
  | undecodable
  /-- A file that cannot be read. -/
  | unreadable
  | datasetMissing (path : String)
  /-- The records of an entity are not in an array. -/
  | recordsNotArray (entity : String)
  | unknownDirection (text : String)
  | emptySortProperty
  | emptyPage
  | unknownDialect (text : String)
  | emptyFilter
  /-- Rows were asked for before the plan was started. -/
  | notStarted
  /-- A sort criterion without a path. -/
  | emptySortPath (criterion : SortCriterion)
  /-- A failure of a part of an undertaking. -/
  | during (undertaking : Undertaking) (cause : Failure)

def Undertaking.message : Undertaking → String
  | .openingSchema => "Invalid schema"
  | .readingDataset => "Invalid dataset"
  | .readingText path => "Dataset \"" ++ path ++ "\" is not valid JSON"
  | .inserting entity row => "Failed to insert " ++ entity ++ " record " ++ row.compact
  | .loading path => "Failed to load dataset " ++ path
  | .querying entity => "Query on " ++ entity ++ " failed"
  | .readingFilter => "Invalid filter expression"
  | .readingFilterFile path => "Failed to read filter file " ++ path

/-- The name of a direction in the description of a criterion. -/
def Direction.label : Direction → String
  | .asc => "Asc"
  | .desc => "Desc"

/-- The name of a placement in the description of a criterion. -/
def NullPlacement.label : NullPlacement → String
  | .first => "First"
  | .last => "Last"

/-- Describes a criterion that has no path. -/
def SortCriterion.emptyPathMessage (criterion : SortCriterion) : String :=
  "Sort criteria SortCriteria \x7b path: [], order: " ++ criterion.direction.label ++
    ", null_order: " ++ criterion.nulls.label ++ " \x7d has an empty field path"

/-- Says what failed, the outermost undertaking first. The form of a text or a document is not
described any further. -/
def Failure.messages : Failure → List String
  | .expression .notJson => []
  | .expression cause => [cause.message]
  | .undecodable => []
  | .unreadable => []
  | .datasetMissing path => ["Dataset file does not exist at \"" ++ path ++ "\""]
  | .recordsNotArray entity => ["Records for '" ++ entity ++ "' must be an array"]
  | .unknownDirection text =>
    ["Invalid sort direction '" ++ text ++ "', expected asc or desc"]
  | .emptySortProperty => ["Sort property must not be empty"]
  | .emptyPage => ["Page size must be greater than zero"]
  | .unknownDialect text => ["Unknown SQL dialect '" ++ text ++ "'"]
  | .emptyFilter => ["Filter expression is empty"]
  | .notStarted => ["Executor not initialized. Call init() first."]
  | .emptySortPath criterion => [criterion.emptyPathMessage]
  | .during undertaking cause => undertaking.message :: cause.messages

/-- The innermost cause of a failure. -/
def Failure.rootCause : Failure → Failure
  | .during _ cause => cause.rootCause
  | cause => cause

/-- Takes an error in an expression as a failure. -/
def Failure.ofExcept {α : Type} : Except ExpressionError α → Except Failure α :=
  Except.mapError .expression

@[simp] theorem Failure.ofExcept_ok {α : Type} (value : α) :
    Failure.ofExcept (.ok value) = .ok value := rfl

@[simp] theorem Failure.ofExcept_error {α : Type} (error : ExpressionError) :
    Failure.ofExcept (.error error : Except _ α) = .error (.expression error) := rfl

end FilterQuery
