import FilterQuery.Filter.Writer
import FilterQuery.Main
import FilterQuery.Proofs.Filter.Meaning
import FilterQuery.Proofs.Like.Containment
import FilterQuery.Proofs.Schema.Resolution
import FilterQuery.Proofs.Checks
import FilterQuery.Proofs.Filter.Compilation
import FilterQuery.Proofs.Binary64.Integers
import FilterQuery.Proofs.Operand.Writing
import FilterQuery.Proofs.Filter.Layout
import FilterQuery.Proofs.Filter.Rearrangement
import FilterQuery.Proofs.Filter.Reading
import FilterQuery.Proofs.Filter.Rereading
import FilterQuery.Proofs.Json.Keys
import FilterQuery.Proofs.Filter.RoundTrip
import FilterQuery.Proofs.Sql.Columns
import FilterQuery.Proofs.Sql.Rendering
import FilterQuery.Proofs.Plan.Rows
import FilterQuery.Proofs.Database.Queries
import FilterQuery.Proofs.Database.Reachable
import FilterQuery.Proofs.Sql.Agreement
import FilterQuery.Proofs.Schema.Validation
import FilterQuery.Proofs.Value.Typing
import FilterQuery.Proofs.Database.Conformance
import FilterQuery.Proofs.Database.Lookup
import FilterQuery.Proofs.Database.Operators
import FilterQuery.Proofs.Value.Order
import FilterQuery.Proofs.Plan.Sorting
import FilterQuery.Proofs.Database.Pages
import FilterQuery.Proofs.Sql.Tokens
import FilterQuery.Proofs.Sql.Names
import FilterQuery.Proofs.Sql.Phrases
import FilterQuery.Proofs.Sql.Wellformed
import FilterQuery.Proofs.Plan.Calls
import FilterQuery.Proofs.Plan.Stages
import FilterQuery.Proofs.Plan.Interleaving
import FilterQuery.Proofs.Sql.Registry
import FilterQuery.Proofs.Filter.Alike
import FilterQuery.Proofs.Sql.Lockstep
import FilterQuery.Proofs.Database.Retrieval
import FilterQuery.Proofs.Filter.Grammar
import FilterQuery.Proofs.Filter.Nesting
import FilterQuery.Proofs.Filter.Accumulation
import FilterQuery.Proofs.Filter.Obtaining
import FilterQuery.Proofs.Database.Insertions
import FilterQuery.Proofs.Like.Matching
import FilterQuery.Proofs.Filter.IgnoringCase
import FilterQuery.Proofs.Plan.SortedByKeys
import FilterQuery.Proofs.Schema.Completeness
import FilterQuery.Proofs.Schema.Declarations
import FilterQuery.Proofs.Schema.Documents
import FilterQuery.Proofs.Text.Digits
import FilterQuery.Proofs.Calendar.Rereading
import FilterQuery.Proofs.Value.Rendering
import FilterQuery.Proofs.Sql.Parameters
import FilterQuery.Proofs.Json.Numbers
import FilterQuery.Proofs.Json.Scanning
import FilterQuery.Proofs.Json.Rereading
import FilterQuery.Proofs.Filter.Depth
import FilterQuery.Proofs.Filter.Saving
import FilterQuery.Proofs.Filter.Caching
import FilterQuery.Proofs.Database.Caching
