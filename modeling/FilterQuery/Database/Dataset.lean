import FilterQuery.Database.Basic
import FilterQuery.Json.Reader
import FilterQuery.Schema.Document
/-! Datasets: documents that hold a schema and the records to start with. -/
namespace FilterQuery

/-- A schema, and the records of each entity as they are written. -/
structure Dataset where
  schema : Schema
  records : List (String × Json)

/-- Reads a dataset. The records may be missing. -/
def Dataset.ofJson? (json : Json) : Option Dataset := do
  match ← json.parts? ["schema", "records"] with
  | [some schema, records] =>
    match records.getD (.obj []) with
    | .obj members => return ⟨← Schema.ofJson? schema, members⟩
    | _ => none
  | _ => none

namespace Database

/-- Stores the records of an entity one after the other. -/
def insertRows (entity : String) (database : Database) : List Json → Except Failure Database
  | [] => .ok database
  | row :: rest =>
    match database.insert entity row with
    | .ok (_, next) => insertRows entity next rest
    | .error error => .error (.during (.inserting entity row) (.expression error))

/-- Stores the records of each entity, in the order of the document. -/
def insertAll (database : Database) : List (String × Json) → Except Failure Database
  | [] => .ok database
  | (entity, .arr rows) :: rest => do
    let next ← database.insertRows entity rows
    insertAll next rest
  | (entity, _) :: _ => .error (.recordsNotArray entity)

/-- Builds a database from a dataset. -/
def ofDataset (json : Json) : Except Failure Database :=
  match Dataset.ofJson? json with
  | none => .error (.during .readingDataset .undecodable)
  | some dataset => do
    let database ← openEmpty dataset.schema
    database.insertAll dataset.records

/-- Builds a database from the content of a dataset file, if there is such a file. -/
def load (path : String) : (content? : Option String) → Except Failure Database
  | none => .error (.datasetMissing path)
  | some content =>
    match Json.read? content with
    | none => .error (.during (.readingText path) .undecodable)
    | some json => ofDataset json

end Database

end FilterQuery
