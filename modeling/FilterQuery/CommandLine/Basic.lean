import FilterQuery.CommandLine.Arguments
import FilterQuery.Database.Dataset
import FilterQuery.Database.Query
import FilterQuery.Filter.Reader
import FilterQuery.Paging.Document
import FilterQuery.Sql.Select
/-! The command line: one query on a dataset, answered with a page of records or
with the text of a query for another database. The exit code is zero for an
answer, one if the query fails, and two if the command line makes no sense. -/
namespace FilterQuery.CommandLine

/-- Where the filter comes from. -/
inductive FilterSource where
  | everything
  | inline (text : String)
  | file (path : String)
deriving DecidableEq

/-- What the command line asks for. -/
structure Request where
  /-- The path of the dataset. -/
  dataset : String
  entity : String
  filter : FilterSource
  page : PageRequest
  /-- The dialect, if the text of a query is asked for. -/
  dialect? : Option Sql.Dialect

/-- The source of the filter; an inline filter and a file exclude each other. -/
def FilterSource.ofSettings? (settings : Settings) : Option FilterSource :=
  match settings.filter?, settings.filterFile? with
  | none, none => some .everything
  | some text, none => some (.inline text)
  | none, some path => some (.file path)
  | some _, some _ => none

/-- Makes a request of the settings. A dataset and an entity must be among them. -/
def Request.ofSettings? (settings : Settings) : Option Request := do
  let dataset ← settings.dataset?
  let entity ← settings.entity?
  let filter ← FilterSource.ofSettings? settings
  let page := ⟨settings.page?.getD 0, settings.size?.getD 20, ⟨settings.sort⟩⟩
  return ⟨dataset, entity, filter, page, settings.dialect?⟩

/-- Reads a request from the arguments of the command line. -/
def Request.read (words : List String) : Except Stop Request := do
  match Request.ofSettings? (← readArguments words) with
  | some request => return request
  | none => throw .refused

/-- Reads the text of a filter, which must hold more than white space. -/
def readFilterText (text : String) : Except Failure FilterTree :=
  if (Text.trim text.toList).isEmpty then .error .emptyFilter
  else
    match FilterTree.read text with
    | .ok tree => .ok tree
    | .error error => .error (.during .readingFilter (.expression error))

/-- Reads the filter of a request, given the content of its file. -/
def FilterSource.read (content? : Option String) : FilterSource → Except Failure FilterTree
  | .everything => .ok .empty
  | .inline text => readFilterText text
  | .file path =>
    match content? with
    | some text => readFilterText text
    | none => .error (.during (.readingFilterFile path) .unreadable)

namespace Request

/-- The answer with a page of records. -/
def pageText (request : Request) (database : Database) (tree : FilterTree) :
    Except Failure String :=
  match ((Database.findPage request.entity tree request.page).run.run database).1 with
  | .ok page => .ok ((page.toJson Record.toJson).pretty ++ "\n")
  | .error failure => .error (.during (.querying request.entity) failure)

/-- The answer with the text of a query and its parameters, each on a line of its own. -/
def queryText (request : Request) (dialect : Sql.Dialect) (schema : Schema) (tree : FilterTree) :
    Except Failure String := do
  let select ← Sql.Select.of schema request.entity tree (some request.page)
  return select.text dialect ++ "\n" ++ select.paramsToJson.compact ++ "\n"

/-- The answer to a request, given the contents of the files it names. -/
def answer (request : Request) (dataset? filter? : Option String) : Except Failure String := do
  let tree ← request.filter.read filter?
  let database ← match Database.load request.dataset dataset? with
    | .ok database => pure database
    | .error failure => throw (.during (.loading request.dataset) failure)
  match request.dialect? with
  | some dialect => request.queryText dialect database.schema tree
  | none => request.pageText database tree

end Request

/-- What a run of the program gives. -/
structure Outcome where
  exitCode : Nat
  output : String
  complaints : List String

/-- A line of the help text for one option. -/
def helpLine (option : OptionName) : String :=
  let letter := match option.letter? with
    | some letter => "  -" ++ String.singleton letter ++ ", "
    | none => "      "
  letter ++ "--" ++ option.long ++ "  " ++ option.purpose ++ "\n"

/-- The text that explains the command line. -/
def helpText : String :=
  "Filter, sort and page the records of a dataset, or render the equivalent SQL\n\nOptions:\n" ++
    String.join (OptionName.all.map helpLine)

/-- The text that names the program and its version. -/
def versionText : String := "filter-query 0.1.0\n"

/-- The outcome of a command line that is not a request. -/
def Stop.outcome : Stop → Outcome
  | .help => ⟨0, helpText, []⟩
  | .version => ⟨0, versionText, []⟩
  | .refused => ⟨2, "", ["The command line was refused."]⟩

/-- The outcome of a request, given the contents of the files it names. -/
def Request.outcome (request : Request) (dataset? filter? : Option String) : Outcome :=
  match request.answer dataset? filter? with
  | .ok output => ⟨0, output, []⟩
  | .error failure => ⟨1, "", failure.messages⟩

end FilterQuery.CommandLine
