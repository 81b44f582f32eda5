import FilterQuery.Paging.Basic
import FilterQuery.Sql.Dialect
/-! Options of a command line and what they settle. An option settles its matter
as soon as it is given, so a value that cannot be read, or an option that is
given once more than it may be, is noticed before anything after it. Only sort
keys may be given several times. -/
namespace FilterQuery.CommandLine

/-- An option. -/
inductive OptionName where
  | dataset
  | entity
  | filter
  | filterFile
  | page
  | size
  | sort
  | sql
  | debug
  | help
  | version
deriving DecidableEq

namespace OptionName

def all : List OptionName :=
  [.dataset, .entity, .filter, .filterFile, .page, .size, .sort, .sql, .debug, .help, .version]

def long : OptionName → String
  | .dataset => "dataset"
  | .entity => "entity"
  | .filter => "filter"
  | .filterFile => "filter-file"
  | .page => "page"
  | .size => "size"
  | .sort => "sort"
  | .sql => "sql"
  | .debug => "debug"
  | .help => "help"
  | .version => "version"

def letter? : OptionName → Option Char
  | .dataset => some 'D'
  | .entity => some 'e'
  | .filter => some 'f'
  | .page => some 'p'
  | .size => some 's'
  | .debug => some 'd'
  | .help => some 'h'
  | .version => some 'V'
  | .filterFile | .sort | .sql => none

def takesValue : OptionName → Bool
  | .debug | .help | .version => false
  | _ => true

/-- What the value of an option stands for. -/
def purpose : OptionName → String
  | .dataset => "Dataset file holding the schema and records"
  | .entity => "Entity to query"
  | .filter => "Filter expression as inline JSON"
  | .filterFile => "Filter expression read from a file"
  | .page => "Zero-based page number [default: 0]"
  | .size => "Page size [default: 20]"
  | .sort => "Sort key as field[,asc|desc], repeatable"
  | .sql => "Print the SQL for this dialect (postgres or mysql) instead of querying"
  | .debug => "Enable debug logging"
  | .help => "Print help"
  | .version => "Print version"

end OptionName

/-- What the options have settled. -/
structure Settings where
  dataset? : Option String
  entity? : Option String
  /-- The text of a filter. -/
  filter? : Option String
  /-- The path of a file with a filter. -/
  filterFile? : Option String
  page? : Option Nat
  size? : Option Nat
  sort : List SortKey
  dialect? : Option Sql.Dialect
  debug : Bool

/-- Reads a count that fits a machine word. -/
def readCount? (text : String) : Option Nat :=
  let digits := match text.toList with
    | '+' :: rest => rest
    | cs => cs
  if digits.isEmpty || !digits.all Char.isDigit then none
  else
    let count := Text.digitsValue digits
    if count < 0x10000000000000000 then some count else none

/-- Reads a path, which may be any text but the empty one. -/
def readPath? (text : String) : Option String := if text = "" then none else some text

/-- Settles an open matter with a value that could be read. What is settled stays as it is, and
settling it again fails. -/
def settleOnce? {α : Type} (settled? value? : Option α) : Option (Option α) :=
  if settled?.isSome then none else value?.map some

namespace Settings

def empty : Settings := ⟨none, none, none, none, none, none, [], none, false⟩

/-- Settles the matter of an option with the text of its value. Help and version settle nothing. -/
def settle? (settings : Settings) (option : OptionName) (text : String) : Option Settings :=
  match option with
  | .dataset => do
    return { settings with dataset? := ← settleOnce? settings.dataset? (readPath? text) }
  | .entity => do return { settings with entity? := ← settleOnce? settings.entity? (some text) }
  | .filter => do return { settings with filter? := ← settleOnce? settings.filter? (some text) }
  | .filterFile => do
    return { settings with filterFile? := ← settleOnce? settings.filterFile? (readPath? text) }
  | .page => do return { settings with page? := ← settleOnce? settings.page? (readCount? text) }
  | .size => do return { settings with size? := ← settleOnce? settings.size? (readCount? text) }
  | .sort => do return { settings with sort := settings.sort ++ [← (SortKey.read text).toOption] }
  | .sql => do
    let dialect? := (Sql.Dialect.read text).toOption
    return { settings with dialect? := ← settleOnce? settings.dialect? dialect? }
  | .debug => if settings.debug then none else some { settings with debug := true }
  | .help | .version => none

end Settings

end FilterQuery.CommandLine
