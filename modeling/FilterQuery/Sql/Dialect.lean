import FilterQuery.Failure
import FilterQuery.Text.LowerCase
import FilterQuery.Text.Numeral
/-! The text of queries and the dialects in which it is written. A text is made
of fixed words, names, placeholders and numbers; only names and placeholders are
written differently from one dialect to the next. A name stands between quote
characters, and a quote character inside it is written twice. -/
namespace FilterQuery.Sql

/-- A part of the text of a query. -/
inductive Fragment where
  /-- Keywords and punctuation, written as they are. -/
  | fixed (text : String)
  /-- The name of a table or a column, or the label of a table. -/
  | name (text : String)
  /-- The place of a parameter; the first has index zero. -/
  | placeholder (index : Nat)
  | number (value : Nat)
deriving DecidableEq

/-- A dialect of the query language. -/
inductive Dialect where
  | postgres
  | mySql
deriving DecidableEq

namespace Dialect

def title : Dialect → String
  | .postgres => "PostgreSQL"
  | .mySql => "MySQL"

/-- The dialect of this name, in either case. -/
def read (text : String) : Except Failure Dialect :=
  let name := Text.lowerAscii text
  if name = "postgres" ∨ name = "postgresql" then .ok .postgres
  else if name = "mysql" then .ok .mySql
  else .error (.unknownDialect name)

/-- The character at both ends of a name. -/
def quoteChar : Dialect → Char
  | .postgres => '"'
  | .mySql => '\x60'

def quote (dialect : Dialect) (name : String) : List Char :=
  dialect.quoteChar ::
    name.toList.flatMap (fun c => if c = dialect.quoteChar then [c, c] else [c]) ++
    [dialect.quoteChar]

def placeholder (index : Nat) : Dialect → List Char
  | .postgres => '$' :: Text.natDigits (index + 1)
  | .mySql => ['?']

def fragmentChars (dialect : Dialect) : Fragment → List Char
  | .fixed text => text.toList
  | .name text => dialect.quote text
  | .placeholder index => dialect.placeholder index
  | .number value => Text.natDigits value

def text (dialect : Dialect) (fragments : List Fragment) : String :=
  String.ofList (fragments.flatMap dialect.fragmentChars)

end Dialect

/-- Several texts with a separator between any two. -/
def separate (separator : String) : List (List Fragment) → List Fragment
  | [] => []
  | [part] => part
  | part :: rest => part ++ .fixed separator :: separate separator rest

end FilterQuery.Sql
