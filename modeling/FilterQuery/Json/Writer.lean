import FilterQuery.Json.Basic
import FilterQuery.Binary64.Shortest
/-! Writing JSON text, either without any blanks or on lines with an indentation
of two blanks. Quotes, backslashes and control characters are escaped; all other
characters stand for themselves. -/
namespace FilterQuery.Json

/-- A floating-point number is written positionally from `10 ^ -5` up to, but not including,
`10 ^ 16`, with at least one digit after the point, and else in exponent form. -/
def floatText : Binary64.Layout where
  positional := fun power => -5 ≤ power && power < 16
  pointZero := true
  tie := .toEven

def numberText : Number → List Char
  | .int value _ => Text.intDigits value
  | .float value _ => floatText.text value

def hexDigit (n : Nat) : Char := if n < 10 then Char.ofNat (48 + n) else Char.ofNat (87 + n)

/-- A character as it stands inside a string. -/
def escape (c : Char) : List Char :=
  if c = '"' then ['\\', '"']
  else if c = '\\' then ['\\', '\\']
  else if c = '\n' then ['\\', 'n']
  else if c = '\r' then ['\\', 'r']
  else if c = '\t' then ['\\', 't']
  else if c = '\x08' then ['\\', 'b']
  else if c = '\x0c' then ['\\', 'f']
  else if c < ' ' then ['\\', 'u', '0', '0', hexDigit (c.toNat / 16), hexDigit (c.toNat % 16)]
  else [c]

def quote (s : String) : List Char := '"' :: s.toList.flatMap escape ++ ['"']

/-- The texts of several parts, with a separator between any two. -/
def separate (separator : List Char) : List (List Char) → List Char
  | [] => []
  | [part] => part
  | part :: rest => part ++ separator ++ separate separator rest

mutual

/-- The text of a value, without blanks. -/
def chars : Json → List Char
  | .null => ['n', 'u', 'l', 'l']
  | .bool true => ['t', 'r', 'u', 'e']
  | .bool false => ['f', 'a', 'l', 's', 'e']
  | .num value => numberText value
  | .str value => quote value
  | .arr items => '[' :: separate [','] (itemChars items) ++ [']']
  | .obj members => '{' :: separate [','] (memberChars members) ++ ['}']

/-- The texts of the items of an array. -/
def itemChars : List Json → List (List Char)
  | [] => []
  | item :: rest => chars item :: itemChars rest

/-- The texts of the members of an object. -/
def memberChars : List (String × Json) → List (List Char)
  | [] => []
  | (key, value) :: rest => (quote key ++ ':' :: chars value) :: memberChars rest

end

/-- The text of a value, without blanks. -/
def compact (json : Json) : String := String.ofList json.chars

/-- The start of a line at a depth of nesting. -/
def newLine (depth : Nat) : List Char := '\n' :: List.replicate (2 * depth) ' '

/-- Parts between brackets, each on a line of its own. -/
def bracket (first last : Char) (depth : Nat) (parts : List (List Char)) : List Char :=
  if parts.isEmpty then [first, last]
  else first :: newLine (depth + 1) ++ separate (',' :: newLine (depth + 1)) parts ++
    newLine depth ++ [last]

mutual

/-- The text of a value on indented lines, for a value at a depth of nesting. -/
def indented (depth : Nat) : Json → List Char
  | .arr items => bracket '[' ']' depth (indentedItems (depth + 1) items)
  | .obj members => bracket '{' '}' depth (indentedMembers (depth + 1) members)
  | json => chars json

/-- The texts of the items of an array, each at this depth. -/
def indentedItems (depth : Nat) : List Json → List (List Char)
  | [] => []
  | item :: rest => indented depth item :: indentedItems depth rest

/-- The texts of the members of an object, each at this depth. -/
def indentedMembers (depth : Nat) : List (String × Json) → List (List Char)
  | [] => []
  | (key, value) :: rest =>
    (quote key ++ ':' :: ' ' :: indented depth value) :: indentedMembers depth rest

end

/-- The text of a value on indented lines. -/
def pretty (json : Json) : String := String.ofList (json.indented 0)

end FilterQuery.Json
