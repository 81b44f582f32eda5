import FilterQuery.Json.Token
/-! Reading JSON text. The tokens are read from left to right with a stack of the
arrays and objects that are still open. At most 127 may be open at a time, and a
key that is repeated in an object keeps its first place and takes its last
value. -/
namespace FilterQuery.Json

/-- The greatest number of arrays and objects that may enclose one another. -/
def depthLimit : Nat := 127

/-- An open array with its items so far, in reverse, or an open object with its members so far
and the key whose value is being read. -/
inductive Frame where
  | item (items : List Json)
  | member (members : List (String × Json)) (key : String)

/-- What has been read, and what may come next. The stack begins with the innermost frame. -/
inductive Place where
  /-- A value must follow. -/
  | value (stack : List Frame)
  /-- An array has just been opened. -/
  | opened (stack : List Frame)
  /-- An object has just been opened. -/
  | openedObj (stack : List Frame)
  /-- A key must follow. -/
  | key (members : List (String × Json)) (stack : List Frame)
  /-- A colon must follow. -/
  | colon (members : List (String × Json)) (key : String) (stack : List Frame)
  /-- A value has just ended. -/
  | complete (value : Json) (stack : List Frame)

/-- Reads the first token of a value. -/
def Place.begin (stack : List Frame) : Token → Option Place
  | .scalar json => some (.complete json stack)
  | .text content => some (.complete (.str content) stack)
  | .openArr => if stack.length < depthLimit then some (.opened stack) else none
  | .openObj => if stack.length < depthLimit then some (.openedObj stack) else none
  | _ => none

/-- Reads the token after a value. -/
def Place.proceed (json : Json) (stack : List Frame) (token : Token) : Option Place :=
  match stack, token with
  | .item items :: rest, .comma => some (.value (.item (json :: items) :: rest))
  | .item items :: rest, .closeArr => some (.complete (.arr (json :: items).reverse) rest)
  | .member members name :: rest, .comma => some (.key (Entries.set members name json) rest)
  | .member members name :: rest, .closeObj =>
    some (.complete (.obj (Entries.set members name json)) rest)
  | _, _ => none

def Place.step (place : Place) (token : Token) : Option Place :=
  match place, token with
  | .value stack, token => Place.begin stack token
  | .opened stack, .closeArr => some (.complete (.arr []) stack)
  | .opened stack, token => Place.begin (.item [] :: stack) token
  | .openedObj stack, .closeObj => some (.complete (.obj []) stack)
  | .openedObj stack, .text name => some (.colon [] name stack)
  | .key members stack, .text name => some (.colon members name stack)
  | .colon members name stack, .colon => some (.value (.member members name :: stack))
  | .complete json stack, token => Place.proceed json stack token
  | _, _ => none

/-- The value that the tokens spell out, if they spell out exactly one. -/
def ofTokens? (tokens : List Token) : Option Json := do
  match ← tokens.foldlM Place.step (.value []) with
  | .complete json [] => some json
  | _ => none

/-- Reads a JSON text. -/
def read? (text : String) : Option Json := do
  ofTokens? (← scan text.toList)

end FilterQuery.Json
