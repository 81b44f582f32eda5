import FilterQuery.Binary64.Stepwise
import FilterQuery.Json.Basic
/-! The tokens of JSON text. The scanner reads one character at a time: outside
strings the four blanks separate tokens, brackets and commas are tokens of their
own, and a maximal run of word characters is a literal or a number. -/
namespace FilterQuery

/-- Reads a JSON number: an optional minus, digits without a leading zero, an optional fraction
and an optional exponent. Without the latter two it is an integer if it fits a word, but minus zero
is a floating-point number. Numbers beyond the floating-point range are refused. -/
def Number.read? (cs : List Char) : Option Number :=
  let (negative, unsigned) := match cs with
    | '-' :: rest => (true, rest)
    | rest => (false, rest)
  let (whole, rest) := Text.splitDigits unsigned
  let (fraction, tail) := Text.splitFraction rest
  let leadingZero := whole.head? == some '0' && 1 < whole.length
  let emptyFraction := rest.head? == some '.' && fraction.isEmpty
  if whole.isEmpty || leadingZero || emptyFraction then none
  else do
    let exponent ← Text.readExponent? tail
    let rounded := Binary64.ofPartsInSteps negative whole fraction exponent
    let size := Text.digitsValue whole
    if rest.isEmpty && !(negative && size == 0) then
      Number.ofIntOr? (if negative then -size else size) rounded
    else Number.ofBinary64? rounded

namespace Json

/-- A token of JSON text. -/
inductive Token where
  | openArr
  | closeArr
  | openObj
  | closeObj
  | comma
  | colon
  | text (value : String)
  | scalar (value : Json)

/-- The token that a run of word characters stands for. -/
def Token.ofWord? (word : List Char) : Option Token :=
  if word = ['n', 'u', 'l', 'l'] then some (.scalar .null)
  else if word = ['t', 'r', 'u', 'e'] then some (.scalar (.bool true))
  else if word = ['f', 'a', 'l', 's', 'e'] then some (.scalar (.bool false))
  else (Number.read? word).map fun number => .scalar (.num number)

/-- Where in a token the scanner stands. The characters of an unfinished token are kept in
reverse. -/
inductive Mode where
  /-- Between two tokens. -/
  | between
  /-- Inside a literal or a number. -/
  | word (chars : List Char)
  /-- Inside a string. -/
  | text (chars : List Char)
  /-- After the backslash of an escape. -/
  | escape (chars : List Char)
  /-- Inside the four digits of a code unit, after `high` if that began a surrogate pair. -/
  | unit (chars : List Char) (high : Option Nat) (digits : List Nat)
  /-- After the first unit of a surrogate pair. -/
  | pair (chars : List Char) (high : Nat)
  /-- After the first unit of a surrogate pair and a backslash. -/
  | pairEscape (chars : List Char) (high : Nat)

/-- The state of the scanner: its mode, and the tokens found so far, in reverse. -/
structure Scanner where
  mode : Mode
  tokens : List Token

/-- Whether a character can be part of a literal or a number. -/
def isWordChar (c : Char) : Bool := c.isAlphanum || c == '+' || c == '-' || c == '.'

/-- The character that an escape letter stands for. -/
def unescape? : Char → Option Char
  | '"' => some '"'
  | '\\' => some '\\'
  | '/' => some '/'
  | 'b' => some '\x08'
  | 'f' => some '\x0c'
  | 'n' => some '\n'
  | 'r' => some '\r'
  | 't' => some '\t'
  | _ => none

def hexValue? (c : Char) : Option Nat :=
  if c.isDigit then some (c.toNat - '0'.toNat)
  else if 'a' ≤ c ∧ c ≤ 'f' then some (c.toNat - 'a'.toNat + 10)
  else if 'A' ≤ c ∧ c ≤ 'F' then some (c.toNat - 'A'.toNat + 10)
  else none

/-- Continues a string after a complete code unit. A leading surrogate must be followed by a
trailing one, which must not stand alone. -/
def acceptUnit (chars : List Char) (high : Option Nat) (unit : Nat) : Option Mode :=
  let leading := 0xD800 ≤ unit && unit < 0xDC00
  let trailing := 0xDC00 ≤ unit && unit < 0xE000
  match high with
  | some high =>
    if trailing then
      let code := 0x10000 + (high - 0xD800) * 0x400 + (unit - 0xDC00)
      some (.text (Char.ofNat code :: chars))
    else none
  | none =>
    if leading then some (.pair chars unit)
    else if trailing then none
    else some (.text (Char.ofNat unit :: chars))

/-- Reads a character that stands outside every other token. -/
def Scanner.begin (tokens : List Token) (c : Char) : Option Scanner :=
  let punctuation (token : Token) : Option Scanner := some ⟨.between, token :: tokens⟩
  match c with
  | ' ' => some ⟨.between, tokens⟩
  | '\t' => some ⟨.between, tokens⟩
  | '\n' => some ⟨.between, tokens⟩
  | '\r' => some ⟨.between, tokens⟩
  | '[' => punctuation .openArr
  | ']' => punctuation .closeArr
  | '{' => punctuation .openObj
  | '}' => punctuation .closeObj
  | ',' => punctuation .comma
  | ':' => punctuation .colon
  | '"' => some ⟨.text [], tokens⟩
  | c => if isWordChar c then some ⟨.word [c], tokens⟩ else none

def Scanner.step (scanner : Scanner) (c : Char) : Option Scanner :=
  let tokens := scanner.tokens
  match scanner.mode with
  | .between => Scanner.begin tokens c
  | .word chars =>
    if isWordChar c then some ⟨.word (c :: chars), tokens⟩
    else do
      let token ← Token.ofWord? chars.reverse
      Scanner.begin (token :: tokens) c
  | .text chars =>
    if c = '"' then some ⟨.between, .text (String.ofList chars.reverse) :: tokens⟩
    else if c = '\\' then some ⟨.escape chars, tokens⟩
    else if c < ' ' then none
    else some ⟨.text (c :: chars), tokens⟩
  | .escape chars =>
    if c = 'u' then some ⟨.unit chars none [], tokens⟩
    else (unescape? c).map fun d => ⟨.text (d :: chars), tokens⟩
  | .unit chars high digits => do
    let digit ← hexValue? c
    match digits with
    | [third, second, first] =>
      let unit := ((first * 16 + second) * 16 + third) * 16 + digit
      (acceptUnit chars high unit).map fun mode => ⟨mode, tokens⟩
    | _ => some ⟨.unit chars high (digit :: digits), tokens⟩
  | .pair chars high => if c = '\\' then some ⟨.pairEscape chars high, tokens⟩ else none
  | .pairEscape chars high => if c = 'u' then some ⟨.unit chars (some high) [], tokens⟩ else none

/-- The tokens at the end of the text; a string must be closed by then. -/
def Scanner.finish (scanner : Scanner) : Option (List Token) :=
  match scanner.mode with
  | .between => some scanner.tokens.reverse
  | .word chars => (Token.ofWord? chars.reverse).map fun token => (token :: scanner.tokens).reverse
  | _ => none

def scan (cs : List Char) : Option (List Token) := do
  let scanner ← cs.foldlM Scanner.step ⟨.between, []⟩
  scanner.finish

end Json

end FilterQuery
