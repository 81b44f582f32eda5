/-! Numerals in base ten: the digits of a natural number, and the spellings of
integers and decimals that are accepted inside text. An integer is an optional
sign and at least one digit. A decimal may leave out the digits on one side of
its point and may carry an exponent. Only ASCII digits count. -/
namespace FilterQuery.Text

/-- The value of a run of digits; the empty run is zero. -/
def digitsValue (digits : List Char) : Nat := Nat.ofDigitChars 10 digits 0

/-- The decimal digits of a number, without leading zeros. -/
def natDigits (n : Nat) : List Char := Nat.toDigits 10 n

theorem digitsValue_natDigits (n : Nat) : digitsValue (natDigits n) = n :=
  Nat.ofDigitChars_toDigits (by decide) (by decide)

/-- The decimal spelling of an integer, with a minus sign if it is negative. -/
def intDigits (n : Int) : List Char :=
  if n < 0 then '-' :: natDigits n.natAbs else natDigits n.natAbs

/-- Digits padded with zeros on the left to at least `width` characters. -/
def padDigits (width n : Nat) : List Char :=
  List.replicate (width - (natDigits n).length) '0' ++ natDigits n

/-- Takes an optional sign off the front; `true` stands for minus. -/
def splitSign : List Char → Bool × List Char
  | '-' :: rest => (true, rest)
  | '+' :: rest => (false, rest)
  | rest => (false, rest)

/-- Splits off the longest run of digits. -/
def splitDigits (cs : List Char) : List Char × List Char :=
  (cs.takeWhile Char.isDigit, cs.dropWhile Char.isDigit)

/-- Reads an integer: an optional sign and at least one digit, and nothing else. -/
def readInt? (cs : List Char) : Option Int :=
  let (negative, rest) := splitSign cs
  if rest.isEmpty || !rest.all Char.isDigit then none
  else
    let size : Int := digitsValue rest
    some (if negative then -size else size)

/-- A decimal numeral: `digits * 10 ^ exponent` with a sign. -/
structure DecimalNumeral where
  negative : Bool
  digits : Nat
  exponent : Int
deriving DecidableEq

/-- Reads the exponent that may follow the digits of a decimal; without one it is zero. -/
def readExponent? : List Char → Option Int
  | [] => some 0
  | mark :: rest => if mark = 'e' ∨ mark = 'E' then readInt? rest else none

/-- The numeral with these digits before and after the point, and this exponent. -/
def DecimalNumeral.ofParts (negative : Bool) (whole fraction : List Char) (exponent : Int) :
    DecimalNumeral :=
  ⟨negative, digitsValue (whole ++ fraction), exponent - fraction.length⟩

/-- Splits off a fraction: a point and the digits after it. -/
def splitFraction : List Char → List Char × List Char
  | '.' :: rest => splitDigits rest
  | rest => ([], rest)

/-- Reads a decimal: an optional sign, digits with an optional point among or around them,
and an optional exponent. -/
def readDecimal? (cs : List Char) : Option DecimalNumeral :=
  let (negative, unsigned) := splitSign cs
  let (whole, rest) := splitDigits unsigned
  let (fraction, rest) := splitFraction rest
  if whole.isEmpty && fraction.isEmpty then none
  else (readExponent? rest).map (DecimalNumeral.ofParts negative whole fraction)

end FilterQuery.Text
