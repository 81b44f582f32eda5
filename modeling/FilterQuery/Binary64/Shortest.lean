import FilterQuery.Binary64.Rounding
/-! The decimal spelling of a 64-bit number: the fewest digits that read back to
it, and among those the nearest to it. Selecting the digits and laying them out
are separate steps, and a layout is a record of decisions. -/
namespace FilterQuery.Binary64

/-- Which of two equally near candidates is taken. -/
inductive Tie where
  /-- The one whose last digit is even. -/
  | toEven
  /-- The larger one. -/
  | up
deriving DecidableEq

/-- The magnitude `digits * 10 ^ exponent`. -/
structure Decimal where
  digits : Nat
  exponent : Int
deriving DecidableEq

/-- The least `k` with `numerator / denominator < 10 ^ k`, for a positive quotient. -/
def decimalScale (numerator denominator : Nat) : Int :=
  let estimate : Int :=
    ((Text.natDigits numerator).length : Int) - (Text.natDigits denominator).length
  if denominator * Nat.pow 10 estimate.toNat ≤ numerator * Nat.pow 10 (-estimate).toNat then
    estimate + 1
  else estimate

/-- The decimal on the grid `10 ^ exponent` that reads back to `rank` and lies nearest to it.
Only the two neighbours of the magnitude on the grid can be that decimal. -/
def nearestOnGrid? (tie : Tie) (rank : Nat) (exponent : Int) : Option Decimal :=
  let (numerator, denominator) := ratio rank
  let scaledNumerator := numerator * Nat.pow 10 (-exponent).toNat
  let scaledDenominator := denominator * Nat.pow 10 exponent.toNat
  let low := scaledNumerator / scaledDenominator
  let rest := scaledNumerator % scaledDenominator
  let lowReads := rankOfDecimal low exponent = rank
  let highReads := rankOfDecimal (low + 1) exponent = rank
  let lowNearer := 2 * rest < scaledDenominator ∨
    (2 * rest = scaledDenominator ∧ tie = .toEven ∧ low % 2 = 0)
  if lowReads ∧ (lowNearer ∨ ¬ highReads) then some ⟨low, exponent⟩
  else if highReads then some ⟨low + 1, exponent⟩
  else none

/-- The magnitude of a rank written out in full. -/
def exactDecimal (rank : Nat) : Decimal :=
  let (significand, exponent) := scaled rank
  ⟨significand * Nat.pow 2 exponent.toNat * Nat.pow 5 (-exponent).toNat, min exponent 0⟩

/-- The shortest decimal that reads back to a positive rank: the coarsest grid with a hit wins. -/
def shortest (tie : Tie) (rank : Nat) : Decimal :=
  let (numerator, denominator) := ratio rank
  let scale := decimalScale numerator denominator
  let hit := (List.range 17).findSome? fun (places : Nat) =>
    nearestOnGrid? tie rank (scale - (places + 1))
  hit.getD (exactDecimal rank)

/-- How the digits of a number are laid out. -/
structure Layout where
  /-- Whether a number whose leading digit stands at this power of ten is written positionally. -/
  positional : Int → Bool
  /-- Whether an integral number written positionally ends in a point and a zero. -/
  pointZero : Bool
  /-- The candidate taken at a tie. -/
  tie : Tie

/-- Digits with the point set `point` places from their left end. -/
def Layout.positionalText (layout : Layout) (digits : List Char) (point : Int) : List Char :=
  if point ≤ 0 then '0' :: '.' :: List.replicate (-point).toNat '0' ++ digits
  else if digits.length ≤ point then
    digits ++ List.replicate (point - digits.length).toNat '0' ++
      (if layout.pointZero then ['.', '0'] else [])
  else digits.take point.toNat ++ '.' :: digits.drop point.toNat

/-- Digits in exponent form: one before the point, and a signed power of ten. -/
def exponentText (digits : List Char) (power : Int) : List Char :=
  let fraction := digits.drop 1
  digits.take 1 ++ (if fraction.isEmpty then [] else '.' :: fraction) ++
    'e' :: (if power < 0 then '-' else '+') :: Text.natDigits power.natAbs

/-- The text of the magnitude of a rank. -/
def Layout.magnitudeText (layout : Layout) (rank : Nat) : List Char :=
  if rank = 0 then '0' :: (if layout.pointZero then ['.', '0'] else [])
  else
    let decimal := shortest layout.tie rank
    let all := Text.natDigits decimal.digits
    let point : Int := all.length + decimal.exponent
    let digits := (all.reverse.dropWhile (· == '0')).reverse
    if layout.positional (point - 1) then layout.positionalText digits point
    else exponentText digits (point - 1)

def Layout.text (layout : Layout) : Binary64 → List Char
  | .finite negative rank _ =>
    (if negative then ['-'] else []) ++ layout.magnitudeText rank
  | .infinite negative => (if negative then ['-'] else []) ++ ['i', 'n', 'f']
  | .nan => ['N', 'a', 'N']

/-- As plain text a number is written positionally, whatever its size, and an integral number
without a point. -/
def plainText : Layout where
  positional := fun _ => true
  pointZero := false
  tie := .up

end FilterQuery.Binary64
