import FilterQuery.Binary64.Basic
import FilterQuery.Text.Numeral
/-! Rounding of exact quotients to the nearest 64-bit number; a quotient midway
between two numbers goes to the one with the even significand. Integers and
decimal numerals are read through it. -/
namespace FilterQuery.Binary64

/-- The quotient rounded to the nearest natural number, halves to the even one. -/
def roundHalfEven (numerator denominator : Nat) : Nat :=
  let quotient := numerator / denominator
  let rest := numerator % denominator
  if 2 * rest < denominator ∨ (2 * rest = denominator ∧ quotient % 2 = 0) then quotient
  else quotient + 1

/-- The exponent of the power of two at or below a positive quotient. -/
def floorLog2 (numerator denominator : Nat) : Int :=
  let estimate : Int := (Nat.log2 numerator : Int) - Nat.log2 denominator
  if denominator * Nat.pow 2 estimate.toNat ≤ numerator * Nat.pow 2 (-estimate).toNat then estimate
  else estimate - 1

/-- The rank nearest to a quotient; from `rankBound` on the quotient is out of range. A
significand that rounds up to `2 ^ 53` lands on the first rank of the next exponent. -/
def rankOfRatio (numerator denominator : Nat) : Nat :=
  if numerator = 0 then 0
  else
    let exponent := max (floorLog2 numerator denominator - 52) (-1074)
    let significand :=
      roundHalfEven (numerator * Nat.pow 2 (-exponent).toNat)
        (denominator * Nat.pow 2 exponent.toNat)
    (exponent + 1074).toNat * Nat.pow 2 52 + significand

/-- The rank nearest to `digits * 10 ^ exponent`. Numbers from `10 ^ 309` on are out of range
and numbers below `10 ^ -330` are nearest to zero, so neither needs its power computed. -/
def rankOfDecimal (digits : Nat) (exponent : Int) : Nat :=
  let size : Int := (Text.natDigits digits).length + exponent
  if digits = 0 ∨ size < -330 then 0
  else if 310 ≤ size then rankBound
  else rankOfRatio (digits * Nat.pow 10 exponent.toNat) (Nat.pow 10 (-exponent).toNat)

/-- The number with this sign and rank; a rank out of range gives infinity. -/
def ofRank (negative : Bool) (rank : Nat) : Binary64 :=
  if bound : rank < rankBound then .finite negative rank bound else .infinite negative

def ofInt (n : Int) : Binary64 := ofRank (decide (n < 0)) (rankOfRatio n.natAbs 1)

/-- The number nearest to a decimal numeral. -/
def ofNumeral (numeral : Text.DecimalNumeral) : Binary64 :=
  ofRank numeral.negative (rankOfDecimal numeral.digits numeral.exponent)

end FilterQuery.Binary64
