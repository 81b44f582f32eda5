import FilterQuery.Binary64.Rounding
/-! A quick way of reading decimals. The leading digits are taken as a word of 64
bits, and what does not fit is left out. The number nearest to the word is then
multiplied or divided by the number nearest to a power of ten. Every step
rounds, so the result may miss the nearest number by a few places; up to fifteen
digits and a small power of ten it does not. -/
namespace FilterQuery.Binary64

/-- Appends digits to a number as long as it fits a word, and counts the digits left out. -/
def appendDigits (word : Nat) : List Char → Nat × Nat
  | [] => (word, 0)
  | c :: rest =>
    let next := word * 10 + (c.toNat - '0'.toNat)
    if next < 0x10000000000000000 then appendDigits next rest else (word, rest.length + 1)

/-- The rank nearest to the product of two ranks' magnitudes. -/
def rankProduct (a b : Nat) : Nat :=
  rankOfRatio ((ratio a).1 * (ratio b).1) ((ratio a).2 * (ratio b).2)

/-- The rank nearest to the quotient of two ranks' magnitudes. -/
def rankQuotient (a b : Nat) : Nat :=
  rankOfRatio ((ratio a).1 * (ratio b).2) ((ratio a).2 * (ratio b).1)

/-- The rank nearest to a power of ten. -/
def rankOfPower (exponent : Nat) : Nat := rankOfRatio (Nat.pow 10 exponent) 1

/-- The greatest power of ten that is used in one step. -/
def powerLimit : Nat := 308

/-- Scales a word by a power of ten. Beyond the greatest power a product is out of range. A
quotient takes a second step; after two full steps every word has become zero. -/
def rankInSteps (word : Nat) (exponent : Int) : Nat :=
  let rank := rankOfRatio word 1
  if rank = 0 then 0
  else if powerLimit < exponent then rankBound
  else if 0 ≤ exponent then rankProduct rank (rankOfPower exponent.toNat)
  else if -powerLimit ≤ exponent then rankQuotient rank (rankOfPower (-exponent).toNat)
  else if -2 * powerLimit ≤ exponent then
    rankQuotient (rankQuotient rank (rankOfPower powerLimit))
      (rankOfPower (-exponent - powerLimit).toNat)
  else 0

/-- Reads the digits before and after a point and an exponent in steps. -/
def ofPartsInSteps (negative : Bool) (whole fraction : List Char) (exponent : Int) : Binary64 :=
  let (word, wholeRest) := appendDigits 0 whole
  let (word, fractionRest) := appendDigits word fraction
  let used : Int := fraction.length - fractionRest
  ofRank negative (rankInSteps word (wholeRest - used + exponent))

end FilterQuery.Binary64
