/-! Binary floating-point numbers of 64 bits. A finite number is a sign and the
rank of its magnitude: the position of the magnitude in the ascending list of
all magnitudes, zero first. Magnitudes of equal exponent are `2 ^ 52`
neighbours, so rank and exponent determine each other, and the order of numbers
is the order of their signed ranks. -/
namespace FilterQuery

/-- The number of finite magnitudes; also the rank that stands for infinity. -/
def Binary64.rankBound : Nat := 2047 * Nat.pow 2 52

/-- A 64-bit floating-point number. -/
inductive Binary64 where
  /-- The finite number with this sign and this rank of its magnitude. -/
  | finite (negative : Bool) (rank : Nat) (bound : rank < Binary64.rankBound)
  /-- Infinity with a sign. -/
  | infinite (negative : Bool)
  /-- The result of an undefined operation. -/
  | nan
deriving DecidableEq

namespace Binary64

/-- Whether the number is neither infinite nor undefined. -/
def isFinite : Binary64 → Bool
  | .finite .. => true
  | _ => false

/-- The position of a number on the line: its rank with its sign. Both zeros are at zero. -/
def place? : Binary64 → Option Int
  | .finite negative rank _ => some (if negative then -(rank : Int) else rank)
  | .infinite negative => some (if negative then -(rankBound : Int) else rankBound)
  | .nan => none

/-- The numeric order. An undefined number is not comparable with anything. -/
def compare? (a b : Binary64) : Option Ordering :=
  match a.place?, b.place? with
  | some i, some j => some (compare i j)
  | _, _ => none

/-- Numeric equality: the zeros are equal, an undefined number equals nothing. -/
def equal (a b : Binary64) : Bool := a.compare? b == some .eq

/-- The magnitude of a rank, as a significand and the power of two that scales it. -/
def scaled (rank : Nat) : Nat × Int :=
  if rank < Nat.pow 2 52 then (rank, -1074)
  else (Nat.pow 2 52 + rank % Nat.pow 2 52, (rank / Nat.pow 2 52 : Nat) - 1075)

/-- The magnitude of a rank as a quotient of natural numbers. -/
def ratio (rank : Nat) : Nat × Nat :=
  let (significand, exponent) := scaled rank
  (significand * Nat.pow 2 exponent.toNat, Nat.pow 2 (-exponent).toNat)

/-- The integer that a finite number is equal to, if there is one. -/
def integer? : Binary64 → Option Int
  | .finite negative rank _ =>
    let (numerator, denominator) := ratio rank
    if numerator % denominator = 0 then
      let size : Int := (numerator / denominator : Nat)
      some (if negative then -size else size)
    else none
  | _ => none

end Binary64

end FilterQuery
