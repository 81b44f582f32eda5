import FilterQuery.Binary64.Rounding
/-! Integers of word size as floating-point numbers. Rounding keeps 53 digits of
an integer and the power of two that scales them, which is far from the largest
one, so no such integer becomes infinite. -/
namespace FilterQuery.Binary64

theorem roundHalfEven_le (numerator denominator : Nat) :
    roundHalfEven numerator denominator ≤ numerator / denominator + 1 := by
  unfold roundHalfEven
  dsimp only
  split <;> omega

private theorem floorLog2_one {numerator : Nat} (positive : numerator ≠ 0) :
    floorLog2 numerator 1 = numerator.log2 := by
  have below : Nat.pow 2 numerator.log2 ≤ numerator := Nat.log2_self_le positive
  have unit : Nat.log2 1 = 0 := by decide
  have up : ((numerator.log2 : Int) - (0 : Nat)).toNat = numerator.log2 := by omega
  have down : (-((numerator.log2 : Int) - (0 : Nat))).toNat = 0 := by omega
  have one : Nat.pow 2 0 = 1 := rfl
  unfold floorLog2
  dsimp only
  rw [unit, up, down, one, Nat.one_mul, Nat.mul_one, if_pos below]
  omega

private theorem pow_add (base more less : Nat) :
    Nat.pow base (more + less) = Nat.pow base more * Nat.pow base less := Nat.pow_add base more less

/-- The significand of a quotient with this exponent has at most 53 digits, but may be rounded up
to the next power of two. -/
private theorem significand_le {numerator : Nat} {exponent : Int}
    (scale : exponent = numerator.log2 - 52) :
    roundHalfEven (numerator * Nat.pow 2 (-exponent).toNat) (1 * Nat.pow 2 exponent.toNat) ≤
      Nat.pow 2 53 := by
  have above : numerator < Nat.pow 2 (numerator.log2 + 1) := Nat.lt_log2_self
  have positive (power : Nat) : 0 < Nat.pow 2 power := Nat.two_pow_pos power
  have quotient : numerator * Nat.pow 2 (-exponent).toNat / (1 * Nat.pow 2 exponent.toNat) <
      Nat.pow 2 53 := by
    rw [Nat.one_mul, Nat.div_lt_iff_lt_mul (positive _), ← pow_add]
    calc numerator * Nat.pow 2 (-exponent).toNat
        < Nat.pow 2 (numerator.log2 + 1) * Nat.pow 2 (-exponent).toNat :=
          Nat.mul_lt_mul_of_pos_right above (positive _)
      _ = Nat.pow 2 (53 + exponent.toNat) := by
          rw [← pow_add]
          congr 1
          omega
  have rounded := roundHalfEven_le (numerator * Nat.pow 2 (-exponent).toNat)
    (1 * Nat.pow 2 exponent.toNat)
  omega

theorem rankOfRatio_lt_rankBound {numerator : Nat} (small : numerator < 0x10000000000000000) :
    rankOfRatio numerator 1 < rankBound := by
  unfold rankOfRatio
  split
  · decide
  · rename_i positive
    have digits : numerator.log2 < 64 := (Nat.log2_lt positive).2 small
    have scale : max (floorLog2 numerator 1 - 52) (-1074) = (numerator.log2 : Int) - 52 := by
      rw [floorLog2_one positive]
      omega
    have significand := significand_le scale
    have exponent : (max (floorLog2 numerator 1 - 52) (-1074) + 1074).toNat ≤ 1085 := by omega
    have unit : Nat.pow 2 52 = 0x10000000000000 := rfl
    have twice : Nat.pow 2 53 = 0x20000000000000 := rfl
    dsimp only
    unfold rankBound
    rw [unit]
    rw [twice] at significand
    omega

/-- An integer of at most 64 bits is a finite floating-point number. -/
theorem isFinite_ofInt {n : Int} (small : n.natAbs < 0x10000000000000000) :
    (ofInt n).isFinite = true := by
  simp [ofInt, ofRank, rankOfRatio_lt_rankBound small, isFinite]

end FilterQuery.Binary64
