import FilterQuery.Text.Numeral
/-! The digits of a number. Written digits are digits, there is at least one, and none but
the zero begins with a zero. Padding adds zeros in front, which do not count, so padded
digits have the value of the number and the width of the padding, if the number fits it. -/
namespace FilterQuery.Text

variable {width n : Nat}

theorem isDigit_of_mem_natDigits {c : Char} (inside : c ∈ natDigits n) : c.isDigit = true :=
  Nat.isDigit_of_mem_toDigits (by decide) (by decide) inside

theorem natDigits_ne_nil : natDigits n ≠ [] := Nat.toDigits_ne_nil

/-- Only the digits of zero begin with a zero. -/
theorem head?_natDigits_eq_zero_iff : (natDigits n).head? = some '0' ↔ n = 0 := by
  induction n using Nat.strongRecOn with
  | ind n ih =>
    by_cases single : n < 10
    · rw [natDigits, Nat.toDigits_of_lt_base single]
      simp [Nat.digitChar_eq_zero]
    · -- the last digit stands behind those of a tenth, which is not zero
      obtain ⟨first, rest, digits⟩ : ∃ first rest, natDigits (n / 10) = first :: rest :=
        List.exists_cons_of_ne_nil natDigits_ne_nil
      have shorter := ih (n / 10) (by omega)
      have whole : natDigits n = first :: rest ++ [(n % 10).digitChar] := by
        rw [← digits]
        exact Nat.toDigits_of_base_le (by decide) (by omega)
      rw [digits, List.head?_cons] at shorter
      rw [whole, List.cons_append, List.head?_cons, shorter]
      omega

/-- All digits of a number are split off. -/
theorem splitDigits_natDigits (n : Nat) : splitDigits (natDigits n) = (natDigits n, []) := by
  have each : ∀ c ∈ natDigits n, c.isDigit = true := fun _ => isDigit_of_mem_natDigits
  have digits : (natDigits n ++ []).takeWhile Char.isDigit = natDigits n ++ [] :=
    List.takeWhile_append_of_pos each
  have rest : (natDigits n ++ []).dropWhile Char.isDigit = [] :=
    List.dropWhile_append_of_pos each
  rw [List.append_nil] at digits rest
  rw [splitDigits, digits, rest]

theorem isDigit_of_mem_padDigits {c : Char} (inside : c ∈ padDigits width n) :
    c.isDigit = true := by
  rcases List.mem_append.1 inside with zero | digit
  · rw [List.eq_of_mem_replicate zero]
    rfl
  · exact isDigit_of_mem_natDigits digit

theorem padDigits_ne_nil : padDigits width n ≠ [] := by
  simp [padDigits, natDigits_ne_nil]

/-- Zeros in front of digits do not count. -/
theorem digitsValue_padDigits (width n : Nat) : digitsValue (padDigits width n) = n := by
  rw [padDigits, digitsValue, Nat.ofDigitChars_append, Nat.ofDigitChars_replicate_zero,
    Nat.mul_zero]
  exact digitsValue_natDigits n

/-- A number that fits the width is padded to exactly that width. -/
theorem length_padDigits (some : 0 < width) (fits : n < Nat.pow 10 width) :
    (padDigits width n).length = width := by
  have short : (natDigits n).length ≤ width := (Nat.length_toDigits_le_iff (by decide) some).2 fits
  rw [padDigits, List.length_append, List.length_replicate]
  omega

end FilterQuery.Text
