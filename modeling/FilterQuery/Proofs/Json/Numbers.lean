import FilterQuery.Json.Token
import FilterQuery.Json.Writer
import FilterQuery.Proofs.Text.Digits
/-! Numbers as words of JSON text. Whatever is read as a number is a word. Integers are
read as they are written. A floating-point number is read a step at a time, so that the
one that was written may be missed; where it is not, the number is legible. -/
namespace FilterQuery

namespace Json

/-- All of these characters can be part of a literal or a number. -/
def IsWord (cs : List Char) : Prop := ∀ c ∈ cs, isWordChar c = true

variable {cs : List Char}

theorem isWordChar_of_isDigit {c : Char} (digit : c.isDigit = true) : isWordChar c = true := by
  simp [isWordChar, Char.isAlphanum, digit]

theorem isWord_of_readInt? {n : Int} (read : Text.readInt? cs = some n) : IsWord cs := by
  unfold Text.readInt? at read
  split at read
  rename_i negative rest signed
  split at read
  · cases read
  rename_i filled
  have digits : IsWord rest := by
    simp only [Bool.or_eq_true, not_or, Bool.not_eq_true', Bool.not_eq_false] at filled
    exact fun c inside => isWordChar_of_isDigit (List.all_eq_true.1 filled.2 c inside)
  unfold Text.splitSign at signed
  split at signed <;> cases signed
  · exact List.forall_mem_cons.2 ⟨by decide, digits⟩
  · exact List.forall_mem_cons.2 ⟨by decide, digits⟩
  · exact digits

theorem isWord_of_readExponent? {n : Int} (read : Text.readExponent? cs = some n) :
    IsWord cs := by
  unfold Text.readExponent? at read
  split at read
  · simp [IsWord]
  · split at read
    · rename_i mark
      refine List.forall_mem_cons.2 ⟨?_, isWord_of_readInt? read⟩
      rcases mark with rfl | rfl <;> decide
    · cases read

theorem isWord_of_splitDigits (rest : IsWord (Text.splitDigits cs).2) : IsWord cs := by
  intro c inside
  have split : cs.takeWhile Char.isDigit ++ cs.dropWhile Char.isDigit = cs :=
    List.takeWhile_append_dropWhile
  rw [← split] at inside
  rcases List.mem_append.1 inside with digit | other
  · exact isWordChar_of_isDigit (List.all_eq_true.1 List.all_takeWhile c digit)
  · exact rest c other

theorem isWord_of_splitFraction (rest : IsWord (Text.splitFraction cs).2) : IsWord cs := by
  unfold Text.splitFraction at rest
  split at rest
  · exact List.forall_mem_cons.2 ⟨by decide, isWord_of_splitDigits rest⟩
  · exact rest

theorem isWord_of_read? {number : Number} (read : Number.read? cs = some number) : IsWord cs := by
  unfold Number.read? at read
  split at read
  rename_i negative unsigned signed
  obtain ⟨exponent, readExponent⟩ : ∃ exponent, Text.readExponent?
      (Text.splitFraction (Text.splitDigits unsigned).2).2 = some exponent := by
    dsimp only at read
    split at read
    · cases read
    · obtain ⟨exponent, readExponent, -⟩ := Option.bind_eq_some_iff.1 read
      exact ⟨exponent, readExponent⟩
  have tail := isWord_of_readExponent? readExponent
  have digits := isWord_of_splitDigits (isWord_of_splitFraction tail)
  split at signed <;> cases signed
  · exact List.forall_mem_cons.2 ⟨by decide, digits⟩
  · exact digits

end Json

namespace Number

/-- An integer within range is read as it is written. -/
theorem read?_intDigits {n : Int} (inRange : -0x8000000000000000 ≤ n ∧ n < 0x10000000000000000) :
    read? (Text.intDigits n) = some (.int n inRange) := by
  let digits := Text.natDigits n.natAbs
  have whole : Text.splitDigits digits = (digits, []) := Text.splitDigits_natDigits n.natAbs
  have filled : digits.isEmpty = false := by simp [digits, Text.natDigits_ne_nil]
  have size : Text.digitsValue digits = n.natAbs := Text.digitsValue_natDigits n.natAbs
  have lead : (digits.head? == some '0' && decide (1 < digits.length)) = false := by
    by_cases zero : n.natAbs = 0
    · simp only [digits, zero]
      rfl
    · simp [digits, mt Text.head?_natDigits_eq_zero_iff.1 zero]
  have minusZero : (decide (n < 0) && n.natAbs == 0) = false := by
    simp only [Bool.and_eq_false_iff, decide_eq_false_iff_not, beq_eq_false_iff_ne]
    omega
  have value : (if decide (n < 0) = true then -(n.natAbs : Int) else n.natAbs) = n := by
    simp only [decide_eq_true_eq]
    omega
  unfold read?
  split
  rename_i negative unsigned signed
  obtain ⟨rfl, rfl⟩ : negative = decide (n < 0) ∧ unsigned = digits := by
    by_cases negative : n < 0
    · simp only [Text.intDigits, negative, if_true] at signed
      cases signed
      simp [negative, digits]
    · simp only [Text.intDigits, negative, if_false] at signed
      split at signed
      · rename_i rest minus
        have digit : Char.isDigit '-' = true :=
          Text.isDigit_of_mem_natDigits (n := n.natAbs) (by simp [minus])
        cases digit
      · cases signed
        simp [negative, digits]
  simp only [whole, filled, lead, size, minusZero, value]
  simp [Text.splitFraction, Text.readExponent?, ofIntOr?, inRange]

/-- The number is an integer, or a floating-point number that is read as it is written. -/
def Legible : Number → Prop
  | .int _ _ => True
  | .float value finite => read? (Json.floatText.text value) = some (.float value finite)

instance : (number : Number) → Decidable number.Legible
  | .int _ _ => isTrue trivial
  | .float value finite =>
    inferInstanceAs (Decidable (read? (Json.floatText.text value) = some (.float value finite)))

/-- A legible number is read as it is written. -/
theorem read?_numberText {number : Number} (legible : number.Legible) :
    read? (Json.numberText number) = some number := by
  cases number with
  | int n inRange => exact read?_intDigits inRange
  | float value finite => exact legible

end Number

end FilterQuery
