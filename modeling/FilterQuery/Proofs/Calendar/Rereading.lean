import FilterQuery.Calendar.Iso
import FilterQuery.Proofs.Text.Digits
/-! Written dates and instants are read back. Every number is written with at least as many
digits as its reader asks for, and is followed by a mark that is no digit, so each reader
stops where the writer did. A date is read back whatever its year. An instant is read
back if its year has four digits, and keeps of its fraction what has been written: all of
it, or the milliseconds. -/
namespace FilterQuery

namespace Date

theorem of?_self (date : Date) : of? date.year date.month date.day = some date :=
  dif_pos date.isDay

theorem month_lt (date : Date) : date.month < 100 := by
  have bounds := date.isDay.2.1
  omega

theorem day_lt (date : Date) : date.day < 100 := by
  have last : daysInMonth date.year date.month ≤ 31 := by
    unfold daysInMonth
    split <;> split <;> simp
  have bounds := date.isDay.2.2
  omega

end Date

namespace Iso

variable {width n : Nat} {rest : List Char}

theorem expect?_self (c : Char) (rest : List Char) : expect? c (c :: rest) = some rest := by
  simp [expect?]

theorem readExactly?_padDigits (positive : 0 < width) (fits : n < Nat.pow 10 width)
    (rest : List Char) : readExactly? width (Text.padDigits width n ++ rest) = some (n, rest) := by
  have length := Text.length_padDigits positive fits
  have digits : (Text.padDigits width n).all Char.isDigit = true :=
    List.all_eq_true.2 fun c inside => Text.isDigit_of_mem_padDigits inside
  have first : (Text.padDigits width n ++ rest).take width = Text.padDigits width n := by
    rw [List.take_append_of_le_length (by omega), List.take_of_length_le (by omega)]
  have last : (Text.padDigits width n ++ rest).drop width = rest := by
    rw [List.drop_append_of_le_length (by omega), List.drop_eq_nil_of_le (by omega),
      List.nil_append]
  rw [readExactly?, first, last, Text.digitsValue_padDigits]
  simp [length, digits]

/-- A run of digits is read to its end, if it is not too long and no digit follows it. -/
theorem readUpTo?_digits {digits : List Char} (some : digits ≠ [])
    (each : ∀ c ∈ digits, c.isDigit = true) (short : digits.length ≤ width)
    (ends : ∀ c ∈ rest.head?, c.isDigit = false) :
    readUpTo? width (digits ++ rest) = Option.some (Text.digitsValue digits, rest) := by
  have stops : (rest.take (width - digits.length)).takeWhile Char.isDigit = [] := by
    cases rest with
    | nil => simp
    | cons c rest =>
      have mark : c.isDigit = false := ends c (by simp)
      cases width - digits.length <;> simp [mark]
  have run : ((digits ++ rest).take width).takeWhile Char.isDigit = digits := by
    rw [List.take_append, List.take_of_length_le short, List.takeWhile_append_of_pos each, stops,
      List.append_nil]
  simp [readUpTo?, run, some]

theorem isSpace_eq_false_of_isDigit {c : Char} (digit : c.isDigit = true) :
    Text.isSpace c = false := by
  obtain ⟨low, high⟩ := Char.isDigit_iff_toNat.1 digit
  have low : 48 ≤ c.toNat := low
  have high : c.toNat ≤ 57 := high
  simp [Text.isSpace, Text.inRanges, Text.spaceRanges]
  omega

/-- Padded digits begin with a digit, in front of which there is no white space. -/
theorem exists_padDigits_cons (width n : Nat) (rest : List Char) :
    ∃ c tail, Text.padDigits width n ++ rest = c :: tail ∧ c.isDigit = true ∧
      Text.trimStart (c :: tail) = c :: tail := by
  obtain ⟨c, digits, padded⟩ : ∃ c digits, Text.padDigits width n = c :: digits :=
    List.exists_cons_of_ne_nil Text.padDigits_ne_nil
  have digit : c.isDigit = true := Text.isDigit_of_mem_padDigits (by rw [padded]; simp)
  refine ⟨c, digits ++ rest, by simp [padded], digit, ?_⟩
  rw [Text.trimStart, List.dropWhile_cons, isSpace_eq_false_of_isDigit digit]
  simp

/-- The number of a date, padded to its width, is read up to the mark after it. -/
theorem readUpTo?_padDigits (positive : 0 < width) (fits : n < Nat.pow 10 width)
    (ends : ∀ c ∈ rest.head?, c.isDigit = false) :
    readUpTo? width (Text.padDigits width n ++ rest) = some (n, rest) := by
  rw [readUpTo?_digits Text.padDigits_ne_nil (fun c => Text.isDigit_of_mem_padDigits)
    (Nat.le_of_eq (Text.length_padDigits positive fits)) ends, Text.digitsValue_padDigits]

theorem readRun?_padDigits (ends : ∀ c ∈ rest.head?, c.isDigit = false) :
    readRun? (Text.padDigits width n ++ rest) = some (n, rest) := by
  rw [readRun?, readUpTo?_digits Text.padDigits_ne_nil (fun c => Text.isDigit_of_mem_padDigits)
    (by simp) ends, Text.digitsValue_padDigits]

/-- A year is read back: four digits without a sign, or any number of digits after one. -/
theorem readYear?_yearText (year : Int) (rest : List Char) :
    readYear? (Date.yearText year ++ '-' :: rest) = some (year, '-' :: rest) := by
  have ends : ∀ c ∈ ('-' :: rest).head?, c.isDigit = false := by simp
  unfold Date.yearText
  split
  · rename_i short
    obtain ⟨c, tail, begins, digit, untrimmed⟩ :=
      exists_padDigits_cons 4 year.toNat ('-' :: rest)
    have fits : year.toNat < 10000 := by omega
    have read : readUpTo? 4 (Text.padDigits 4 year.toNat ++ '-' :: rest) =
        some (year.toNat, '-' :: rest) := readUpTo?_padDigits (by decide) fits ends
    rw [begins] at read
    rw [begins, readYear?, untrimmed]
    split
    · simp_all
    · simp_all
    · simp [read, Int.max_eq_left short.1]
  · rename_i long
    have read : readRun? (Text.padDigits 4 year.natAbs ++ '-' :: rest) =
        some (year.natAbs, '-' :: rest) := readRun?_padDigits ends
    split
    · rename_i negative
      have size : -(year.natAbs : Int) = year := by omega
      rw [List.cons_append, readYear?, Text.trimStart, List.dropWhile_cons,
        show Text.isSpace '-' = false by decide]
      simp only [Bool.false_eq_true, if_false, read, Option.map_some, size]
    · have size : (year.natAbs : Int) = year := by omega
      rw [List.cons_append, readYear?, Text.trimStart, List.dropWhile_cons,
        show Text.isSpace '+' = false by decide]
      simp only [Bool.false_eq_true, if_false, read, Option.map_some, size]

theorem readPart?_padDigits (fits : n < 100) (rest : List Char)
    (ends : ∀ c ∈ rest.head?, c.isDigit = false) :
    readPart? (Text.padDigits 2 n ++ rest) = some (n, rest) := by
  have read : readUpTo? 2 (Text.padDigits 2 n ++ rest) = some (n, rest) :=
    readUpTo?_padDigits (by decide) fits ends
  obtain ⟨c, tail, begins, -, untrimmed⟩ := exists_padDigits_cons 2 n rest
  rw [begins] at read ⊢
  rw [readPart?, untrimmed, read]

/-- A date is read back. -/
theorem readDate?_chars (date : Date) : readDate? date.chars = some date := by
  have monthRead :=
    readPart?_padDigits date.month_lt ('-' :: Text.padDigits 2 date.day) (by simp)
  have dayRead := readPart?_padDigits date.day_lt [] (by simp)
  rw [List.append_nil] at dayRead
  simp [readDate?, Date.chars, readYear?_yearText, expect?_self, monthRead, dayRead, Date.of?_self]

end Iso

namespace Timestamp

/-- What is kept of the nanoseconds when they are written. -/
def Precision.kept (nano : Nat) : Precision → Nat
  | .millis => nano / 1000000 * 1000000
  | .auto => nano

theorem isTime_kept (timestamp : Timestamp) (precision : Precision) :
    IsTime timestamp.second (precision.kept timestamp.nano) := by
  obtain ⟨-, second, nano, inDay, inSecond⟩ := timestamp
  refine ⟨inDay, ?_⟩
  have less : precision.kept nano ≤ nano := by
    cases precision
    · exact Nat.div_mul_le_self nano 1000000
    · exact Nat.le_refl nano
  dsimp only
  omega

/-- The instant that is written: its fraction of a second is cut off. -/
def kept (timestamp : Timestamp) (precision : Precision) : Timestamp :=
  ⟨timestamp.date, timestamp.second, precision.kept timestamp.nano,
    timestamp.isTime_kept precision⟩

theorem kept_millis_eq_self_iff (timestamp : Timestamp) :
    timestamp.kept .millis = timestamp ↔ timestamp.nano % 1000000 = 0 := by
  obtain ⟨date, second, nano, isTime⟩ := timestamp
  simp only [kept, Precision.kept, mk.injEq, true_and]
  omega

end Timestamp

namespace Iso

open Timestamp

theorem splitDigits_padDigits (width n : Nat) (c : Char) (rest : List Char)
    (mark : c.isDigit = false) :
    Text.splitDigits (Text.padDigits width n ++ c :: rest) = (Text.padDigits width n, c :: rest) := by
  have each : ∀ d ∈ Text.padDigits width n, d.isDigit = true :=
    fun d => Text.isDigit_of_mem_padDigits
  rw [Text.splitDigits, List.takeWhile_append_of_pos each, List.dropWhile_append_of_pos each]
  simp [mark]

/-- At most nine digits of a fraction are read back as so many parts of a second. -/
theorem readFraction?_padDigits {width n : Nat} (positive : 0 < width) (short : width ≤ 9)
    (fits : n < Nat.pow 10 width) (rest : List Char) :
    readFraction? ('.' :: Text.padDigits width n ++ 'Z' :: rest) =
      some (n * Nat.pow 10 (9 - width), 'Z' :: rest) := by
  have length := Text.length_padDigits positive fits
  have all : (Text.padDigits width n).take 9 = Text.padDigits width n :=
    List.take_of_length_le (by omega)
  simp [readFraction?, splitDigits_padDigits, nanoOfFraction, all, length,
    Text.digitsValue_padDigits, Text.padDigits_ne_nil]

/-- A fraction of a second is read back as far as it has been written. -/
theorem readFraction?_fractionText {nano : Nat} (part : nano < 1000000000)
    (precision : Precision) :
    readFraction? (fractionText nano precision ++ ['Z']) =
      some (precision.kept nano, ['Z']) := by
  cases precision with
  | millis =>
    have fits : nano / 1000000 < Nat.pow 10 3 := Nat.div_lt_of_lt_mul part
    simpa [fractionText, Precision.kept] using readFraction?_padDigits (by decide) (by decide) fits []
  | auto =>
    unfold fractionText
    dsimp only [Precision.kept]
    split
    · rename_i whole
      rw [whole]
      rfl
    split
    · rename_i millis
      have fits : nano / 1000000 < Nat.pow 10 3 := Nat.div_lt_of_lt_mul part
      have size : nano / 1000000 * Nat.pow 10 (9 - 3) = nano :=
        Nat.div_mul_cancel (Nat.dvd_of_mod_eq_zero millis)
      rw [readFraction?_padDigits (by decide) (by decide) fits, size]
    split
    · rename_i micros
      have fits : nano / 1000 < Nat.pow 10 6 := Nat.div_lt_of_lt_mul part
      have size : nano / 1000 * Nat.pow 10 (9 - 6) = nano :=
        Nat.div_mul_cancel (Nat.dvd_of_mod_eq_zero micros)
      rw [readFraction?_padDigits (by decide) (by decide) fits, size]
    · have size : nano * Nat.pow 10 (9 - 9) = nano := Nat.mul_one nano
      rw [readFraction?_padDigits (by decide) (by decide) part, size]

theorem ofLocal?_universal (timestamp : Timestamp) :
    ofLocal? timestamp.date timestamp.second timestamp.nano 0 = some timestamp := by
  have bounds := timestamp.isTime.1
  have before : ¬ (timestamp.second : Int) < 0 := by omega
  have within : ¬ 86400 ≤ (timestamp.second : Int) := by omega
  simp [ofLocal?, before, within, of?, timestamp.isTime]

theorem readExactly?_yearText {year : Int} (short : 0 ≤ year ∧ year ≤ 9999) (rest : List Char) :
    readExactly? 4 (Date.yearText year ++ rest) = some (year.toNat, rest) := by
  have fits : year.toNat < 10000 := by omega
  rw [Date.yearText, if_pos short]
  exact readExactly?_padDigits (by decide) fits rest

/-- A part that has been read is followed by the next one. -/
theorem bind_of_some {α β : Type} {part : Option α} {value : α} (read : part = some value)
    (next : α → Option β) : (part >>= next) = next value := by
  rw [read]
  rfl

/-- What a clock of universal time shows is read back, to the second and as much of its fraction as
has been written. In second 60 the nanoseconds run on from the second before it. -/
theorem readTimestamp?_clock {date : Date} (year : 0 ≤ date.year ∧ date.year ≤ 9999)
    (hour minute second nano : Nat) (inDay : hour ≤ 23) (inHour : minute ≤ 59)
    (inMinute : second ≤ 60) (part : nano < 1000000000) (precision : Precision) :
    readTimestamp? (date.chars ++ 'T' :: Text.padDigits 2 hour ++ ':' :: Text.padDigits 2 minute ++
        ':' :: Text.padDigits 2 second ++ fractionText nano precision ++ ['Z']) =
      if second = 60 then
        ofLocal? date ((hour * 60 + minute) * 60 + 59) (precision.kept nano + 1000000000) 0
      else ofLocal? date ((hour * 60 + minute) * 60 + second) (precision.kept nano) 0 := by
  have two {n : Nat} (fits : n < 100) (rest : List Char) :
      readExactly? 2 (Text.padDigits 2 n ++ rest) = some (n, rest) :=
    readExactly?_padDigits (by decide) fits rest
  have dateRead : Date.of? date.year.toNat date.month date.day = some date := by
    rw [Int.toNat_of_nonneg year.1]
    exact date.of?_self
  have markRead (rest : List Char) : readTimeMark? ('T' :: rest) = some rest := rfl
  have offsetRead : readOffset? ['Z'] = some (0, []) := rfl
  simp only [Date.chars, List.append_assoc, List.cons_append]
  refine (bind_of_some (readExactly?_yearText year _) _).trans ?_
  refine (bind_of_some (expect?_self '-' _) _).trans ?_
  refine (bind_of_some (two date.month_lt _) _).trans ?_
  refine (bind_of_some (expect?_self '-' _) _).trans ?_
  refine (bind_of_some (two date.day_lt _) _).trans ?_
  refine (bind_of_some (markRead _) _).trans ?_
  refine (bind_of_some (two (by omega) _) _).trans ?_
  refine (bind_of_some (expect?_self ':' _) _).trans ?_
  refine (bind_of_some (two (by omega) _) _).trans ?_
  refine (bind_of_some (expect?_self ':' _) _).trans ?_
  refine (bind_of_some (two (by omega) _) _).trans ?_
  refine (bind_of_some (readFraction?_fractionText part precision) _).trans ?_
  refine (bind_of_some offsetRead _).trans ?_
  refine (bind_of_some dateRead _).trans ?_
  exact if_pos ⟨rfl, inDay, inHour, inMinute⟩

/-- An instant whose year has four digits is read back as far as it has been written. -/
theorem readTimestamp?_chars {timestamp : Timestamp}
    (year : 0 ≤ timestamp.date.year ∧ timestamp.date.year ≤ 9999) (precision : Precision) :
    readTimestamp? (timestamp.chars precision) = some (timestamp.kept precision) := by
  have universal := ofLocal?_universal (timestamp.kept precision)
  obtain ⟨date, second, nano, inDay, inSecond⟩ := timestamp
  dsimp only [Timestamp.kept] at universal year inDay inSecond
  by_cases leap : 1000000000 ≤ nano
  · have last : second % 60 = 59 := by omega
    have clock : (second / 60 / 60 * 60 + second / 60 % 60) * 60 + 59 = second := by omega
    have runsOn : precision.kept (nano - 1000000000) + 1000000000 = precision.kept nano := by
      cases precision <;> simp only [Precision.kept] <;> omega
    have read := readTimestamp?_clock year (second / 60 / 60) (second / 60 % 60)
      (second % 60 + 1) (nano - 1000000000) (by omega) (by omega) (by omega) (by omega) precision
    rw [if_pos (by omega), clock, runsOn, universal] at read
    simpa [chars, Timestamp.kept, leap] using read
  · have clock : (second / 60 / 60 * 60 + second / 60 % 60) * 60 + second % 60 = second := by omega
    have read := readTimestamp?_clock year (second / 60 / 60) (second / 60 % 60) (second % 60) nano
      (by omega) (by omega) (by omega) (by omega) precision
    rw [if_neg (by omega), clock, universal] at read
    simpa [chars, Timestamp.kept, leap] using read

/-- An instant whose year is written with a sign is not read back. -/
theorem readTimestamp?_of_signed {timestamp : Timestamp}
    (year : ¬ (0 ≤ timestamp.date.year ∧ timestamp.date.year ≤ 9999)) (precision : Precision) :
    readTimestamp? (timestamp.chars precision) = none := by
  have refused {c : Char} (sign : c.isDigit = false) (rest : List Char) :
      readExactly? 4 (c :: rest) = none := by
    simp [readExactly?, sign]
  have signed : readExactly? 4 (timestamp.chars precision) = none := by
    simp only [chars, Date.chars, Date.yearText, if_neg year, List.cons_append]
    split <;> exact refused (by decide) _
  rw [readTimestamp?, signed]
  rfl

end Iso

end FilterQuery
