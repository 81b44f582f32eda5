/-! Dates of the Gregorian calendar, extended to all years that the library
supports. Year zero and negative years are counted as astronomers do. -/
namespace FilterQuery

/-- Whether the year has a 29th of February. -/
def Date.isLeapYear (year : Int) : Bool :=
  year % 4 == 0 && (year % 100 != 0 || year % 400 == 0)

/-- The number of days of a month. -/
def Date.daysInMonth (year : Int) (month : Nat) : Nat :=
  if month = 2 then (if isLeapYear year then 29 else 28)
  else if month = 4 ∨ month = 6 ∨ month = 9 ∨ month = 11 then 30
  else 31

/-- Whether the numbers name a day of a supported year. -/
def Date.IsDay (year : Int) (month day : Nat) : Prop :=
  (-262143 ≤ year ∧ year ≤ 262142) ∧ (1 ≤ month ∧ month ≤ 12) ∧
    (1 ≤ day ∧ day ≤ daysInMonth year month)

instance (year : Int) (month day : Nat) : Decidable (Date.IsDay year month day) :=
  inferInstanceAs (Decidable (_ ∧ _ ∧ _))

/-- A calendar day. -/
structure Date where
  year : Int
  month : Nat
  day : Nat
  isDay : Date.IsDay year month day
deriving DecidableEq

namespace Date

/-- The day with these numbers, if there is one. -/
def of? (year : Int) (month day : Nat) : Option Date :=
  if isDay : IsDay year month day then some ⟨year, month, day, isDay⟩ else none

def compare (a b : Date) : Ordering :=
  (Ord.compare a.year b.year).then ((Ord.compare a.month b.month).then (Ord.compare a.day b.day))

/-- The following day, if its year is supported. -/
def next? (date : Date) : Option Date :=
  if date.day < daysInMonth date.year date.month then of? date.year date.month (date.day + 1)
  else if date.month < 12 then of? date.year (date.month + 1) 1
  else of? (date.year + 1) 1 1

/-- The preceding day, if its year is supported. -/
def previous? (date : Date) : Option Date :=
  if 1 < date.day then of? date.year date.month (date.day - 1)
  else if 1 < date.month then
    of? date.year (date.month - 1) (daysInMonth date.year (date.month - 1))
  else of? (date.year - 1) 12 31

/-- The day that lies this many days after 1 January 1970. Years are counted from March, so that
the leap day is the last of its year and months follow one another in a fixed rhythm; 400 such
years have 146097 days. -/
def ofEpochDay? (days : Int) : Option Date :=
  let shifted := days + 719468
  let era := shifted / 146097
  let dayOfEra := (shifted % 146097).toNat
  let yearOfEra := (dayOfEra - dayOfEra / 1460 + dayOfEra / 36524 - dayOfEra / 146096) / 365
  let dayOfYear := dayOfEra - (365 * yearOfEra + yearOfEra / 4 - yearOfEra / 100)
  let marchMonth := (5 * dayOfYear + 2) / 153
  let day := dayOfYear - (153 * marchMonth + 2) / 5 + 1
  let month := if marchMonth < 10 then marchMonth + 3 else marchMonth - 9
  of? (era * 400 + yearOfEra + (if month ≤ 2 then 1 else 0)) month day

end Date

end FilterQuery
