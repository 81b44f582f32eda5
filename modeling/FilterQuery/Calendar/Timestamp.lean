import FilterQuery.Calendar.Date
/-! Instants of universal time, to the nanosecond. A leap second is written into
the second before it: there the nanoseconds run on to two thousand millions. -/
namespace FilterQuery

/-- Whether the numbers name a point of a day: the second of the day, and the nanosecond, which
reaches into a leap second only at the end of a minute. -/
def Timestamp.IsTime (second nano : Nat) : Prop :=
  second < 86400 ∧ (nano < 1000000000 ∨ (second % 60 = 59 ∧ nano < 2000000000))

instance (second nano : Nat) : Decidable (Timestamp.IsTime second nano) :=
  inferInstanceAs (Decidable (_ ∧ _))

/-- An instant in universal time. -/
structure Timestamp where
  date : Date
  second : Nat
  nano : Nat
  isTime : Timestamp.IsTime second nano
deriving DecidableEq

namespace Timestamp

/-- The instant at this second and nanosecond of a day, if there is one. -/
def of? (date : Date) (second nano : Nat) : Option Timestamp :=
  if isTime : IsTime second nano then some ⟨date, second, nano, isTime⟩ else none

def compare (a b : Timestamp) : Ordering :=
  (a.date.compare b.date).then
    ((Ord.compare a.second b.second).then (Ord.compare a.nano b.nano))

/-- The instant that lies this many milliseconds after the beginning of 1970, if its year is
supported. -/
def ofEpochMillis? (millis : Int) : Option Timestamp := do
  let date ← Date.ofEpochDay? (millis / 86400000)
  let millisOfDay := (millis % 86400000).toNat
  of? date (millisOfDay / 1000) (millisOfDay % 1000 * 1000000)

/-- The instant at which clocks that are `offset` minutes ahead of universal time show this day,
second and nanosecond. The offset is less than a day. -/
def ofLocal? (date : Date) (second nano : Nat) (offset : Int) : Option Timestamp := do
  let shifted : Int := second - offset * 60
  if shifted < 0 then of? (← date.previous?) (shifted + 86400).toNat nano
  else if 86400 ≤ shifted then of? (← date.next?) (shifted - 86400).toNat nano
  else of? date shifted.toNat nano

end Timestamp

end FilterQuery
