import FilterQuery.Calendar.Timestamp
import FilterQuery.Text.Numeral
import FilterQuery.Text.Space
/-! The written forms of dates and instants. A date is year, month and day with
hyphens between them. An instant is a date, a time of day and the offset of the
clock that shows it; it is always written for a clock of universal time. -/
namespace FilterQuery

/-- The text of a year: four digits, and a sign in front of years that do not fit four digits. -/
def Date.yearText (year : Int) : List Char :=
  if 0 ≤ year ∧ year ≤ 9999 then Text.padDigits 4 year.toNat
  else (if year < 0 then '-' else '+') :: Text.padDigits 4 year.natAbs

def Date.chars (date : Date) : List Char :=
  Date.yearText date.year ++ '-' :: Text.padDigits 2 date.month ++ '-' :: Text.padDigits 2 date.day

def Date.text (date : Date) : String := String.ofList date.chars

namespace Iso

/-- Reads a character that must stand here. -/
def expect? (c : Char) : List Char → Option (List Char)
  | d :: rest => if d = c then some rest else none
  | [] => none

/-- Reads at least one and at most `width` digits. -/
def readUpTo? (width : Nat) (cs : List Char) : Option (Nat × List Char) :=
  let digits := (cs.take width).takeWhile Char.isDigit
  if digits.isEmpty then none else some (Text.digitsValue digits, cs.drop digits.length)

/-- Reads a run of digits of any length. -/
def readRun? (cs : List Char) : Option (Nat × List Char) := readUpTo? cs.length cs

def readExactly? (width : Nat) (cs : List Char) : Option (Nat × List Char) :=
  let digits := cs.take width
  if digits.length = width ∧ digits.all Char.isDigit then
    some (Text.digitsValue digits, cs.drop width)
  else none

/-- Reads the year of a date: up to four digits, or any number of digits after a sign. -/
def readYear? (cs : List Char) : Option (Int × List Char) :=
  match Text.trimStart cs with
  | '-' :: rest => (readRun? rest).map fun (year, rest) => (-(year : Int), rest)
  | '+' :: rest => (readRun? rest).map fun (year, rest) => ((year : Int), rest)
  | rest => (readUpTo? 4 rest).map fun (year, rest) => ((year : Int), rest)

/-- Reads a month or a day: one or two digits. -/
def readPart? (cs : List Char) : Option (Nat × List Char) := readUpTo? 2 (Text.trimStart cs)

/-- Reads a date. Each of its numbers may be preceded by white space. -/
def readDate? (cs : List Char) : Option Date := do
  let (year, rest) ← readYear? cs
  let (month, rest) ← readPart? (← expect? '-' rest)
  let (day, rest) ← readPart? (← expect? '-' rest)
  if rest.isEmpty then Date.of? year month day else none

/-- Reads the mark between the date and the time of an instant. -/
def readTimeMark? : List Char → Option (List Char)
  | c :: rest => if c = 'T' ∨ c = 't' ∨ c = ' ' then some rest else none
  | [] => none

/-- The nanoseconds of a fraction of a second; digits after the ninth are dropped. -/
def nanoOfFraction (digits : List Char) : Nat :=
  let kept := digits.take 9
  Text.digitsValue kept * Nat.pow 10 (9 - kept.length)

/-- Reads an optional fraction of a second. -/
def readFraction? : List Char → Option (Nat × List Char)
  | '.' :: rest =>
    let (digits, rest) := Text.splitDigits rest
    if digits.isEmpty then none else some (nanoOfFraction digits, rest)
  | rest => some (0, rest)

/-- Reads the sign of an offset; `true` stands for minus. The typographic minus counts as well. -/
def readOffsetSign? : List Char → Option (Bool × List Char)
  | c :: rest =>
    if c = '+' then some (false, rest)
    else if c = '-' ∨ c = '\u2212' then some (true, rest)
    else none
  | [] => none

/-- Reads the offset of a clock, in minutes: the letter Z for none, or a sign, hours and
minutes. -/
def readOffset? (cs : List Char) : Option (Int × List Char) :=
  match cs with
  | 'Z' :: rest => some (0, rest)
  | 'z' :: rest => some (0, rest)
  | _ => do
    let (negative, rest) ← readOffsetSign? cs
    let (hours, rest) ← readExactly? 2 rest
    let (minutes, rest) ← readExactly? 2 (← expect? ':' rest)
    if hours ≤ 23 ∧ minutes ≤ 59 then
      let size : Int := (hours * 60 + minutes : Nat)
      some (if negative then -size else size, rest)
    else none

/-- Reads an instant. The year has four digits and every other number two; second 60 is a leap
second. -/
def readTimestamp? (cs : List Char) : Option Timestamp := do
  let (year, rest) ← readExactly? 4 cs
  let (month, rest) ← readExactly? 2 (← expect? '-' rest)
  let (day, rest) ← readExactly? 2 (← expect? '-' rest)
  let (hour, rest) ← readExactly? 2 (← readTimeMark? rest)
  let (minute, rest) ← readExactly? 2 (← expect? ':' rest)
  let (second, rest) ← readExactly? 2 (← expect? ':' rest)
  let (nano, rest) ← readFraction? rest
  let (offset, rest) ← readOffset? rest
  let date ← Date.of? year month day
  if rest.isEmpty ∧ hour ≤ 23 ∧ minute ≤ 59 ∧ second ≤ 60 then
    let minuteOfDay := hour * 60 + minute
    if second = 60 then Timestamp.ofLocal? date (minuteOfDay * 60 + 59) (nano + 1000000000) offset
    else Timestamp.ofLocal? date (minuteOfDay * 60 + second) nano offset
  else none

end Iso

namespace Timestamp

/-- How much of the fraction of a second is written. -/
inductive Precision where
  /-- Three digits; the rest is cut off. -/
  | millis
  /-- None, three, six or nine digits, as many as the fraction needs. -/
  | auto
deriving DecidableEq

/-- The text of a fraction of a second, with its point. -/
def fractionText (nano : Nat) : Precision → List Char
  | .millis => '.' :: Text.padDigits 3 (nano / 1000000)
  | .auto =>
    if nano = 0 then []
    else if nano % 1000000 = 0 then '.' :: Text.padDigits 3 (nano / 1000000)
    else if nano % 1000 = 0 then '.' :: Text.padDigits 6 (nano / 1000)
    else '.' :: Text.padDigits 9 nano

/-- The text of an instant. In a leap second the clock shows second 60. -/
def chars (timestamp : Timestamp) (precision : Precision) : List Char :=
  let minuteOfDay := timestamp.second / 60
  let leap := 1000000000 ≤ timestamp.nano
  let second := timestamp.second % 60 + (if leap then 1 else 0)
  let nano := timestamp.nano - (if leap then 1000000000 else 0)
  timestamp.date.chars ++ 'T' :: Text.padDigits 2 (minuteOfDay / 60) ++
    ':' :: Text.padDigits 2 (minuteOfDay % 60) ++ ':' :: Text.padDigits 2 second ++
    fractionText nano precision ++ ['Z']

def text (timestamp : Timestamp) (precision : Precision) : String :=
  String.ofList (timestamp.chars precision)

end Timestamp

end FilterQuery
