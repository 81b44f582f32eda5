import FilterQuery.Entries
import FilterQuery.Binary64.Rounding
/-! JSON values. Integers keep 64 bits of range in either direction and are told
apart from floating-point numbers, which are always finite. Objects keep their
members in document order. -/
namespace FilterQuery

/-- A JSON number. -/
inductive Number where
  /-- An integer that fits a signed or an unsigned word. -/
  | int (value : Int) (inRange : -0x8000000000000000 ≤ value ∧ value < 0x10000000000000000)
  /-- A finite floating-point number. -/
  | float (value : Binary64) (finite : value.isFinite = true)
deriving DecidableEq

/-- A JSON value. -/
inductive Json where
  | null
  | bool (value : Bool)
  | num (value : Number)
  | str (value : String)
  | arr (items : List Json)
  | obj (members : List (String × Json))

namespace Number

def ofInt64 (n : Int64) : Number :=
  .int n.toInt ⟨n.le_toInt, Int.lt_trans n.toInt_lt (by decide)⟩

/-- The largest count that a number can hold. -/
def countLimit : Nat := 0xffffffffffffffff

theorem min_countLimit_inRange (n : Nat) :
    -0x8000000000000000 ≤ (min n countLimit : Int) ∧
      (min n countLimit : Int) < 0x10000000000000000 := by
  simp only [countLimit]
  omega

/-- A count as a number, saturating at the largest one. -/
def ofCount (n : Nat) : Number := .int (min n countLimit) (min_countLimit_inRange n)

/-- A floating-point number, unless it is infinite or undefined. -/
def ofBinary64? (value : Binary64) : Option Number :=
  if finite : value.isFinite = true then some (.float value finite) else none

/-- An integer, as such if it fits a word, else as the floating-point number that stands for it. -/
def ofIntOr? (n : Int) (rounded : Binary64) : Option Number :=
  if inRange : -0x8000000000000000 ≤ n ∧ n < 0x10000000000000000 then some (.int n inRange)
  else ofBinary64? rounded

/-- The number as a signed word, if it is an integer that fits one. -/
def int64? : Number → Option Int64
  | .int value _ => if value < 0x8000000000000000 then some (Int64.ofInt value) else none
  | .float .. => none

/-- The number as a count, if it is an integer and not negative. -/
def count? : Number → Option Nat
  | .int value _ => if 0 ≤ value then some value.toNat else none
  | .float .. => none

def toBinary64 : Number → Binary64
  | .int value _ => Binary64.ofInt value
  | .float value _ => value

end Number

namespace Json

def ofCount (n : Nat) : Json := .num (.ofCount n)

/-- A floating-point number as JSON; infinite and undefined ones have no number and become null. -/
def ofBinary64 (value : Binary64) : Json :=
  match Number.ofBinary64? value with
  | some number => .num number
  | none => .null

/-- The member of an object with this key. -/
def get? : Json → String → Option Json
  | .obj members, key => Entries.get? members key
  | _, _ => none

end Json

end FilterQuery
