import FilterQuery.Json.Basic
/-! Structures as JSON. The parts of a structure are given by an object under
their keys or by an array at their places. Members of an object under other keys
are passed over; an array must not be longer than the structure, and may be
shorter where the missing parts have a default. -/
namespace FilterQuery.Json

/-- The parts of a structure, in the order of its keys; `none` stands for a missing part. -/
def parts? (keys : List String) : Json → Option (List (Option Json))
  | .obj members => some (keys.map (Entries.get? members))
  | .arr items =>
    if items.length ≤ keys.length then
      some (items.map some ++ List.replicate (keys.length - items.length) none)
    else none
  | _ => none

def text? : Json → Option String
  | .str value => some value
  | _ => none

/-- A text, or null for none. -/
def optionalText? : Json → Option (Option String)
  | .null => some none
  | .str value => some (some value)
  | _ => none

/-- An array each of whose items can be read. -/
def list? {α : Type} (read? : Json → Option α) : Json → Option (List α)
  | .arr items => items.mapM read?
  | _ => none

def count? : Json → Option Nat
  | .num number => number.count?
  | _ => none

def ofOptionalText : Option String → Json
  | none => .null
  | some value => .str value

end FilterQuery.Json
