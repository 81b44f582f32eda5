import FilterQuery.Proofs.Json.Keys
import FilterQuery.Proofs.Json.Scanning
/-! Reading written text. The reader goes through the tokens of a value with the arrays
and objects around it on its stack, and comes out with the value and the same stack,
unless the value and what is around it together exceed the limit of nesting. So the
text of a value whose keys are distinct and whose numbers are legible is read back as
the value exactly if the value is not nested too deeply. -/
namespace FilterQuery.Json

mutual

/-- The greatest number of arrays and objects that enclose one another in the value. -/
def depth : Json → Nat
  | .arr items => 1 + itemsDepth items
  | .obj members => 1 + membersDepth members
  | .null | .bool _ | .num _ | .str _ => 0

/-- The greatest depth among these items. -/
def itemsDepth : List Json → Nat
  | [] => 0
  | item :: rest => max (depth item) (itemsDepth rest)

/-- The greatest depth among the values of these members. -/
def membersDepth : List (String × Json) → Nat
  | [] => 0
  | (_, value) :: rest => max (depth value) (membersDepth rest)

end

namespace Place

/-- The place, unless it took more levels of nesting than there may be. -/
def within (levels : Nat) (place : Place) : Option Place :=
  if levels ≤ depthLimit then some place else none

theorem within_of_le {levels : Nat} {place : Place} (fits : levels ≤ depthLimit) :
    place.within levels = some place := if_pos fits

theorem within_of_lt {levels : Nat} {place : Place} (full : depthLimit < levels) :
    place.within levels = none := if_neg (Nat.not_le.2 full)

/-- Reads tokens from this place on. -/
def run (place : Place) (tokens : List Token) : Option Place := tokens.foldlM step place

theorem run_cons (place : Place) (token : Token) (rest : List Token) :
    place.run (token :: rest) = place.step token >>= fun next => next.run rest :=
  List.foldlM_cons

theorem run_append (place : Place) (first second : List Token) :
    place.run (first ++ second) = place.run first >>= fun next => next.run second :=
  List.foldlM_append

/-- Tokens one after the other take as many levels as the deeper of them. -/
theorem run_append_of_within {place middle final : Place} {first second : List Token}
    {levels more : Nat} (ran : place.run first = middle.within levels)
    (follows : middle.run second = final.within more) :
    place.run (first ++ second) = final.within (max levels more) := by
  rw [run_append, ran]
  by_cases fits : levels ≤ depthLimit
  · rw [within_of_le fits, Option.bind_eq_bind, Option.bind_some, follows, within, within]
    simp only [Nat.max_le, fits, true_and]
  · have deep : depthLimit < levels := Nat.not_le.1 fits
    rw [within_of_lt deep, within_of_lt (Nat.lt_of_lt_of_le deep (Nat.le_max_left _ _))]
    rfl

/-- An array begins unless it is one too many. -/
theorem run_openArr (stack : List Frame) (rest : List Token) :
    (value stack).run (.openArr :: rest) =
      if stack.length < depthLimit then (opened stack).run rest else none := by
  by_cases room : stack.length < depthLimit <;> simp [run_cons, step, begin, room]

/-- An object begins unless it is one too many. -/
theorem run_openObj (stack : List Frame) (rest : List Token) :
    (value stack).run (.openObj :: rest) =
      if stack.length < depthLimit then (openedObj stack).run rest else none := by
  by_cases room : stack.length < depthLimit <;> simp [run_cons, step, begin, room]

end Place

/-- No value begins with a closing bracket, so the first item of an array is read as the others
are. -/
theorem run_opened (item : Json) (rest : List Json) (stack : List Frame) (more : List Token) :
    (Place.opened stack).run (itemTokens (item :: rest) ++ more) =
      (Place.value (.item [] :: stack)).run (itemTokens (item :: rest) ++ more) := by
  cases rest <;> cases item <;> rfl

/-- Every member begins with its key, so the first one is read as the others are. -/
theorem run_openedObj (member : String × Json) (rest : List (String × Json)) (stack : List Frame)
    (more : List Token) :
    (Place.openedObj stack).run (memberTokens (member :: rest) ++ more) =
      (Place.key [] stack).run (memberTokens (member :: rest) ++ more) := by
  cases rest <;> rfl

/-- A key that stands in an object only once does not stand before itself. -/
theorem fresh_of_nodup {before rest : List (String × Json)} {key : String} {value : Json}
    (keys : (Entries.keys (before ++ (key, value) :: rest)).Nodup) :
    key ∉ Entries.keys before := by
  rw [Entries.keys, List.map_append] at keys
  exact not_mem_of_nodup keys

mutual

/-- The tokens of a value are read as the value, within the limit of nesting. -/
theorem run_tokens : ∀ json : Json, json.DistinctKeys → ∀ stack : List Frame,
    stack.length ≤ depthLimit →
      (Place.value stack).run json.tokens =
        (Place.complete json stack).within (stack.length + json.depth)
  | .null, _, _, fits | .bool _, _, _, fits | .num _, _, _, fits | .str _, _, _, fits =>
    (Place.within_of_le fits).symm
  | .arr items, distinct, stack, _ => by
    rw [tokens, List.cons_append, Place.run_openArr, depth, ← Nat.add_assoc]
    split
    · rename_i room
      cases items with
      | nil => exact (Place.within_of_le room).symm
      | cons item rest =>
        rw [run_opened, run_itemTokens _ (by simp) distinct [] stack room]
        rfl
    · rw [Place.within_of_lt (by omega)]
  | .obj members, distinct, stack, _ => by
    rw [tokens, List.cons_append, Place.run_openObj, depth, ← Nat.add_assoc]
    split
    · rename_i room
      cases members with
      | nil => exact (Place.within_of_le room).symm
      | cons member rest =>
        rw [run_openedObj]
        exact run_memberTokens _ (by simp) [] stack distinct.1 distinct.2 room
    · rw [Place.within_of_lt (by omega)]

theorem run_itemTokens : ∀ items : List Json, items ≠ [] → ItemsDistinctKeys items →
    ∀ (before : List Json) (stack : List Frame), stack.length < depthLimit →
      (Place.value (.item before :: stack)).run (itemTokens items ++ [.closeArr]) =
        (Place.complete (.arr (before.reverse ++ items)) stack).within
          (stack.length + 1 + itemsDepth items)
  | [], filled, _, _, _, _ => absurd rfl filled
  | [item], _, distinct, before, stack, room => by
    have read := run_tokens item distinct.1 (.item before :: stack) room
    have closed : (Place.complete item (.item before :: stack)).run [.closeArr] =
        (Place.complete (.arr (before.reverse ++ [item])) stack).within 0 := by
      rw [← List.reverse_cons]
      rfl
    rw [itemTokens, Place.run_append_of_within read closed]
    simp [itemsDepth]
  | item :: next :: rest, _, distinct, before, stack, room => by
    have read := run_tokens item distinct.1 (.item before :: stack) room
    have others : (Place.complete item (.item before :: stack)).run
        (.comma :: itemTokens (next :: rest) ++ [.closeArr]) =
        (Place.complete (.arr (before.reverse ++ item :: next :: rest)) stack).within
          (stack.length + 1 + itemsDepth (next :: rest)) := by
      have continued := run_itemTokens (next :: rest) (by simp) distinct.2 (item :: before) stack
        room
      rw [List.reverse_cons, List.append_assoc] at continued
      exact continued
    have split : itemTokens (item :: next :: rest) ++ [.closeArr] =
        item.tokens ++ (.comma :: itemTokens (next :: rest) ++ [.closeArr]) := by
      simp [itemTokens]
    rw [split, Place.run_append_of_within read others, List.length_cons, Nat.add_max_add_left]
    rfl

theorem run_memberTokens : ∀ members : List (String × Json), members ≠ [] →
    ∀ (before : List (String × Json)) (stack : List Frame),
    (Entries.keys (before ++ members)).Nodup → MembersDistinctKeys members →
    stack.length < depthLimit →
      (Place.key before stack).run (memberTokens members ++ [.closeObj]) =
        (Place.complete (.obj (before ++ members)) stack).within
          (stack.length + 1 + membersDepth members)
  | [], filled, _, _, _, _, _ => absurd rfl filled
  | [(key, value)], _, before, stack, keys, distinct, room => by
    have read := run_tokens value distinct.1 (.member before key :: stack) room
    have closed : (Place.complete value (.member before key :: stack)).run [.closeObj] =
        (Place.complete (.obj (before ++ [(key, value)])) stack).within 0 := by
      rw [← Entries.set_of_fresh (fresh_of_nodup keys)]
      rfl
    have begun : (Place.key before stack).run (memberTokens [(key, value)] ++ [.closeObj]) =
        (Place.value (.member before key :: stack)).run (value.tokens ++ [.closeObj]) := rfl
    rw [begun, Place.run_append_of_within read closed]
    simp [membersDepth]
  | (key, value) :: next :: rest, _, before, stack, keys, distinct, room => by
    have read := run_tokens value distinct.1 (.member before key :: stack) room
    have others : (Place.complete value (.member before key :: stack)).run
        (.comma :: memberTokens (next :: rest) ++ [.closeObj]) =
        (Place.complete (.obj (before ++ (key, value) :: next :: rest)) stack).within
          (stack.length + 1 + membersDepth (next :: rest)) := by
      have continued := run_memberTokens (next :: rest) (by simp) (before ++ [(key, value)]) stack
        (by simpa using keys) distinct.2 room
      rw [List.append_assoc, ← Entries.set_of_fresh (fresh_of_nodup keys)] at continued
      exact continued
    have begun : (Place.key before stack).run
        (memberTokens ((key, value) :: next :: rest) ++ [.closeObj]) =
        (Place.value (.member before key :: stack)).run
          (value.tokens ++ (.comma :: memberTokens (next :: rest) ++ [.closeObj])) := by
      simp only [memberTokens, List.cons_append, List.append_assoc]
      rfl
    rw [begun, Place.run_append_of_within read others, List.length_cons, Nat.add_max_add_left]
    rfl

end

/-- The tokens of a value are read as the value, unless it is nested too deeply. -/
theorem ofTokens?_tokens {json : Json} (distinct : json.DistinctKeys) :
    ofTokens? json.tokens = if json.depth ≤ depthLimit then some json else none := by
  have ran : json.tokens.foldlM Place.step (.value []) =
      (Place.complete json []).within (0 + json.depth) :=
    run_tokens json distinct [] (Nat.zero_le _)
  rw [Nat.zero_add, Place.within] at ran
  by_cases fits : json.depth ≤ depthLimit <;> simp [ofTokens?, ran, fits]

/-- The text of a value is read back as the value, unless it is nested too deeply. -/
theorem read?_compact {json : Json} (distinct : json.DistinctKeys) (legible : json.Legible) :
    read? json.compact = if json.depth ≤ depthLimit then some json else none := by
  simp [read?, compact, scan_chars legible, ofTokens?_tokens distinct]

end FilterQuery.Json
