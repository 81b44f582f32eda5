import FilterQuery.Operand.Reader
import FilterQuery.Proofs.Binary64.Integers
import FilterQuery.Proofs.Checks
/-! Operands survive writing and reading, unless a decimal in them is infinite or
undefined and so has no number. What is read holds only finite decimals, also
where an integer beyond a signed word was taken as one. -/
namespace FilterQuery

namespace Operand

mutual

/-- Whether every decimal in the operand is finite, at any depth. -/
def Finite : Operand → Prop
  | .dec value => value.isFinite = true
  | .list items => AllFinite items
  | .null | .bool _ | .int _ | .str _ => True

/-- Whether every decimal in these operands is finite. -/
def AllFinite : List Operand → Prop
  | [] => True
  | item :: rest => Finite item ∧ AllFinite rest

end

theorem allFinite_iff {items : List Operand} : AllFinite items ↔ ∀ item ∈ items, item.Finite := by
  induction items with
  | nil => simp [AllFinite]
  | cons item rest ih => simp [AllFinite, ih]

private theorem int64?_ofInt64 (value : Int64) : (Number.ofInt64 value).int64? = some value := by
  have small : value.toInt < 0x8000000000000000 := value.toInt_lt
  simp only [Number.ofInt64, Number.int64?, if_pos small, Int64.ofInt_toInt]

private theorem ofJson_ofBinary64 {value : Binary64} (finite : value.isFinite = true) :
    ofJson (.ofBinary64 value) = .ok (.dec value) := by
  simp [Json.ofBinary64, Number.ofBinary64?, finite, ofJson, Number.int64?, Number.toBinary64]

mutual

/-- A finite operand is read back as it was written. -/
theorem ofJson_toJson : ∀ operand : Operand, operand.Finite → ofJson operand.toJson = .ok operand
  | .null, _ => rfl
  | .bool _, _ => rfl
  | .int value, _ => by simp [toJson, ofJson, int64?_ofInt64]
  | .dec _, finite => ofJson_ofBinary64 finite
  | .str _, _ => rfl
  | .list items, finite => by simp [toJson, ofJson, ofJsons_itemsToJson items finite]

theorem ofJsons_itemsToJson : ∀ items : List Operand, AllFinite items →
    ofJsons (itemsToJson items) = .ok items
  | [], _ => rfl
  | item :: rest, finite => by
    simp [itemsToJson, ofJsons, ofJson_toJson item finite.1, ofJsons_itemsToJson rest finite.2]

end

private theorem isFinite_toBinary64 {number : Number} (wide : number.int64? = none) :
    number.toBinary64.isFinite = true := by
  cases number with
  | int value inRange =>
    refine Binary64.isFinite_ofInt ?_
    simp only [Number.int64?, ite_eq_right_iff, reduceCtorEq, imp_false] at wide
    omega
  | float value finite => exact finite

mutual

/-- An operand that has been read is finite. -/
theorem finite_of_ofJson : ∀ (json : Json) (operand : Operand),
    ofJson json = .ok operand → operand.Finite
  | .null, _, read => by cases read; trivial
  | .bool _, _, read => by cases read; trivial
  | .num number, _, read => by
    rw [ofJson] at read
    split at read
    · cases read
      trivial
    · rename_i wide
      cases read
      exact isFinite_toBinary64 wide
  | .str _, _, read => by cases read; trivial
  | .arr items, _, read => by
    obtain ⟨operands, readItems, rfl⟩ := map_eq_ok.1 read
    exact allFinite_of_ofJsons items operands readItems
  | .obj _, _, read => by cases read

theorem allFinite_of_ofJsons : ∀ (items : List Json) (operands : List Operand),
    ofJsons items = .ok operands → AllFinite operands
  | [], _, read => by cases read; trivial
  | item :: rest, _, read => by
    obtain ⟨operand, readItem, others⟩ := bind_eq_ok.1 read
    obtain ⟨operands, readRest, returned⟩ := bind_eq_ok.1 others
    cases returned
    exact ⟨finite_of_ofJson item operand readItem, allFinite_of_ofJsons rest operands readRest⟩

end

mutual

/-- A finite operand equals itself under numeric equality. -/
theorem same_self : ∀ operand : Operand, operand.Finite → operand.same operand = true
  | .null, _ => rfl
  | .bool _, _ => by simp [same]
  | .int _, _ => by simp [same]
  | .dec (.finite ..), _ => by simp [same, Binary64.equal, Binary64.compare?, Binary64.place?]
  | .str _, _ => by simp [same]
  | .list items, finite => sameItems_self items finite

theorem sameItems_self : ∀ items : List Operand, AllFinite items → sameItems items items = true
  | [], _ => rfl
  | item :: rest, finite => by
    simp [sameItems, same_self item finite.1, sameItems_self rest finite.2]

end

end Operand

end FilterQuery
