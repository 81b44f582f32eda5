import FilterQuery.Coercion
import FilterQuery.Proofs.Operand.Writing
/-! The values of a type. Coercion gives an operand a value of the type it is coerced
to. Two values of one type always have an order among each other, and equality as
filters see it is the equality of this order. -/
namespace FilterQuery

/-- A value is one of a type. References have no values of this kind. -/
inductive FieldType.Admits : FieldType → Value → Prop where
  | boolean (value : Bool) : Admits .boolean (.bool value)
  | integer (value : Int64) : Admits .integer (.int value)
  | decimal {value : Binary64} (finite : value.isFinite = true) : Admits .decimal (.dec value)
  | string (value : String) : Admits .string (.str value)
  | date (value : Date) : Admits .date (.date value)
  | dateTime (value : Timestamp) : Admits .dateTime (.timestamp value)
  | symbol {enumeration : Enumeration} {name : String} (declared : name ∈ enumeration.symbols) :
    Admits (.enum enumeration) (.symbol name)

namespace Operand

variable {operand : Operand}

theorem coerce_eq_ok {type : FieldType} {value : Value} :
    operand.coerce type = .ok value ↔ operand.value? type = some value := by
  unfold coerce
  cases operand.value? type <;> simp

theorem isFinite_of_decimalOfText? {text : String} {value : Binary64}
    (read : decimalOfText? text = some value) : value.isFinite = true := by
  obtain ⟨numeral, -, checked⟩ := Option.bind_eq_some_iff.1 read
  dsimp only at checked
  split at checked
  · cases checked
    assumption
  · cases checked

/-- The decimal that a finite operand denotes is finite. -/
theorem isFinite_of_decimal? {value : Binary64} (finite : operand.Finite)
    (denoted : operand.decimal? = some value) : value.isFinite = true := by
  cases operand with
  | int given =>
    cases denoted
    have below := given.le_toInt
    have above := given.toInt_lt
    exact Binary64.isFinite_ofInt (by omega)
  | dec given =>
    cases denoted
    exact finite
  | str given => exact isFinite_of_decimalOfText? denoted
  | _ => cases denoted

theorem mem_symbols_of_symbol? {enumeration : Enumeration} {name : String}
    (denoted : operand.symbol? enumeration = some name) : name ∈ enumeration.symbols := by
  cases operand with
  | str given =>
    by_cases declared : enumeration.symbols.contains given
    · rw [symbol?, if_pos declared] at denoted
      cases denoted
      simpa using declared
    · rw [symbol?, if_neg declared] at denoted
      cases denoted
  | _ => cases denoted

theorem decimal?_of_coerce {type : FieldType} {value : Binary64}
    (coerced : operand.coerce type = .ok (.dec value)) : operand.decimal? = some value := by
  have denoted := coerce_eq_ok.1 coerced
  cases type with
  | decimal =>
    obtain ⟨given, meant, ⟨⟩⟩ := Option.map_eq_some_iff.1 denoted
    exact meant
  | entity target => cases denoted
  | _ => obtain ⟨given, -, ⟨⟩⟩ := Option.map_eq_some_iff.1 denoted

/-- Coercion gives a value of the type, unless it is an infinite or undefined decimal. -/
theorem admits_of_defined {type : FieldType} {value : Value}
    (coerced : operand.coerce type = .ok value)
    (defined : ∀ given, value = .dec given → given.isFinite = true) : type.Admits value := by
  have denoted := coerce_eq_ok.1 coerced
  cases type with
  | boolean =>
    obtain ⟨given, -, rfl⟩ := Option.map_eq_some_iff.1 denoted
    exact .boolean given
  | integer =>
    obtain ⟨given, -, rfl⟩ := Option.map_eq_some_iff.1 denoted
    exact .integer given
  | decimal =>
    obtain ⟨given, -, rfl⟩ := Option.map_eq_some_iff.1 denoted
    exact .decimal (defined given rfl)
  | string =>
    obtain ⟨given, -, rfl⟩ := Option.map_eq_some_iff.1 denoted
    exact .string given
  | date =>
    obtain ⟨given, -, rfl⟩ := Option.map_eq_some_iff.1 denoted
    exact .date given
  | dateTime =>
    obtain ⟨given, -, rfl⟩ := Option.map_eq_some_iff.1 denoted
    exact .dateTime given
  | enum enumeration =>
    obtain ⟨given, meant, rfl⟩ := Option.map_eq_some_iff.1 denoted
    exact .symbol (mem_symbols_of_symbol? meant)
  | entity target => cases denoted

/-- Coercion of a finite operand gives a value of the type. -/
theorem admits_of_coerce {type : FieldType} {value : Value} (finite : operand.Finite)
    (coerced : operand.coerce type = .ok value) : type.Admits value := by
  refine admits_of_defined coerced ?_
  rintro given rfl
  exact isFinite_of_decimal? finite (decimal?_of_coerce coerced)

end Operand

namespace Binary64

/-- Finite numbers have an order among each other. -/
theorem exists_compare? {a b : Binary64} (finite : a.isFinite = true)
    (otherFinite : b.isFinite = true) : ∃ order, a.compare? b = some order := by
  cases a with
  | finite => cases b with
    | finite => exact ⟨_, rfl⟩
    | _ => cases otherFinite
  | _ => cases finite

end Binary64

namespace FieldType.Admits

variable {type : FieldType} {a b : Value}

/-- Values of one type have an order among each other. -/
theorem exists_compare? (admitted : type.Admits a) (other : type.Admits b) :
    ∃ order, a.compare? b = some order := by
  cases admitted with
  | decimal finite => cases other with
    | decimal otherFinite => exact Binary64.exists_compare? finite otherFinite
  | _ =>
    cases other
    exact ⟨_, rfl⟩

theorem isNull_eq_false (admitted : type.Admits a) : a.isNull = false := by
  cases admitted <;> rfl

/-- Whatever equals a value of a type is in the order of equality with it. -/
theorem equals_eq (admitted : type.Admits b) (a : Value) :
    a.equals b = (a.compare? b == some .eq) := by
  cases admitted <;> cases a <;> rfl

end FieldType.Admits

end FilterQuery
