import FilterQuery.Proofs.Calendar.Rereading
import FilterQuery.Proofs.Value.Typing
/-! What written values denote. A value of a type is written as a JSON value that denotes a
value of the same type: the very same one, except that an instant is cut off at the
millisecond. Excepted are decimals that have no number, and instants whose year does
not have four digits. As operands, dates and instants lose nothing. -/
namespace FilterQuery

/-- What the JSON value stands for as an operand is coerced to the value. -/
def Json.Denotes (json : Json) (type : FieldType) (value : Value) : Prop :=
  ∃ operand, Operand.ofJson json = .ok operand ∧ operand.coerce type = .ok value

/-- A JSON value denotes at most one value of a type. -/
theorem Json.Denotes.unique {json : Json} {type : FieldType} {value other : Value}
    (denotes : json.Denotes type value) (also : json.Denotes type other) : value = other := by
  obtain ⟨operand, read, coerced⟩ := denotes
  obtain ⟨again, readAgain, coercedAgain⟩ := also
  rw [read] at readAgain
  cases readAgain
  rw [coerced] at coercedAgain
  cases coercedAgain
  rfl

namespace Value

/-- Whether the value has a written form that can be read: a decimal has a number, and the year of
an instant has four digits. -/
def Renderable : Value → Prop
  | .dec value => value.isFinite = true
  | .timestamp value => 0 ≤ value.date.year ∧ value.date.year ≤ 9999
  | _ => True

/-- What is kept of the value when it is written. -/
def kept : Value → Value
  | .timestamp value => .timestamp (value.kept .millis)
  | value => value

/-- Whether the value, if it is an instant, lies a whole number of milliseconds after the second. -/
def WholeMillis : Value → Prop
  | .timestamp value => value.nano % 1000000 = 0
  | _ => True

theorem kept_eq_self_iff {value : Value} : value.kept = value ↔ value.WholeMillis := by
  cases value with
  | timestamp value =>
    rw [kept, WholeMillis, ← value.kept_millis_eq_self_iff]
    simp
  | _ => simp [kept, WholeMillis]

end Value

namespace Operand

theorem coerce_dateText (date : Date) : (Operand.str date.text).coerce .date = .ok (.date date) := by
  rw [coerce_eq_ok]
  simp [value?, date?, Date.text, Iso.readDate?_chars]

theorem coerce_of_readTimestamp? {text : String} {timestamp : Timestamp}
    (read : Iso.readTimestamp? text.toList = some timestamp) :
    (Operand.str text).coerce .dateTime = .ok (.timestamp timestamp) := by
  rw [coerce_eq_ok]
  simp [value?, timestamp?, read]

theorem coerce_timestampText {timestamp : Timestamp}
    (year : 0 ≤ timestamp.date.year ∧ timestamp.date.year ≤ 9999)
    (precision : Timestamp.Precision) :
    (Operand.str (timestamp.text precision)).coerce .dateTime =
      .ok (.timestamp (timestamp.kept precision)) := by
  apply coerce_of_readTimestamp?
  rw [Timestamp.text, String.toList_ofList]
  exact Iso.readTimestamp?_chars year precision

end Operand

/-- A value of a type is written as what denotes the part of it that is kept. -/
theorem FieldType.Admits.denotes_kept {type : FieldType} {value : Value}
    (admitted : type.Admits value) (renderable : value.Renderable) :
    value.toJson.Denotes type value.kept := by
  cases admitted with
  | boolean value => exact ⟨.bool value, rfl, rfl⟩
  | integer value => exact ⟨.int value, Operand.ofJson_toJson (.int value) trivial, rfl⟩
  | @decimal value finite => exact ⟨.dec value, Operand.ofJson_toJson (.dec value) finite, rfl⟩
  | string value => exact ⟨.str value, rfl, rfl⟩
  | date value => exact ⟨.str value.text, rfl, Operand.coerce_dateText value⟩
  | dateTime value =>
    exact ⟨.str (value.text .millis), rfl, Operand.coerce_timestampText renderable .millis⟩
  | @symbol enumeration name declared =>
    refine ⟨.str name, rfl, ?_⟩
    simp [Operand.coerce_eq_ok, Operand.value?, Operand.symbol?, declared, Value.kept]

namespace Operand

/-- A value that an operand was coerced to is written as what denotes the part of it that is
kept. -/
theorem denotes_kept {operand : Operand} {type : FieldType} {value : Value}
    (coerced : operand.coerce type = .ok value) (renderable : value.Renderable) :
    value.toJson.Denotes type value.kept := by
  refine FieldType.Admits.denotes_kept (admits_of_defined coerced ?_) renderable
  rintro given rfl
  exact renderable

/-- It is written as what denotes the whole value iff nothing of it is cut off. -/
theorem denotes_self_iff {operand : Operand} {type : FieldType} {value : Value}
    (coerced : operand.coerce type = .ok value) (renderable : value.Renderable) :
    value.toJson.Denotes type value ↔ value.WholeMillis := by
  have denotes := denotes_kept coerced renderable
  rw [← Value.kept_eq_self_iff]
  constructor
  · exact denotes.unique
  · intro whole
    rw [whole] at denotes
    exact denotes

/-- A date as an operand is coerced back to the date, whatever its year. An instant as an operand
is coerced back to the instant, to the nanosecond, iff its year in universal time has four
digits. -/
theorem temporal_operands_coerce_back :
    (∀ date, (ofDate date).coerce .date = .ok (.date date)) ∧
    ∀ timestamp, (ofTimestamp timestamp).coerce .dateTime = .ok (.timestamp timestamp) ↔
      0 ≤ timestamp.date.year ∧ timestamp.date.year ≤ 9999 := by
  refine ⟨coerce_dateText, fun timestamp => ⟨?_, ?_⟩⟩
  · intro coerced
    refine Decidable.byContradiction fun signed => ?_
    rw [coerce_eq_ok] at coerced
    simp [value?, timestamp?, ofTimestamp, Timestamp.text, Iso.readTimestamp?_of_signed signed]
      at coerced
  · intro year
    exact coerce_timestampText year .auto

end Operand

end FilterQuery
