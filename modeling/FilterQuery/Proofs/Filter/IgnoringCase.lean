import FilterQuery.Proofs.Filter.Compilation
import FilterQuery.Proofs.Text.Sigma
/-! Containment with and without regard to case. The test that ignores case looks for the
lower case of the operand in the lower case of the value. It accepts every value that the
test with regard to case accepts iff the operand settles the form of its capital sigmas. A
sigma at the border of the operand can be final there and not final in the value. -/
namespace FilterQuery

theorem Text.toList_lower (text : String) : (lower text).toList = lowerAfter [] text.toList :=
  String.toList_ofList

/-- There is a record with a given value at the end of a path. -/
theorem Record.exists_lookup_eq (value : Value) : ∀ names : List String, names ≠ [] →
    ∃ record : Record, record.lookup names = value
  | [], nonempty => absurd rfl nonempty
  | [name], _ => ⟨⟨[(name, value)]⟩, by simp [lookup, get?, Entries.get?]⟩
  | name :: next :: rest, _ => by
    obtain ⟨inner, found⟩ := exists_lookup_eq value (next :: rest) (List.cons_ne_nil _ _)
    exact ⟨⟨[(name, .entity inner.fields)]⟩, by simpa [lookup, get?, Entries.get?] using found⟩

namespace Leaf

variable {schema : Schema} {root path : String} {operand : Operand}
  {sensitive insensitive : RecordCondition}

/-- A leaf that looks for a substring compiles to one test of a text in its field. -/
theorem compileAlone_containment_iff {operator : Operator}
    (looks : operator = .contains ∨ operator = .icontains) {condition : RecordCondition} :
    compileAlone schema root ⟨path, operator, [operand]⟩ = .ok condition ↔
      ∃ field needle, schema.resolve root path = .ok field ∧ field.dataType = .string ∧
        operand.string? = some needle ∧ .test field.names (.like (Like.containing
          (if operator == .icontains then Text.lower needle else needle))
            (operator == .icontains)) = condition := by
  have made (field : ResolvedField) : test ⟨path, operator, [operand]⟩ field =
      containmentTest ⟨path, operator, [operand]⟩ field := by
    rcases looks with rfl | rfl <;> rfl
  rw [compileAlone_eq, map_eq_ok]
  constructor
  · rintro ⟨asked, questioned, rfl⟩
    obtain ⟨field, resolved, questioned⟩ := bind_eq_ok.1 questioned
    obtain ⟨test, tested, returned⟩ := bind_eq_ok.1 questioned
    cases returned
    rw [made] at tested
    obtain ⟨kind, given, needle, isOperand, denoted, rfl⟩ := containmentTest_eq_ok_iff.1 tested
    cases isOperand
    exact ⟨field, needle, resolved, kind, denoted, rfl⟩
  · rintro ⟨field, needle, resolved, kind, denoted, rfl⟩
    have given : Leaf.operand ⟨path, operator, [operand]⟩ = .ok operand := rfl
    have tested := containmentTest_eq_ok_iff.2 ⟨kind, operand, needle, given, denoted, rfl⟩
    refine ⟨_, bind_eq_ok.2 ⟨field, resolved, bind_eq_ok.2 ⟨_, ?_, rfl⟩⟩, rfl⟩
    rw [made]
    exact tested

/-- A leaf with regard to case that compiles also compiles without regard to case. The second one
holds of all records of which the first one holds iff the text that the operand denotes settles
its sigmas. -/
theorem icontains_extends_contains_iff
    (compiled : compileAlone schema root ⟨path, .contains, [operand]⟩ = .ok sensitive) :
    ∃ insensitive needle,
      compileAlone schema root ⟨path, .icontains, [operand]⟩ = .ok insensitive ∧
      operand.string? = some needle ∧
      ((∀ record, sensitive.holds record = true → insensitive.holds record = true) ↔
        Text.SigmasSettled needle.toList) := by
  obtain ⟨field, needle, resolved, kind, denoted, rfl⟩ :=
    (compileAlone_containment_iff (.inl rfl)).1 compiled
  refine ⟨_, needle, (compileAlone_containment_iff (.inr rfl)).2
    ⟨field, needle, resolved, kind, denoted, rfl⟩, denoted, ?_⟩
  have respecting (record : Record) :
      (Test.like (Like.containing needle) false).holds (record.lookup field.names) = true ↔
        ∃ text, (record.lookup field.names).text? = some text ∧
          needle.toList <:+: text.toList :=
    Test.holds_like_containing_iff
  have ignoring (record : Record) :
      (Test.like (Like.containing (Text.lower needle)) true).holds (record.lookup field.names) =
          true ↔
        ∃ text, (record.lookup field.names).text? = some text ∧
          Text.lowerAfter [] needle.toList <:+: Text.lowerAfter [] text.toList := by
    rw [Test.holds_like_containing_iff]
    simp only [if_true, Text.toList_lower]
  rw [Text.sigmasSettled_iff]
  constructor
  · intro all text occurs
    obtain ⟨record, found⟩ :=
      Record.exists_lookup_eq (.str (String.ofList text)) field.names field.names_ne_nil
    have isText : (record.lookup field.names).text? = some (String.ofList text) := by
      rw [found]
      rfl
    have accepted := all record
      ((respecting record).2 ⟨_, isText, by rwa [String.toList_ofList]⟩)
    obtain ⟨again, isTextAgain, inside⟩ := (ignoring record).1 accepted
    rw [isText] at isTextAgain
    cases isTextAgain
    rwa [String.toList_ofList] at inside
  · intro always record accepted
    obtain ⟨text, isText, occurs⟩ := (respecting record).1 accepted
    exact (ignoring record).2 ⟨text, isText, always text.toList occurs⟩

/-- An operand whose lower case has more characters than it has itself. -/
theorem icontains_extends_contains_dotted :
    let schema : Schema := ⟨[⟨"City", none, none, [⟨"name", .string⟩]⟩]⟩
    ∃ sensitive insensitive,
      compileAlone schema "City" ⟨"name", .contains, [.str "İ_"]⟩ = .ok sensitive ∧
      compileAlone schema "City" ⟨"name", .icontains, [.str "İ_"]⟩ = .ok insensitive ∧
      ∀ record, sensitive.holds record = true → insensitive.holds record = true := by
  intro schema
  have compiled : compileAlone schema "City" ⟨"name", .contains, [.str "İ_"]⟩ =
      .ok (.test ["name"] (.like (Like.containing "İ_") false)) := rfl
  obtain ⟨insensitive, needle, ignoring, denoted, iff⟩ := icontains_extends_contains_iff compiled
  cases denoted
  exact ⟨_, insensitive, compiled, ignoring, iff.2 (Text.settled_of_not_mem (by decide))⟩

/-- A sigma at the end of the operand is final; in the middle of the value it is not. -/
theorem icontains_misses_inner_sigma :
    let schema : Schema := ⟨[⟨"Note", none, none, [⟨"text", .string⟩]⟩]⟩
    let record : Record := ⟨[("text", .str "ΑΣΑ")]⟩
    ∃ sensitive insensitive,
      compileAlone schema "Note" ⟨"text", .contains, [.str "ΑΣ"]⟩ = .ok sensitive ∧
      compileAlone schema "Note" ⟨"text", .icontains, [.str "ΑΣ"]⟩ = .ok insensitive ∧
      sensitive.holds record = true ∧ insensitive.holds record = false := by
  intro schema record
  have respecting : compileAlone schema "Note" ⟨"text", .contains, [.str "ΑΣ"]⟩ =
      .ok (.test ["text"] (.like (Like.containing "ΑΣ") false)) := rfl
  have ignoring : compileAlone schema "Note" ⟨"text", .icontains, [.str "ΑΣ"]⟩ =
      .ok (.test ["text"] (.like (Like.containing (Text.lower "ΑΣ")) true)) := rfl
  have lowerOperand : Text.lower "ΑΣ" = "ας" := by decide +kernel
  have lowerValue : Text.lower "ΑΣΑ" = "ασα" := by decide +kernel
  refine ⟨_, _, respecting, ignoring, ?_, ?_⟩
  · show Like.accepts (Like.containing "ΑΣ") "ΑΣΑ" = true
    rw [Like.accepts_containing]
    decide
  · show Like.accepts (Like.containing (Text.lower "ΑΣ")) (Text.lower "ΑΣΑ") = false
    rw [lowerOperand, lowerValue, Bool.eq_false_iff, ne_eq, Like.accepts_containing]
    decide

end Leaf

end FilterQuery
