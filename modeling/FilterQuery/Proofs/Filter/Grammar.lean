import Mathlib.Data.List.Forall2
import FilterQuery.Proofs.Filter.Reading
/-! The grammar of filter documents. A document is an object. Under the key of a group it has a
filled array of filled objects that are documents themselves, and under any other key, which must
not look like an operator, a filled object of operators with their operands. Every document of the
grammar is read. -/
namespace FilterQuery

namespace Json

/-- Neither an array nor an object. -/
def IsScalar : Json → Prop
  | .arr _ | .obj _ => False
  | _ => True

/-- No object stands in it, at any depth. -/
inductive ObjectFree : Json → Prop where
  | scalar {value : Json} (scalar : value.IsScalar) : ObjectFree value
  | array {items : List Json} (each : ∀ item ∈ items, ObjectFree item) : ObjectFree (.arr items)

/-- What may stand after an operator: a scalar, or after the one that takes a list also a filled
array. -/
inductive IsOperand : Operator → Json → Prop where
  | scalar (operator : Operator) {value : Json} (scalar : value.IsScalar) :
      IsOperand operator value
  | list {items : List Json} (filled : items ≠ []) (free : ∀ item ∈ items, item.ObjectFree) :
      IsOperand .oneOf (.arr items)

mutual

/-- A filter document. -/
inductive IsFilter : Json → Prop where
  | object {members : List (String × Json)}
      (each : ∀ member ∈ members, IsConjunct member.1 member.2) : IsFilter (.obj members)

/-- What may stand in a filter document under a key. -/
inductive IsConjunct : String → Json → Prop where
  | group (connective : Connective) {items : List Json} (filled : items ≠ [])
      (members : ∀ item ∈ items, item ≠ .obj []) (each : ∀ item ∈ items, IsFilter item) :
      IsConjunct connective.key (.arr items)
  | field {key : String} {entries : List (String × Json)}
      (plain : key.toList.head? ≠ some '$') (filled : entries ≠ [])
      (each : ∀ entry ∈ entries, ∃ operator : Operator,
        operator.token = entry.1 ∧ IsOperand operator entry.2) :
      IsConjunct key (.obj entries)

end

/-- The operands that stand after an operator, as they are written. -/
def writtenOperands : Json → List Json
  | .arr items => items
  | value => [value]

theorem IsScalar.writtenOperands {value : Json} (scalar : value.IsScalar) :
    value.writtenOperands = [value] := by
  cases value <;> first | rfl | cases scalar

end Json

/-- An operator in a filter document: the field under which it stands, its token, and what stands
after it. -/
structure OperatorEntry where
  field : String
  token : String
  value : Json

namespace OperatorEntry

mutual

/-- The operators in these members of a document, in document order. -/
def inMembers : List (String × Json) → List OperatorEntry
  | [] => []
  | (key, value) :: rest => under key value ++ inMembers rest

/-- The operators under a key: those in the objects of a group, or those of a field. -/
def under (key : String) : Json → List OperatorEntry
  | .arr items => inItems items
  | .obj entries => entries.map fun entry => ⟨key, entry.1, entry.2⟩
  | _ => []

/-- The operators in the objects of a group. -/
def inItems : List Json → List OperatorEntry
  | [] => []
  | .obj members :: rest => inMembers members ++ inItems rest
  | _ :: rest => inItems rest

end

/-- The operators in a document, in document order. -/
def inDocument : Json → List OperatorEntry
  | .obj members => inMembers members
  | _ => []

/-- The leaf asks with this operator, about the field under which it stands and with the operands
that stand after it. -/
structure Asks (entry : OperatorEntry) (leaf : Leaf) : Prop where
  field : leaf.field = entry.field
  operator : leaf.operator.token = entry.token
  operands : List.Forall₂ (fun item operand => Operand.ofJson item = .ok operand)
    entry.value.writtenOperands leaf.operands

end OperatorEntry

/-- All items have these results iff each of them has its own. -/
theorem mapM_eq_ok_iff_forall₂ {ε α β : Type} {check : α → Except ε β} {items : List α}
    {results : List β} :
    items.mapM check = .ok results ↔
      List.Forall₂ (fun item result => check item = .ok result) items results := by
  induction items generalizing results with
  | nil => simp [eq_comm]
  | cons item items ih =>
    rw [mapM_cons_eq_ok, List.forall₂_cons_left_iff]
    constructor
    · rintro ⟨result, rest, checked, others, rfl⟩
      exact ⟨result, rest, checked, ih.1 others, rfl⟩
    · rintro ⟨result, rest, checked, others, rfl⟩
      exact ⟨result, rest, checked, ih.2 others, rfl⟩

namespace Operand

theorem ofJsons_eq_mapM (items : List Json) : ofJsons items = items.mapM ofJson := by
  induction items with
  | nil => rfl
  | cons item rest ih =>
    rw [ofJsons, ih, List.mapM_cons]

theorem exists_ofJson_of_scalar {value : Json} (scalar : value.IsScalar) :
    ∃ operand, ofJson value = .ok operand := by
  cases value with
  | num number => cases word : number.int64? <;> simp [ofJson, word]
  | arr items => cases scalar
  | obj members => cases scalar
  | _ => simp [ofJson]

mutual

/-- The operands are the values without objects. -/
theorem exists_ofJson_iff : ∀ value : Json,
    (∃ operand, ofJson value = .ok operand) ↔ value.ObjectFree
  | .arr items => by
    have each := exists_ofJsons_iff items
    constructor
    · rintro ⟨operand, read⟩
      obtain ⟨operands, readItems, -⟩ := map_eq_ok.1 read
      exact .array (each.1 ⟨operands, readItems⟩)
    · rintro (impossible | ⟨free⟩)
      · cases impossible
      · obtain ⟨operands, readItems⟩ := each.2 free
        exact ⟨.list operands, map_eq_ok.2 ⟨operands, readItems, rfl⟩⟩
  | .obj members => by
    constructor
    · rintro ⟨operand, read⟩
      cases read
    · rintro ⟨impossible⟩
      cases impossible
  | .null => iff_of_true ⟨.null, rfl⟩ (.scalar trivial)
  | .bool value => iff_of_true ⟨.bool value, rfl⟩ (.scalar trivial)
  | .num number => iff_of_true (exists_ofJson_of_scalar trivial) (.scalar trivial)
  | .str value => iff_of_true ⟨.str value, rfl⟩ (.scalar trivial)

theorem exists_ofJsons_iff : ∀ items : List Json,
    (∃ operands, ofJsons items = .ok operands) ↔ ∀ item ∈ items, item.ObjectFree
  | [] => by simp [ofJsons]
  | item :: rest => by
    rw [List.forall_mem_cons, ← exists_ofJson_iff item, ← exists_ofJsons_iff rest, ofJsons]
    constructor
    · rintro ⟨operands, read⟩
      obtain ⟨operand, first, read⟩ := bind_eq_ok.1 read
      obtain ⟨others, rest, -⟩ := bind_eq_ok.1 read
      exact ⟨⟨operand, first⟩, others, rest⟩
    · rintro ⟨⟨operand, first⟩, others, rest⟩
      exact ⟨operand :: others, bind_eq_ok.2 ⟨operand, first, bind_eq_ok.2 ⟨others, rest, rfl⟩⟩⟩

end

end Operand

namespace Leaf

/-- Operands are read, as many as the operator takes, iff what stands after it is allowed there. -/
theorem readOperands_accepted_iff {field : String} {operator : Operator} {value : Json}
    {operands : List Operand} :
    (readOperands field operator value = .ok operands ∧
        operator.arity.accepts operands.length = true) ↔
      Json.IsOperand operator value ∧
        List.Forall₂ (fun item operand => Operand.ofJson item = .ok operand)
          value.writtenOperands operands := by
  cases value with
  | arr items =>
    by_cases variadic : operator = .oneOf
    · subst variadic
      show (Operand.ofJsons items = .ok operands ∧ decide (1 ≤ operands.length) = true) ↔ _
      rw [Operand.ofJsons_eq_mapM, mapM_eq_ok_iff_forall₂, decide_eq_true_eq]
      constructor
      · rintro ⟨read, some⟩
        refine ⟨.list ?_ ?_, read⟩
        · rintro rfl
          cases read
          cases some
        · exact (Operand.exists_ofJsons_iff items).1
            ⟨operands, by rw [Operand.ofJsons_eq_mapM, mapM_eq_ok_iff_forall₂.2 read]⟩
      · rintro ⟨allowed, read⟩
        refine ⟨read, ?_⟩
        cases allowed with
        | scalar _ impossible => cases impossible
        | list filled free =>
          rw [← List.Forall₂.length_eq read]
          exact List.length_pos_of_ne_nil filled
    · have unary : operator.arity = .unary := by
        cases operator <;> first | rfl | exact absurd rfl variadic
      simp only [readOperands, unary]
      constructor
      · rintro ⟨read, -⟩
        cases read
      · rintro ⟨allowed, -⟩
        cases allowed with
        | scalar _ impossible => cases impossible
        | list filled free => exact absurd rfl variadic
  | obj members =>
    constructor
    · rintro ⟨read, -⟩
      cases read
    · rintro ⟨⟨-, impossible⟩, -⟩
      cases impossible
  | _ =>
    rw [readOperands_scalar field operator (by simp), map_eq_ok]
    constructor
    · rintro ⟨⟨operand, read, rfl⟩, -⟩
      exact ⟨.scalar operator trivial, .cons read .nil⟩
    · rintro ⟨-, read⟩
      obtain ⟨operand, rest, first, nothing, rfl⟩ := List.forall₂_cons_left_iff.1 read
      cases nothing
      exact ⟨⟨operand, first, rfl⟩, by cases operator <;> rfl⟩

/-- An entry is read as the leaf that asks with it, if what stands there is allowed. -/
theorem read_eq_ok_iff {field token : String} {value : Json} {leaf : Leaf} :
    read field token value = .ok leaf ↔
      Json.IsOperand leaf.operator value ∧ OperatorEntry.Asks ⟨field, token, value⟩ leaf := by
  constructor
  · intro read
    obtain ⟨operator, known, read⟩ := bind_eq_ok.1 read
    obtain ⟨operands, readValues, built⟩ := bind_eq_ok.1 read
    obtain ⟨accepted, rfl⟩ := of_eq_ok_iff.1 built
    obtain ⟨allowed, each⟩ := readOperands_accepted_iff.1 ⟨readValues, accepted⟩
    exact ⟨allowed, rfl, readOperator_eq_ok_iff.1 known, each⟩
  · rintro ⟨allowed, rfl, token, each⟩
    obtain ⟨readValues, accepted⟩ := readOperands_accepted_iff.2 ⟨allowed, each⟩
    refine bind_eq_ok.2 ⟨leaf.operator, readOperator_eq_ok_iff.2 token, ?_⟩
    exact bind_eq_ok.2 ⟨leaf.operands, readValues, of_eq_ok_iff.2 ⟨accepted, rfl⟩⟩

/-- What is allowed after an operator is read. -/
theorem exists_read (field : String) {operator : Operator} {value : Json}
    (allowed : Json.IsOperand operator value) :
    ∃ leaf, read field operator.token value = .ok leaf := by
  have items : ∀ item ∈ value.writtenOperands, item.ObjectFree := by
    cases allowed with
    | scalar _ scalar =>
      rw [scalar.writtenOperands, List.forall_mem_singleton]
      exact .scalar scalar
    | list filled free => exact free
  obtain ⟨operands, read⟩ := (Operand.exists_ofJsons_iff _).2 items
  rw [Operand.ofJsons_eq_mapM] at read
  exact ⟨⟨field, operator, operands⟩,
    read_eq_ok_iff.2 ⟨allowed, rfl, rfl, mapM_eq_ok_iff_forall₂.1 read⟩⟩

end Leaf

namespace Filter

theorem exists_conjunction {nodes : List Filter} (some : nodes ≠ []) :
    ∃ member, conjunction nodes = .ok member := by
  match nodes, some with
  | [node], _ => exact ⟨node, rfl⟩
  | node :: other :: rest, _ => exact ⟨.group .and (node :: other :: rest), rfl⟩

/-- A field of the grammar is read. -/
theorem exists_readPlain {key : String} {entries : List (String × Json)}
    (plain : key.toList.head? ≠ some '$') (filled : entries ≠ [])
    (each : ∀ entry ∈ entries, ∃ operator : Operator,
      operator.token = entry.1 ∧ Json.IsOperand operator entry.2) :
    ∃ nodes, readPlain key (.obj entries) = .ok nodes ∧ nodes ≠ [] := by
  obtain ⟨nodes, read⟩ :
      ∃ nodes, entries.mapM (fun entry => (Leaf.read key entry.1 entry.2).map Filter.leaf) =
        .ok nodes := by
    apply exists_mapM_eq_ok_iff.2
    intro entry among
    obtain ⟨operator, token, allowed⟩ := each entry among
    obtain ⟨leaf, readLeaf⟩ := Leaf.exists_read key allowed
    rw [token] at readLeaf
    exact ⟨.leaf leaf, map_eq_ok.2 ⟨leaf, readLeaf, rfl⟩⟩
  obtain ⟨entry, more, rfl⟩ := List.exists_cons_of_ne_nil filled
  refine ⟨nodes, ?_, ?_⟩
  · rw [readPlain, if_neg plain, readField, read]
    simp
  · rintro rfl
    have count := length_of_mapM read
    cases count

mutual

/-- Conjuncts of the grammar are read. -/
theorem exists_readConjuncts : ∀ members : List (String × Json),
    (∀ member ∈ members, Json.IsConjunct member.1 member.2) →
      ∃ nodes, readConjuncts members = .ok nodes ∧ (members ≠ [] → nodes ≠ [])
  | [], _ => ⟨[], rfl, by simp⟩
  | (key, value) :: rest, each => by
    obtain ⟨first, others⟩ := List.forall_mem_cons.1 each
    obtain ⟨nodes, read, some⟩ := exists_readConjunct key value first
    obtain ⟨more, readRest, -⟩ := exists_readConjuncts rest others
    refine ⟨nodes ++ more, ?_, fun _ nothing => some (List.append_eq_nil_iff.1 nothing).1⟩
    exact bind_eq_ok.2 ⟨nodes, read, bind_eq_ok.2 ⟨more, readRest, rfl⟩⟩

theorem exists_readConjunct : ∀ (key : String) (value : Json), Json.IsConjunct key value →
    ∃ nodes, readConjunct key value = .ok nodes ∧ nodes ≠ []
  | _, .arr items, allowed => by
    obtain ⟨connective, filled, members, each⟩ := allowed
    obtain ⟨inside, read, some⟩ := exists_readMembers connective items members each
    refine ⟨[.group connective inside], ?_, by simp⟩
    have joined : join connective inside = .ok (.group connective inside) := by
      simp [join, some filled]
    simp [readConjunct, Connective.ofKey?_key, read, joined]
  | key, .obj entries, allowed => by
    cases allowed with
    | field plain filled each =>
      obtain ⟨nodes, read, some⟩ := exists_readPlain plain filled each
      refine ⟨nodes, ?_, some⟩
      simpa [readConjunct, Connective.ofKey?_of_plain plain] using read
  | _, .null, allowed => by cases allowed
  | _, .bool _, allowed => by cases allowed
  | _, .num _, allowed => by cases allowed
  | _, .str _, allowed => by cases allowed

theorem exists_readMembers (connective : Connective) : ∀ items : List Json,
    (∀ item ∈ items, item ≠ .obj []) → (∀ item ∈ items, item.IsFilter) →
      ∃ members, readMembers connective items = .ok members ∧ (items ≠ [] → members ≠ [])
  | [], _, _ => ⟨[], rfl, by simp⟩
  | .obj entries :: rest, filled, each => by
    obtain ⟨⟨conjuncts⟩, others⟩ := List.forall_mem_cons.1 each
    obtain ⟨some, filled⟩ := List.forall_mem_cons.1 filled
    obtain ⟨nodes, read, occupied⟩ := exists_readConjuncts entries conjuncts
    obtain ⟨member, built⟩ := exists_conjunction (occupied (by simpa using some))
    obtain ⟨members, readRest, -⟩ := exists_readMembers connective rest filled others
    refine ⟨member :: members, ?_, by simp⟩
    exact bind_eq_ok.2 ⟨nodes, read, bind_eq_ok.2 ⟨member, built,
      bind_eq_ok.2 ⟨members, readRest, rfl⟩⟩⟩
  | .null :: _, _, each => nomatch each _ List.mem_cons_self
  | .bool _ :: _, _, each => nomatch each _ List.mem_cons_self
  | .num _ :: _, _, each => nomatch each _ List.mem_cons_self
  | .str _ :: _, _, each => nomatch each _ List.mem_cons_self
  | .arr _ :: _, _, each => nomatch each _ List.mem_cons_self

end

end Filter

end FilterQuery
