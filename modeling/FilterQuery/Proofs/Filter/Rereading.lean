import FilterQuery.Filter.Reader
import FilterQuery.Proofs.Filter.Layout
import FilterQuery.Proofs.Operand.Writing
/-! Reading what has been written. A document can hold a leaf whose field does not
look like an operator, whose decimals have numbers, and which has no list where
one operand is expected. Filters with such leaves are read back as they were
written, one by one and in the layout of a document. -/
namespace FilterQuery

/-- A document can hold the leaf. -/
structure Leaf.Writable (leaf : Leaf) : Prop where
  /-- The field does not begin with a dollar sign. -/
  plain : leaf.field.toList.head? ≠ some '$'
  finite : ∀ operand ∈ leaf.operands, operand.Finite
  /-- A single operand is not a list. -/
  scalar : leaf.operator.arity = .unary → ∀ items, .list items ∉ leaf.operands

/-- A document can hold the filter. -/
structure Filter.Writable (filter : Filter) : Prop where
  ready : filter.WellFormed
  leaves : ∀ leaf ∈ filter.leaves, leaf.Writable

theorem Connective.ofKey?_key (connective : Connective) :
    ofKey? connective.key = some connective := by
  cases connective <;> decide

theorem Connective.key_of_ofKey? {key : String} {connective : Connective}
    (found : ofKey? key = some connective) : connective.key = key := by
  simpa using List.find?_some found

theorem Connective.ofKey?_of_plain {key : String} (plain : key.toList.head? ≠ some '$') :
    ofKey? key = none := by
  cases found : ofKey? key with
  | none => rfl
  | some connective =>
    rw [← key_of_ofKey? found] at plain
    cases connective <;> exact absurd (by decide) plain

namespace Operand

theorem toJson_ne_arr {operand : Operand} (finite : operand.Finite)
    (scalar : ∀ items, operand ≠ .list items) (items : List Json) :
    operand.toJson ≠ .arr items := by
  cases operand with
  | list items => exact absurd rfl (scalar items)
  | dec value =>
    have number : value.isFinite = true := finite
    simp [toJson, Json.ofBinary64, Number.ofBinary64?, number]
  | _ => simp [toJson]

end Operand

namespace Leaf

variable {leaf : Leaf}

theorem readOperator_token (operator : Operator) :
    readOperator operator.token = .ok operator := by
  simp [readOperator, Operator.ofToken?_token]

theorem readOperator_eq_ok_iff {token : String} {operator : Operator} :
    readOperator token = .ok operator ↔ operator.token = token := by
  constructor
  · intro known
    unfold readOperator at known
    split at known
    · rename_i found
      cases known
      exact Operator.token_of_ofToken? found
    · cases known
  · rintro rfl
    exact readOperator_token operator

theorem of_eq_ok_iff {field : String} {operator : Operator} {operands : List Operand} :
    of field operator operands = .ok leaf ↔
      operator.arity.accepts operands.length = true ∧ ⟨field, operator, operands⟩ = leaf := by
  unfold of
  split <;> simp [*]

theorem readOperands_scalar (field : String) (operator : Operator) {value : Json}
    (scalar : ∀ items, value ≠ .arr items) :
    readOperands field operator value = (Operand.ofJson value).map fun operand => [operand] := by
  cases value <;> first | rfl | exact absurd rfl (scalar _)

/-- The operands of a writable leaf are read back. -/
theorem readOperands_operandsToJson (ready : leaf.WellFormed) (writable : leaf.Writable) :
    readOperands leaf.field leaf.operator leaf.operandsToJson = .ok leaf.operands := by
  obtain ⟨field, operator, operands⟩ := leaf
  cases arity : operator.arity with
  | unary =>
    obtain ⟨operand, rfl⟩ : ∃ operand, operands = [operand] := operands_of_unary ready arity
    have finite : operand.Finite := writable.finite operand (by simp)
    have scalar (items : List Operand) : operand ≠ .list items := by
      intro list
      exact writable.scalar arity items (by simp [list])
    have written : operandsToJson ⟨field, operator, [operand]⟩ = operand.toJson := by
      simp [operandsToJson, arity]
    rw [written, readOperands_scalar field operator (Operand.toJson_ne_arr finite scalar),
      Operand.ofJson_toJson operand finite]
    rfl
  | variadic =>
    have finite : Operand.AllFinite operands := Operand.allFinite_iff.2 writable.finite
    have written : operandsToJson ⟨field, operator, operands⟩ =
        .arr (Operand.itemsToJson operands) := by
      simp [operandsToJson, arity, Operand.itemsToJson_eq_map]
    rw [written]
    simp [readOperands, arity, Operand.ofJsons_itemsToJson operands finite]

/-- A writable leaf is read back from its entry. -/
theorem read_entry (ready : leaf.WellFormed) (writable : leaf.Writable) :
    read leaf.field leaf.operator.token leaf.operandsToJson = .ok leaf := by
  have accepted : leaf.operator.arity.accepts leaf.operands.length = true := ready
  simp [read, readOperator_token, readOperands_operandsToJson ready writable, Leaf.of, accepted]

end Leaf

namespace Slot

/-- The member stands for something, and a document can hold it. -/
structure Writable (slot : Slot) : Prop where
  some : slot.nodes ≠ []
  nodes : ∀ node ∈ slot.nodes, node.Writable

theorem writable_group {connective : Connective} {members : List Filter}
    (writable : (Filter.group connective members).Writable) :
    members ≠ [] ∧ ∀ member ∈ members, member.Writable := by
  refine ⟨writable.ready.1, ?_⟩
  intro member inside
  constructor
  · exact Filter.allWellFormed_iff.1 writable.ready.2 member inside
  · intro leaf among
    apply writable.leaves leaf
    exact Filter.mem_leavesOfAll_iff.2 ⟨member, inside, among⟩

/-- A field is read back from its member. -/
theorem readConjunct_field {name : String} {questions : List (Operator × List Operand)}
    (writable : (Slot.field name questions).Writable) :
    Filter.readConjunct name (Slot.field name questions).value =
      .ok (Slot.field name questions).nodes := by
  obtain ⟨question, more, rfl⟩ : ∃ question more, questions = question :: more :=
    List.exists_cons_of_ne_nil (by simpa [Slot.nodes] using writable.some)
  have each : ∀ asked ∈ question :: more, Leaf.Writable ⟨name, asked.1, asked.2⟩ ∧
      Leaf.WellFormed ⟨name, asked.1, asked.2⟩ := by
    intro asked inside
    have node := writable.nodes (ask name asked) (List.mem_map_of_mem inside)
    exact ⟨node.leaves _ (by simp [ask, Filter.leaves]), node.ready⟩
  have plain : name.toList.head? ≠ Option.some '$' := (each question (by simp)).1.plain
  have entries : ((question :: more).map (entry name)).mapM
      (fun entry => (Leaf.read name entry.1 entry.2).map Filter.leaf) =
        .ok ((question :: more).map (ask name)) := by
    apply mapM_map_eq_ok
    intro asked inside
    obtain ⟨writable, ready⟩ := each asked inside
    have read : Leaf.read name (entry name asked).1 (entry name asked).2 =
        .ok ⟨name, asked.1, asked.2⟩ := Leaf.read_entry ready writable
    rw [read]
    rfl
  simpa [Filter.readConjunct, Connective.ofKey?_of_plain plain, Filter.readPlain, plain,
    Filter.readField, Slot.value, Slot.nodes] using entries

end Slot

namespace Filter

mutual

/-- A writable filter is read back from the object that it is written as. -/
theorem readConjuncts_toJson : ∀ filter : Filter, filter.Writable →
    ∃ entries, filter.toJson = .obj entries ∧ readConjuncts entries = .ok [filter]
  | .leaf question, writable => by
    let slot := Slot.field question.field [(question.operator, question.operands)]
    have slotWritable : slot.Writable := by
      refine ⟨by simp [slot, Slot.nodes], ?_⟩
      intro node inside
      rw [List.mem_singleton.1 inside]
      exact writable
    have read : readConjunct question.field slot.value = .ok slot.nodes :=
      Slot.readConjunct_field slotWritable
    refine ⟨_, rfl, ?_⟩
    have written : slot.value =
      .obj [(question.operator.token, question.operandsToJson)] := rfl
    rw [← written, readConjuncts, read]
    rfl
  | .group connective members, writable => by
    obtain ⟨some, each⟩ := Slot.writable_group writable
    refine ⟨_, rfl, ?_⟩
    have read := readMembers_toJsons connective members each
    have joined : join connective members = .ok (.group connective members) := by
      simp [join, some]
    simp [readConjuncts, readConjunct, Connective.ofKey?_key, read, joined]

theorem readMembers_toJsons (connective : Connective) : ∀ members : List Filter,
    (∀ member ∈ members, member.Writable) →
      readMembers connective (toJsons members) = .ok members
  | [], _ => rfl
  | member :: rest, each => by
    obtain ⟨first, others⟩ := List.forall_mem_cons.1 each
    obtain ⟨entries, written, read⟩ := readConjuncts_toJson member first
    have readRest := readMembers_toJsons connective rest others
    simp [toJsons, written, readMembers, read, conjunction, readRest]

end

end Filter

namespace Layout

theorem writable_of_nodes {layout : Layout} (tidy : layout.Tidy)
    (each : ∀ node ∈ layout.nodes, node.Writable) : ∀ slot ∈ layout, slot.Writable := by
  intro slot inside
  refine ⟨?_, fun node among => each node (List.mem_flatMap.2 ⟨slot, inside, among⟩)⟩
  have slotTidy := tidy.slots slot inside
  cases slot with
  | field name questions => simpa [Slot.nodes] using slotTidy.1
  | group connective members => simp [Slot.nodes]

/-- Every member is read back as what it stands for. -/
theorem readConjuncts_document {layout : Layout} (writable : ∀ slot ∈ layout, slot.Writable) :
    Filter.readConjuncts layout.document = .ok layout.nodes := by
  induction layout with
  | nil => rfl
  | cons slot rest ih =>
    obtain ⟨first, others⟩ := List.forall_mem_cons.1 writable
    have read : Filter.readConjunct slot.key slot.value = .ok slot.nodes := by
      cases slot with
      | field name questions => exact Slot.readConjunct_field first
      | group connective members =>
        obtain ⟨some, each⟩ := Slot.writable_group (first.nodes _ (List.mem_singleton.2 rfl))
        have joined : Filter.join connective members = .ok (.group connective members) := by
          simp [Filter.join, some]
        simp [Slot.key, Slot.value, Filter.readConjunct, Connective.ofKey?_key,
          Filter.readMembers_toJsons connective members each, joined, Slot.nodes]
    have readRest : Filter.readConjuncts (document rest) = .ok (nodes rest) := ih others
    show Filter.readConjuncts ((slot.key, slot.value) :: document rest) = .ok (nodes (slot :: rest))
    simp [Filter.readConjuncts, read, readRest, nodes]

end Layout

end FilterQuery
