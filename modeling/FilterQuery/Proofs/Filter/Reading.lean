import FilterQuery.Proofs.Filter.Rereading
import FilterQuery.Proofs.Json.Keys
/-! What reading a filter document yields. Every filter that is read can be written
again: its leaves have the operands of their operators, finite ones, and its
groups have members. The members of an object without repeated keys are read as a
tidy layout. -/
namespace FilterQuery

namespace Operand

theorem ofJson_ne_list {value : Json} {operand : Operand} (scalar : ∀ items, value ≠ .arr items)
    (read : ofJson value = .ok operand) (items : List Operand) : operand ≠ .list items := by
  cases value with
  | arr items => exact absurd rfl (scalar items)
  | num number =>
    rw [ofJson] at read
    split at read <;> cases read <;> simp
  | obj members => cases read
  | _ =>
    cases read
    simp

end Operand

namespace Leaf

variable {field token : String} {value : Json} {leaf : Leaf}

/-- Operands that have been read are finite, and none of them is a list where one is expected. -/
theorem readOperands_sound {operator : Operator} {operands : List Operand}
    (read : readOperands field operator value = .ok operands) :
    (∀ operand ∈ operands, operand.Finite) ∧
      (operator.arity = .unary → ∀ items, .list items ∉ operands) := by
  cases value with
  | arr items =>
    cases arity : operator.arity with
    | unary => simp [readOperands, arity] at read
    | variadic =>
      simp only [readOperands, arity] at read
      refine ⟨Operand.allFinite_iff.1 (Operand.allFinite_of_ofJsons items operands read), ?_⟩
      intro unary
      cases unary
  | _ =>
    rw [readOperands_scalar field operator (by simp)] at read
    obtain ⟨operand, readOperand, rfl⟩ := map_eq_ok.1 read
    refine ⟨?_, ?_⟩
    · simpa using Operand.finite_of_ofJson _ operand readOperand
    · intro _ items inside
      exact Operand.ofJson_ne_list (by simp) readOperand items (List.mem_singleton.1 inside).symm

/-- A leaf that has been read is that of its entry, is well formed, and can be written again. -/
theorem read_sound (plain : field.toList.head? ≠ some '$')
    (read : Leaf.read field token value = .ok leaf) :
    leaf.field = field ∧ leaf.operator.token = token ∧ leaf.WellFormed ∧ leaf.Writable := by
  obtain ⟨operator, known, rest⟩ := bind_eq_ok.1 read
  obtain ⟨operands, readValues, built⟩ := bind_eq_ok.1 rest
  have ready := wellFormed_of_built built
  obtain ⟨-, rfl⟩ := of_eq_ok_iff.1 built
  obtain ⟨finite, scalar⟩ := readOperands_sound readValues
  exact ⟨rfl, readOperator_eq_ok_iff.1 known, ready, plain, finite, scalar⟩

end Leaf

namespace Filter

theorem writable_leaf {leaf : Leaf} (ready : leaf.WellFormed) (writable : leaf.Writable) :
    (Filter.leaf leaf).Writable :=
  ⟨ready, by simpa [leaves] using writable⟩

theorem writable_of_members {connective : Connective} {members : List Filter}
    (some : members ≠ []) (each : ∀ member ∈ members, member.Writable) :
    (Filter.group connective members).Writable := by
  refine ⟨⟨some, allWellFormed_iff.2 fun member inside => (each member inside).ready⟩, ?_⟩
  intro leaf among
  obtain ⟨member, inside, among⟩ := mem_leavesOfAll_iff.1 among
  exact (each member inside).leaves leaf among

theorem writable_of_conjunction {nodes : List Filter} {filter : Filter}
    (each : ∀ node ∈ nodes, node.Writable) (built : conjunction nodes = .ok filter) :
    filter.Writable := by
  match nodes, each, built with
  | [_], each, rfl => exact each _ (by simp)
  | _ :: _ :: _, each, rfl => exact writable_of_members (by simp) each

/-- The entries of a field are read as questions about it, under the same operators. -/
theorem readEntries_sound {field : String} (plain : field.toList.head? ≠ some '$')
    {entries : List (String × Json)} {nodes : List Filter}
    (read : entries.mapM (fun entry => (Leaf.read field entry.1 entry.2).map Filter.leaf) =
      .ok nodes) :
    (∀ node ∈ nodes, node.Writable) ∧ ∃ questions : List (Operator × List Operand),
      nodes = questions.map (Slot.ask field) ∧
        questions.map (fun question => question.1.token) = Entries.keys entries := by
  induction entries generalizing nodes with
  | nil =>
    cases read
    exact ⟨by simp, [], rfl, rfl⟩
  | cons entry entries ih =>
    obtain ⟨node, rest, readEntry, readRest, rfl⟩ := mapM_cons_eq_ok.1 read
    obtain ⟨leaf, readLeaf, rfl⟩ := map_eq_ok.1 readEntry
    obtain ⟨rfl, token, ready, writable⟩ := Leaf.read_sound plain readLeaf
    obtain ⟨each, questions, rfl, tokens⟩ := ih readRest
    refine ⟨List.forall_mem_cons.2 ⟨writable_leaf ready writable, each⟩,
      (leaf.operator, leaf.operands) :: questions, rfl, ?_⟩
    rw [List.map_cons, tokens, token]
    rfl

/-- What is read under a key that is no group's is a field with operators. -/
theorem readPlain_sound {key : String} {value : Json} {nodes : List Filter}
    (read : readPlain key value = .ok nodes) :
    ∃ entries, value = .obj entries ∧ entries ≠ [] ∧ key.toList.head? ≠ some '$' ∧
      entries.mapM (fun entry => (Leaf.read key entry.1 entry.2).map Filter.leaf) = .ok nodes := by
  unfold readPlain at read
  split at read
  · cases read
  · rename_i plain
    unfold readField at read
    split at read
    · cases read
    · rename_i entries some
      exact ⟨entries, rfl, some, plain, read⟩
    · cases read

/-- What is read under a key is a group of that key, or a field with operators. -/
theorem readConjunct_cases {key : String} {value : Json} {nodes : List Filter}
    (read : readConjunct key value = .ok nodes) :
    (∃ connective items members, connective.key = key ∧ value = .arr items ∧ members ≠ [] ∧
      readMembers connective items = .ok members ∧ nodes = [.group connective members]) ∨
    readPlain key value = .ok nodes := by
  cases value with
  | arr items =>
    rw [readConjunct] at read
    cases known : Connective.ofKey? key with
    | none =>
      rw [known] at read
      exact .inr read
    | some connective =>
      rw [known] at read
      obtain ⟨members, readItems, rest⟩ := bind_eq_ok.1 read
      obtain ⟨group, joined, returned⟩ := bind_eq_ok.1 rest
      cases returned
      unfold join at joined
      split at joined
      · cases joined
      · rename_i some
        cases joined
        exact .inl ⟨connective, items, members, Connective.key_of_ofKey? known, rfl,
          by simpa using some, readItems, rfl⟩
  | _ =>
    simp only [readConjunct] at read
    split at read
    · cases read
    · exact .inr read

/-- What is read under a key is a member of a tidy layout with that key. -/
theorem slot_of_readConjunct {key : String} {value : Json} {nodes : List Filter}
    (distinct : value.DistinctKeys) (read : readConjunct key value = .ok nodes) :
    ∃ slot : Slot, slot.key = key ∧ slot.Tidy ∧ slot.nodes = nodes := by
  rcases readConjunct_cases read with ⟨connective, items, members, rfl, -, -, -, rfl⟩ | readField
  · exact ⟨.group connective members, rfl, trivial, rfl⟩
  · obtain ⟨entries, rfl, some, plain, readEntries⟩ := readPlain_sound readField
    obtain ⟨-, questions, rfl, tokens⟩ := readEntries_sound plain readEntries
    refine ⟨.field key questions, rfl, ⟨?_, ?_⟩, rfl⟩
    · rintro rfl
      cases entries with
      | nil => exact some rfl
      | cons entry entries => simp [Entries.keys] at tokens
    · have keys : (questions.map fun question => question.1.token).Nodup := by
        rw [tokens]
        exact distinct.1
      rw [← Function.comp_def Operator.token Prod.fst, ← List.map_map] at keys
      exact List.Pairwise.of_map Operator.token (fun a b apart same => apart (congrArg _ same)) keys

theorem writable_of_readPlain {key : String} {value : Json} {nodes : List Filter}
    (read : readPlain key value = .ok nodes) : ∀ node ∈ nodes, node.Writable := by
  obtain ⟨entries, rfl, -, plain, readEntries⟩ := readPlain_sound read
  exact (readEntries_sound plain readEntries).1

private theorem writable_of_readConjunct_other {key : String} {value : Json}
    {nodes : List Filter} (other : ∀ items, value ≠ .arr items)
    (read : readConjunct key value = .ok nodes) : ∀ node ∈ nodes, node.Writable := by
  rcases readConjunct_cases read with ⟨connective, items, members, -, same, -⟩ | readField
  · exact absurd same (other items)
  · exact writable_of_readPlain readField

mutual

/-- Whatever is read can be written again. -/
theorem writable_of_readConjuncts : ∀ (members : List (String × Json)) (nodes : List Filter),
    readConjuncts members = .ok nodes → ∀ node ∈ nodes, node.Writable
  | [], _, read => by
    cases read
    simp
  | (key, value) :: rest, _, read => by
    obtain ⟨first, readFirst, others⟩ := bind_eq_ok.1 read
    obtain ⟨last, readLast, returned⟩ := bind_eq_ok.1 others
    cases returned
    exact List.forall_mem_append.2 ⟨writable_of_readConjunct key value first readFirst,
      writable_of_readConjuncts rest last readLast⟩

theorem writable_of_readConjunct : ∀ (key : String) (value : Json) (nodes : List Filter),
    readConjunct key value = .ok nodes → ∀ node ∈ nodes, node.Writable
  | key, .arr items, nodes, read => by
    rcases readConjunct_cases read with
      ⟨connective, found, members, -, same, some, readItems, rfl⟩ | readField
    · cases same
      rw [List.forall_mem_singleton]
      exact writable_of_members some (writable_of_readMembers connective items members readItems)
    · exact writable_of_readPlain readField
  | _, .obj _, _, read => writable_of_readConjunct_other (by simp) read
  | _, .null, _, read => writable_of_readConjunct_other (by simp) read
  | _, .bool _, _, read => writable_of_readConjunct_other (by simp) read
  | _, .num _, _, read => writable_of_readConjunct_other (by simp) read
  | _, .str _, _, read => writable_of_readConjunct_other (by simp) read

theorem writable_of_readMembers (connective : Connective) : ∀ (items : List Json)
    (members : List Filter), readMembers connective items = .ok members →
      ∀ member ∈ members, member.Writable
  | [], _, read => by
    cases read
    simp
  | .obj entries :: rest, _, read => by
    obtain ⟨nodes, readNodes, others⟩ := bind_eq_ok.1 read
    obtain ⟨member, built, others⟩ := bind_eq_ok.1 others
    obtain ⟨members, readRest, returned⟩ := bind_eq_ok.1 others
    cases returned
    exact List.forall_mem_cons.2
      ⟨writable_of_conjunction (writable_of_readConjuncts entries nodes readNodes) built,
        writable_of_readMembers connective rest members readRest⟩
  | .null :: _, _, read => by cases read
  | .bool _ :: _, _, read => by cases read
  | .num _ :: _, _, read => by cases read
  | .str _ :: _, _, read => by cases read
  | .arr _ :: _, _, read => by cases read

end

/-- The members of an object without repeated keys are read as a tidy layout. -/
theorem layout_of_readConjuncts {members : List (String × Json)} {nodes : List Filter}
    (distinct : (Json.obj members).DistinctKeys) (read : readConjuncts members = .ok nodes) :
    ∃ layout : Layout, layout.Tidy ∧ layout.nodes = nodes := by
  suffices ∃ layout : Layout, layout.map Slot.key = Entries.keys members ∧
      (∀ slot ∈ layout, slot.Tidy) ∧ layout.nodes = nodes by
    obtain ⟨layout, keys, each, same⟩ := this
    exact ⟨layout, ⟨keys ▸ distinct.1, each⟩, same⟩
  have values := distinct.2
  clear distinct
  induction members generalizing nodes with
  | nil =>
    cases read
    exact ⟨[], rfl, by simp, rfl⟩
  | cons member rest ih =>
    obtain ⟨key, value⟩ := member
    obtain ⟨first, readFirst, others⟩ := bind_eq_ok.1 read
    obtain ⟨last, readLast, returned⟩ := bind_eq_ok.1 others
    cases returned
    obtain ⟨slot, rfl, slotTidy, rfl⟩ := slot_of_readConjunct values.1 readFirst
    obtain ⟨layout, keys, each, rfl⟩ := ih readLast values.2
    exact ⟨slot :: layout, by rw [List.map_cons, keys]; rfl,
      List.forall_mem_cons.2 ⟨slotTidy, each⟩, rfl⟩

end Filter

end FilterQuery
