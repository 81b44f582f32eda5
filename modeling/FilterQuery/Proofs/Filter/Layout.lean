import FilterQuery.Filter.Writer
/-! The layout of a filter document: the members that it has, each of them a field
with the questions asked about it or a group. A layout is tidy if no key and no
operator of a field comes twice. Writing nodes lays them out tidily, and writing
the nodes of a tidy layout gives back that layout, with nothing displaced. -/
namespace FilterQuery

/-- A member of a filter document. -/
inductive Slot where
  /-- A field, with the operators that stand under it and their operands. -/
  | field (name : String) (questions : List (Operator × List Operand))
  | group (connective : Connective) (members : List Filter)

namespace Slot

/-- The key of the member. -/
def key : Slot → String
  | .field name _ => name
  | .group connective _ => connective.key

/-- A question about a field as an entry of the object of its operators. -/
def entry (name : String) (question : Operator × List Operand) : String × Json :=
  (question.1.token, Leaf.operandsToJson ⟨name, question.1, question.2⟩)

/-- The value under the key. -/
def value : Slot → Json
  | .field name questions => .obj (questions.map (entry name))
  | .group _ members => .arr (Filter.toJsons members)

/-- A question about a field as a leaf. -/
def ask (name : String) (question : Operator × List Operand) : Filter :=
  .leaf ⟨name, question.1, question.2⟩

/-- The nodes that the member stands for. -/
def nodes : Slot → List Filter
  | .field name questions => questions.map (ask name)
  | .group connective members => [.group connective members]

/-- A field has an operator, and none twice. -/
def Tidy : Slot → Prop
  | .field _ questions => questions ≠ [] ∧ (questions.map Prod.fst).Nodup
  | .group _ _ => True

end Slot

/-- The members of a document, in order. -/
abbrev Layout := List Slot

namespace Layout

/-- The document with these members. -/
def document (layout : Layout) : Entries Json := layout.map fun slot => (slot.key, slot.value)

/-- The nodes that the members stand for, in order. -/
def nodes (layout : Layout) : List Filter := layout.flatMap Slot.nodes

/-- No key comes twice, and no operator under one field. -/
structure Tidy (layout : Layout) : Prop where
  keys : (layout.map Slot.key).Nodup
  slots : ∀ slot ∈ layout, slot.Tidy

theorem keys_document (layout : Layout) : Entries.keys layout.document = layout.map Slot.key := by
  simp [Entries.keys, document]

theorem nodes_append (layout rest : Layout) : nodes (layout ++ rest) = layout.nodes ++ rest.nodes :=
  List.flatMap_append

theorem tidy_nil : Tidy [] := ⟨List.nodup_nil, by simp⟩

theorem tidy_concat {layout : Layout} {slot : Slot} (tidy : layout.Tidy)
    (fresh : slot.key ∉ Entries.keys layout.document) (slotTidy : slot.Tidy) :
    Tidy (layout ++ [slot]) := by
  rw [keys_document] at fresh
  constructor
  · rw [List.map_append]
    exact nodup_concat tidy.keys fresh
  · intro other among
    rcases List.mem_append.1 among with inside | last
    · exact tidy.slots other inside
    · rw [List.mem_singleton.1 last]
      exact slotTidy

/-- A member may be changed for one with the same key. -/
theorem tidy_replace {before after : Layout} {old new : Slot}
    (tidy : Tidy (before ++ old :: after)) (key : new.key = old.key) (newTidy : new.Tidy) :
    Tidy (before ++ new :: after) := by
  constructor
  · simpa [key] using tidy.keys
  · intro slot among
    rcases List.mem_append.1 among with inside | among
    · exact tidy.slots slot (List.mem_append_left _ inside)
    · rcases List.mem_cons.1 among with rfl | inside
      · exact newTidy
      · exact tidy.slots slot (by simp [inside])

/-- What a document shows under a key is a member of its layout. -/
theorem split_of_get? {layout : Layout} {key : String} {value : Json}
    (found : Entries.get? layout.document key = some value) :
    ∃ (before : Layout) (slot : Slot) (after : Layout), layout = before ++ slot :: after ∧
      slot.key = key ∧ slot.value = value ∧ key ∉ Entries.keys before.document := by
  obtain ⟨first, last, whole, fresh⟩ := Entries.split_of_get?_eq_some found
  obtain ⟨before, rest, rfl, rfl, tail⟩ := List.map_eq_append_iff.1 whole
  obtain ⟨slot, after, rfl, shown, rfl⟩ := List.map_eq_cons_iff.1 tail
  cases shown
  exact ⟨before, slot, after, rfl, rfl, rfl, fresh⟩

/-- A member is changed where it stands. -/
theorem set_document {before after : Layout} {old new : Slot} (key : new.key = old.key)
    (fresh : old.key ∉ Entries.keys before.document) :
    Entries.set (document (before ++ old :: after)) old.key new.value =
      document (before ++ new :: after) := by
  have written := Entries.set_append_of_fresh fresh (document (old :: after)) new.value
  simpa [document, Entries.set, key] using written

theorem set_document_of_fresh {layout : Layout} {slot : Slot}
    (fresh : slot.key ∉ Entries.keys layout.document) :
    Entries.set layout.document slot.key slot.value = document (layout ++ [slot]) := by
  rw [Entries.set_of_fresh fresh]
  simp [document]

end Layout

theorem Operator.token_injective {a b : Operator} (same : a.token = b.token) : a = b := by
  have found := ofToken?_token a
  rw [same, ofToken?_token] at found
  exact (Option.some.inj found).symm

namespace Slot

theorem hasKey_entries_iff {name : String} {questions : List (Operator × List Operand)}
    {operator : Operator} :
    Entries.hasKey (questions.map (entry name)) operator.token = false ↔
      operator ∉ questions.map Prod.fst := by
  rw [Entries.hasKey_eq_false_iff, Entries.keys, List.map_map]
  refine not_congr ?_
  constructor
  · intro inside
    obtain ⟨question, among, same⟩ := List.mem_map.1 inside
    exact List.mem_map.2 ⟨question, among, Operator.token_injective same⟩
  · intro inside
    obtain ⟨question, among, same⟩ := List.mem_map.1 inside
    exact List.mem_map.2 ⟨question, among, congrArg Operator.token same⟩

theorem tidy_field_concat {name : String} {questions : List (Operator × List Operand)}
    {question : Operator × List Operand} (tidy : (Slot.field name questions).Tidy)
    (fresh : question.1 ∉ questions.map Prod.fst) :
    (Slot.field name (questions ++ [question])).Tidy := by
  refine ⟨by simp, ?_⟩
  rw [List.map_append]
  exact nodup_concat tidy.2 fresh

end Slot

namespace Leaf

variable {document : Entries Json} {leaf : Leaf}

theorem place?_of_absent (absent : document.get? leaf.field = none) :
    leaf.place? document =
      some (document.set leaf.field (.obj [(leaf.operator.token, leaf.operandsToJson)])) := by
  simp [place?, absent]

theorem place?_of_present {entries : Entries Json}
    (present : document.get? leaf.field = some (.obj entries))
    (free : Entries.hasKey entries leaf.operator.token = false) :
    leaf.place? document = some (document.set leaf.field
      (.obj (entries ++ [(leaf.operator.token, leaf.operandsToJson)]))) := by
  simp [place?, present, free]

theorem place?_of_taken {entries : Entries Json}
    (present : document.get? leaf.field = some (.obj entries))
    (taken : Entries.hasKey entries leaf.operator.token = true) : leaf.place? document = none := by
  simp [place?, present, taken]

end Leaf

namespace Layout

variable {layout : Layout}

/-- A leaf is put under its field, which is added if there is none, unless the operator stands
there already. -/
private theorem place?_leaf (tidy : layout.Tidy) (leaf : Leaf) :
    leaf.place? layout.document = none ∨ ∃ next : Layout,
      leaf.place? layout.document = some next.document ∧ next.Tidy ∧
        next.nodes.Perm (layout.nodes ++ [.leaf leaf]) := by
  let question := (leaf.operator, leaf.operands)
  cases found : Entries.get? layout.document leaf.field with
  | none =>
    let slot := Slot.field leaf.field [question]
    have fresh : slot.key ∉ Entries.keys layout.document := Entries.get?_eq_none_iff.1 found
    refine .inr ⟨layout ++ [slot], ?_, tidy_concat tidy fresh ⟨by simp, by simp⟩, ?_⟩
    · rw [← set_document_of_fresh fresh]
      exact Leaf.place?_of_absent found
    · rw [nodes_append]
      exact .refl _
  | some value =>
    obtain ⟨before, slot, after, rfl, key, rfl, fresh⟩ := split_of_get? found
    cases slot with
    | group connective members =>
      left
      simp only [Leaf.place?, found, Slot.value]
    | field name questions =>
      cases key
      by_cases asked : leaf.operator ∈ questions.map Prod.fst
      · left
        refine Leaf.place?_of_taken found ?_
        rw [← Bool.not_eq_false, Slot.hasKey_entries_iff]
        exact not_not_intro asked
      · have slotTidy : (Slot.field leaf.field questions).Tidy := tidy.slots _ (by simp)
        let slot := Slot.field leaf.field (questions ++ [question])
        refine .inr ⟨before ++ slot :: after, ?_,
          tidy_replace tidy rfl (Slot.tidy_field_concat slotTidy asked), ?_⟩
        · rw [Leaf.place?_of_present found (Slot.hasKey_entries_iff.2 asked)]
          have written : Entries.set (document (before ++ .field leaf.field questions :: after))
              leaf.field slot.value = document (before ++ slot :: after) := set_document rfl fresh
          rw [← written]
          simp [slot, question, Slot.value, Slot.entry]
        · simp only [nodes, List.flatMap_append, List.flatMap_cons, slot, Slot.nodes,
            List.map_append, List.append_assoc]
          refine List.Perm.append_left _ (List.Perm.append_left _ ?_)
          exact List.perm_append_comm

/-- A group is put under its key, unless a member has that key already. -/
private theorem place?_group (tidy : layout.Tidy) (connective : Connective)
    (members : List Filter) :
    (Filter.group connective members).place? layout.document = none ∨ ∃ next : Layout,
      (Filter.group connective members).place? layout.document = some next.document ∧ next.Tidy ∧
        next.nodes.Perm (layout.nodes ++ [.group connective members]) := by
  let slot := Slot.group connective members
  cases taken : Entries.hasKey layout.document connective.key with
  | true =>
    left
    simp [Filter.place?, taken]
  | false =>
    have fresh : slot.key ∉ Entries.keys layout.document := Entries.hasKey_eq_false_iff.1 taken
    refine .inr ⟨layout ++ [slot], ?_, tidy_concat tidy fresh trivial, ?_⟩
    · rw [← set_document_of_fresh fresh]
      simp [Filter.place?, taken, slot, Slot.value, Slot.key]
    · rw [nodes_append]
      exact .refl _

/-- A node finds a place in a tidy layout, which stays tidy and stands for this node besides, or
finds none. -/
theorem place?_cases (tidy : layout.Tidy) (node : Filter) :
    node.place? layout.document = none ∨ ∃ next : Layout,
      node.place? layout.document = some next.document ∧ next.Tidy ∧
        next.nodes.Perm (layout.nodes ++ [node]) := by
  cases node with
  | leaf question => exact place?_leaf tidy question
  | group connective members => exact place?_group tidy connective members

/-- Writing nodes into a tidy layout gives a tidy layout. Together with the displaced nodes it
stands for what was there and what was written. -/
theorem placeAll_document (tidy : layout.Tidy) (nodes : List Filter) :
    ∃ (next : Layout) (displaced : List Filter),
      FilterTree.placeAll layout.document nodes = (next.document, displaced.map Filter.toJson) ∧
        next.Tidy ∧ (next.nodes ++ displaced).Perm (layout.nodes ++ nodes) := by
  induction nodes generalizing layout with
  | nil => exact ⟨layout, [], rfl, tidy, .refl _⟩
  | cons node rest ih =>
    rcases place?_cases tidy node with refused | ⟨middle, placed, middleTidy, same⟩
    · obtain ⟨next, displaced, written, nextTidy, kept⟩ := ih tidy
      refine ⟨next, node :: displaced, ?_, nextTidy, ?_⟩
      · simp [FilterTree.placeAll, refused, written]
      · calc (next.nodes ++ node :: displaced).Perm (node :: (next.nodes ++ displaced)) :=
              List.perm_middle
          _ |>.Perm (node :: (layout.nodes ++ rest)) := kept.cons node
          _ |>.Perm (layout.nodes ++ node :: rest) := List.perm_middle.symm
    · obtain ⟨next, displaced, written, nextTidy, kept⟩ := ih middleTidy
      refine ⟨next, displaced, ?_, nextTidy, ?_⟩
      · simp [FilterTree.placeAll, placed, written]
      · have shifted : (middle.nodes ++ rest).Perm (layout.nodes ++ node :: rest) := by
          simpa using same.append_right rest
        exact kept.trans shifted

/-- Once a field has been opened, its other questions join it. -/
private theorem placeAll_questions {done : Layout} {name : String}
    (fresh : name ∉ Entries.keys done.document) (rest : List Filter)
    (asked more : List (Operator × List Operand))
    (distinct : ((asked ++ more).map Prod.fst).Nodup) :
    FilterTree.placeAll (document (done ++ [.field name asked]))
        (more.map (Slot.ask name) ++ rest) =
      FilterTree.placeAll (document (done ++ [.field name (asked ++ more)])) rest := by
  induction more generalizing asked with
  | nil => simp
  | cons question more ih =>
    have shown : Entries.get? (document (done ++ [.field name asked])) name =
        some (.obj (asked.map (Slot.entry name))) := by
      rw [document, List.map_append]
      exact (Entries.get?_append_of_fresh fresh _).trans (by simp [Slot.key, Slot.value])
    have free : question.1 ∉ asked.map Prod.fst := by
      rw [List.map_append] at distinct
      exact not_mem_of_nodup distinct
    have written : Entries.set (document (done ++ [.field name asked])) name
        (Slot.field name (asked ++ [question])).value =
          document (done ++ [.field name (asked ++ [question])]) := set_document rfl fresh
    have placed : (Slot.ask name question).place? (document (done ++ [.field name asked])) =
        some (document (done ++ [.field name (asked ++ [question])])) := by
      rw [← written]
      refine (Leaf.place?_of_present shown (Slot.hasKey_entries_iff.2 free)).trans ?_
      simp [Slot.value, Slot.entry]
    simp only [List.map_cons, List.cons_append, FilterTree.placeAll, placed]
    rw [ih (asked ++ [question]) (by simpa using distinct)]
    simp

/-- The nodes of a member with a new key add that member. -/
private theorem placeAll_slot {done : Layout} {slot : Slot}
    (fresh : slot.key ∉ Entries.keys done.document) (tidy : slot.Tidy) (rest : List Filter) :
    FilterTree.placeAll done.document (slot.nodes ++ rest) =
      FilterTree.placeAll (document (done ++ [slot])) rest := by
  cases slot with
  | group connective members =>
    have free : Entries.hasKey done.document connective.key = false :=
      Entries.hasKey_eq_false_iff.2 fresh
    rw [← set_document_of_fresh fresh]
    simp [Slot.nodes, FilterTree.placeAll, Filter.place?, free, Slot.key, Slot.value]
  | field name questions =>
    cases questions with
    | nil => exact absurd rfl tidy.1
    | cons question more =>
      have first : Slot.key (.field name [question]) ∉ Entries.keys done.document := fresh
      have placed : (Slot.ask name question).place? done.document =
          some (document (done ++ [.field name [question]])) := by
        rw [← set_document_of_fresh first]
        exact Leaf.place?_of_absent (Entries.get?_eq_none_iff.2 fresh)
      simp only [Slot.nodes, List.map_cons, List.cons_append, FilterTree.placeAll, placed]
      exact placeAll_questions fresh rest [question] more tidy.2

private theorem placeAll_nodes_after {done layout : Layout} (tidy : Tidy (done ++ layout)) :
    FilterTree.placeAll done.document layout.nodes = (document (done ++ layout), []) := by
  induction layout generalizing done with
  | nil => simp [nodes, FilterTree.placeAll]
  | cons slot rest ih =>
    have fresh : slot.key ∉ Entries.keys done.document := by
      have distinct := tidy.keys
      rw [List.map_append] at distinct
      rw [keys_document]
      exact not_mem_of_nodup distinct
    rw [nodes, List.flatMap_cons, placeAll_slot fresh (tidy.slots slot (by simp))]
    have moved : Tidy ((done ++ [slot]) ++ rest) := by simpa using tidy
    simpa [nodes] using ih moved

/-- The nodes of a tidy layout are written as that layout, and none is displaced. -/
theorem placeAll_nodes {layout : Layout} (tidy : layout.Tidy) :
    FilterTree.placeAll [] layout.nodes = (layout.document, []) := by
  have whole : Tidy ([] ++ layout) := tidy
  exact placeAll_nodes_after whole

end Layout

end FilterQuery
