import FilterQuery.Proofs.Filter.Nesting
import FilterQuery.Proofs.Filter.Rearrangement
import FilterQuery.Proofs.Json.Rereading
/-! How deep written filters are nested. A filter that has been read is not always
written as deep as it was nested in its document: an operand that stood alone after an
operator that takes a list gets an array around it, and an object of a group that has
several nodes gets an array and an object, two levels more for every two of the document.
In this way the depth can double. It does not grow further. -/
namespace FilterQuery

namespace Json

theorem depth_ofBinary64 (value : Binary64) : (ofBinary64 value).depth = 0 := by
  unfold ofBinary64
  split <;> rfl

theorem itemsDepth_le_iff {items : List Json} {bound : Nat} :
    itemsDepth items ≤ bound ↔ ∀ item ∈ items, item.depth ≤ bound := by
  induction items with
  | nil => simp [itemsDepth]
  | cons item rest ih => rw [itemsDepth, Nat.max_le, List.forall_mem_cons, ih]

theorem membersDepth_le_iff {members : List (String × Json)} {bound : Nat} :
    membersDepth members ≤ bound ↔ ∀ member ∈ members, member.2.depth ≤ bound := by
  induction members with
  | nil => simp [membersDepth]
  | cons member rest ih =>
    obtain ⟨key, value⟩ := member
    rw [membersDepth, Nat.max_le, List.forall_mem_cons, ih]

end Json

namespace Operand

mutual

/-- An operand is written as deep as it was nested. -/
theorem depth_toJson : ∀ (json : Json) (operand : Operand), ofJson json = .ok operand →
    operand.toJson.depth = json.depth
  | .null, _, read => by cases read; rfl
  | .bool _, _, read => by cases read; rfl
  | .num number, _, read => by
    rw [ofJson] at read
    split at read
    · cases read
      rfl
    · cases read
      exact Json.depth_ofBinary64 _
  | .str _, _, read => by cases read; rfl
  | .arr items, _, read => by
    obtain ⟨operands, readItems, rfl⟩ := map_eq_ok.1 read
    exact congrArg (1 + ·) (itemsDepth_itemsToJson items operands readItems)
  | .obj _, _, read => by cases read

theorem itemsDepth_itemsToJson : ∀ (items : List Json) (operands : List Operand),
    ofJsons items = .ok operands → Json.itemsDepth (itemsToJson operands) = Json.itemsDepth items
  | [], _, read => by cases read; rfl
  | item :: rest, _, read => by
    obtain ⟨operand, readItem, others⟩ := bind_eq_ok.1 read
    obtain ⟨operands, readRest, returned⟩ := bind_eq_ok.1 others
    cases returned
    rw [itemsToJson, Json.itemsDepth, depth_toJson item operand readItem,
      itemsDepth_itemsToJson rest operands readRest, Json.itemsDepth]

end

end Operand

namespace Json

/-- What stands after an operator is, if it is not an array, no deeper than what stands in one. -/
theorem depth_of_writtenOperands {value : Json} {operands : List Operand}
    (read : List.Forall₂ (fun item operand => Operand.ofJson item = .ok operand)
      value.writtenOperands operands) :
    1 + itemsDepth value.writtenOperands = max 1 value.depth := by
  cases value with
  | arr items =>
    rw [writtenOperands, depth]
    omega
  | obj members =>
    cases read with
    | cons first rest => cases first
  | _ => rfl

end Json

/-- The operands of a leaf are written as deep as they were nested, or as an array of scalars. -/
theorem OperatorEntry.Asks.depth_operandsToJson_le {entry : OperatorEntry} {leaf : Leaf}
    (asks : entry.Asks leaf) : leaf.operandsToJson.depth ≤ max 1 entry.value.depth := by
  have read := asks.operands
  rw [← Json.depth_of_writtenOperands read]
  rw [← mapM_eq_ok_iff_forall₂, ← Operand.ofJsons_eq_mapM] at read
  have same := Operand.itemsDepth_itemsToJson _ _ read
  rw [← same, Operand.itemsToJson_eq_map]
  unfold Leaf.operandsToJson
  split
  · rename_i single operands
    rw [operands]
    simp [Json.itemsDepth]
  · exact Nat.le_refl _

namespace Filter

theorem depth_toJson_leaf (leaf : Leaf) :
    (Filter.leaf leaf).toJson.depth = 2 + leaf.operandsToJson.depth := by
  simp [toJson, Leaf.toJson, Json.depth, Json.membersDepth]
  omega

theorem depth_toJson_group (connective : Connective) (members : List Filter) :
    (Filter.group connective members).toJson.depth = 2 + Json.itemsDepth (toJsons members) := by
  simp [toJson, Json.depth, Json.membersDepth]
  omega

theorem itemsDepth_toJsons_le_iff {members : List Filter} {bound : Nat} :
    Json.itemsDepth (toJsons members) ≤ bound ↔ ∀ member ∈ members, member.toJson.depth ≤ bound := by
  rw [toJsons_eq_map, Json.itemsDepth_le_iff, List.forall_mem_map]

/-- The leaves of a field are written as deep as they were nested, or one level deeper. -/
theorem depth_toJson_le_of_asked {key : String} {entries : List (String × Json)}
    {leaves : List Leaf}
    (asked : List.Forall₂ (fun entry => OperatorEntry.Asks ⟨key, entry.1, entry.2⟩)
      entries leaves) :
    ∀ leaf ∈ leaves,
      (Filter.leaf leaf).toJson.depth ≤ 2 + max 1 (Json.membersDepth entries) := by
  induction asked with
  | nil => simp
  | @cons entry leaf entries leaves asks _ ih =>
    have first := asks.depth_operandsToJson_le
    have whole : Json.membersDepth (entry :: entries) =
      max entry.2.depth (Json.membersDepth entries) := rfl
    intro other among
    rcases List.mem_cons.1 among with rfl | among
    · rw [depth_toJson_leaf]
      dsimp only at first
      omega
    · have rest := ih other among
      omega

mutual

/-- Nodes are written at most twice as deep as the object that they nest as. -/
theorem MembersNest.depth_le {members : List (String × Json)} {nodes : List Filter} :
    MembersNest members nodes → ∀ node ∈ nodes,
      node.toJson.depth + 1 ≤ 4 * ((1 + Json.membersDepth members) / 2)
  | .nil => by simp
  | @MembersNest.cons key value rest _ _ first others => by
    have whole : Json.membersDepth ((key, value) :: rest) =
      max value.depth (Json.membersDepth rest) := rfl
    intro node among
    rcases List.mem_append.1 among with inside | inside
    · have bound := first.depth_le node inside
      omega
    · have bound := others.depth_le node inside
      omega

theorem ValueNests.depth_le {key : String} {value : Json} {nodes : List Filter} :
    ValueNests key value nodes → ∀ node ∈ nodes,
      node.toJson.depth + 1 ≤ 4 * ((1 + value.depth) / 2)
  | .group connective inside => by
    intro node among
    rw [List.mem_singleton.1 among, depth_toJson_group, Json.depth]
    have bound := itemsDepth_toJsons_le_iff.2 inside.depth_le
    omega
  | .field asked => by
    intro node among
    obtain ⟨leaf, inside, rfl⟩ := List.mem_map.1 among
    have bound := depth_toJson_le_of_asked asked leaf inside
    rw [Json.depth]
    omega

theorem ItemsNest.depth_le {items : List Json} {members : List Filter} :
    ItemsNest items members → ∀ member ∈ members,
      member.toJson.depth ≤ 4 * (Json.itemsDepth items / 2) + 1
  | .nil => by simp
  | @ItemsNest.single entries _ items _ inside rest => by
    have whole : Json.itemsDepth (.obj entries :: items) =
      max (1 + Json.membersDepth entries) (Json.itemsDepth items) := rfl
    intro member among
    rcases List.mem_cons.1 among with rfl | among
    · have bound := inside.depth_le member (by simp)
      omega
    · have bound := rest.depth_le member among
      omega
  | @ItemsNest.several entries nodes items _ inside several rest => by
    have whole : Json.itemsDepth (.obj entries :: items) =
      max (1 + Json.membersDepth entries) (Json.itemsDepth items) := rfl
    intro member among
    rcases List.mem_cons.1 among with rfl | among
    · -- the nodes of the object get an array and an object around them
      have each : Json.itemsDepth (toJsons nodes) ≤
          4 * ((1 + Json.membersDepth entries) / 2) - 1 := by
        rw [itemsDepth_toJsons_le_iff]
        intro node inNodes
        have bound := inside.depth_le node inNodes
        omega
      obtain ⟨first, isNode⟩ := List.exists_mem_of_length_pos (Nat.lt_of_lt_of_le (by decide) several)
      have some := inside.depth_le first isNode
      rw [depth_toJson_group]
      omega
    · have bound := rest.depth_le member among
      omega

end

end Filter

namespace Layout

/-- A field is written as deep as its leaves are, and a group as deep as the group. -/
theorem depth_value_le {slot : Slot} (tidy : slot.Tidy) {bound : Nat}
    (each : ∀ node ∈ slot.nodes, node.toJson.depth ≤ bound) : 1 + slot.value.depth ≤ bound := by
  cases slot with
  | group connective members =>
    have whole := each (.group connective members) (by simp [Slot.nodes])
    rw [Filter.depth_toJson_group] at whole
    rw [Slot.value, Json.depth]
    omega
  | field name questions =>
    have leaves : ∀ question ∈ questions,
        2 + (Slot.entry name question).2.depth ≤ bound := by
      intro question among
      have leaf := each (Slot.ask name question) (List.mem_map_of_mem among)
      rwa [Slot.ask, Filter.depth_toJson_leaf] at leaf
    obtain ⟨question, among⟩ := List.exists_mem_of_ne_nil questions tidy.1
    have some := leaves question among
    have deepest : Json.membersDepth (questions.map (Slot.entry name)) ≤ bound - 2 := by
      rw [Json.membersDepth_le_iff, List.forall_mem_map]
      intro other inside
      have leaf := leaves other inside
      omega
    rw [Slot.value, Json.depth]
    omega

/-- The document of a tidy layout is as deep as its deepest node, and not less than one level. -/
theorem depth_document_le {layout : Layout} (tidy : layout.Tidy) {bound : Nat}
    (each : ∀ node ∈ layout.nodes, node.toJson.depth ≤ bound) :
    (Json.obj layout.document).depth ≤ max 1 bound := by
  have deepest : Json.membersDepth layout.document ≤ max 1 bound - 1 := by
    rw [Json.membersDepth_le_iff, document, List.forall_mem_map]
    intro slot inside
    have fits : 1 + slot.value.depth ≤ bound := depth_value_le (tidy.slots slot inside)
      fun node among => each node (List.mem_flatMap.2 ⟨slot, inside, among⟩)
    dsimp only
    omega
  rw [Json.depth]
  omega

end Layout

end FilterQuery
