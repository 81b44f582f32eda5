import FilterQuery.Proofs.Filter.Layout
import FilterQuery.Proofs.Filter.Meaning
/-! Which tree a written document stands for. The nodes that found a place are
grouped by their fields, and those that were displaced join the group of all
conjuncts. No leaf is lost or doubled by that, and as the nodes of a tree all
have to hold, it does not change what the tree says. -/
namespace FilterQuery

/-- Nodes take up others at the end of the group of all conjuncts, which is added if there is
none. -/
inductive Absorbed : List Filter → List Filter → List Filter → Prop where
  | nothing (nodes : List Filter) : Absorbed nodes [] nodes
  | added (nodes displaced : List Filter) (some : displaced ≠ []) :
      Absorbed nodes displaced (nodes ++ [.group .and displaced])
  | joined (before members after displaced : List Filter) :
      Absorbed (before ++ .group .and members :: after) displaced
        (before ++ .group .and (members ++ displaced) :: after)

/-- The same nodes in another order, with some of them moved into the group of all conjuncts. -/
def Rearranged (nodes next : List Filter) : Prop :=
  ∃ kept displaced, (kept ++ displaced).Perm nodes ∧ Absorbed kept displaced next

namespace Layout

/-- Adding displaced nodes to the group of all conjuncts keeps the document tidy. -/
private theorem addConjuncts_document {layout : Layout} (tidy : layout.Tidy)
    (plain : ∀ leaf, .leaf leaf ∈ layout.nodes → leaf.field ≠ Connective.and.key)
    (displaced : List Filter) :
    ∃ next : Layout, FilterTree.addConjuncts layout.document (displaced.map Filter.toJson) =
      next.document ∧ next.Tidy ∧ Absorbed layout.nodes displaced next.nodes := by
  cases displaced with
  | nil => exact ⟨layout, rfl, tidy, .nothing _⟩
  | cons node rest =>
    cases found : Entries.get? layout.document Connective.and.key with
    | none =>
      let slot := Slot.group .and (node :: rest)
      have fresh : slot.key ∉ Entries.keys layout.document := Entries.get?_eq_none_iff.1 found
      refine ⟨layout ++ [slot], ?_, tidy_concat tidy fresh trivial, ?_⟩
      · rw [← set_document_of_fresh fresh]
        simp [FilterTree.addConjuncts, found, slot, Slot.key, Slot.value, Filter.toJsons_eq_map]
      · rw [nodes_append]
        exact .added layout.nodes (node :: rest) (by simp)
    | some value =>
      obtain ⟨before, slot, after, rfl, key, rfl, fresh⟩ := split_of_get? found
      cases slot with
      | field name questions =>
        -- A field of that name would have been a leaf before.
        exfalso
        obtain ⟨question, more, rfl⟩ :=
          List.exists_cons_of_ne_nil (tidy.slots (.field name questions) (by simp)).1
        exact plain ⟨name, question.1, question.2⟩ (by simp [nodes, Slot.nodes, Slot.ask]) key
      | group connective members =>
        cases connective with
        | or =>
          have same : Connective.or.key = Connective.and.key := key
          exact absurd same (by decide)
        | and =>
          let joined := Slot.group .and (members ++ node :: rest)
          refine ⟨before ++ joined :: after, ?_, tidy_replace tidy rfl trivial, ?_⟩
          · have written : Entries.set (document (before ++ .group .and members :: after))
                Connective.and.key joined.value = document (before ++ joined :: after) :=
              set_document rfl fresh
            rw [← written]
            simp [FilterTree.addConjuncts, found, joined, Slot.value, Filter.toJsons_eq_map]
          · simp only [nodes, List.flatMap_append, List.flatMap_cons, joined, Slot.nodes,
              List.singleton_append]
            exact .joined _ members _ (node :: rest)

/-- The document of a tree is tidy, and stands for the nodes of the tree rearranged. -/
theorem members_eq_document (tree : FilterTree)
    (plain : ∀ leaf, .leaf leaf ∈ tree.nodes → leaf.field ≠ Connective.and.key) :
    ∃ layout : Layout, tree.members = layout.document ∧ layout.Tidy ∧
      Rearranged tree.nodes layout.nodes := by
  obtain ⟨placed, displaced, written, placedTidy, same⟩ := placeAll_document tidy_nil tree.nodes
  have kept : (placed.nodes ++ displaced).Perm tree.nodes := same
  have placedPlain : ∀ leaf, .leaf leaf ∈ placed.nodes → leaf.field ≠ Connective.and.key :=
    fun leaf inside => plain leaf (kept.subset (List.mem_append_left _ inside))
  obtain ⟨next, added, nextTidy, absorbed⟩ :=
    addConjuncts_document placedTidy placedPlain displaced
  refine ⟨next, ?_, nextTidy, placed.nodes, displaced, kept, absorbed⟩
  have start : FilterTree.placeAll [] tree.nodes = _ := written
  simp only [FilterTree.members, start, added]

/-- The nodes of a tidy layout are written as its document. -/
theorem members_nodes {layout : Layout} (tidy : layout.Tidy) :
    (FilterTree.mk layout.nodes).members = layout.document := by
  simp [FilterTree.members, placeAll_nodes tidy, FilterTree.addConjuncts]

end Layout

namespace Rearranged

variable {nodes next : List Filter}

/-- The leaves are the same, in another order. -/
theorem leaves_perm (moved : Rearranged nodes next) :
    (Filter.leavesOfAll next).Perm (Filter.leavesOfAll nodes) := by
  obtain ⟨kept, displaced, same, absorbed⟩ := moved
  have all : (Filter.leavesOfAll (kept ++ displaced)).Perm (Filter.leavesOfAll nodes) := by
    rw [Filter.leavesOfAll_eq_flatMap, Filter.leavesOfAll_eq_flatMap]
    exact same.flatMap_right _
  refine List.Perm.trans ?_ all
  cases absorbed with
  | nothing => simp
  | added _ _ some =>
    simp [Filter.leavesOfAll_eq_flatMap, Filter.leaves]
  | joined before members after =>
    simp only [Filter.leavesOfAll_eq_flatMap, List.flatMap_append, List.flatMap_cons,
      Filter.leaves, List.append_assoc]
    refine List.Perm.append_left _ (List.Perm.append_left _ ?_)
    exact List.perm_append_comm

/-- Rearranging keeps filters well formed. -/
theorem wellFormed (moved : Rearranged nodes next) (ready : Filter.AllWellFormed nodes) :
    Filter.AllWellFormed next := by
  obtain ⟨kept, displaced, same, absorbed⟩ := moved
  have each : ∀ node ∈ kept ++ displaced, node.WellFormed :=
    fun node inside => Filter.allWellFormed_iff.1 ready node (same.subset inside)
  have eachKept := (List.forall_mem_append.1 each).1
  have eachDisplaced := (List.forall_mem_append.1 each).2
  rw [Filter.allWellFormed_iff]
  cases absorbed with
  | nothing => exact eachKept
  | added _ _ some =>
    refine List.forall_mem_append.2 ⟨eachKept, ?_⟩
    simpa [Filter.WellFormed, some, Filter.allWellFormed_iff] using eachDisplaced
  | joined before members after =>
    obtain ⟨eachBefore, eachRest⟩ := List.forall_mem_append.1 eachKept
    obtain ⟨group, eachAfter⟩ := List.forall_mem_cons.1 eachRest
    refine List.forall_mem_append.2 ⟨eachBefore, List.forall_mem_cons.2 ⟨⟨?_, ?_⟩, eachAfter⟩⟩
    · simp [group.1]
    · exact Filter.allWellFormed_iff.2
        (List.forall_mem_append.2 ⟨Filter.allWellFormed_iff.1 group.2, eachDisplaced⟩)

/-- Rearranged nodes say the same of every record. -/
theorem holds_iff (moved : Rearranged nodes next) {schema : Schema} {root : String}
    {record : Record} :
    (∀ node ∈ next, node.Holds schema root record) ↔
      ∀ node ∈ nodes, node.Holds schema root record := by
  obtain ⟨kept, displaced, same, absorbed⟩ := moved
  have all : (∀ node ∈ nodes, node.Holds schema root record) ↔
      ∀ node ∈ kept ++ displaced, node.Holds schema root record :=
    forall_congr' fun node => imp_congr_left same.mem_iff.symm
  rw [all]
  cases absorbed with
  | nothing => simp
  | added =>
    rw [List.forall_mem_append, List.forall_mem_append, List.forall_mem_singleton, Filter.Holds,
      Filter.allHold_iff]
  | joined before members after =>
    simp only [List.forall_mem_append, List.forall_mem_cons, Filter.Holds, Filter.allHold_iff]
    constructor
    · rintro ⟨first, ⟨inner, moved⟩, last⟩
      exact ⟨⟨first, inner, last⟩, moved⟩
    · rintro ⟨⟨first, inner, last⟩, moved⟩
      exact ⟨first, ⟨inner, moved⟩, last⟩

end Rearranged

end FilterQuery
