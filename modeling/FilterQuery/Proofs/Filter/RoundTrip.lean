import FilterQuery.Proofs.Filter.Compilation
import FilterQuery.Proofs.Filter.Reading
import FilterQuery.Proofs.Filter.Rearrangement
/-! Filter trees as documents and back. A tree that was read is written and read
back as it is, because reading yields a tidy layout, in which nothing is
displaced. A tree that was built may come back with its nodes rearranged, but
with the same leaves, the same document and the same meaning. -/
namespace FilterQuery

namespace Filter

mutual

/-- A writable filter equals itself, decimals by numeric equality. -/
theorem same_self : ∀ filter : Filter, filter.Writable → filter.same filter = true
  | .leaf question, writable => by
    have finite := (writable.leaves question (by simp [leaves])).finite
    simp [same, Leaf.same, Operand.sameItems_self _ (Operand.allFinite_iff.2 finite)]
  | .group connective members, writable => by
    simp [same, sameAll_self members (Slot.writable_group writable).2]

theorem sameAll_self : ∀ members : List Filter,
    (∀ member ∈ members, member.Writable) → sameAll members members = true
  | [], _ => rfl
  | member :: rest, each => by
    obtain ⟨first, others⟩ := List.forall_mem_cons.1 each
    simp [sameAll, same_self member first, sameAll_self rest others]

end

end Filter

namespace FilterTree

/-- The nodes of a tidy layout that a document can hold are written and read back. -/
theorem ofJson_toJson_nodes {layout : Layout} (tidy : layout.Tidy)
    (each : ∀ node ∈ layout.nodes, node.Writable) :
    ofJson (FilterTree.mk layout.nodes).toJson = .ok ⟨layout.nodes⟩ := by
  rw [toJson, Layout.members_nodes tidy, ofJson,
    Layout.readConjuncts_document (Layout.writable_of_nodes tidy each)]
  rfl

/-- What has been read from a document without repeated keys has a tidy layout, and a document can
hold it. -/
theorem tidy_of_read {document : Json} {tree : FilterTree} (distinct : document.DistinctKeys)
    (read : ofJson document = .ok tree) :
    ∃ layout : Layout, layout.Tidy ∧ tree = ⟨layout.nodes⟩ ∧
      ∀ node ∈ layout.nodes, node.Writable := by
  cases document with
  | obj members =>
    obtain ⟨nodes, readNodes, rfl⟩ := map_eq_ok.1 read
    have each := Filter.writable_of_readConjuncts members nodes readNodes
    obtain ⟨layout, tidy, rfl⟩ := Filter.layout_of_readConjuncts distinct readNodes
    exact ⟨layout, tidy, rfl, each⟩
  | _ => cases read

/-- A tree that has been read from a document without repeated keys is written and read back as it
is, and equals itself also by the numeric equality of decimals. -/
theorem ofJson_toJson_of_read {document : Json} {tree : FilterTree}
    (distinct : document.DistinctKeys) (read : ofJson document = .ok tree) :
    ofJson tree.toJson = .ok tree ∧ tree.same tree = true := by
  obtain ⟨layout, tidy, rfl, each⟩ := tidy_of_read distinct read
  exact ⟨ofJson_toJson_nodes tidy each, Filter.sameAll_self _ each⟩

/-- A field with two operators, a member of two keys in a group, an integer beyond a signed word. -/
theorem ofJson_toJson_of_read_grouped :
    let document : Json := .obj
      [("size", .obj [("$gt", .num (.int 0x8000000000000000 (by decide))), ("$in", .str "all")]),
        ("$or", .arr [.obj [("name", .obj [("$eq", .null)]),
          ("age", .obj [("$in", .arr [.null, .arr []])])]])]
    let tree : FilterTree :=
      ⟨[.leaf ⟨"size", .gt, [.dec (Binary64.ofInt 0x8000000000000000)]⟩,
        .leaf ⟨"size", .oneOf, [.str "all"]⟩,
        .group .or [.group .and [.leaf ⟨"name", .eq, [.null]⟩,
          .leaf ⟨"age", .oneOf, [.null, .list []]⟩]]]⟩
    document.DistinctKeys ∧ ofJson document = .ok tree ∧
      ofJson tree.toJson = .ok tree ∧ tree.same tree = true := by
  intro document tree
  have distinct : document.DistinctKeys := by
    simp [document, Json.DistinctKeys, Json.ItemsDistinctKeys, Json.MembersDistinctKeys,
      Entries.keys]
  have read : ofJson document = .ok tree := rfl
  exact ⟨distinct, read, ofJson_toJson_of_read distinct read⟩

/-- Every document that has a text is without repeated keys, so every tree that has been read from
a text is written and read back as it is. -/
theorem ofJson_toJson_of_text {text : String} {tree : FilterTree}
    (accepted : FilterTree.read text = .ok tree) : ofJson tree.toJson = .ok tree := by
  unfold FilterTree.read at accepted
  split at accepted
  · rename_i document spelled
    obtain ⟨layout, tidy, rfl, each⟩ := tidy_of_read (Json.read?_distinctKeys spelled) accepted
    exact ofJson_toJson_nodes tidy each
  · cases accepted

variable {schema : Schema} {root : String}

/-- Trees with the same leaves compile or fail together. -/
theorem exists_compile_iff_of_perm {tree other : FilterTree}
    (same : other.leaves.Perm tree.leaves) :
    (∃ condition, (tree.compileForRecords schema.resolver root).result = .ok condition) ↔
      ∃ condition, (other.compileForRecords schema.resolver root).result = .ok condition := by
  rw [exists_compileForRecords_eq_ok_iff, exists_compileForRecords_eq_ok_iff]
  exact forall_congr' fun leaf => imp_congr_left same.mem_iff.symm

/-- Rearranged nodes compile to conditions that hold of the same records. -/
theorem holds_eq_of_rearranged {nodes next : List Filter} (moved : Rearranged nodes next)
    (ready : Filter.AllWellFormed nodes) {condition other : RecordCondition}
    (compiled : ((FilterTree.mk nodes).compileForRecords schema.resolver root).result =
      .ok condition)
    (compiledNext : ((FilterTree.mk next).compileForRecords schema.resolver root).result =
      .ok other) (record : Record) : condition.holds record = other.holds record := by
  rw [Bool.eq_iff_iff, holds_compileForRecords_iff ready compiled,
    holds_compileForRecords_iff (moved.wellFormed ready) compiledNext]
  exact moved.holds_iff.symm

/-- A well-formed tree whose leaves a document can hold is written as a document that is read as a
tree with the same leaves, which is written as the same document. Over every schema both trees
compile or neither does, and then they let the same records pass. -/
theorem toJson_keeps_leaves_and_meaning (tree : FilterTree) (ready : tree.WellFormed)
    (writable : ∀ leaf ∈ tree.leaves, leaf.Writable) :
    ∃ again, ofJson tree.toJson = .ok again ∧ again.leaves.Perm tree.leaves ∧
      again.toJson = tree.toJson ∧
      ∀ (schema : Schema) (root : String),
        ((∃ condition, (tree.compileForRecords schema.resolver root).result = .ok condition) ↔
          ∃ condition, (again.compileForRecords schema.resolver root).result = .ok condition) ∧
        ∀ condition other, (tree.compileForRecords schema.resolver root).result = .ok condition →
          (again.compileForRecords schema.resolver root).result = .ok other →
            ∀ record, condition.holds record = other.holds record := by
  have plain : ∀ leaf, .leaf leaf ∈ tree.nodes → leaf.field ≠ Connective.and.key := by
    intro leaf inside same
    have among : leaf ∈ tree.leaves :=
      Filter.mem_leavesOfAll_iff.2 ⟨.leaf leaf, inside, by simp [Filter.leaves]⟩
    exact (writable leaf among).plain (by rw [same]; decide)
  obtain ⟨layout, written, tidy, moved⟩ := Layout.members_eq_document tree plain
  have leavesSame : (FilterTree.mk layout.nodes).leaves.Perm tree.leaves := moved.leaves_perm
  have each : ∀ node ∈ layout.nodes, node.Writable := by
    intro node inside
    refine ⟨Filter.allWellFormed_iff.1 (moved.wellFormed ready) node inside, ?_⟩
    intro leaf among
    have kept : leaf ∈ (FilterTree.mk layout.nodes).leaves :=
      Filter.mem_leavesOfAll_iff.2 ⟨node, inside, among⟩
    exact writable leaf (leavesSame.subset kept)
  have document : (FilterTree.mk layout.nodes).toJson = tree.toJson := by
    rw [toJson, toJson, Layout.members_nodes tidy, written]
  refine ⟨⟨layout.nodes⟩, ?_, leavesSame, document, fun schema root => ⟨?_, ?_⟩⟩
  · rw [← document]
    exact ofJson_toJson_nodes tidy each
  · exact exists_compile_iff_of_perm leavesSame
  · exact fun condition other compiled compiledNext record =>
      holds_eq_of_rearranged moved ready compiled compiledNext record

/-- Repeated operators, and two groups of either kind, with fields between them. -/
theorem toJson_keeps_leaves_and_meaning_displaced :
    let tree : FilterTree :=
      ⟨[.leaf ⟨"age", .gt, [.int 1]⟩, .group .and [.leaf ⟨"name", .eq, [.null]⟩],
        .leaf ⟨"name", .ne, [.null]⟩, .leaf ⟨"age", .gt, [.int 2]⟩,
        .group .or [.leaf ⟨"age", .lt, [.int 9]⟩], .group .or [.leaf ⟨"age", .lt, [.int 8]⟩],
        .group .and [.leaf ⟨"name", .ne, [.str "A"]⟩]]⟩
    tree.WellFormed ∧ (∀ leaf ∈ tree.leaves, leaf.Writable) ∧
    ∃ again, ofJson tree.toJson = .ok again ∧ again.leaves.Perm tree.leaves ∧
      again.toJson = tree.toJson ∧
      ∀ (schema : Schema) (root : String),
        ((∃ condition, (tree.compileForRecords schema.resolver root).result = .ok condition) ↔
          ∃ condition, (again.compileForRecords schema.resolver root).result = .ok condition) ∧
        ∀ condition other, (tree.compileForRecords schema.resolver root).result = .ok condition →
          (again.compileForRecords schema.resolver root).result = .ok other →
            ∀ record, condition.holds record = other.holds record := by
  intro tree
  have ready : tree.WellFormed := by
    simp [tree, WellFormed, Filter.AllWellFormed, Filter.WellFormed, Leaf.WellFormed,
      Operator.arity, Arity.accepts]
  have leaves : tree.leaves =
      [⟨"age", .gt, [.int 1]⟩, ⟨"name", .eq, [.null]⟩, ⟨"name", .ne, [.null]⟩,
        ⟨"age", .gt, [.int 2]⟩, ⟨"age", .lt, [.int 9]⟩, ⟨"age", .lt, [.int 8]⟩,
        ⟨"name", .ne, [.str "A"]⟩] := rfl
  have writable : ∀ leaf ∈ tree.leaves, leaf.Writable := by
    rw [leaves]
    simp only [List.forall_mem_cons]
    refine ⟨?_, ?_, ?_, ?_, ?_, ?_, ?_, by simp⟩ <;>
      exact ⟨by decide, by simp [Operand.Finite], by simp⟩
  exact ⟨ready, writable, toJson_keeps_leaves_and_meaning tree ready writable⟩

end FilterTree

end FilterQuery
