import FilterQuery.Proofs.Filter.Grammar
/-! What is read from a document belongs to the grammar of filter documents and nests as the
document does: a group for each group, a conjunction for each object of a group that has several
nodes, and one leaf for each operator, in document order. -/
namespace FilterQuery

namespace Filter

mutual

/-- The nodes nest as these members of a document do. -/
inductive MembersNest : List (String × Json) → List Filter → Prop where
  | nil : MembersNest [] []
  | cons {key : String} {value : Json} {members : List (String × Json)} {nodes others : List Filter}
      (first : ValueNests key value nodes) (rest : MembersNest members others) :
      MembersNest ((key, value) :: members) (nodes ++ others)

/-- The nodes nest as the value under a key does: as a group, or as the leaves of a field. -/
inductive ValueNests : String → Json → List Filter → Prop where
  | group (connective : Connective) {items : List Json} {members : List Filter}
      (inside : ItemsNest items members) :
      ValueNests connective.key (.arr items) [.group connective members]
  | field {key : String} {entries : List (String × Json)} {leaves : List Leaf}
      (asked : List.Forall₂ (fun entry => OperatorEntry.Asks ⟨key, entry.1, entry.2⟩)
        entries leaves) : ValueNests key (.obj entries) (leaves.map .leaf)

/-- The members of a group nest as its objects do. An object with one node is that node, and one
with several nodes is the group of them all. -/
inductive ItemsNest : List Json → List Filter → Prop where
  | nil : ItemsNest [] []
  | single {entries : List (String × Json)} {node : Filter} {items : List Json}
      {members : List Filter} (inside : MembersNest entries [node])
      (rest : ItemsNest items members) : ItemsNest (.obj entries :: items) (node :: members)
  | several {entries : List (String × Json)} {nodes : List Filter} {items : List Json}
      {members : List Filter} (inside : MembersNest entries nodes) (several : 2 ≤ nodes.length)
      (rest : ItemsNest items members) :
      ItemsNest (.obj entries :: items) (.group .and nodes :: members)

end

/-- The entries of a field are read as leaves, one for each. -/
theorem readEntries_eq_ok_iff {field : String} {entries : List (String × Json)}
    {nodes : List Filter} :
    entries.mapM (fun entry => (Leaf.read field entry.1 entry.2).map Filter.leaf) = .ok nodes ↔
      ∃ leaves, nodes = leaves.map .leaf ∧
        List.Forall₂ (fun entry leaf => Leaf.read field entry.1 entry.2 = .ok leaf)
          entries leaves := by
  rw [mapM_eq_ok_iff_forall₂]
  constructor
  · intro read
    induction read with
    | nil => exact ⟨[], rfl, .nil⟩
    | cons first _ ih =>
      obtain ⟨leaf, readLeaf, rfl⟩ := map_eq_ok.1 first
      obtain ⟨leaves, rfl, rest⟩ := ih
      exact ⟨leaf :: leaves, rfl, .cons readLeaf rest⟩
  · rintro ⟨leaves, rfl, read⟩
    rw [List.forall₂_map_right_iff]
    exact read.imp fun entry leaf readLeaf => map_eq_ok.2 ⟨leaf, readLeaf, rfl⟩

/-- What is read under a key that is no group's is a field of the grammar. -/
theorem nests_of_readPlain {key : String} {value : Json} {nodes : List Filter}
    (read : readPlain key value = .ok nodes) :
    ValueNests key value nodes ∧ Json.IsConjunct key value := by
  obtain ⟨entries, rfl, filled, plain, readEntries⟩ := readPlain_sound read
  obtain ⟨leaves, rfl, each⟩ := readEntries_eq_ok_iff.1 readEntries
  refine ⟨.field (each.imp fun entry leaf read => (Leaf.read_eq_ok_iff.1 read).2),
    .field plain filled ?_⟩
  clear readEntries read filled
  induction each with
  | nil => simp
  | cons first _ ih =>
    obtain ⟨allowed, asks⟩ := Leaf.read_eq_ok_iff.1 first
    exact List.forall_mem_cons.2 ⟨⟨_, asks.operator, allowed⟩, ih⟩

private theorem nests_of_readConjunct_other {key : String} {value : Json} {nodes : List Filter}
    (other : ∀ items, value ≠ .arr items) (read : readConjunct key value = .ok nodes) :
    ValueNests key value nodes ∧ Json.IsConjunct key value := by
  rcases readConjunct_cases read with ⟨connective, items, members, -, same, -⟩ | readField
  · exact absurd same (other items)
  · exact nests_of_readPlain readField

/-- The conjunction of the nodes of an object is a member that nests as the object does. -/
theorem ItemsNest.of_conjunction {entries : List (String × Json)} {nodes : List Filter}
    {member : Filter} {items : List Json} {members : List Filter}
    (inside : MembersNest entries nodes) (built : conjunction nodes = .ok member)
    (rest : ItemsNest items members) : ItemsNest (.obj entries :: items) (member :: members) := by
  match nodes, inside, built with
  | [_], inside, rfl => exact .single inside rest
  | _ :: _ :: _, inside, rfl => exact .several inside (by simp) rest

mutual

/-- What is read from an object belongs to the grammar, and nests as the object does. -/
theorem nests_of_readConjuncts : ∀ (members : List (String × Json)) (nodes : List Filter),
    readConjuncts members = .ok nodes →
      MembersNest members nodes ∧ ∀ member ∈ members, Json.IsConjunct member.1 member.2
  | [], _, read => by
    cases read
    exact ⟨.nil, by simp⟩
  | (key, value) :: rest, _, read => by
    obtain ⟨first, readFirst, read⟩ := bind_eq_ok.1 read
    obtain ⟨last, readLast, returned⟩ := bind_eq_ok.1 read
    cases returned
    obtain ⟨nests, allowed⟩ := nests_of_readConjunct key value first readFirst
    obtain ⟨nestsRest, each⟩ := nests_of_readConjuncts rest last readLast
    exact ⟨.cons nests nestsRest, List.forall_mem_cons.2 ⟨allowed, each⟩⟩

theorem nests_of_readConjunct : ∀ (key : String) (value : Json) (nodes : List Filter),
    readConjunct key value = .ok nodes → ValueNests key value nodes ∧ Json.IsConjunct key value
  | key, .arr items, nodes, read => by
    rcases readConjunct_cases read with
      ⟨connective, found, members, rfl, same, some, readItems, rfl⟩ | readField
    · cases same
      obtain ⟨inside, each⟩ := nests_of_readMembers connective items members readItems
      refine ⟨.group connective inside, .group connective ?_ (fun item among => (each item among).1)
        fun item among => (each item among).2⟩
      rintro rfl
      cases readItems
      exact some rfl
    · exact nests_of_readPlain readField
  | _, .obj _, _, read => nests_of_readConjunct_other (by simp) read
  | _, .null, _, read => nests_of_readConjunct_other (by simp) read
  | _, .bool _, _, read => nests_of_readConjunct_other (by simp) read
  | _, .num _, _, read => nests_of_readConjunct_other (by simp) read
  | _, .str _, _, read => nests_of_readConjunct_other (by simp) read

theorem nests_of_readMembers (connective : Connective) : ∀ (items : List Json)
    (members : List Filter), readMembers connective items = .ok members →
      ItemsNest items members ∧ ∀ item ∈ items, item ≠ .obj [] ∧ item.IsFilter
  | [], _, read => by
    cases read
    exact ⟨.nil, by simp⟩
  | .obj entries :: rest, _, read => by
    obtain ⟨nodes, readNodes, read⟩ := bind_eq_ok.1 read
    obtain ⟨member, built, read⟩ := bind_eq_ok.1 read
    obtain ⟨members, readRest, returned⟩ := bind_eq_ok.1 read
    cases returned
    obtain ⟨inside, each⟩ := nests_of_readConjuncts entries nodes readNodes
    obtain ⟨nestsRest, others⟩ := nests_of_readMembers connective rest members readRest
    refine ⟨.of_conjunction inside built nestsRest, ?_⟩
    refine List.forall_mem_cons.2 ⟨⟨?_, .object each⟩, others⟩
    intro nothing
    cases nothing
    cases readNodes
    cases built
  | .null :: _, _, read => by cases read
  | .bool _ :: _, _, read => by cases read
  | .num _ :: _, _, read => by cases read
  | .str _ :: _, _, read => by cases read
  | .arr _ :: _, _, read => by cases read

end

theorem leavesOfAll_append (nodes others : List Filter) :
    leavesOfAll (nodes ++ others) = leavesOfAll nodes ++ leavesOfAll others := by
  rw [leavesOfAll_eq_flatMap, leavesOfAll_eq_flatMap, leavesOfAll_eq_flatMap, List.flatMap_append]

theorem leavesOfAll_map_leaf (questions : List Leaf) :
    leavesOfAll (questions.map .leaf) = questions := by
  induction questions with
  | nil => rfl
  | cons question rest ih => simp [leavesOfAll, leaves, ih]

mutual

/-- Nodes that nest as an object does ask with its operators, in document order. -/
theorem MembersNest.asks {members : List (String × Json)} {nodes : List Filter} :
    MembersNest members nodes →
      List.Forall₂ OperatorEntry.Asks (OperatorEntry.inMembers members) (leavesOfAll nodes)
  | .nil => .nil
  | .cons first rest => by
    rw [OperatorEntry.inMembers, leavesOfAll_append]
    exact List.rel_append first.asks rest.asks

theorem ValueNests.asks {key : String} {value : Json} {nodes : List Filter} :
    ValueNests key value nodes →
      List.Forall₂ OperatorEntry.Asks (OperatorEntry.under key value) (leavesOfAll nodes)
  | .group connective inside => by
    rw [OperatorEntry.under, leavesOfAll, leaves, leavesOfAll, List.append_nil]
    exact inside.asks
  | .field asked => by
    rw [OperatorEntry.under, leavesOfAll_map_leaf, List.forall₂_map_left_iff]
    exact asked

theorem ItemsNest.asks {items : List Json} {members : List Filter} :
    ItemsNest items members →
      List.Forall₂ OperatorEntry.Asks (OperatorEntry.inItems items) (leavesOfAll members)
  | .nil => .nil
  | .single inside rest => by
    have asked := inside.asks
    rw [leavesOfAll, leavesOfAll, List.append_nil] at asked
    rw [OperatorEntry.inItems, leavesOfAll]
    exact List.rel_append asked rest.asks
  | .several inside _ rest => by
    rw [OperatorEntry.inItems, leavesOfAll, leaves]
    exact List.rel_append inside.asks rest.asks

end

end Filter

namespace FilterTree

/-- A tree that is read comes from a document of the grammar, and nests as the document does. -/
theorem nests_of_ofJson {document : Json} {tree : FilterTree}
    (read : ofJson document = .ok tree) :
    document.IsFilter ∧
      ∃ members, document = .obj members ∧ Filter.MembersNest members tree.nodes := by
  cases document with
  | obj members =>
    obtain ⟨nodes, readNodes, rfl⟩ := map_eq_ok.1 read
    obtain ⟨nests, each⟩ := Filter.nests_of_readConjuncts members nodes readNodes
    exact ⟨.object each, members, rfl, nests⟩
  | _ => cases read

/-- Reading accepts the grammar of filter documents and nothing else. The tree that is read has one
leaf for each operator in the document, in document order, which asks about the field under which
the operator stands and with the operands that stand after it; and it nests as the document does. -/
theorem ofJson_accepts_grammar (document : Json) :
    ((∃ tree, ofJson document = .ok tree) ↔ document.IsFilter) ∧
    ∀ tree, ofJson document = .ok tree →
      List.Forall₂ OperatorEntry.Asks (OperatorEntry.inDocument document) tree.leaves ∧
      ∃ members, document = .obj members ∧ Filter.MembersNest members tree.nodes := by
  refine ⟨⟨?_, ?_⟩, ?_⟩
  · rintro ⟨tree, read⟩
    exact (nests_of_ofJson read).1
  · rintro ⟨each⟩
    obtain ⟨nodes, read, -⟩ := Filter.exists_readConjuncts _ each
    exact ⟨⟨nodes⟩, map_eq_ok.2 ⟨nodes, read, rfl⟩⟩
  · intro tree read
    obtain ⟨-, members, rfl, nests⟩ := nests_of_ofJson read
    exact ⟨nests.asks, members, rfl, nests⟩

/-- A member of two keys beside a group of one member, and an array inside a list of operands. -/
theorem ofJson_accepts_grammar_nested :
    let number (value : Int64) : Json := .num (.ofInt64 value)
    let document : Json := .obj [("$or", .arr
      [.obj [("name", .obj [("$eq", .str "A")]),
          ("age", .obj [("$gt", number 1), ("$in", .arr [number 2, .arr [.null]])])],
        .obj [("$and", .arr [.obj [("age", .obj [("$in", number 3)])]])]])]
    let tree : FilterTree := ⟨[.group .or
      [.group .and [.leaf ⟨"name", .eq, [.str "A"]⟩, .leaf ⟨"age", .gt, [.int 1]⟩,
          .leaf ⟨"age", .oneOf, [.int 2, .list [.null]]⟩],
        .group .and [.leaf ⟨"age", .oneOf, [.int 3]⟩]]]⟩
    ofJson document = .ok tree ∧ document.IsFilter ∧
      OperatorEntry.inDocument document =
        [⟨"name", "$eq", .str "A"⟩, ⟨"age", "$gt", number 1⟩,
          ⟨"age", "$in", .arr [number 2, .arr [.null]]⟩, ⟨"age", "$in", number 3⟩] ∧
      List.Forall₂ OperatorEntry.Asks (OperatorEntry.inDocument document) tree.leaves ∧
      ∃ members, document = .obj members ∧ Filter.MembersNest members tree.nodes := by
  intro number document tree
  have read : ofJson document = .ok tree := rfl
  obtain ⟨accepts, follows⟩ := ofJson_accepts_grammar document
  exact ⟨read, accepts.1 ⟨tree, read⟩, rfl, follows tree read⟩

end FilterTree

end FilterQuery
