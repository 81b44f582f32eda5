import FilterQuery.Proofs.Filter.Depth
import FilterQuery.Proofs.Filter.RoundTrip
/-! Saving a filter as a text and loading it again. The document of a tree that has been
read from a text has distinct keys, so its text is read back as the document, and the
document as the tree, if only the numbers are legible and the document is not nested too
deeply. The document may be nested too deeply although the text that the tree was read
from was not: what is written can be twice as deep as what was read. -/
namespace FilterQuery

theorem Json.distinctKeys_ofBinary64 (value : Binary64) : (ofBinary64 value).DistinctKeys := by
  unfold ofBinary64
  split <;> trivial

/-- An object with a single member has no key twice. -/
theorem Json.distinctKeys_single {value : Json} (distinct : value.DistinctKeys) (key : String) :
    (obj [(key, value)]).DistinctKeys := ⟨by simp [Entries.keys], distinct, trivial⟩

namespace Operand

mutual

theorem distinctKeys_toJson : ∀ operand : Operand, operand.toJson.DistinctKeys
  | .null | .bool _ | .int _ | .str _ => trivial
  | .dec value => Json.distinctKeys_ofBinary64 value
  | .list items => itemsDistinctKeys_itemsToJson items

theorem itemsDistinctKeys_itemsToJson : ∀ items : List Operand,
    Json.ItemsDistinctKeys (itemsToJson items)
  | [] => trivial
  | item :: rest => ⟨distinctKeys_toJson item, itemsDistinctKeys_itemsToJson rest⟩

end

end Operand

theorem Leaf.distinctKeys_operandsToJson (leaf : Leaf) : leaf.operandsToJson.DistinctKeys := by
  unfold operandsToJson
  split
  · exact Operand.distinctKeys_toJson _
  · rw [← Operand.itemsToJson_eq_map]
    exact Operand.itemsDistinctKeys_itemsToJson _

namespace Filter

mutual

theorem distinctKeys_toJson : ∀ filter : Filter, filter.toJson.DistinctKeys
  | .leaf question =>
    Json.distinctKeys_single
      (Json.distinctKeys_single question.distinctKeys_operandsToJson question.operator.token)
      question.field
  | .group connective members => by
    have value : (Json.arr (toJsons members)).DistinctKeys := itemsDistinctKeys_toJsons members
    exact Json.distinctKeys_single value connective.key

theorem itemsDistinctKeys_toJsons : ∀ members : List Filter,
    Json.ItemsDistinctKeys (toJsons members)
  | [] => trivial
  | member :: rest => ⟨distinctKeys_toJson member, itemsDistinctKeys_toJsons rest⟩

end

end Filter

namespace Layout

theorem distinctKeys_value {slot : Slot} (tidy : slot.Tidy) : slot.value.DistinctKeys := by
  cases slot with
  | group connective members => exact Filter.itemsDistinctKeys_toJsons members
  | field name questions =>
    have keys : Entries.keys (questions.map (Slot.entry name)) =
        (questions.map Prod.fst).map Operator.token := by
      simp [Entries.keys, Slot.entry, Function.comp_def]
    refine ⟨?_, ?_⟩
    · rw [keys]
      exact List.Pairwise.map Operator.token (fun a b => mt Operator.token_injective) tidy.2
    · rw [Json.membersDistinctKeys_iff, List.forall_mem_map]
      intro question _
      exact Leaf.distinctKeys_operandsToJson _

/-- The document of a tidy layout has distinct keys at every depth. -/
theorem distinctKeys_document {layout : Layout} (tidy : layout.Tidy) :
    (Json.obj layout.document).DistinctKeys := by
  refine ⟨?_, ?_⟩
  · rw [keys_document]
    exact tidy.keys
  · rw [Json.membersDistinctKeys_iff, document, List.forall_mem_map]
    intro slot inside
    exact distinctKeys_value (tidy.slots slot inside)

end Layout

namespace FilterTree

/-- What is written of a tree that has been read has distinct keys, stands for the tree, and is at
most twice as deep as what it was read from. -/
theorem toJson_of_read {document : Json} {tree : FilterTree} (distinct : document.DistinctKeys)
    (read : ofJson document = .ok tree) :
    tree.toJson.DistinctKeys ∧ ofJson tree.toJson = .ok tree ∧ tree.same tree = true ∧
      tree.toJson.depth ≤ max 1 (4 * (document.depth / 2) - 1) := by
  obtain ⟨again, same⟩ := ofJson_toJson_of_read distinct read
  obtain ⟨layout, tidy, rfl, -⟩ := tidy_of_read distinct read
  obtain ⟨-, members, rfl, nests⟩ := nests_of_ofJson read
  have written : (FilterTree.mk layout.nodes).toJson = .obj layout.document :=
    congrArg Json.obj (Layout.members_nodes tidy)
  refine ⟨?_, again, same, ?_⟩
  · rw [written]
    exact Layout.distinctKeys_document tidy
  · rw [written]
    apply Layout.depth_document_le tidy
    intro node among
    have bound := nests.depth_le node among
    rw [Json.depth]
    omega

/-- A tree that is read from a text is written as a text from which it is read again, provided that
the numbers are legible and the written document is not nested too deeply; a document that is
nested too deeply is refused. It never is if the text had at most 65 levels. -/
theorem read_saved (text : String) (tree : FilterTree) (accepted : read text = .ok tree)
    (legible : tree.toJson.Legible) :
    tree.same tree = true ∧
    read tree.toJson.compact =
      (if tree.toJson.depth ≤ Json.depthLimit then .ok tree else .error .notJson) ∧
    ∃ document, Json.read? text = some document ∧ ofJson document = .ok tree ∧
      tree.toJson.depth ≤ max 1 (4 * (document.depth / 2) - 1) ∧
      (document.depth ≤ 65 → read tree.toJson.compact = .ok tree) := by
  unfold read at accepted
  split at accepted
  · rename_i document spelled
    obtain ⟨distinct, again, same, bound⟩ :=
      toJson_of_read (Json.read?_distinctKeys spelled) accepted
    have saved : read tree.toJson.compact =
        (if tree.toJson.depth ≤ Json.depthLimit then .ok tree else .error .notJson) := by
      rw [read, Json.read?_compact distinct legible]
      by_cases fits : tree.toJson.depth ≤ Json.depthLimit <;> simp [fits, again]
    refine ⟨same, saved, document, spelled, accepted, bound, ?_⟩
    intro shallow
    have fits : tree.toJson.depth ≤ Json.depthLimit := by
      rw [Json.depthLimit]
      omega
    rw [saved, if_pos fits]
  · cases accepted

/-- A decimal, an operand that stands alone after an operator that takes a list, and an object of two
keys in a group. -/
theorem read_saved_price_or_place :
    let price : Binary64 := .ofNumeral ⟨false, 25, -1⟩
    let document : Json := .obj
      [("price", .obj [("$lt", .ofBinary64 price)]),
        ("$or", .arr [.obj [("city", .obj [("$in", .str "Rome")]),
          ("open", .obj [("$eq", .bool true)])]])]
    let tree : FilterTree :=
      ⟨[.leaf ⟨"price", .lt, [.dec price]⟩,
        .group .or [.group .and [.leaf ⟨"city", .oneOf, [.str "Rome"]⟩,
          .leaf ⟨"open", .eq, [.bool true]⟩]]]⟩
    read document.compact = .ok tree ∧ tree.toJson.Legible ∧ tree.toJson.depth = 7 ∧
      tree.same tree = true ∧ read tree.toJson.compact = .ok tree := by
  intro price document tree
  have distinct : document.DistinctKeys := by
    simp [document, Json.DistinctKeys, Json.ItemsDistinctKeys, Json.MembersDistinctKeys,
      Json.distinctKeys_ofBinary64, Entries.keys]
  have known : ofJson document = .ok tree := rfl
  have legible : document.Legible := by decide +kernel
  have shallow : document.depth ≤ Json.depthLimit := by decide +kernel
  have accepted : read document.compact = .ok tree := by
    rw [read, Json.read?_compact distinct legible, if_pos shallow]
    exact known
  have legibleWritten : tree.toJson.Legible := by decide +kernel
  have depth : tree.toJson.depth = 7 := by decide +kernel
  obtain ⟨same, saved, -⟩ := read_saved document.compact tree accepted legibleWritten
  rw [if_pos (by rw [depth]; decide)] at saved
  exact ⟨accepted, legibleWritten, depth, same, saved⟩

/-- Two conditions; around them, this many times, a group of the object so far, with another condition
beside it. -/
def nestedMembers : Nat → List (String × Json)
  | 0 => [("a", .obj [("$eq", .null)]), ("b", .obj [("$eq", .null)])]
  | levels + 1 => [("$or", .arr [.obj (nestedMembers levels)]), ("b", .obj [("$eq", .null)])]

/-- The nodes that are read from the nested groups. -/
def nestedNodes : Nat → List Filter
  | 0 => [.leaf ⟨"a", .eq, [.null]⟩, .leaf ⟨"b", .eq, [.null]⟩]
  | levels + 1 => [.group .or [.group .and (nestedNodes levels)], .leaf ⟨"b", .eq, [.null]⟩]

theorem distinctKeys_nestedMembers (levels : Nat) :
    (Json.obj (nestedMembers levels)).DistinctKeys := by
  induction levels with
  | zero => simp [nestedMembers, Json.DistinctKeys, Json.MembersDistinctKeys, Entries.keys]
  | succ levels ih =>
    have group : Json.ItemsDistinctKeys [.obj (nestedMembers levels)] := ⟨ih, trivial⟩
    simp [nestedMembers, Json.DistinctKeys, Json.MembersDistinctKeys, Entries.keys, group]

theorem readConjuncts_nestedMembers (levels : Nat) :
    Filter.readConjuncts (nestedMembers levels) = .ok (nestedNodes levels) := by
  induction levels with
  | zero => rfl
  | succ levels ih =>
    have several : Filter.conjunction (nestedNodes levels) =
        .ok (.group .and (nestedNodes levels)) := by
      cases levels <;> rfl
    have key : Connective.ofKey? "$or" = some .or := rfl
    have group : Filter.readConjunct "$or" (.arr [.obj (nestedMembers levels)]) =
        .ok [.group .or [.group .and (nestedNodes levels)]] := by
      simp [Filter.readConjunct, key, Filter.readMembers, ih, several, Filter.join]
    have plain : Filter.readConjunct "b" (.obj [("$eq", .null)]) =
        .ok [.leaf ⟨"b", .eq, [.null]⟩] := rfl
    simp [nestedMembers, nestedNodes, Filter.readConjuncts, plain, group]

theorem ofJson_nestedMembers (levels : Nat) :
    ofJson (.obj (nestedMembers levels)) = .ok ⟨nestedNodes levels⟩ :=
  map_eq_ok.2 ⟨nestedNodes levels, readConjuncts_nestedMembers levels, rfl⟩

/-- No more than 65 levels can be saved for certain: a text of 66 levels is accepted, and the text
that is written of its tree is refused. -/
theorem saved_text_of_nested_groups_is_refused :
    let document : Json := .obj (nestedMembers 32)
    let tree : FilterTree := ⟨nestedNodes 32⟩
    document.depth = 66 ∧ read document.compact = .ok tree ∧
      read tree.toJson.compact = .error .notJson := by
  intro document tree
  have known : ofJson document = .ok tree := ofJson_nestedMembers 32
  have distinct : document.DistinctKeys := distinctKeys_nestedMembers 32
  have legible : document.Legible := by decide +kernel
  have depth : document.depth = 66 := by decide +kernel
  have shallow : document.depth ≤ Json.depthLimit := by
    rw [depth]
    decide
  obtain ⟨distinctWritten, -⟩ := toJson_of_read distinct known
  have legibleWritten : tree.toJson.Legible := by decide +kernel
  have deep : ¬ tree.toJson.depth ≤ Json.depthLimit := by decide +kernel
  refine ⟨depth, ?_, ?_⟩
  · rw [read, Json.read?_compact distinct legible, if_pos shallow]
    exact known
  · rw [read, Json.read?_compact distinctWritten legibleWritten, if_neg deep]

end FilterTree

end FilterQuery
