import FilterQuery.Proofs.Sql.Phrasing
/-! The text of a query is well-formed, whatever is named in the schema. It is scanned
into tokens, of which every name may stand in the query, every other token is a word, a
mark, a number or a placeholder of the query itself, parentheses are balanced, and the
placeholders are those of the parameters in their order. So nothing that is named in the
schema can end its own quotation and be taken for a part of the query. -/
namespace FilterQuery.Sql

/-- The texts of so many placeholders, in their order. -/
def Dialect.placeholders (count : Nat) : Dialect → List (List Char)
  | .postgres => (List.range' 1 count).map fun number => '$' :: Text.natDigits number
  | .mySql => List.replicate count ['?']

namespace Token

def number? : Token → Option (List Char)
  | .number digits => some digits
  | _ => none

def placeholder? : Token → Option (List Char)
  | .placeholder text => some text
  | _ => none

end Token

/-- The tokens are those of a query over a schema with so many parameters and these numbers. -/
structure WellTokenised (schema : Schema) (dialect : Dialect) (count : Nat) (numbers : List Nat)
    (tokens : List Token) : Prop where
  names : ∀ text, .name text ∈ tokens → ∃ name, Nameable schema name ∧ text = name.toList
  words : ∀ letters, .word letters ∈ tokens → String.ofList letters ∈ keywords
  marks : ∀ c, .mark c ∈ tokens → c ∈ punctuation
  numbers : tokens.filterMap Token.number? = numbers.map Text.natDigits
  placeholders : tokens.filterMap Token.placeholder? = dialect.placeholders count
  balanced : nesting 0 tokens = some 0

theorem Dialect.map_placeholder (dialect : Dialect) (count : Nat) :
    (List.range' 0 count).map dialect.placeholder = dialect.placeholders count := by
  cases dialect with
  | postgres =>
    have counted : (List.range' 0 count).map (1 + ·) = List.range' 1 count :=
      List.map_add_range' _ _ _
    rw [placeholders, ← counted, List.map_map]
    apply List.map_congr_left
    intro index _
    rw [placeholder, Function.comp_apply, Nat.add_comm]
  | mySql =>
    have constant : (List.range' 0 count).map (fun _ => ['?']) = List.replicate count ['?'] := by
      simp
    exact constant

variable {schema : Schema} {dialect : Dialect}

namespace Fragment

variable {fragment : Fragment} {fragments : List Fragment}

theorem plain_of_allowed (allowed : fragment.Allowed schema) : fragment.Plain := by
  cases fragment with
  | fixed text => exact plain_of_fixedTexts allowed
  | _ => trivial

/-- A token of fragments that may stand in a query is a name that may, a word or a mark of queries,
a number or a placeholder. -/
theorem token_cases (allowed : ∀ fragment ∈ fragments, fragment.Allowed schema) {token : Token}
    (among : token ∈ fragments.flatMap (tokens dialect)) :
    (∃ name, Nameable schema name ∧ token = .name name.toList) ∨ token.isFixed = true ∨
      (∃ digits, token = .number digits) ∨ ∃ text, token = .placeholder text := by
  obtain ⟨fragment, inside, among⟩ := List.mem_flatMap.1 among
  have allowed := allowed fragment inside
  cases fragment with
  | fixed text => exact .inr (.inl (isFixed_of_fixedTexts text allowed token among))
  | name text => exact .inl ⟨text, allowed, List.mem_singleton.1 among⟩
  | number value => exact .inr (.inr (.inl ⟨_, List.mem_singleton.1 among⟩))
  | placeholder index => exact .inr (.inr (.inr ⟨_, List.mem_singleton.1 among⟩))

/-- No word and no mark is a number or a placeholder. -/
theorem filterMap_of_fixed {view : Token → Option (List Char)} {text : String}
    (blind : ∀ token, token.isFixed = true → view token = none) (known : text ∈ fixedTexts) :
    ((Fragment.fixed text).tokens dialect).filterMap view = [] := by
  apply List.filterMap_eq_nil_iff.2
  intro token inside
  exact blind token (isFixed_of_fixedTexts text known token inside)

theorem number?_tokens (allowed : fragment.Allowed schema) :
    (fragment.tokens dialect).filterMap Token.number? =
      (fragment.number?.map Text.natDigits).toList := by
  cases fragment with
  | fixed text =>
    apply filterMap_of_fixed _ allowed
    intro token isFixed
    cases token with
    | number digits => cases isFixed
    | _ => rfl
  | _ => rfl

theorem placeholder?_tokens (allowed : fragment.Allowed schema) :
    (fragment.tokens dialect).filterMap Token.placeholder? =
      (fragment.placeholder?.map dialect.placeholder).toList := by
  cases fragment with
  | fixed text =>
    apply filterMap_of_fixed _ allowed
    intro token isFixed
    cases token with
    | placeholder text => cases isFixed
    | _ => rfl
  | _ => rfl

/-- What is seen of the tokens of each fragment is seen of the tokens of all. -/
theorem filterMap_tokens {α : Type} {view : Token → Option (List Char)} {part : Fragment → Option α}
    {write : α → List Char}
    (each : ∀ fragment ∈ fragments,
      (fragment.tokens dialect).filterMap view = ((part fragment).map write).toList) :
    (fragments.flatMap (tokens dialect)).filterMap view = (fragments.filterMap part).map write := by
  rw [List.filterMap_flatMap, List.map_filterMap, List.filterMap_eq_flatMap_toList]
  exact List.flatMap_congr each

end Fragment

/-- The tokens of a phrase from the first placeholder on are those of a query. -/
theorem Phrase.wellTokenised {count : Nat} {numbers : List Nat} {fragments : List Fragment}
    (phrase : Phrase schema 0 count numbers fragments) (dialect : Dialect) :
    WellTokenised schema dialect count numbers (fragments.flatMap (Fragment.tokens dialect)) := by
  refine ⟨?_, ?_, ?_, ?_, ?_, phrase.balanced dialect 0⟩
  · intro text among
    simpa [Token.isFixed] using Fragment.token_cases phrase.allowed among
  · intro letters among
    simpa [Token.isFixed] using Fragment.token_cases phrase.allowed among
  · intro c among
    simpa [Token.isFixed] using Fragment.token_cases phrase.allowed among
  · rw [Fragment.filterMap_tokens fun fragment inside =>
      Fragment.number?_tokens (phrase.allowed fragment inside), phrase.numbers]
  · rw [Fragment.filterMap_tokens fun fragment inside =>
      Fragment.placeholder?_tokens (phrase.allowed fragment inside), phrase.placeholders,
      Dialect.map_placeholder]

/-- The text of a query is scanned into tokens that have all of the text. Each name among them is one
that the query may name, whatever characters it has. The others are words and marks of queries, the
numbers of conditions that always hold and of the page, and one placeholder for each parameter, in
their order. Parentheses outside names are balanced. -/
theorem Select.text_wellTokenised {root : String} {tree : FilterTree} {page? : Option PageRequest}
    {select : Select} (given : Select.of schema root tree page? = .ok select) (dialect : Dialect) :
    ∃ tokens pairs, scan dialect.quoteChar (select.text dialect).toList = some tokens ∧
      tokens.flatMap (Token.chars dialect) = (select.text dialect).toList ∧
      WellTokenised schema dialect select.params.length (ones pairs ++ pageNumbers page?) tokens := by
  obtain ⟨pairs, phrase⟩ := Select.phrase given
  have chars : (select.text dialect).toList = select.fragments.flatMap dialect.fragmentChars :=
    String.toList_ofList
  refine ⟨select.fragments.flatMap (Fragment.tokens dialect), pairs, ?_, ?_,
    phrase.wellTokenised dialect⟩
  · rw [chars]
    exact Fragment.scan_fragments phrase.fits fun fragment inside =>
      Fragment.plain_of_allowed (phrase.allowed fragment inside)
  · rw [chars, List.flatMap_assoc]
    exact List.flatMap_congr fun fragment _ => Fragment.chars_tokens fragment

/-- Names with quote characters, parentheses and placeholders in them. -/
theorem Select.text_wellTokenised_with_hostile_names :
    let schema : Schema :=
      ⟨[⟨"Order", some "or\"der`s", some "id",
          [⟨"id", .integer⟩, ⟨"sent (to \"$1\")", .string⟩, ⟨"team?", .entity "Team"⟩]⟩,
        ⟨"Team", none, some "no", [⟨"no", .integer⟩, ⟨"`) OR ? = (`", .string⟩]⟩]⟩
    let tree : FilterTree :=
      ⟨[.leaf ⟨"sent (to \"$1\")", .eq, [.str "a"]⟩,
        .leaf ⟨"team?.`) OR ? = (`", .oneOf, [.str "b", .str "c"]⟩]⟩
    let request : PageRequest := ⟨2, 10, ⟨[⟨"team?", .desc⟩]⟩⟩
    let text := "SELECT `t`.* FROM `or\"der``s` AS `t` " ++
      "LEFT JOIN `team` AS `t_1` ON `t_1`.`no` = `t`.`team?_id` " ++
      "WHERE (`t`.`sent (to \"$1\")` = ? AND `t_1`.```) OR ? = (``` IN (?, ?)) " ++
      "ORDER BY `t`.`team?_id` DESC LIMIT 10 OFFSET 20"
    ∃ select, Select.of schema "Order" tree (some request) = .ok select ∧
      select.text .mySql = text ∧
      ∀ dialect, ∃ tokens pairs, scan dialect.quoteChar (select.text dialect).toList = some tokens ∧
        WellTokenised schema dialect 3 (ones pairs ++ [10, 20]) tokens := by
  intro schema tree request text
  have written : (Select.of schema "Order" tree (some request)).toOption.map
      (fun select => (select.text .mySql, select.params.length)) = some (text, 3) := by
    decide +kernel
  cases given : Select.of schema "Order" tree (some request) with
  | error cause =>
    rw [given] at written
    cases written
  | ok select =>
    rw [given] at written
    obtain ⟨sameText, count⟩ := Prod.mk.inj (Option.some.inj written)
    refine ⟨select, rfl, sameText, ?_⟩
    intro dialect
    obtain ⟨tokens, pairs, scanned, -, wellTokenised⟩ := Select.text_wellTokenised given dialect
    have counted : select.params.length = 3 := count
    rw [counted] at wellTokenised
    exact ⟨tokens, pairs, scanned, wellTokenised⟩

end FilterQuery.Sql
