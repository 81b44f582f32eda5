import FilterQuery.Proofs.Sql.Names
import FilterQuery.Proofs.Sql.Tokens
/-! Phrases of a query. A phrase is made of fixed texts from a short list, of names that
may stand in the query, of numbers and of placeholders that count on from a number. Its
parentheses are balanced, and no two neighbours in it can be taken for one token. Phrases
are joined by fixed texts that begin and end with a mark, and they may be put between
parentheses. -/
namespace FilterQuery.Sql

/-- The texts between two phrases. Each begins and ends with a mark. -/
def joiningTexts : List String :=
  [".* FROM ", " AS ", " LEFT JOIN ", " ON ", " WHERE ", " ORDER BY ", " LIMIT ", " OFFSET ",
    " AND ", " OR ", " LIKE ", ", ", ".", " ", " = ", "=", "<>", "<", "<=", ">", ">="]

/-- The texts at the end of a phrase. Each begins with a mark. -/
def endingTexts : List String := [" ASC", " DESC", " IS NULL", " IS NOT NULL"]

/-- The fixed texts of which queries are made. -/
def fixedTexts : List String :=
  joiningTexts ++ endingTexts ++ ["SELECT ", " IN (", "LOWER(", ") LIKE ", "(", ")"]

/-- The words of queries. -/
def keywords : List String :=
  ["SELECT", "FROM", "AS", "LEFT", "JOIN", "ON", "WHERE", "ORDER", "BY", "ASC", "DESC", "LIMIT",
    "OFFSET", "AND", "OR", "IS", "NOT", "NULL", "IN", "LOWER", "LIKE"]

/-- The marks of queries. -/
def punctuation : List Char := [' ', '.', ',', '*', '=', '<', '>', '(', ')']

/-- The tokens of fixed texts are words and marks of queries. -/
def Token.isFixed : Token → Bool
  | .word letters => keywords.contains (String.ofList letters)
  | .mark c => punctuation.contains c
  | _ => false

theorem isFixed_of_fixedTexts :
    ∀ text ∈ fixedTexts, ∀ token ∈ Token.ofChars text.toList, token.isFixed = true := by
  decide +kernel

theorem plain_of_fixedTexts {text : String} (known : text ∈ fixedTexts) :
    (Fragment.fixed text).Plain := by
  have checked : ∀ text ∈ fixedTexts, text.toList ≠ [] ∧ text.toList.all (fun c =>
      c != Dialect.postgres.quoteChar && c != Dialect.mySql.quoteChar) = true := by
    decide +kernel
  obtain ⟨some, others⟩ := checked text known
  refine ⟨some, ?_⟩
  intro c inside dialect
  have other := List.all_eq_true.1 others c inside
  rw [Bool.and_eq_true, bne_iff_ne, bne_iff_ne] at other
  cases dialect with
  | postgres => exact other.1
  | mySql => exact other.2

/-- Whether a text opens and closes no parentheses. -/
def isLevel (tokens : List Token) : Bool :=
  tokens.all fun token => token != .mark '(' && token != .mark ')'

theorem loose_of_joiningTexts : ∀ text ∈ joiningTexts,
    (Fragment.fixed text).startsTight = false ∧ (Fragment.fixed text).endsTight = false ∧
      isLevel (Token.ofChars text.toList) = true := by
  decide +kernel

theorem loose_of_endingTexts : ∀ text ∈ endingTexts,
    (Fragment.fixed text).startsTight = false ∧ isLevel (Token.ofChars text.toList) = true := by
  decide +kernel

theorem nesting_of_level {tokens : List Token} (level : isLevel tokens = true) (depth : Nat) :
    nesting depth tokens = some depth := by
  induction tokens with
  | nil => rfl
  | cons token rest ih =>
    rw [isLevel, List.all_cons, Bool.and_eq_true, Bool.and_eq_true, bne_iff_ne, bne_iff_ne] at level
    obtain ⟨⟨opens, closes⟩, level⟩ := level
    rw [nesting, List.foldlM_cons, Token.depthAfter?, if_neg opens, if_neg closes]
    exact ih level

theorem nesting_append_of_eq {depth after : Nat} {tokens : List Token}
    (reached : nesting depth tokens = some after) (rest : List Token) :
    nesting depth (tokens ++ rest) = nesting after rest := by
  rw [nesting_append, reached]
  rfl

namespace Fragment

/-- The number of a placeholder. -/
def placeholder? : Fragment → Option Nat
  | .placeholder index => some index
  | _ => none

def number? : Fragment → Option Nat
  | .number value => some value
  | _ => none

/-- The fragment may stand in a query over a schema. -/
def Allowed (schema : Schema) : Fragment → Prop
  | .fixed text => text ∈ fixedTexts
  | .name text => Nameable schema text
  | _ => True

end Fragment

/-- The fragments make up a phrase with these numbers in it, and with placeholders of which the
first has this number and there are so many. -/
structure Phrase (schema : Schema) (start count : Nat) (numbers : List Nat)
    (fragments : List Fragment) : Prop where
  fits : fragments.IsChain Fragment.Fits
  allowed : ∀ fragment ∈ fragments, fragment.Allowed schema
  placeholders : fragments.filterMap Fragment.placeholder? = List.range' start count
  numbers : fragments.filterMap Fragment.number? = numbers
  balanced : ∀ dialect depth,
    nesting depth (fragments.flatMap (Fragment.tokens dialect)) = some depth

/-- Texts of which the first opens a parenthesis at its end and the second closes it at its
beginning. -/
structure Encloses (opening closing : String) : Prop where
  knownOpening : opening ∈ fixedTexts
  knownClosing : closing ∈ fixedTexts
  ends : (Fragment.fixed opening).endsTight = false
  starts : (Fragment.fixed closing).startsTight = false
  opens : ∃ before, Token.ofChars opening.toList = before ++ [.mark '('] ∧ isLevel before = true
  closes : ∃ after, Token.ofChars closing.toList = .mark ')' :: after ∧ isLevel after = true

theorem encloses_parentheses : Encloses "(" ")" :=
  ⟨by decide, by decide, by decide +kernel, by decide +kernel,
    ⟨[], by decide +kernel, rfl⟩, ⟨[], by decide +kernel, rfl⟩⟩

theorem encloses_list : Encloses " IN (" ")" :=
  ⟨by decide, by decide, by decide +kernel, by decide +kernel,
    ⟨[.mark ' ', .word ['I', 'N'], .mark ' '], by decide +kernel, by decide⟩,
    ⟨[], by decide +kernel, rfl⟩⟩

theorem encloses_lower : Encloses "LOWER(" ") LIKE " :=
  ⟨by decide, by decide, by decide +kernel, by decide +kernel,
    ⟨[.word ['L', 'O', 'W', 'E', 'R']], by decide +kernel, by decide⟩,
    ⟨[.mark ' ', .word ['L', 'I', 'K', 'E'], .mark ' '], by decide +kernel, by decide⟩⟩

namespace Phrase

variable {schema : Schema} {start count more : Nat} {numbers others : List Nat}
  {left right : List Fragment}

theorem nil (schema : Schema) (start : Nat) : Phrase schema start 0 [] [] :=
  ⟨.nil, by simp, rfl, rfl, fun _ _ => rfl⟩

theorem name {text : String} (named : Nameable schema text) (start : Nat) :
    Phrase schema start 0 [] [.name text] :=
  ⟨.singleton _, by simpa [Fragment.Allowed] using named, rfl, rfl, fun _ _ => rfl⟩

theorem placeholder (schema : Schema) (index : Nat) :
    Phrase schema index 1 [] [.placeholder index] :=
  ⟨.singleton _, by simp [Fragment.Allowed], rfl, rfl, fun _ _ => rfl⟩

theorem number (schema : Schema) (start value : Nat) :
    Phrase schema start 0 [value] [.number value] :=
  ⟨.singleton _, by simp [Fragment.Allowed], rfl, rfl, fun _ _ => rfl⟩

/-- A fixed text without parentheses is a phrase. -/
theorem fixed {text : String} (known : text ∈ fixedTexts)
    (level : isLevel (Token.ofChars text.toList) = true) (start : Nat) :
    Phrase schema start 0 [] [.fixed text] := by
  refine ⟨.singleton _, by simpa [Fragment.Allowed] using known, rfl, rfl, ?_⟩
  intro dialect depth
  rw [List.flatMap_singleton]
  exact nesting_of_level level depth

/-- Two phrases make up one if the last fragment of the first fits the first one of the second. -/
theorem append (first : Phrase schema start count numbers left)
    (second : Phrase schema (start + count) more others right)
    (fits : ∀ last ∈ left.getLast?, ∀ next ∈ right.head?, last.Fits next) :
    Phrase schema start (count + more) (numbers ++ others) (left ++ right) := by
  refine ⟨first.fits.append second.fits fits, ?_, ?_, ?_, ?_⟩
  · intro fragment inside
    rcases List.mem_append.1 inside with inside | inside
    · exact first.allowed fragment inside
    · exact second.allowed fragment inside
  · rw [List.filterMap_append, first.placeholders, second.placeholders, List.range'_append_1]
  · rw [List.filterMap_append, first.numbers, second.numbers]
  · intro dialect depth
    rw [List.flatMap_append, nesting_append, first.balanced]
    exact second.balanced dialect depth

/-- A text between two phrases makes one of them, also where there is nothing on a side. -/
theorem join (text : String) (first : Phrase schema start count numbers left)
    (second : Phrase schema (start + count) more others right)
    (joins : text ∈ joiningTexts := by decide) :
    Phrase schema start (count + more) (numbers ++ others) (left ++ .fixed text :: right) := by
  obtain ⟨starts, ends, level⟩ := loose_of_joiningTexts text joins
  have known : text ∈ fixedTexts := List.mem_append_left _ (List.mem_append_left _ joins)
  have joining : Phrase schema (start + count) 0 [] [.fixed text] := fixed known level _
  have joined : Phrase schema (start + count) (0 + more) ([] ++ others) ([.fixed text] ++ right) := by
    apply joining.append second
    rintro last ⟨⟩ next -
    exact .inl ends
  rw [Nat.zero_add] at joined
  apply first.append joined
  rintro last - next ⟨⟩
  exact .inr starts

/-- A text at the end of a phrase. -/
theorem trail (text : String) (first : Phrase schema start count numbers left)
    (ending : text ∈ endingTexts := by decide) :
    Phrase schema start count numbers (left ++ [.fixed text]) := by
  obtain ⟨starts, level⟩ := loose_of_endingTexts text ending
  have known : text ∈ fixedTexts := List.mem_append_left _ (List.mem_append_right _ ending)
  have trailing := first.append (fixed known level (start + count)) (by
    rintro last - next ⟨⟩
    exact .inr starts)
  rw [List.append_nil] at trailing
  exact trailing

/-- A text that ends with a mark may begin a phrase. -/
theorem lead (text : String) (known : text ∈ fixedTexts)
    (ends : (Fragment.fixed text).endsTight = false)
    (level : isLevel (Token.ofChars text.toList) = true)
    (second : Phrase schema start count numbers right) :
    Phrase schema start count numbers (.fixed text :: right) := by
  have leader : Phrase schema start 0 [] [.fixed text] := fixed known level start
  have leading := leader.append second (by
    rintro last ⟨⟩ next -
    exact .inl ends)
  rw [Nat.zero_add] at leading
  exact leading

/-- A phrase stays one between parentheses. -/
theorem enclose {opening closing : String} (encloses : Encloses opening closing)
    (inside : Phrase schema start count numbers left) :
    Phrase schema start count numbers (.fixed opening :: left ++ [.fixed closing]) := by
  have closed : (left ++ [Fragment.fixed closing]).IsChain Fragment.Fits := by
    apply inside.fits.append (.singleton _)
    rintro last - next ⟨⟩
    exact .inr encloses.starts
  refine ⟨?_, ?_, ?_, ?_, ?_⟩
  · rw [List.cons_append, List.isChain_cons]
    exact ⟨fun _ _ => .inl encloses.ends, closed⟩
  · intro fragment among
    rcases List.mem_append.1 among with among | last
    · rcases List.mem_cons.1 among with rfl | among
      · exact encloses.knownOpening
      · exact inside.allowed fragment among
    · rw [List.mem_singleton.1 last]
      exact encloses.knownClosing
  · rw [List.cons_append, List.filterMap_cons, List.filterMap_append, inside.placeholders]
    exact List.append_nil _
  · rw [List.cons_append, List.filterMap_cons, List.filterMap_append, inside.numbers]
    exact List.append_nil _
  · intro dialect depth
    obtain ⟨before, opening, levelBefore⟩ := encloses.opens
    obtain ⟨after, closing, levelAfter⟩ := encloses.closes
    have opened : nesting depth (before ++ [.mark '(']) = some (depth + 1) :=
      nesting_append_of_eq (nesting_of_level levelBefore depth) _
    rw [List.cons_append, List.flatMap_cons, List.flatMap_append, List.flatMap_singleton,
      Fragment.tokens, Fragment.tokens, opening, closing, nesting_append_of_eq opened,
      nesting_append_of_eq (inside.balanced dialect (depth + 1))]
    exact nesting_of_level levelAfter depth

/-- Phrases with a text that joins phrases between any two of them make up one. -/
theorem separate_cons {separator : String} (joins : separator ∈ joiningTexts) {parts : List (List Fragment)}
    (first : Phrase schema start count numbers left)
    (rest : Phrase schema (start + count) more others (separate separator parts)) :
    Phrase schema start (count + more) (numbers ++ others) (separate separator (left :: parts)) := by
  cases parts with
  | nil =>
    have none : more = 0 := by
      have counted := congrArg List.length rest.placeholders
      rw [List.length_range'] at counted
      exact counted.symm
    have noNumbers : others = [] := rest.numbers.symm
    rw [none, noNumbers, List.append_nil]
    exact first
  | cons next parts => exact first.join separator rest joins

end Phrase

end FilterQuery.Sql
