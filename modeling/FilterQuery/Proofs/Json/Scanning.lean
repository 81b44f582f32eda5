import FilterQuery.Proofs.Json.Numbers
/-! Scanning written text. A value has tokens of its own, and the scanner finds these in
the text of the value. A literal or a number does not end before the character after it
has been read, so between two characters the last token may still be a word; it is the
same token whatever punctuation comes next. -/
namespace FilterQuery

namespace Json

mutual

/-- Whether every number in the value is legible. -/
def Legible : Json → Prop
  | .num number => number.Legible
  | .arr items => ItemsLegible items
  | .obj members => MembersLegible members
  | .null | .bool _ | .str _ => True

def ItemsLegible : List Json → Prop
  | [] => True
  | item :: rest => Legible item ∧ ItemsLegible rest

def MembersLegible : List (String × Json) → Prop
  | [] => True
  | (_, value) :: rest => Legible value ∧ MembersLegible rest

end

mutual

private def decidableLegible : (json : Json) → Decidable json.Legible
  | .num number => inferInstanceAs (Decidable number.Legible)
  | .arr items => decidableItemsLegible items
  | .obj members => decidableMembersLegible members
  | .null | .bool _ | .str _ => isTrue trivial

private def decidableItemsLegible : (items : List Json) → Decidable (ItemsLegible items)
  | [] => isTrue trivial
  | item :: rest => @instDecidableAnd _ _ (decidableLegible item) (decidableItemsLegible rest)

private def decidableMembersLegible :
    (members : List (String × Json)) → Decidable (MembersLegible members)
  | [] => isTrue trivial
  | (_, value) :: rest =>
    @instDecidableAnd _ _ (decidableLegible value) (decidableMembersLegible rest)

end

instance (json : Json) : Decidable json.Legible := decidableLegible json

mutual

/-- The tokens of a value. -/
def tokens : Json → List Token
  | .str value => [.text value]
  | .arr items => .openArr :: itemTokens items ++ [.closeArr]
  | .obj members => .openObj :: memberTokens members ++ [.closeObj]
  | .null => [.scalar .null]
  | .bool value => [.scalar (.bool value)]
  | .num value => [.scalar (.num value)]

/-- The tokens of the items of an array, with a comma between any two. -/
def itemTokens : List Json → List Token
  | [] => []
  | [item] => tokens item
  | item :: rest => tokens item ++ .comma :: itemTokens rest

/-- The tokens of the members of an object, with a comma between any two. -/
def memberTokens : List (String × Json) → List Token
  | [] => []
  | [(key, value)] => .text key :: .colon :: tokens value
  | (key, value) :: rest => .text key :: .colon :: tokens value ++ .comma :: memberTokens rest

end

namespace Scanner

/-- The scanner has found these tokens, in reverse, the last of which may be a word that has not
ended. -/
inductive Found : Scanner → List Token → Prop where
  | between (tokens : List Token) : Found ⟨.between, tokens⟩ tokens
  | word {chars : List Char} {token : Token} (read : Token.ofWord? chars.reverse = some token)
      (tokens : List Token) : Found ⟨.word chars, tokens⟩ (token :: tokens)

variable {scanner : Scanner} {found : List Token} {c : Char}

theorem Found.finish (reached : scanner.Found found) : scanner.finish = some found.reverse := by
  cases reached with
  | between tokens => rfl
  | word read tokens => simp [Scanner.finish, read]

/-- A character that is not part of a word ends it. -/
theorem Found.step (reached : scanner.Found found) (outside : isWordChar c = false) :
    scanner.step c = begin found c := by
  cases reached with
  | between tokens => rfl
  | word read tokens => simp [Scanner.step, outside, read]

theorem begin_of_isWordChar (inside : isWordChar c = true) (tokens : List Token) :
    begin tokens c = some ⟨.word [c], tokens⟩ := by
  unfold begin
  split
  case h_12 => simp [inside]
  all_goals cases inside

theorem foldlM_word {chars rest : List Char} (word : IsWord rest) (tokens : List Token) :
    rest.foldlM step ⟨.word chars, tokens⟩ = some ⟨.word (rest.reverse ++ chars), tokens⟩ := by
  induction rest generalizing chars with
  | nil => rfl
  | cons c rest ih =>
    obtain ⟨inside, others⟩ := List.forall_mem_cons.1 word
    rw [List.foldlM_cons, step]
    simp [inside, ih others]

theorem hexValue?_hexDigit {n : Nat} (digit : n < 16) : hexValue? (hexDigit n) = some n := by
  have each : ∀ n : Fin 16, hexValue? (hexDigit n) = some n.val := by decide
  exact each ⟨n, digit⟩

theorem acceptUnit_of_control {chars : List Char} (control : c < ' ') :
    acceptUnit chars none c.toNat = some (.text (c :: chars)) := by
  have small : c.toNat < 32 := control
  have leading : (decide (0xD800 ≤ c.toNat) && decide (c.toNat < 0xDC00)) = false := by
    simp only [Bool.and_eq_false_iff, decide_eq_false_iff_not]
    omega
  have trailing : (decide (0xDC00 ≤ c.toNat) && decide (c.toNat < 0xE000)) = false := by
    simp only [Bool.and_eq_false_iff, decide_eq_false_iff_not]
    omega
  simp [acceptUnit, leading, trailing]

/-- An escaped character is taken into the string as the character itself. -/
theorem foldlM_escape (c : Char) (chars : List Char) (tokens : List Token) :
    (escape c).foldlM step ⟨.text chars, tokens⟩ = some ⟨.text (c :: chars), tokens⟩ := by
  fun_cases escape c
  case case8 _ _ _ _ _ _ _ control =>
    have small : c.toNat < 32 := control
    have high := hexValue?_hexDigit (n := c.toNat / 16) (by omega)
    have low := hexValue?_hexDigit (n := c.toNat % 16) (by omega)
    have whole : c.toNat / 16 * 16 + c.toNat % 16 = c.toNat := by omega
    have zero : hexValue? '0' = some 0 := by decide
    simp [step, high, low, zero, whole, acceptUnit_of_control control]
  case case9 quote backslash _ _ _ _ _ control =>
    simp [step, quote, backslash, control]
  -- the other cases are the characters with an escape letter of their own
  all_goals
    subst c
    rfl

theorem foldlM_escaped (text chars : List Char) (tokens : List Token) :
    (text.flatMap escape).foldlM step ⟨.text chars, tokens⟩ =
      some ⟨.text (text.reverse ++ chars), tokens⟩ := by
  induction text generalizing chars with
  | nil => rfl
  | cons c rest ih =>
    rw [List.flatMap_cons, List.foldlM_append, foldlM_escape]
    simp [ih]

end Scanner

/-- The number that a word is read as is the token of the word. -/
theorem Token.ofWord?_of_read? {word : List Char} {number : Number}
    (read : Number.read? word = some number) : ofWord? word = some (.scalar (.num number)) := by
  have differs {literal : List Char} (unread : Number.read? literal = none) : word ≠ literal := by
    rintro rfl
    rw [read] at unread
    cases unread
  rw [ofWord?, if_neg (differs rfl), if_neg (differs rfl), if_neg (differs rfl), read]
  rfl

/-- From between two tokens, the scanner finds these tokens in the text. -/
def Spells (cs : List Char) (tokens : List Token) : Prop :=
  ∀ before, ∃ scanner, cs.foldlM Scanner.step ⟨.between, before⟩ = some scanner ∧
    scanner.Found (tokens.reverse ++ before)

namespace Spells

variable {cs rest : List Char} {found others : List Token}

theorem nil : Spells [] [] := fun before => ⟨_, rfl, .between before⟩

/-- Texts are scanned one after the other if a character stands between them that is a token of its
own. -/
theorem mark (first : Spells cs found) {c : Char} {token : Token}
    (outside : isWordChar c = false)
    (mark : ∀ tokens, Scanner.begin tokens c = some ⟨.between, token :: tokens⟩)
    (second : Spells rest others) : Spells (cs ++ c :: rest) (found ++ token :: others) := by
  intro before
  obtain ⟨middle, ran, reached⟩ := first before
  obtain ⟨last, ranRest, reachedLast⟩ := second (token :: (found.reverse ++ before))
  refine ⟨last, ?_, by simpa using reachedLast⟩
  rw [List.foldlM_append, ran]
  simp [reached.step outside, mark, ranRest]

theorem word (word : IsWord cs) {token : Token} (read : Token.ofWord? cs = some token) :
    Spells cs [token] := by
  intro before
  cases cs with
  | nil => cases read
  | cons c rest =>
    obtain ⟨inside, others⟩ := List.forall_mem_cons.1 word
    have whole : Token.ofWord? (rest.reverse ++ [c]).reverse = some token := by simpa using read
    refine ⟨_, ?_, .word whole before⟩
    rw [List.foldlM_cons, Scanner.step, Scanner.begin_of_isWordChar inside]
    exact Scanner.foldlM_word others before

theorem quote (text : String) : Spells (quote text) [.text text] := by
  intro before
  refine ⟨_, ?_, .between _⟩
  have opened : Scanner.step ⟨.between, before⟩ '"' = some ⟨.text [], before⟩ := rfl
  rw [Json.quote, List.cons_append, List.foldlM_cons, opened]
  simp [List.foldlM_append, Scanner.foldlM_escaped, Scanner.step]

theorem number {number : Number} (legible : number.Legible) :
    Spells (numberText number) [.scalar (.num number)] := by
  have read := Number.read?_numberText legible
  exact word (isWord_of_read? read) (Token.ofWord?_of_read? read)

end Spells

mutual

/-- The text of a value with legible numbers has the tokens of the value. -/
theorem spells_chars : ∀ json : Json, json.Legible → Spells json.chars json.tokens
  | .null, _ => .word (List.all_eq_true.1 rfl) rfl
  | .bool true, _ => .word (List.all_eq_true.1 rfl) rfl
  | .bool false, _ => .word (List.all_eq_true.1 rfl) rfl
  | .num _, legible => .number legible
  | .str text, _ => .quote text
  | .arr items, legible =>
    .mark .nil rfl (fun _ => rfl)
      (.mark (spells_itemChars items legible) rfl (fun _ => rfl) .nil)
  | .obj members, legible =>
    .mark .nil rfl (fun _ => rfl)
      (.mark (spells_memberChars members legible) rfl (fun _ => rfl) .nil)

theorem spells_itemChars : ∀ items : List Json, ItemsLegible items →
    Spells (separate [','] (itemChars items)) (itemTokens items)
  | [], _ => .nil
  | [item], legible => spells_chars item legible.1
  | item :: next :: rest, legible => by
    have whole : Spells (item.chars ++ ',' :: separate [','] (itemChars (next :: rest)))
        (item.tokens ++ .comma :: itemTokens (next :: rest)) :=
      .mark (spells_chars item legible.1) rfl (fun _ => rfl)
        (spells_itemChars (next :: rest) legible.2)
    simpa [itemChars, separate, itemTokens] using whole

theorem spells_memberChars : ∀ members : List (String × Json), MembersLegible members →
    Spells (separate [','] (memberChars members)) (memberTokens members)
  | [], _ => .nil
  | [(key, value)], legible =>
    .mark (.quote key) rfl (fun _ => rfl) (spells_chars value legible.1)
  | (key, value) :: next :: rest, legible => by
    have first : Spells (quote key ++ ':' :: value.chars) ([.text key] ++ .colon :: value.tokens) :=
      .mark (.quote key) rfl (fun _ => rfl) (spells_chars value legible.1)
    have whole : Spells
        ((quote key ++ ':' :: value.chars) ++ ',' :: separate [','] (memberChars (next :: rest)))
        (([.text key] ++ .colon :: value.tokens) ++ .comma :: memberTokens (next :: rest)) :=
      .mark first rfl (fun _ => rfl) (spells_memberChars (next :: rest) legible.2)
    simpa [memberChars, separate, memberTokens] using whole

end

/-- The tokens of a value with legible numbers are found in its text. -/
theorem scan_chars {json : Json} (legible : json.Legible) : scan json.chars = some json.tokens := by
  obtain ⟨scanner, ran, reached⟩ := spells_chars json legible []
  simp [scan, ran, reached.finish]

end Json

end FilterQuery
