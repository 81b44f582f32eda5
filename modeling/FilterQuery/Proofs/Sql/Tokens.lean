import FilterQuery.Sql.Dialect
import Mathlib.Data.List.Chain
/-! The tokens of a query. A text is scanned from left to right. A quote character opens
a name; in it two quote characters stand for one, and a single one closes it. Outside
names, letters make up words, digits make up numbers, and a dollar sign with a number or
a question mark is a placeholder; every other character is a mark of its own.

The text of fragments is scanned into the tokens of the fragments, one after the other,
if of two neighbours at least one has a mark on the side of the other. Otherwise two
names could be taken for one, or two numbers. -/
namespace FilterQuery.Sql

/-- A token of the text of a query. -/
inductive Token where
  /-- A name, without its quote characters and with each of those inside it once. -/
  | name (text : List Char)
  | word (letters : List Char)
  | number (digits : List Char)
  | placeholder (text : List Char)
  | mark (char : Char)
deriving DecidableEq

namespace Token

/-- The token that a character is on its own. -/
def single (c : Char) : Token :=
  if c.isAlpha then .word [c]
  else if c.isDigit then .number [c]
  else if c = '?' then .placeholder [c]
  else .mark c

/-- The token that a character makes up together with the token after it, if it belongs to it. -/
def extend? (c : Char) : Token → Option Token
  | .word letters => if c.isAlpha then some (.word (c :: letters)) else none
  | .number digits =>
    if c.isDigit then some (.number (c :: digits))
    else if c = '$' then some (.placeholder (c :: digits))
    else none
  | _ => none

/-- Puts a character before tokens. -/
def push (c : Char) : List Token → List Token
  | [] => [single c]
  | token :: rest =>
    match token.extend? c with
    | some longer => longer :: rest
    | none => single c :: token :: rest

/-- The tokens of a text without names. -/
def ofChars (cs : List Char) : List Token := cs.foldr push []

end Token

mutual

/-- The tokens of a text, unless it ends inside a name. -/
def scan (quote : Char) : List Char → Option (List Token)
  | [] => some []
  | c :: rest => if c = quote then scanName quote [] rest else (scan quote rest).map (Token.push c)

/-- The tokens of a text that begins inside a name, after this part of it. -/
def scanName (quote : Char) (text : List Char) : List Char → Option (List Token)
  | [] => none
  | c :: rest =>
    if c = quote then scanQuote quote text rest else scanName quote (text ++ [c]) rest

/-- The tokens of a text that begins after a quote character inside a name. -/
def scanQuote (quote : Char) (text : List Char) : List Char → Option (List Token)
  | [] => some [.name text]
  | c :: rest =>
    if c = quote then scanName quote (text ++ [c]) rest
    else (scan quote rest).map fun tokens => .name text :: Token.push c tokens

end

/-- The text of a token in a dialect. -/
def Token.chars (dialect : Dialect) : Token → List Char
  | .name text => dialect.quote (String.ofList text)
  | .word letters => letters
  | .number digits => digits
  | .placeholder text => text
  | .mark c => [c]

/-- The depth of parentheses after a token. None can be closed at depth zero. -/
def Token.depthAfter? (depth : Nat) (token : Token) : Option Nat :=
  if token = .mark '(' then some (depth + 1)
  else if token = .mark ')' then if depth = 0 then none else some (depth - 1)
  else some depth

/-- The depth of parentheses after tokens that begin at a depth. -/
def nesting (depth : Nat) (tokens : List Token) : Option Nat :=
  tokens.foldlM Token.depthAfter? depth

theorem nesting_append (depth : Nat) (tokens rest : List Token) :
    nesting depth (tokens ++ rest) = (nesting depth tokens).bind fun after => nesting after rest :=
  List.foldlM_append

/-- Whether a character may belong to a longer token. -/
def isTight (c : Char) : Bool := c.isAlphanum || c == '$' || c == '?'

namespace Token

theorem extend?_of_loose {c : Char} (loose : isTight c = false) (token : Token) :
    token.extend? c = none := by
  simp only [isTight, Char.isAlphanum, Bool.or_eq_false_iff] at loose
  obtain ⟨⟨⟨letter, digit⟩, dollar⟩, -⟩ := loose
  cases token <;> simp_all [extend?]

theorem single_of_loose {c : Char} (loose : isTight c = false) : single c = .mark c := by
  simp only [isTight, Char.isAlphanum, Bool.or_eq_false_iff] at loose
  obtain ⟨⟨⟨letter, digit⟩, -⟩, question⟩ := loose
  simp_all [single]

/-- A character put before tokens stands before their text. -/
theorem chars_push (dialect : Dialect) (c : Char) (tokens : List Token) :
    (push c tokens).flatMap (chars dialect) = c :: tokens.flatMap (chars dialect) := by
  have alone : (single c).chars dialect = [c] := by
    unfold single
    split_ifs <;> rfl
  cases tokens with
  | nil => simp [push, alone]
  | cons token rest =>
    rw [push]
    cases extended : token.extend? c with
    | none => simp [alone]
    | some longer =>
      have longerChars : longer.chars dialect = c :: token.chars dialect := by
        cases token <;> grind [extend?, chars]
      simp [longerChars]

theorem chars_ofChars (dialect : Dialect) (cs : List Char) :
    (ofChars cs).flatMap (chars dialect) = cs := by
  induction cs with
  | nil => rfl
  | cons c rest ih =>
    rw [ofChars] at ih
    rw [ofChars, List.foldr_cons, chars_push, ih]

/-- A character that does not belong to the token after it stands before it. -/
theorem push_of_apart {c : Char} {tokens : List Token}
    (apart : ∀ token ∈ tokens.head?, token.extend? c = none) : push c tokens = single c :: tokens := by
  cases tokens with
  | nil => rfl
  | cons token rest => simp [push, apart token rfl]

theorem push_append {tokens : List Token} (some : tokens ≠ []) (c : Char) (rest : List Token) :
    push c (tokens ++ rest) = push c tokens ++ rest := by
  obtain ⟨token, others, rfl⟩ := List.exists_cons_of_ne_nil some
  rw [List.cons_append, push, push]
  cases token.extend? c <;> rfl

theorem push_ne_nil (c : Char) (tokens : List Token) : push c tokens ≠ [] := by
  cases tokens with
  | nil => simp [push]
  | cons token rest =>
    rw [push]
    cases token.extend? c <;> simp

/-- A text whose last character does not belong to the token after it has tokens of its own. -/
theorem foldr_push {cs : List Char} {tokens : List Token}
    (apart : ∀ c ∈ cs.getLast?, ∀ token ∈ tokens.head?, token.extend? c = none) :
    cs.foldr push tokens = ofChars cs ++ tokens := by
  induction cs with
  | nil => rfl
  | cons c rest ih =>
    cases rest with
    | nil => exact push_of_apart (apart c rfl)
    | cons next rest =>
      have same := ih (by simpa using apart)
      have some : ofChars (next :: rest) ≠ [] := push_ne_nil next _
      rw [List.foldr_cons, same, push_append some]
      rfl

/-- No digit is a letter, because digits come before all letters. -/
theorem isAlpha_of_isDigit {c : Char} (digit : c.isDigit = true) : c.isAlpha = false := by
  have small : c.toNat ≤ '9'.toNat := (Char.isDigit_iff_toNat.1 digit).2
  rw [Bool.eq_false_iff]
  intro letter
  have large : 'A'.toNat ≤ c.toNat := by
    rcases Bool.or_eq_true_iff.1 letter with upper | lower
    · exact (of_decide_eq_true upper).1
    · have fromLower : 'a'.toNat ≤ c.toNat := of_decide_eq_true (Bool.and_eq_true_iff.1 lower).1
      exact Nat.le_trans (by decide) fromLower
  exact absurd (Nat.le_trans large small) (by decide)

/-- Digits make up one number. -/
theorem ofChars_digits {cs : List Char} (some : cs ≠ []) (digits : ∀ c ∈ cs, c.isDigit = true) :
    ofChars cs = [.number cs] := by
  induction cs with
  | nil => exact absurd rfl some
  | cons c rest ih =>
    obtain ⟨digit, others⟩ := List.forall_mem_cons.1 digits
    cases rest with
    | nil =>
      simp [ofChars, push, single, digit, isAlpha_of_isDigit digit]
    | cons next rest =>
      have same := ih (by simp) others
      rw [ofChars, List.foldr_cons]
      rw [ofChars] at same
      rw [same]
      simp [push, extend?, digit]

theorem ofChars_natDigits (value : Nat) :
    ofChars (Text.natDigits value) = [.number (Text.natDigits value)] :=
  ofChars_digits Nat.toDigits_ne_nil fun _ inside =>
    Nat.isDigit_of_mem_toDigits (by decide) (by decide) inside

/-- A placeholder is one token. -/
theorem ofChars_placeholder (dialect : Dialect) (index : Nat) :
    ofChars (dialect.placeholder index) = [.placeholder (dialect.placeholder index)] := by
  cases dialect with
  | postgres =>
    have number := ofChars_natDigits (index + 1)
    rw [ofChars] at number
    rw [Dialect.placeholder, ofChars, List.foldr_cons, number]
    rfl
  | mySql => rfl

end Token

section Scanning

variable {quote : Char} {rest : List Char} {tokens : List Token}

/-- A text without quote characters is scanned character by character. -/
theorem scan_append {cs : List Char} (plain : ∀ c ∈ cs, c ≠ quote)
    (scanned : scan quote rest = some tokens) :
    scan quote (cs ++ rest) = some (cs.foldr Token.push tokens) := by
  induction cs with
  | nil => exact scanned
  | cons c cs ih =>
    obtain ⟨other, others⟩ := List.forall_mem_cons.1 plain
    rw [List.cons_append, scan, if_neg other, ih others]
    rfl

/-- After a single quote character the name is closed. -/
theorem scanQuote_of_closed (text : List Char) (closed : rest.head? ≠ some quote)
    (scanned : scan quote rest = some tokens) :
    scanQuote quote text rest = some (.name text :: tokens) := by
  cases rest with
  | nil =>
    cases scanned
    rfl
  | cons c rest =>
    have other : c ≠ quote := fun same => closed (congrArg some same)
    rw [scan, if_neg other] at scanned
    obtain ⟨after, scannedRest, rfl⟩ := Option.map_eq_some_iff.1 scanned
    rw [scanQuote, if_neg other, scannedRest]
    rfl

/-- Inside a name each quote character is read from two, until one closes the name. -/
theorem scanName_of_closed (text name : List Char) (closed : rest.head? ≠ some quote)
    (scanned : scan quote rest = some tokens) :
    scanName quote text
      (name.flatMap (fun c => if c = quote then [c, c] else [c]) ++ quote :: rest) =
        some (.name (text ++ name) :: tokens) := by
  induction name generalizing text with
  | nil =>
    rw [List.flatMap_nil, List.nil_append, scanName, if_pos rfl, List.append_nil]
    exact scanQuote_of_closed text closed scanned
  | cons c name ih =>
    have later := ih (text ++ [c])
    rw [List.append_assoc, List.singleton_append] at later
    rw [List.flatMap_cons, List.append_assoc]
    by_cases same : c = quote
    · rw [if_pos same, List.cons_append, List.singleton_append, scanName, if_pos same, scanQuote,
        if_pos same]
      exact later
    · rw [if_neg same, List.singleton_append, scanName, if_neg same]
      exact later

/-- A quoted name is scanned as this name. -/
theorem scan_quote (dialect : Dialect) (name : String)
    (closed : rest.head? ≠ some dialect.quoteChar)
    (scanned : scan dialect.quoteChar rest = some tokens) :
    scan dialect.quoteChar (dialect.quote name ++ rest) = some (.name name.toList :: tokens) := by
  rw [Dialect.quote, List.cons_append, List.cons_append, List.append_assoc, List.singleton_append,
    scan, if_pos rfl]
  exact scanName_of_closed [] name.toList closed scanned

end Scanning

namespace Fragment

/-- The tokens of a fragment. -/
def tokens (dialect : Dialect) : Fragment → List Token
  | .fixed text => Token.ofChars text.toList
  | .name text => [.name text.toList]
  | .placeholder index => [.placeholder (dialect.placeholder index)]
  | .number value => [.number (Text.natDigits value)]

/-- A fixed text is not empty and has no quote character of any dialect. -/
def Plain : Fragment → Prop
  | .fixed text => text.toList ≠ [] ∧ ∀ c ∈ text.toList, ∀ dialect : Dialect, c ≠ dialect.quoteChar
  | _ => True

/-- Whether the fragment begins with a character that may belong to a longer token. -/
def startsTight : Fragment → Bool
  | .fixed text => text.toList.head?.any isTight
  | _ => true

/-- Whether the fragment ends with a character that may belong to a longer token. -/
def endsTight : Fragment → Bool
  | .fixed text => text.toList.getLast?.any isTight
  | _ => true

/-- Two neighbours cannot be taken for one token. -/
def Fits (fragment next : Fragment) : Prop :=
  fragment.endsTight = false ∨ next.startsTight = false

variable {dialect : Dialect} {fragment : Fragment}

theorem ne_quoteChar_of_digit {value : Nat} {c : Char} (inside : c ∈ Text.natDigits value) :
    c ≠ dialect.quoteChar := by
  have digit : c.isDigit = true := Nat.isDigit_of_mem_toDigits (by decide) (by decide) inside
  rintro rfl
  cases dialect <;> cases digit

/-- A fragment that is no name has no quote characters. -/
theorem ne_quoteChar (plain : fragment.Plain) (noName : ∀ text, fragment ≠ .name text) :
    ∀ c ∈ dialect.fragmentChars fragment, c ≠ dialect.quoteChar := by
  intro c inside
  cases fragment with
  | fixed text => exact plain.2 c inside dialect
  | name text => exact absurd rfl (noName text)
  | number value => exact ne_quoteChar_of_digit inside
  | placeholder index =>
    cases dialect with
    | postgres =>
      rcases List.mem_cons.1 inside with rfl | inside
      · decide
      · exact ne_quoteChar_of_digit inside
    | mySql =>
      rw [List.mem_singleton.1 inside]
      decide

theorem tokens_eq_ofChars (noName : ∀ text, fragment ≠ .name text) :
    fragment.tokens dialect = Token.ofChars (dialect.fragmentChars fragment) := by
  cases fragment with
  | fixed text => rfl
  | name text => exact absurd rfl (noName text)
  | number value => exact (Token.ofChars_natDigits value).symm
  | placeholder index => exact (Token.ofChars_placeholder dialect index).symm

/-- The tokens of a fragment have its text. -/
theorem chars_tokens (fragment : Fragment) :
    (fragment.tokens dialect).flatMap (Token.chars dialect) = dialect.fragmentChars fragment := by
  cases fragment with
  | fixed text => exact Token.chars_ofChars dialect text.toList
  | _ => simp [tokens, Token.chars, Dialect.fragmentChars]

/-- A fragment that does not end tight ends with a mark. -/
theorem loose_of_endsTight (loose : fragment.endsTight = false) :
    ∀ c ∈ (dialect.fragmentChars fragment).getLast?, isTight c = false := by
  intro c last
  cases fragment with
  | fixed text =>
    have ends : text.toList.getLast? = some c := last
    rw [endsTight, ends] at loose
    exact loose
  | _ => cases loose

/-- A fragment that does not start tight starts with a mark, which is not a quote character. -/
theorem loose_of_startsTight (dialect : Dialect) (plain : fragment.Plain) (loose : fragment.startsTight = false) :
    ∃ c cs, dialect.fragmentChars fragment = c :: cs ∧ c ≠ dialect.quoteChar ∧
      fragment.tokens dialect = .mark c :: Token.ofChars cs := by
  cases fragment with
  | fixed text =>
    obtain ⟨c, cs, chars⟩ := List.exists_cons_of_ne_nil plain.1
    have mark : isTight c = false := by
      rw [startsTight, chars] at loose
      exact loose
    refine ⟨c, cs, chars, plain.2 c (by simp [chars]) dialect, ?_⟩
    rw [tokens, chars, Token.ofChars, List.foldr_cons,
      Token.push_of_apart fun token _ => Token.extend?_of_loose mark token,
      Token.single_of_loose mark]
    rfl
  | _ => cases loose

/-- Fragments of which no two neighbours can be taken for one token are scanned into the tokens of
each of them. -/
theorem scan_fragments {fragments : List Fragment} (fits : fragments.IsChain Fits)
    (plain : ∀ fragment ∈ fragments, fragment.Plain) :
    scan dialect.quoteChar (fragments.flatMap dialect.fragmentChars) =
      some (fragments.flatMap (tokens dialect)) := by
  induction fragments with
  | nil => rfl
  | cons fragment rest ih =>
    obtain ⟨first, others⟩ := List.forall_mem_cons.1 plain
    obtain ⟨fitsNext, fitsRest⟩ := List.isChain_cons.1 fits
    have scanned := ih fitsRest others
    -- If the fragment ends tight, then the next one starts with a mark.
    have loose : fragment.endsTight = true →
        (rest.flatMap dialect.fragmentChars).head? ≠ some dialect.quoteChar ∧
          ∀ token ∈ (rest.flatMap (tokens dialect)).head?, ∀ c, token.extend? c = none := by
      intro tight
      cases rest with
      | nil => simp
      | cons next rest =>
        have loose : next.startsTight = false := by
          rcases fitsNext next rfl with loose | loose
          · rw [tight] at loose
            cases loose
          · exact loose
        obtain ⟨c, cs, chars, other, mark⟩ :=
          loose_of_startsTight dialect (others next List.mem_cons_self) loose
        rw [List.flatMap_cons, List.flatMap_cons, chars, mark]
        constructor
        · simpa using other
        · rintro token ⟨⟩ before
          rfl
    rw [List.flatMap_cons, List.flatMap_cons]
    by_cases isName : ∃ text, fragment = .name text
    · obtain ⟨text, rfl⟩ := isName
      exact scan_quote dialect text (loose rfl).1 scanned
    · have noName : ∀ text, fragment ≠ .name text := fun text same => isName ⟨text, same⟩
      rw [scan_append (ne_quoteChar first noName) scanned, tokens_eq_ofChars noName,
        Token.foldr_push]
      intro c last token head
      cases tight : fragment.endsTight with
      | false => exact Token.extend?_of_loose (loose_of_endsTight tight c last) token
      | true => exact (loose tight).2 token head c

end Fragment

end FilterQuery.Sql
