import FilterQuery.Text.LowerCaseTable
import FilterQuery.Text.CaseProperties
/-! Lower-casing of whole texts. Every character is mapped on its own, except
for the capital sigma: at the end of a word it becomes the final sigma. The
capital I with a dot becomes two characters. -/
namespace FilterQuery.Text

/-- Whether a code point belongs to the run. -/
def CaseRun.covers (run : CaseRun) (code : Nat) : Bool :=
  run.first ≤ code && code ≤ run.last && (code - run.first) % run.step == 0

/-- The lower case of one character, whatever stands around it. -/
def lowerChar (c : Char) : List Char :=
  if c.toNat = 0x130 then ['i', '\u0307']
  else
    match caseRuns.find? (·.covers c.toNat) with
    | some run => [Char.ofNat (c.toNat + run.shift).toNat]
    | none => [c]

/-- Whether the first character that is not passed over is a letter with a case. -/
def beginsCased (cs : List Char) : Bool :=
  match cs.dropWhile isCaseIgnorable with
  | c :: _ => isCased c
  | [] => false

/-- The lower case of the capital sigma between the text before it, read backwards, and the text
after it: final after a cased letter unless a cased letter follows. -/
def lowerSigma (before after : List Char) : Char :=
  if beginsCased before && !beginsCased after then 'ς' else 'σ'

/-- Lower-cases the rest of a text that is preceded by `before`, read backwards. -/
def lowerAfter (before : List Char) : List Char → List Char
  | [] => []
  | c :: rest =>
    (if c = 'Σ' then [lowerSigma before rest] else lowerChar c) ++ lowerAfter (c :: before) rest

/-- The lower case of a text. -/
def lower (s : String) : String := String.ofList (lowerAfter [] s.toList)

/-- Lower-cases the ASCII letters of a text and leaves all else as it is. -/
def lowerAscii (s : String) : String := String.ofList (s.toList.map Char.toLower)

end FilterQuery.Text
