/-! Splitting texts at a character. -/
namespace FilterQuery.Text

/-- The parts between the separators; there is one part more than there are separators. -/
def splitChars (separator : Char) : List Char → List (List Char)
  | [] => [[]]
  | c :: rest =>
    if c = separator then [] :: splitChars separator rest
    else
      match splitChars separator rest with
      | part :: parts => (c :: part) :: parts
      | [] => [[c]]

/-- The parts of a text between the separators. -/
def splitAt (separator : Char) (s : String) : List String :=
  (splitChars separator s.toList).map String.ofList

/-- The texts before and after the first separator, if there is one. -/
def splitOnce? (separator : Char) (cs : List Char) : Option (List Char × List Char) :=
  match cs.dropWhile (· != separator) with
  | [] => none
  | _ :: after => some (cs.takeWhile (· != separator), after)

end FilterQuery.Text
