import FilterQuery.CommandLine.Settings
/-! Arguments of a command line. Options have long names after two hyphens and
may have a letter after one. A value follows its option as the next argument,
after an equals sign, or directly after the letter. Several letters may share
one hyphen as long as only the last of them takes a value. There are no
arguments besides options. Reading goes from left to right and ends at the first
argument that is refused or that asks about the program itself. -/
namespace FilterQuery.CommandLine

/-- What has been read from a command line. -/
structure Reading where
  /-- What the options so far have settled. -/
  settings : Settings
  /-- The option whose value comes next. -/
  pending? : Option OptionName

/-- What ends the reading of a command line before its end. -/
inductive Stop where
  /-- Help was asked for. -/
  | help
  /-- The version of the program was asked for. -/
  | version
  /-- The command line makes no sense. -/
  | refused

namespace Reading

/-- Takes an option with its value. No value is pending then. -/
def takeValue (reading : Reading) (option : OptionName) (value : String) : Except Stop Reading :=
  match reading.settings.settle? option value with
  | some settings => .ok ⟨settings, none⟩
  | none => .error .refused

def takeFlag (reading : Reading) (option : OptionName) : Except Stop Reading :=
  match option with
  | .help => .error .help
  | .version => .error .version
  | _ => reading.takeValue option ""

/-- Takes an option and what is attached to it. -/
def takeLong (reading : Reading) (option : OptionName) (attached? : Option (List Char)) :
    Except Stop Reading :=
  match option.takesValue, attached? with
  | true, some value => reading.takeValue option (String.ofList value)
  | true, none => .ok { reading with pending? := some option }
  | false, none => reading.takeFlag option
  | false, some _ => .error .refused

/-- Takes letters that share a hyphen. An equals sign between a letter and its value is left
out. -/
def takeLetters (reading : Reading) : List Char → Except Stop Reading
  | [] => .ok reading
  | letter :: rest =>
    match OptionName.all.find? fun option => option.letter? == some letter with
    | none => .error .refused
    | some option =>
      if option.takesValue then
        match rest with
        | [] => .ok { reading with pending? := some option }
        | '=' :: value => reading.takeValue option (String.ofList value)
        | value => reading.takeValue option (String.ofList value)
      else do
        let next ← reading.takeFlag option
        takeLetters next rest

/-- Takes an argument that begins an option. -/
def takeOption (reading : Reading) (word : List Char) : Except Stop Reading :=
  match word with
  | '-' :: '-' :: name =>
    let key := String.ofList (name.takeWhile (· != '='))
    match OptionName.all.find? fun option => option.long == key with
    | none => .error .refused
    | some option =>
      match name.dropWhile (· != '=') with
      | [] => reading.takeLong option none
      | _ :: value => reading.takeLong option (some value)
  | '-' :: letters => reading.takeLetters letters
  | _ => .error .refused

/-- Whether an argument begins with a hyphen and is more than one. -/
def isOption : List Char → Bool
  | '-' :: _ :: _ => true
  | _ => false

/-- Takes one argument. What looks like an option is never the value of another one. -/
def take (reading : Reading) (word : String) : Except Stop Reading :=
  match reading.pending? with
  | some option =>
    if isOption word.toList then .error .refused else reading.takeValue option word
  | none => if isOption word.toList then reading.takeOption word.toList else .error .refused

/-- Takes all arguments. Two hyphens alone end the options, and nothing may follow them. -/
def takeAll (reading : Reading) : List String → Except Stop Reading
  | [] => .ok reading
  | word :: rest =>
    if word = "--" then
      if reading.pending?.isNone && rest.isEmpty then .ok reading else .error .refused
    else do
      let next ← reading.take word
      takeAll next rest

end Reading

/-- The settings of a command line. -/
def readArguments (words : List String) : Except Stop Settings := do
  let reading ← (Reading.mk .empty none).takeAll words
  if reading.pending?.isSome then throw .refused else return reading.settings

end FilterQuery.CommandLine
