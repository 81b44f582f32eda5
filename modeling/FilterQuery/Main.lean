import FilterQuery.CommandLine.Basic
/-! The program: reads the files that the command line names and prints the
outcome. -/
namespace FilterQuery.CommandLine

/-- The content of a file, if it can be read. -/
def fileContent? (path : String) : IO (Option String) := do
  try
    return some (← IO.FS.readFile path)
  catch _ => return none

def outcomeOf (words : List String) : IO Outcome := do
  match Request.read words with
  | .error stop => return stop.outcome
  | .ok request =>
    let filter? ← match request.filter with
      | .file path => fileContent? path
      | _ => pure none
    return request.outcome (← fileContent? request.dataset) filter?

end FilterQuery.CommandLine

/-- Runs the program. -/
def main (words : List String) : IO UInt32 := do
  let outcome ← FilterQuery.CommandLine.outcomeOf words
  IO.print outcome.output
  for complaint in outcome.complaints do
    IO.eprintln complaint
  return outcome.exitCode.toUInt32
