import QueryOptions.CommandLine.Outcome

/-!
The program: gathers what it needs from its surroundings, and prints the outcome.
-/

namespace QueryOptions

/-- The text of a file that can be read. -/
def readFile? (path : String) : IO (Option String) :=
  try
    return some (← IO.FS.readFile path)
  catch _ => return none

/-- The variables of the environment. -/
def readEnvironment : IO (List (String × String)) := do
  let entries := (← readFile? "/proc/self/environ").getD ""
  return (Text.cut '\x00' entries.toList).map fun entry =>
    (String.ofList (entry.takeWhile (· ≠ '=')), String.ofList ((entry.dropWhile (· ≠ '=')).drop 1))

/-- The paths that an invocation reads. -/
def Invocation.paths : Invocation → List String
  | .compile request => request.defaults.toList ++ [request.document]
  | .defaults file => file.toList
  | _ => []

def gatherWorld (arguments : List String) : IO World := do
  let paths := ((Invocation.ofArguments? arguments).map Invocation.paths).getD []
  let texts ← paths.mapM readFile?
  let input ← if paths.contains "-" then (← IO.getStdin).readToEnd else pure ""
  return ⟨fun path => ((paths.zip texts).lookup path).join, ← readEnvironment, input⟩

end QueryOptions

def main (arguments : List String) : IO UInt32 := do
  let outcome := (← QueryOptions.gatherWorld arguments).run arguments
  IO.print outcome.output
  match outcome.errorLine? with
  | some line => IO.eprintln line
  | none => pure ()
  return outcome.exitCode.toUInt32
