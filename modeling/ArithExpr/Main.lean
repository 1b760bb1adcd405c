import ArithExpr.CommandLine

/-!
# The program

Reads the files that a run may look at, and writes what the run leaves behind.
-/

namespace ArithExpr.CommandLine

/-- The content of a file, if it can be read. -/
def contentIfThere (name : String) : IO (Option String) := do
  try
    return some (← IO.FS.readFile name)
  catch _ =>
    return none

/-- The files among the given ones that can be read, each with its content. -/
def contentsOf : List String → IO (List (String × String))
  | [] => return []
  | name :: rest => do
    let others ← contentsOf rest
    match ← contentIfThere name with
    | some content => return (name, content) :: others
    | none => return others

end ArithExpr.CommandLine

open ArithExpr

/-- The program: the arguments in, the exit code out. -/
def main (arguments : List String) : IO UInt32 := do
  let held ← CommandLine.contentsOf (CommandLine.candidates arguments)
  let outcome := CommandLine.run (fun name => held.lookup name) arguments
  IO.print outcome.stdout
  IO.eprint outcome.stderr
  return outcome.exit.toUInt32
