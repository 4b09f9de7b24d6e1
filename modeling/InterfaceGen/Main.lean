import InterfaceGen.Command.Run

/-!
# The program

Reads the files that the arguments name, and carries out the plan that they give.
-/

namespace InterfaceGen.Command

/-- The text of a file, if it can be read and is text. -/
def readText (path : String) : IO (Option String) := do
  try
    return some (← IO.FS.readFile path)
  catch _ =>
    return none

/-- Carries out one action. -/
def act : Action → IO Unit
  | .print text => IO.print text
  | .makeDirectory path => IO.FS.createDirAll path
  | .write path contents => IO.FS.writeFile path contents

/-- Carries out actions up to the first that fails, and gives what went wrong. -/
def actAll : List Action → IO (Option Error)
  | [] => return none
  | action :: rest => do
    try
      act action
    catch failure =>
      return some (.io (toString failure))
    actAll rest

/-- Tells how the run of a plan ends. -/
def finish : Option Error → IO UInt32
  | none => return 0
  | some error => do
    IO.eprintln ("Error: " ++ error.summary)
    return (exitCode (some error)).toUInt32

end InterfaceGen.Command

open InterfaceGen.Command

/-- Runs the program with its arguments. -/
def main (arguments : List String) : IO UInt32 := do
  match Request.ofArguments arguments with
  | .help =>
    IO.print usage
    return 0
  | .refused =>
    IO.eprint usage
    return refusalCode.toUInt32
  | .run invocation =>
    let texts ← invocation.inputs.mapM fun path => return (path, ← readText path)
    let plan := invocation.plan fun path => (texts.lookup path).join
    match ← actAll plan.actions with
    | some error => finish (some error)
    | none => finish plan.error
