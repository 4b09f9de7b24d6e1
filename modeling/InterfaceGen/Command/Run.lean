import InterfaceGen.Command.Plan
import InterfaceGen.Command.Workspace

/-!
# Runs

Carries out plans in a workspace: the actions in order, up to the first that fails.
-/

namespace InterfaceGen.Command

/-- What a run leaves behind. -/
structure Report where
  /-- The code that the program ends with. -/
  exit : Nat
  /-- What has been printed. -/
  output : String
  workspace : Workspace
  error : Option Error
  deriving DecidableEq, Repr

/-- The code that a run ends with. -/
def exitCode : Option Error → Nat
  | none => 0
  | some _ => 1

/-- The code for arguments that make no sense. -/
def refusalCode : Nat := 2

/-- Carries out actions. `printed` is what has been printed before them, and `error` what the run
ends in if no action fails. -/
def perform (error : Option Error) (printed : String) (workspace : Workspace) :
    List Action → Report
  | [] => ⟨exitCode error, printed, workspace, error⟩
  | .print text :: rest => perform error (printed ++ text) workspace rest
  | .makeDirectory path :: rest =>
    match workspace.makeDirectory? path with
    | some workspace => perform error printed workspace rest
    | none => stopped ("cannot make " ++ path)
  | .write path contents :: rest =>
    match workspace.writeText? path contents with
    | some workspace => perform error printed workspace rest
    | none => stopped ("cannot write " ++ path)
where
  /-- The end of a run at an action that fails. -/
  stopped (detail : String) : Report :=
    let error := some (Error.io detail)
    ⟨exitCode error, printed, workspace, error⟩

/-- Carries out a plan in a workspace. -/
def Plan.run (plan : Plan) (workspace : Workspace) : Report :=
  perform plan.error "" workspace plan.actions

/-- Carries out an invocation in a workspace. -/
def Invocation.run (invocation : Invocation) (workspace : Workspace) : Report :=
  (invocation.plan workspace.readText?).run workspace

/-- How the program is used. -/
def usage : String :=
  "Usage: [-c FILE] [-v] COMMAND\n\n" ++
  "  parse -i FILE                                         print the schema as JSON\n" ++
  "  generate -i FILE [-o DIR] [--only schema|form|api]    generate the modules\n" ++
  "  check -i FILE -d FILE                                 check a JSON document\n" ++
  "  samples [-n NAME]                                     list the samples, or print one\n"

/-- Runs the program in a workspace. -/
def run (arguments : List String) (workspace : Workspace) : Report :=
  match Request.ofArguments arguments with
  | .run invocation => invocation.run workspace
  | .help => ⟨0, usage, workspace, none⟩
  | .refused => ⟨refusalCode, "", workspace, none⟩

end InterfaceGen.Command
