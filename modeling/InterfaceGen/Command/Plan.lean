import InterfaceGen.Command.Arguments
import InterfaceGen.Command.Workspace
import InterfaceGen.Config.Load
import InterfaceGen.Json.Reader
import InterfaceGen.Sample
import InterfaceGen.Schema.Wire
import InterfaceGen.Validation

/-!
# Plans

A run first reads the files that its arguments name. What they hold decides the plan of the run:
what it prints and writes, and whether it ends in an error.
-/

namespace InterfaceGen.Command

/-- One thing that a run does. -/
inductive Action where
  | print (text : String)
  | makeDirectory (path : String)
  | write (path contents : String)
  deriving DecidableEq, Repr

/-- What a run does, in order, and the error that it ends in, if it does. -/
structure Plan where
  actions : List Action
  error : Option Error
  deriving DecidableEq, Repr

namespace Plan

/-- A run that ends well. -/
def done (actions : List Action) : Plan := ⟨actions, none⟩

/-- A run that does nothing but fail. -/
def failed (error : Error) : Plan := ⟨[], some error⟩

end Plan

/-- The files that an invocation reads. -/
def Invocation.inputs (invocation : Invocation) : List String :=
  invocation.config.toList ++
    match invocation.task with
    | .parse input => [input]
    | .generate input _ _ => [input]
    | .check input data => [input, data]
    | .samples _ => []

/-- Prints a text and ends its line. -/
def printLine (text : String) : Action :=
  .print (text ++ "\n")

/-- The text of a file, or the error of not getting it. -/
def readFile (read : String → Option String) (path : String) : Except Error String :=
  match read path with
  | some text => .ok text
  | none => .error (.io ("cannot read " ++ path))

/-- The configuration of a run. -/
def loadConfig (read : String → Option String) : Option String → Except Error Config
  | none => .ok {}
  | some path => do
    let text ← readFile read path
    (Config.ofToml text).mapError .config

/-- How deep the arrays and objects of a document may be nested. -/
def documentDepth : Nat := 127

/-- Reads a document. -/
def loadDocument (text : String) : Except Error Json :=
  match Json.parse? documentDepth text with
  | some document => .ok document
  | none => .error (.json "not a JSON document")

/-- Puts files into a directory. -/
def writeActions (directory : String) (files : List GeneratedFile) : List Action :=
  .makeDirectory directory ::
    files.flatMap fun file =>
      let path := joinPath directory file.name
      [.write path file.contents, printLine ("Wrote " ++ path)]

/-- Prints files one after the other, each below a line with its name. -/
def printActions (files : List GeneratedFile) : List Action :=
  files.flatMap fun file =>
    [printLine ("// ---- " ++ file.name ++ " ----"), printLine file.contents]

/-- The line for an issue. The document itself stands as the root. -/
def issueLine (issue : Issue) : String :=
  let path := issue.path.text
  (if path = "" then "<root>" else path) ++ ": " ++ issue.message

/-- The plan for a document that has been checked. -/
def checkPlan (data : String) (schema : Schema) (issues : List Issue) : Plan :=
  if issues = [] then .done [printLine (data ++ " is a valid " ++ schema.name)]
  else ⟨issues.map fun issue => printLine (issueLine issue), some (.invalid issues.length)⟩

/-- The plan for printing a sample. -/
def samplePlan (name : String) : Plan :=
  match Sample.find? name with
  | some sample => .done [.print sample.source]
  | none => .failed (.unknownSample name Sample.known)

/-- The plan of a task under a configuration, given what files hold. -/
def Task.plan (read : String → Option String) (config : Config) : Task → Except Error Plan
  | .parse input => do
    let schema ← Schema.ofSource (← readFile read input)
    return .done [printLine schema.dump]
  | .generate input output only => do
    let (_, files) ← InterfaceGen.generate (← readFile read input) config
    let selected := files.filter fun file => only.all (·.fileName = file.name)
    match output with
    | some directory => return .done (writeActions directory selected)
    | none => return .done (printActions selected)
  | .check input data => do
    let schema ← Schema.ofSource (← readFile read input)
    let document ← loadDocument (← readFile read data)
    return checkPlan data schema (schema.validate document)
  | .samples none => return .done (Sample.all.map fun sample => printLine sample.name)
  | .samples (some name) => return samplePlan name

/-- The plan of an invocation, given what files hold. -/
def Invocation.plan (read : String → Option String) (invocation : Invocation) : Plan :=
  match (do
    let config ← loadConfig read invocation.config
    invocation.task.plan read config) with
  | .ok plan => plan
  | .error error => .failed error

end InterfaceGen.Command
