import InterfaceGen.Client.Module
import InterfaceGen.Form.Module
import InterfaceGen.Schema.OfSource
import InterfaceGen.Zod.Module

/-!
# Artifacts

The three modules that are generated for a schema, each under a fixed file name.
-/

namespace InterfaceGen

/-- What can be generated for a schema. -/
inductive Artifact where
  /-- The zod schema and the record type. -/
  | schema
  /-- The form component. -/
  | form
  /-- The client functions. -/
  | client
  deriving DecidableEq, Repr

namespace Artifact

/-- Every artifact, in the order in which they are written. -/
def all : List Artifact :=
  [schema, form, client]

/-- The name of the file that holds an artifact. -/
def fileName : Artifact → String
  | schema => "schema.ts"
  | form => "Form.tsx"
  | client => "api.ts"

/-- The text of an artifact for a schema. -/
def print (artifact : Artifact) (source : Schema) (config : Config) : String :=
  match artifact with
  | schema => source.toModule.print
  | form => (source.toForm config).print
  | client => (source.toClient config).print

end Artifact

/-- A file that has been generated. -/
structure GeneratedFile where
  name : String
  contents : String
  deriving DecidableEq, Repr

/-- The file of an artifact for a schema. -/
def Artifact.file (artifact : Artifact) (source : Schema) (config : Config) : GeneratedFile :=
  ⟨artifact.fileName, artifact.print source config⟩

/-- The files of every artifact for a schema. -/
def Schema.files (source : Schema) (config : Config) : List GeneratedFile :=
  Artifact.all.map (·.file source config)

/-- The contents of a file among those generated. -/
def contents? (name : String) (files : List GeneratedFile) : Option String :=
  (files.find? (·.name = name)).map (·.contents)

/-- The schema that a text describes, and its files. -/
def generate (text : String) (config : Config) : Except Error (Schema × List GeneratedFile) :=
  match Schema.ofSource text with
  | .error error => .error error
  | .ok schema => .ok (schema, schema.files config)

end InterfaceGen
