import InterfaceGen.Text.Lines
import InterfaceGen.TypeScript.Literal

/-!
# Imports

The import lines at the top of a module, and the names that they bind.
-/

namespace InterfaceGen.TypeScript

open Text

/-- A name in the list of an import, which may be that of a type. -/
inductive ImportedName where
  | value (name : String)
  | type (name : String)
  deriving DecidableEq, Repr

namespace ImportedName

/-- The name that is bound. -/
def name : ImportedName → String
  | value name => name
  | type name => name

/-- The text of the name in the list. -/
def text : ImportedName → String
  | value name => name
  | type name => "type " ++ name

end ImportedName

/-- What an import binds. -/
inductive ImportClause where
  /-- The default export of a module under a name. -/
  | default (name : String)
  /-- Some exports under their own names. -/
  | named (names : List ImportedName)
  /-- Some exports that are types under their own names. -/
  | types (names : List String)
  deriving DecidableEq, Repr

/-- One import line. -/
structure Import where
  clause : ImportClause
  module : String
  deriving DecidableEq, Repr

namespace Import

/-- The names that an import binds. -/
def names (line : Import) : List String :=
  match line.clause with
  | .default name => [name]
  | .named names => names.map (·.name)
  | .types names => names

/-- The text of an import line. -/
def text (line : Import) : String :=
  let clause :=
    match line.clause with
    | .default name => name
    | .named names => "\x7b " ++ join ", " (names.map (·.text)) ++ " \x7d"
    | .types names => "type \x7b " ++ join ", " names ++ " \x7d"
  "import " ++ clause ++ " from " ++ quote line.module ++ ";"

end Import

end InterfaceGen.TypeScript
