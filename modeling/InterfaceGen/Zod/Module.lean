import InterfaceGen.Text.Lines
import InterfaceGen.TypeScript.Import
import InterfaceGen.Zod.Expr

/-!
# The schema module

The text of zod expressions, and of the module that exports the expression of a schema and the
record type inferred from it.
-/

namespace InterfaceGen

open Text TypeScript

namespace Zod

mutual

/-- The text of an expression that begins on a line of the given level. -/
def Expr.print (level : Nat) : Expr → String
  | .string => "z.string()"
  | .number => "z.number()"
  | .boolean => "z.boolean()"
  | .any => "z.any()"
  | .array item => "z.array(" ++ item.print level ++ ")"
  | .object [] => "z.object(\x7b\x7d)"
  | .object (entry :: rest) =>
    "z.object(\x7b\n" ++ printEntries (level + 1) (entry :: rest) ++ indent level ++ "\x7d)"

/-- The lines of entries at a level. -/
def printEntries (level : Nat) : List Entry → String
  | [] => ""
  | ⟨key, value, optional⟩ :: rest =>
    indent level ++ objectKey key ++ ": " ++ value.print level ++
      (if optional then ".optional()" else "") ++ ",\n" ++ printEntries level rest

end

end Zod

/-- The name under which the expression of a record is exported. -/
def schemaConstant (record : String) : String :=
  record ++ "Schema"

/-- The module that exports the zod expression of a schema. -/
structure SchemaModule where
  /-- The name of the record type. -/
  record : String
  schema : Zod.Expr
  deriving Repr

namespace SchemaModule

/-- The names that the module exports. -/
def exports (schemaModule : SchemaModule) : List String :=
  [schemaConstant schemaModule.record, schemaModule.record]

/-- The import of the library. -/
def library : Import :=
  ⟨.named [.value "z"], "zod"⟩

/-- The text of the module. -/
def print (schemaModule : SchemaModule) : String :=
  let constant := schemaConstant schemaModule.record
  joinLines [
    library.text,
    "",
    "export const " ++ constant ++ " = " ++ schemaModule.schema.print 0 ++ ";",
    "",
    "export type " ++ schemaModule.record ++ " = z.infer<typeof " ++ constant ++ ">;",
    ""]

end SchemaModule

/-- The schema module of a schema. -/
def Schema.toModule (schema : Schema) : SchemaModule :=
  ⟨schema.name, .object (Zod.ofFields schema.fields)⟩

end InterfaceGen
