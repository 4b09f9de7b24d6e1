import InterfaceGen.Proofs.TypeScript.Tokens
import InterfaceGen.Zod.Module

/-!
# Reading zod expressions

A reader of the language that schema modules are written in. It knows the grammar and nothing of
how the modules are laid out: blanks may stand before every token, keys may be quoted or not, and a
comma may follow the last entry of an object.
-/

namespace InterfaceGen

open Text TypeScript

namespace Zod

/-- The expressions without parts. -/
def scalars : List (String × Expr) :=
  [("z.string()", .string), ("z.number()", .number), ("z.boolean()", .boolean), ("z.any()", .any)]

/-- What stands behind an entry: a comma, after which there may be more entries, or the end of the
object. -/
def separators : List (String × Bool) :=
  [(",", true), ("\x7d)", false)]

/-- Reads what stands behind the expression of an entry, and tells whether the entry is optional and
whether there may be more. -/
def entryEnd : Reader (Bool × Bool) :=
  either (after (token ".optional()") fun _ => mapped (true, ·) (oneOf separators))
    (mapped (false, ·) (oneOf separators))

mutual

/-- Reads an expression. -/
def expr : Reader Expr := fun text =>
  match oneOf scalars text with
  | some ⟨value, rest, read⟩ => some ⟨value, rest, read⟩
  | none =>
    match token "z.array(" text with
    | some ⟨_, rest, opened⟩ =>
      match expr rest with
      | none => none
      | some ⟨item, rest, read⟩ =>
        match token ")" rest with
        | none => none
        | some ⟨_, rest, closed⟩ => some ⟨.array item, rest, by omega⟩
    | none =>
      match token "z.object(\x7b" text with
      | none => none
      | some ⟨_, rest, opened⟩ =>
        match entries rest with
        | none => none
        | some ⟨entries, rest, read⟩ => some ⟨.object entries, rest, by omega⟩
termination_by text => text.length

/-- Reads the entries of an object and its end. -/
def entries : Reader (List Entry) := fun text =>
  match token "\x7d)" text with
  | some ⟨_, rest, closed⟩ => some ⟨[], rest, closed⟩
  | none =>
    match key text with
    | none => none
    | some ⟨name, rest, named⟩ =>
      match token ":" rest with
      | none => none
      | some ⟨_, rest, separated⟩ =>
        match expr rest with
        | none => none
        | some ⟨value, rest, read⟩ =>
          match entryEnd rest with
          | none => none
          | some ⟨(optional, false), rest, ended⟩ =>
            some ⟨[⟨name, value, optional⟩], rest, by omega⟩
          | some ⟨(optional, true), rest, ended⟩ =>
            match entries rest with
            | none => none
            | some ⟨others, rest, more⟩ =>
              some ⟨⟨name, value, optional⟩ :: others, rest, by omega⟩
termination_by text => text.length

end

/-- Reads an expression that is exported under a name. -/
def constant : Reader (String × Expr) :=
  after (token "export const") fun _ => after name fun name => after (token "=") fun _ =>
    after expr fun value => closing ";" (name, value)

/-- Reads a type that is exported under a name, and the name that it is inferred from. -/
def inferred : Reader (String × String) :=
  after (token "export type") fun _ => after name fun type =>
    after (token "= z.infer<typeof") fun _ => after name fun source => closing ">;" (type, source)

mutual

/-- The shape that an expression stands for, unless it stands for an array. -/
def toShape? : Expr → Option Shape
  | .string => some .string
  | .number => some .number
  | .boolean => some .boolean
  | .any => some .unknown
  | .array _ => none
  | .object entries => (toFields? entries).map .object

/-- The fields that entries stand for. -/
def toFields? : List Entry → Option (List Field)
  | [] => some []
  | ⟨key, .array item, optional⟩ :: rest => do
    return ⟨key, !optional, true, ← toShape? item⟩ :: (← toFields? rest)
  | ⟨key, value, optional⟩ :: rest => do
    return ⟨key, !optional, false, ← toShape? value⟩ :: (← toFields? rest)

end

end Zod

/-- Reads a schema module: the import of the library, the expression that is exported for a record,
and the type that is inferred from it. -/
def SchemaModule.read? (text : List Char) : Option SchemaModule :=
  match token "import \x7b z \x7d from \"zod\";" text with
  | none => none
  | some ⟨_, rest, _⟩ =>
    match Zod.constant rest with
    | none => none
    | some ⟨(constant, schema), rest, _⟩ =>
      match Zod.inferred rest with
      | none => none
      | some ⟨(record, source), rest, _⟩ =>
        if constant = schemaConstant record ∧ source = constant ∧ dropBlanks rest = [] then
          some ⟨record, schema⟩
        else none

/-- The name of a record and its fields, as the text of a schema module gives them. -/
def recordOf? (text : String) : Option (String × List Field) := do
  let schemaModule ← SchemaModule.read? text.toList
  match schemaModule.schema with
  | .object entries => return (schemaModule.record, ← Zod.toFields? entries)
  | _ => none

/-- Whether a line opens an entry: whether a key stands at its front, and a colon behind the key. -/
def opensEntry (line : List Char) : Bool :=
  match key line with
  | none => false
  | some reading => reading.rest.head? == some ':'

end InterfaceGen
