import InterfaceGen.Schema.Basic

/-!
# Zod expressions

The part of the zod language that schemas are written in, and the expression for a schema.
-/

namespace InterfaceGen.Zod

mutual

/-- An expression that stands for a set of values. -/
inductive Expr where
  | string
  | number
  | boolean
  | any
  | array (item : Expr)
  | object (entries : List Entry)
  deriving Repr

/-- An entry of an object expression. -/
structure Entry where
  key : String
  value : Expr
  /-- Whether the key may be missing. -/
  optional : Bool
  deriving Repr

end

mutual

/-- The expression for one value of a shape. -/
def ofShape : Shape → Expr
  | .string => .string
  | .number => .number
  | .boolean => .boolean
  | .object fields => .object (ofFields fields)
  | .unknown => .any

/-- The entries for fields. -/
def ofFields : List Field → List Entry
  | [] => []
  | ⟨name, required, repeated, shape⟩ :: rest =>
    let item := ofShape shape
    ⟨name, if repeated then .array item else item, !required⟩ :: ofFields rest

end

end InterfaceGen.Zod
