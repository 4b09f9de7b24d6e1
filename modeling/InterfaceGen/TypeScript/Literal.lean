import InterfaceGen.Json.Quoted

/-!
# Literals in TypeScript

A string literal is written as in JSON.
-/

namespace InterfaceGen.TypeScript

/-- A string literal. -/
def quote (text : String) : String :=
  Json.quote text

/-- A name as the key of an object literal. A name that begins with a digit is no identifier and is
written as a string. -/
def objectKey (name : String) : String :=
  match name.toList with
  | first :: _ => if first.isDigit then quote name else name
  | [] => name

end InterfaceGen.TypeScript
