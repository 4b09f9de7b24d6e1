import InterfaceGen.Json.Quoted
import InterfaceGen.Json.Basic
import InterfaceGen.Text.Lines

/-!
# Printing JSON

Prints a value over several lines: each item and member on its own line, indented by two spaces
per level. Empty arrays and objects stay on one line.
-/

namespace InterfaceGen

open Text

/-- The text of a number: its coefficient, and its exponent if that is not zero. -/
def Decimal.print (number : Decimal) : String :=
  if number.exponent = 0 then toString number.coefficient
  else toString number.coefficient ++ "e" ++ toString number.exponent

namespace Json

mutual

/-- The text of a value that begins on a line of the given level. -/
def print (level : Nat) : Json → String
  | null => "null"
  | bool value => if value then "true" else "false"
  | number value => value.print
  | string value => quote value
  | array [] => "[]"
  | array (first :: rest) =>
    "[\n" ++ indent (level + 1) ++ print (level + 1) first ++ printItems (level + 1) rest ++ "\n" ++
      indent level ++ "]"
  | object [] => "\x7b\x7d"
  | object ((name, value) :: rest) =>
    "\x7b\n" ++ indent (level + 1) ++ quote name ++ ": " ++ print (level + 1) value ++
      printMembers (level + 1) rest ++ "\n" ++ indent level ++ "\x7d"

/-- The text of the items after the first. -/
def printItems (level : Nat) : List Json → String
  | [] => ""
  | item :: rest => ",\n" ++ indent level ++ print level item ++ printItems level rest

/-- The text of the members after the first. -/
def printMembers (level : Nat) : List (String × Json) → String
  | [] => ""
  | (name, value) :: rest =>
    ",\n" ++ indent level ++ quote name ++ ": " ++ print level value ++ printMembers level rest

end

end Json

end InterfaceGen
