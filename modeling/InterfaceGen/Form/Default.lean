import InterfaceGen.Json.Basic
import InterfaceGen.Schema.Basic
import InterfaceGen.Text.Lines
import InterfaceGen.TypeScript.Literal

/-!
# Default values

The values that the inputs of a form begin with, written as literals of the form's code.
-/

namespace InterfaceGen

open Text TypeScript

/-- A literal for a default value. -/
inductive Default where
  | emptyText
  | zero
  | unchecked
  | emptyArray
  | object (entries : List (String × Default))
  deriving Repr

namespace Default

mutual

/-- The default for one value of a shape. -/
def ofShape : Shape → Default
  | .string | .unknown => emptyText
  | .number => zero
  | .boolean => unchecked
  | .object fields => object (entriesOf fields)

/-- The defaults for fields. -/
def entriesOf : List Field → List (String × Default)
  | [] => []
  | ⟨name, _, repeated, shape⟩ :: rest =>
    (name, if repeated then emptyArray else ofShape shape) :: entriesOf rest

end

mutual

/-- The literal on one line. -/
def print : Default → String
  | emptyText => "\"\""
  | zero => "0"
  | unchecked => "false"
  | emptyArray => "[]"
  | object [] => "\x7b\x7d"
  | object ((name, value) :: rest) =>
    "\x7b " ++ objectKey name ++ ": " ++ value.print ++ printRest rest ++ " \x7d"

/-- The text of the entries after the first. -/
def printRest : List (String × Default) → String
  | [] => ""
  | (name, value) :: rest => ", " ++ objectKey name ++ ": " ++ value.print ++ printRest rest

end

mutual

/-- The value that a literal denotes. -/
def toJson : Default → Json
  | emptyText => .string ""
  | zero => .number ⟨0, 0⟩
  | unchecked => .bool false
  | emptyArray => .array []
  | object entries => .object (membersToJson entries)

/-- The members that the entries of an object literal denote. `__proto__` is no key there, but gives
the object its prototype. -/
def membersToJson : List (String × Default) → List (String × Json)
  | [] => []
  | (name, value) :: rest =>
    if name = "__proto__" then membersToJson rest else (name, value.toJson) :: membersToJson rest

end

end Default

end InterfaceGen
