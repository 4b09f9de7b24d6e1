/-!
# JSON values

An object lists its members in the order of its text, and a name that is written twice stands for
its last value.
-/

namespace InterfaceGen

/-- The number `coefficient · 10 ^ exponent`. -/
structure Decimal where
  coefficient : Int
  exponent : Int
  deriving DecidableEq, Repr

/-- A JSON value. -/
inductive Json where
  | null
  | bool (value : Bool)
  | number (value : Decimal)
  | string (value : String)
  | array (items : List Json)
  | object (members : List (String × Json))
  deriving Inhabited, Repr

namespace Json

/-- The word for the type of a value. -/
def word : Json → String
  | null => "null"
  | bool _ => "boolean"
  | number _ => "number"
  | string _ => "string"
  | array _ => "array"
  | object _ => "object"

/-- The value of a name in a list of members. -/
def lookup? (name : String) : List (String × Json) → Option Json
  | [] => none
  | (key, value) :: rest =>
    match lookup? name rest with
    | some later => some later
    | none => if key = name then some value else none

/-- The value of a member of an object. -/
def member? (name : String) : Json → Option Json
  | object members => lookup? name members
  | _ => none

end Json

end InterfaceGen
