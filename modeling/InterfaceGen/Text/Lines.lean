/-!
# Lines

Text is put together line by line. A level of nesting indents by two spaces.
-/

namespace InterfaceGen.Text

/-- The indentation of a level. -/
def indent : Nat → String
  | 0 => ""
  | level + 1 => "  " ++ indent level

/-- Parts with a separator between each two. -/
def join (separator : String) : List String → String
  | [] => ""
  | [part] => part
  | part :: rest => part ++ separator ++ join separator rest

/-- Lines with a newline between each two. -/
def joinLines (lines : List String) : String :=
  join "\n" lines

end InterfaceGen.Text
