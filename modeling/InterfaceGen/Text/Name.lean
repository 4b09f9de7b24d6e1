/-!
# Names

The names of declarations and fields are made of ASCII letters, digits and underscores.
-/

namespace InterfaceGen.Text

/-- The characters that names are made of. -/
def isNameChar (char : Char) : Bool :=
  char.isAlphanum || char == '_'

end InterfaceGen.Text
