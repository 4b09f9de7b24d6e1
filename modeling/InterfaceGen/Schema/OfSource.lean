import InterfaceGen.Error
import InterfaceGen.Schema.Body

/-!
# From source text to schema

The first declaration of a text gives the schema its name and its body, and the body its fields.
-/

namespace InterfaceGen

open Source

/-- The schema that the first declaration of a text describes. Whatever its body holds, only a text
without a usable declaration fails. -/
def Schema.ofSource (text : String) : Except Error Schema :=
  match Declaration.first text with
  | .error cause => .error (.source cause)
  | .ok declaration =>
    .ok ⟨declaration.name, Field.parseBody declaration.body.toList, declaration.body⟩

end InterfaceGen
