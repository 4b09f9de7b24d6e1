import InterfaceGen.Schema.Basic
import InterfaceGen.Schema.Path

/-!
# Walking a schema

Lists every field of a schema before the fields nested in it, in the order of declaration. The
fields of an array's entries are listed under the path of the array.
-/

namespace InterfaceGen

mutual

/-- The fields nested in a shape, listed under a path. -/
def Shape.walk (parent : Path) : Shape → List (Path × Field)
  | .object fields => walkFields parent fields
  | _ => []

/-- The fields of a list and those nested in them, listed under a path. -/
def walkFields (parent : Path) : List Field → List (Path × Field)
  | [] => []
  | ⟨name, required, repeated, shape⟩ :: rest =>
    (parent.child name, ⟨name, required, repeated, shape⟩) ::
      (shape.walk (parent.child name) ++ walkFields parent rest)

end

/-- Every field of a schema with its path. -/
def Schema.walk (schema : Schema) : List (Path × Field) :=
  walkFields .root schema.fields

end InterfaceGen
