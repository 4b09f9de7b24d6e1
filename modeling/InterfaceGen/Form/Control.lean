import InterfaceGen.Form.Default
import InterfaceGen.Schema.Path

/-!
# Controls

What a form shows for the fields of a schema: an input for a single value, a group for an object,
and a list of entries for an array. The controls of an entry of an array of objects have paths
that begin at a variable for that entry.
-/

namespace InterfaceGen

/-- The kinds of input element. -/
inductive InputKind where
  | text
  | number
  | checkbox
  deriving DecidableEq, Repr

/-- An element of a form. -/
inductive Control where
  /-- An input for one value. -/
  | input (path : Path) (label : String) (kind : InputKind)
  /-- The controls of an object. -/
  | group (label : String) (controls : List Control)
  /-- A list of single values, given the word for their type. -/
  | valueArray (path : Path) (label : String) (item : String)
  /-- A list of objects: what a new entry holds, the variable for the path of an entry, and the
  controls of an entry. -/
  | objectArray (path : Path) (label : String) (empty : Default) (entry : String)
      (controls : List Control)
  deriving Repr

/-- The kind of input for one value of a shape. -/
def InputKind.ofShape : Shape → InputKind
  | .number => number
  | .boolean => checkbox
  | _ => text

/-- The variable for an entry that lies within `depth` other entries. -/
def entryVariable (depth : Nat) : String :=
  "item" ++ toString depth

mutual

/-- The control for a field of a shape. `depth` counts the entries that it lies within. -/
def Control.ofShape (depth : Nat) (path : Path) (label : String) (repeated : Bool) :
    Shape → Control
  | .object fields =>
    if repeated then
      let entry := entryVariable depth
      .objectArray path label (.object (Default.entriesOf fields)) entry
        (controlsOf (depth + 1) (.under entry) fields)
    else .group label (controlsOf depth path fields)
  | shape =>
    if repeated then .valueArray path label shape.word
    else .input path label (InputKind.ofShape shape)

/-- The controls for fields, in order. -/
def controlsOf (depth : Nat) (parent : Path) : List Field → List Control
  | [] => []
  | ⟨name, _, repeated, shape⟩ :: rest =>
    Control.ofShape depth (parent.child name) name repeated shape :: controlsOf depth parent rest

end

end InterfaceGen
