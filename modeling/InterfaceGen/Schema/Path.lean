import InterfaceGen.Text.Lines

/-!
# Paths

A path leads to a field by the names on the way. It begins at the root of a schema, or at an
anchor: the name of something that is only known when a generated form runs, such as the path of
one entry of an array.
-/

namespace InterfaceGen

/-- The names on the way to a field. -/
structure Path where
  anchor : Option String
  segments : List String
  deriving DecidableEq, Repr

namespace Path

/-- The empty path at the root. -/
def root : Path := ⟨none, []⟩

/-- The empty path at an anchor. -/
def under (anchor : String) : Path := ⟨some anchor, []⟩

/-- The path one name further. -/
def child (path : Path) (name : String) : Path :=
  ⟨path.anchor, path.segments ++ [name]⟩

/-- Whether a path leads nowhere from the root. -/
def isEmpty (path : Path) : Bool :=
  path.anchor.isNone && path.segments.isEmpty

/-- The number of names on the way. -/
def depth (path : Path) : Nat :=
  path.segments.length

/-- The last name on the way. -/
def name? (path : Path) : Option String :=
  path.segments.getLast?

/-- The names on the way with dots between them. -/
def dotted (path : Path) : String :=
  Text.join "." path.segments

/-- The anchor, if there is one, and the names on the way with dots between them. -/
def text (path : Path) : String :=
  match path.anchor with
  | none => path.dotted
  | some anchor => if path.segments = [] then anchor else anchor ++ "." ++ path.dotted

end Path

end InterfaceGen
