import InterfaceGen.Form.Control

/-!
# The code of controls

The lines of a form component that show its controls. Input is bound by the path of its field: as
a literal where the path begins at the root, and as a template over the entry's variable where it
begins there. A path of the second kind is cast to a path of the record type when it is registered.
-/

namespace InterfaceGen

open Text TypeScript

namespace Path

/-- The expression for a path. -/
def expression (path : Path) : String :=
  match path.anchor with
  | none => quote path.dotted
  | some anchor =>
    if path.segments = [] then anchor else "`$\x7b" ++ anchor ++ "\x7d." ++ path.dotted ++ "`"

/-- The value of an attribute that holds a path. -/
def attributeValue (path : Path) : String :=
  if path.anchor.isSome then "\x7b" ++ path.expression ++ "\x7d" else path.expression

/-- Whether the path of an input is cast when it is registered. -/
def isCast (path : Path) : Bool :=
  path.anchor.isSome

end Path

/-- The type of an input element. -/
def InputKind.word : InputKind → String
  | text => "text"
  | number => "number"
  | checkbox => "checkbox"

/-- The call that registers an input. The value of a number input is registered as a number. -/
def registration (record : String) (path : Path) (kind : InputKind) : String :=
  let target :=
    if path.isCast then path.expression ++ " as Path<" ++ record ++ ">" else path.expression
  match kind with
  | .number => "register(" ++ target ++ ", \x7b valueAsNumber: true \x7d)"
  | _ => "register(" ++ target ++ ")"

mutual

/-- The lines of a control at a level, in the form for a record. -/
def Control.lines (record : String) (level : Nat) : Control → List String
  | .input path label kind =>
    let margin := indent level
    let error := "errorAt(errors, " ++ path.expression ++ ")"
    [margin ++ "<div className=\"field\">",
      margin ++ "  <label htmlFor=" ++ path.attributeValue ++ ">" ++ label ++ "</label>",
      margin ++ "  <input id=" ++ path.attributeValue ++ " type=\"" ++ kind.word ++ "\" \x7b..." ++
        registration record path kind ++ "\x7d />",
      margin ++ "  \x7b" ++ error ++ " && <p className=\"error\">\x7b" ++ error ++ "\x7d</p>\x7d",
      margin ++ "</div>"]
  | .group label controls =>
    let margin := indent level
    [margin ++ "<fieldset>", margin ++ "  <legend>" ++ label ++ "</legend>"] ++
      controlLines record (level + 1) controls ++ [margin ++ "</fieldset>"]
  | .valueArray path label item =>
    [indent level ++ "<PrimitiveArrayField name=" ++ path.attributeValue ++ " label=\"" ++ label ++
      "\" itemType=\"" ++ item ++ "\" control=\x7bcontrol\x7d " ++
      "register=\x7bregister as UseFormRegister<any>\x7d errors=\x7berrors\x7d />"]
  | .objectArray path label empty entry controls =>
    let margin := indent level
    [margin ++ "<ObjectArrayField",
      margin ++ "  name=" ++ path.attributeValue,
      margin ++ "  label=\"" ++ label ++ "\"",
      margin ++ "  control=\x7bcontrol\x7d",
      margin ++ "  errors=\x7berrors\x7d",
      margin ++ "  emptyItem=\x7b" ++ empty.print ++ "\x7d",
      margin ++ "  renderItem=\x7b(" ++ entry ++ ": string) => (",
      margin ++ "    <>"] ++
      controlLines record (level + 3) controls ++
      [margin ++ "    </>", margin ++ "  )\x7d", margin ++ "/>"]

/-- The lines of controls at a level, in order. -/
def controlLines (record : String) (level : Nat) : List Control → List String
  | [] => []
  | control :: rest => control.lines record level ++ controlLines record level rest

end

end InterfaceGen
