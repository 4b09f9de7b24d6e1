import InterfaceGen.Form.Module
import InterfaceGen.Proofs.TypeScript.Tokens

/-!
# Reading forms

A reader of the code that shows the controls of a form. An element is read as a control only if all
that it consists of agrees: an input has to be labelled, registered and checked for errors under one
path, and its type has to fit how its value is registered. Any other code is refused.
-/

namespace InterfaceGen

open Text TypeScript

namespace Form

/-! ## Default values -/

/-- The default values without parts. -/
def scalars : List (String × Default) :=
  [("\"\"", .emptyText), ("0", .zero), ("false", .unchecked), ("[]", .emptyArray),
    ("\x7b\x7d", .object [])]

/-- What stands behind an entry of an object literal: a comma, after which there are more entries,
or the end of the object. -/
def separators : List (String × Bool) :=
  [(",", true), ("\x7d", false)]

mutual

/-- Reads a default value. -/
def literal : Reader Default := fun text =>
  match oneOf scalars text with
  | some ⟨value, rest, read⟩ => some ⟨value, rest, read⟩
  | none =>
    match token "\x7b" text with
    | none => none
    | some ⟨_, rest, opened⟩ =>
      match entries rest with
      | none => none
      | some ⟨entries, rest, read⟩ => some ⟨.object entries, rest, by omega⟩
termination_by text => text.length

/-- Reads the entries of an object literal and its end. -/
def entries : Reader (List (String × Default)) := fun text =>
  match key text with
  | none => none
  | some ⟨name, rest, named⟩ =>
    match token ":" rest with
    | none => none
    | some ⟨_, rest, separated⟩ =>
      match literal rest with
      | none => none
      | some ⟨value, rest, read⟩ =>
        match oneOf separators rest with
        | none => none
        | some ⟨false, rest, ended⟩ => some ⟨[(name, value)], rest, by omega⟩
        | some ⟨true, rest, ended⟩ =>
          match entries rest with
          | none => none
          | some ⟨others, rest, more⟩ => some ⟨(name, value) :: others, rest, by omega⟩
termination_by text => text.length

end

/-! ## Paths -/

/-- The characters that the names of a path and the dots between them are made of. -/
def isPathChar (char : Char) : Bool :=
  isNameChar char || char == '.'

/-- The names with dots between them that a text is made of. -/
def segments (dotted : List Char) : List String :=
  (dotted.splitOn '.').map String.ofList

/-- Reads a path that is written as a literal. It begins at the root. -/
def literalPath : Reader Path :=
  mapped (fun dotted => ⟨none, segments dotted.toList⟩) quoted

/-- Reads a path that is written as a template. It begins at a variable. -/
def templatePath : Reader Path :=
  taking fun text =>
    match "`$\x7b".toList.isPrefixOf? (dropBlanks text) with
    | none => none
    | some text =>
      match "\x7d.".toList.isPrefixOf? (text.dropWhile isNameChar) with
      | none => none
      | some dotted =>
        match "`".toList.isPrefixOf? (dotted.dropWhile isPathChar) with
        | none => none
        | some rest =>
          some (⟨some (String.ofList (text.takeWhile isNameChar)),
            segments (dotted.takeWhile isPathChar)⟩, rest)

/-- Reads a path where an expression is expected. -/
def path : Reader Path :=
  either literalPath templatePath

/-- Reads a path that is the value of an attribute. -/
def attributePath : Reader Path :=
  either literalPath
    (after (token "\x7b") fun _ => after templatePath fun path => closing "\x7d" path)

/-! ## Inputs -/

/-- How the registration of an input ends, and whether its value is a number. -/
def registrationEnds : List (String × Bool) :=
  [(", \x7b valueAsNumber: true \x7d)\x7d />", true), (")\x7d />", false)]

/-- Reads the path that an input is registered under, which may be cast to a path of a type, and
whether the value is a number. -/
def registered : Reader (Path × Bool) :=
  after path fun path =>
    either
      (after (token "as Path<") fun _ => after name fun _ => after (token ">") fun _ =>
        mapped (path, ·) (oneOf registrationEnds))
      (mapped (path, ·) (oneOf registrationEnds))

/-- The types of input. -/
def inputTypes : List (String × InputKind) :=
  [("type=\"text\"", .text), ("type=\"number\"", .number), ("type=\"checkbox\"", .checkbox)]

/-- Reads a label with the path of its input. -/
def label : Reader (Path × String) :=
  after (token "<label htmlFor=") fun _ => after attributePath fun path =>
    after (token ">") fun _ => after name fun label => closing "</label>" (path, label)

/-- Reads the input element of a path. It has to be registered under that path, and as a number only
if it is one. -/
def inputElement (path : Path) : Reader InputKind :=
  after (token "<input id=") fun _ => after (expecting path attributePath) fun _ =>
    after (oneOf inputTypes) fun kind => after (token "\x7b...register(") fun _ =>
      mapped (fun _ => kind) (expecting (path, kind == .number) registered)

/-- Reads how the error of a path is shown. -/
def errorMessage (path : Path) : Reader Unit :=
  after (token "\x7berrorAt(errors,") fun _ => after (expecting path Form.path) fun _ =>
    after (token ") && <p className=\"error\">\x7berrorAt(errors,") fun _ =>
      after (expecting path Form.path) fun _ => token ")\x7d</p>\x7d"

/-- Reads an input with its label and its error. -/
def input : Reader Control :=
  after (token "<div className=\"field\">") fun _ => after label fun (path, label) =>
    after (inputElement path) fun kind => after (errorMessage path) fun _ =>
      closing "</div>" (.input path label kind)

/-! ## Controls -/

/-- Reads how a group begins, up to its label. -/
def groupStart : Reader String :=
  after (token "<fieldset>") fun _ => after (token "<legend>") fun _ => after name fun label =>
    closing "</legend>" label

/-- The types of the items of a list of single values. -/
def itemTypes : List (String × String) :=
  [("itemType=\"string\"", "string"), ("itemType=\"number\"", "number"),
    ("itemType=\"boolean\"", "boolean"), ("itemType=\"unknown\"", "unknown")]

/-- Reads the path and the label of an array. -/
def arrayName : Reader (Path × String) :=
  after (token "name=") fun _ => after attributePath fun path => after (token "label=\"") fun _ =>
    after name fun label => closing "\"" (path, label)

/-- Reads a list of single values. -/
def valueArray : Reader Control :=
  after (token "<PrimitiveArrayField") fun _ => after arrayName fun (path, label) =>
    after (oneOf itemTypes) fun item =>
      after (token "control=\x7bcontrol\x7d") fun _ =>
        after (token "register=\x7bregister as UseFormRegister<any>\x7d") fun _ =>
          closing "errors=\x7berrors\x7d />" (.valueArray path label item)

/-- How a list of objects begins. -/
structure ObjectArrayStart where
  path : Path
  label : String
  /-- What a new entry holds. -/
  empty : Default
  /-- The variable for the path of an entry. -/
  entry : String

/-- Reads how a list of objects begins, up to the controls of an entry. -/
def objectArrayStart : Reader ObjectArrayStart :=
  after (token "<ObjectArrayField") fun _ => after arrayName fun (path, label) =>
    after (token "control=\x7bcontrol\x7d") fun _ => after (token "errors=\x7berrors\x7d") fun _ =>
      after (token "emptyItem=\x7b") fun _ => after literal fun empty =>
        after (token "\x7d") fun _ => after (token "renderItem=\x7b(") fun _ =>
          after name fun entry => after (token ": string) => (") fun _ =>
            closing "<>" ⟨path, label, empty, entry⟩

/-- Reads how a list of objects ends. -/
def objectArrayEnd : Reader Unit :=
  after (token ")\x7d") fun _ => token "/>"

mutual

/-- Reads a control. -/
def control : Reader Control := fun text =>
  match groupStart text with
  | some ⟨label, rest, opened⟩ =>
    match controlsUpTo "</fieldset>" rest with
    | none => none
    | some ⟨controls, rest, closed⟩ => some ⟨.group label controls, rest, by omega⟩
  | none =>
    match objectArrayStart text with
    | some ⟨start, rest, opened⟩ =>
      match controlsUpTo "</>" rest with
      | none => none
      | some ⟨controls, rest, read⟩ =>
        match objectArrayEnd rest with
        | none => none
        | some ⟨_, rest, closed⟩ =>
          some ⟨.objectArray start.path start.label start.empty start.entry controls, rest,
            by omega⟩
    | none => either input valueArray text
termination_by text => (text.length, 0)

/-- Reads controls up to a word. -/
def controlsUpTo (close : String) : Reader (List Control) := fun text =>
  match token close text with
  | some ⟨_, rest, closed⟩ => some ⟨[], rest, closed⟩
  | none =>
    match control text with
    | none => none
    | some ⟨first, rest, read⟩ =>
      match controlsUpTo close rest with
      | none => none
      | some ⟨others, rest, more⟩ => some ⟨first :: others, rest, by omega⟩
termination_by text => (text.length, 1)

end

/-! ## The form -/

/-- The characters of plain text in an element. -/
def isTextChar (char : Char) : Bool :=
  char != '<' && char != '>' && char != '{' && char != '}'

/-- Reads plain text up to the end of its element. -/
def caption (close : String) : Reader Unit :=
  taking fun text => (close.toList.isPrefixOf? (text.dropWhile isTextChar)).map ((), ·)

/-- Reads what a form holds: its title, its controls and its submit button. -/
def contents : Reader (List Control) :=
  after (token "<h2>") fun _ => after name fun _ => after (token "</h2>") fun _ =>
    after (controlsUpTo "<button type=\"submit\">") fun controls =>
      after (caption "</button>") fun _ => closing "</form>" controls

/-- The line that a form begins with. -/
def opening : String :=
  "    <form onSubmit=\x7bhandleSubmit(onSubmit)\x7d>"

/-- The controls of the form in the text of a form module. -/
def controls? (text : String) : Option (List Control) :=
  (behindLine? opening.toList text.toList).bind fun body => (contents body).map (·.value)

/-- Reads the title of a form and its controls up to the submit button, whatever its text is. -/
def titledControls : Reader (List Control) :=
  after (token "<h2>") fun _ => after name fun _ => after (token "</h2>") fun _ =>
    controlsUpTo "<button type=\"submit\">"

/-- The controls before the submit button of the form in the text of a form module. -/
def shownControls? (text : String) : Option (List Control) :=
  (behindLine? opening.toList text.toList).bind fun body => (titledControls body).map (·.value)

end Form

end InterfaceGen
