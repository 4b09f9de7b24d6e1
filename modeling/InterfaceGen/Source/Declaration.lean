import InterfaceGen.Source.Braces
import InterfaceGen.Text.Blank
import InterfaceGen.Text.Name
import InterfaceGen.Text.Word

/-!
# Declarations

Finds the first declaration `interface Name {` or `type Name = {` in a text. Everything else in
the text, later declarations included, is left alone. When there is none, a line that declares a
name but stops before its brace tells where a brace is missing.
-/

namespace InterfaceGen.Source

open Text

/-- The text after a keyword that begins a declaration. -/
def afterKeyword? (text : List Char) : Option (List Char) :=
  match "interface".toList.isPrefixOf? text with
  | some rest => some rest
  | none => "type".toList.isPrefixOf? text

/-- The text without one equals sign at its start, if there is one. -/
def dropEquals : List Char → List Char
  | '=' :: rest => rest
  | text => text

/-- The start of a declaration up to its opening brace. -/
structure Opening where
  name : List Char
  /-- The text after the brace. -/
  inner : List Char
  deriving DecidableEq, Repr

namespace Opening

/-- Reads the name of an opening and what follows it: an equals sign or none, and the brace. Blanks
may stand on both sides of the equals sign. -/
def readName? (text : List Char) : Option Opening :=
  let name := text.takeWhile isNameChar
  if name = [] then none
  else
    match dropBlanks (dropEquals (dropBlanks (text.dropWhile isNameChar))) with
    | '{' :: inner => some ⟨name, inner⟩
    | _ => none

/-- Reads an opening at the start of a text: a keyword, at least one blank, and a name with what
follows it. -/
def read? (text : List Char) : Option Opening :=
  match afterKeyword? text with
  | some (blank :: rest) => if isBlank blank then readName? (dropBlanks rest) else none
  | _ => none

/-- The first opening in a text that begins at the start of a word. `inWord` tells whether the
character before the text belongs to a word. -/
def first? (inWord : Bool) : List Char → Option Opening
  | [] => none
  | char :: rest =>
    match if inWord then none else read? (char :: rest) with
    | some opening => some opening
    | none => first? (isWord char) rest

/-- The text before the opening brace. -/
def lead (opening : Opening) (text : List Char) : List Char :=
  text.take (text.length - (opening.inner.length + 1))

end Opening

/-- A line that declares a name and ends before the brace. -/
structure Header where
  name : List Char
  /-- The part of the line up to the end of the name. -/
  lead : List Char
  deriving DecidableEq, Repr

namespace Header

/-- The blanks that may stand within a header line. -/
def isGap (char : Char) : Bool :=
  char == ' ' || char == '\t'

/-- The text after a modifier and the gap that has to follow it, or the text itself. -/
def dropModifier (word text : List Char) : List Char :=
  match word.isPrefixOf? text with
  | some (char :: rest) => if isGap char then rest.dropWhile isGap else text
  | _ => text

/-- The name of a header and the text after it, given the text after the keyword: a gap, the name, an
equals sign or none, and a carriage return or none. -/
def readName? (text : List Char) : Option (List Char × List Char) :=
  match text with
  | [] => none
  | gap :: rest =>
    let named := rest.dropWhile isGap
    let name := named.takeWhile isNameChar
    let tail := named.dropWhile isNameChar
    if !isGap gap || name.isEmpty then none
    else
      match (dropEquals (tail.dropWhile isGap)).dropWhile isGap with
      | [] | ['\r'] => some (name, tail)
      | _ => none

/-- Reads a whole line as a header: `export` and `declare` if they are there, a keyword, and a name
with what follows it. -/
def read? (line : List Char) : Option Header :=
  let start := dropModifier "declare".toList (dropModifier "export".toList (line.dropWhile isGap))
  match afterKeyword? start with
  | none => none
  | some rest =>
    match readName? rest with
    | none => none
    | some (name, tail) => some ⟨name, line.take (line.length - tail.length)⟩

/-- The first header among the lines of a text, with the position just after its name. `line` is
the number of the text's first line. -/
def first? (line : Nat) : List (List Char) → Option (List Char × Position)
  | [] => none
  | text :: rest =>
    match read? text with
    | some header => some (header.name, ⟨line, header.lead.length + 1⟩)
    | none => first? (line + 1) rest

end Header

/-- A declaration with its braces matched. -/
structure Declaration where
  name : String
  /-- The text between the outer braces, trimmed. -/
  body : String
  /-- The byte offset of the opening brace. -/
  openBrace : Nat
  deriving DecidableEq, Repr

/-- Why a text has no declaration to use. -/
inductive SourceError where
  /-- Nothing in the text looks like a declaration. -/
  | noDeclaration
  /-- The first declaration stops before its brace; the position is just after the name. -/
  | missingOpenBrace (name : String) (position : Position)
  /-- The brace at the position is never closed. -/
  | unbalancedBraces (name : String) (position : Position)
  deriving DecidableEq, Repr

/-- The first declaration of a text. -/
def Declaration.first (text : String) : Except SourceError Declaration :=
  let text := text.toList
  match Opening.first? false text with
  | none =>
    match Header.first? 1 (text.splitOn '\n') with
    | none => .error .noDeclaration
    | some (name, position) => .error (.missingOpenBrace (String.ofList name) position)
  | some opening =>
    let name := String.ofList opening.name
    let lead := opening.lead text
    match splitClosing 1 opening.inner with
    | none => .error (.unbalancedBraces name (Position.after lead))
    | some (body, _) => .ok ⟨name, String.ofList (trim body), byteLength lead⟩

end InterfaceGen.Source
