import InterfaceGen.Json.Numeral
import InterfaceGen.Json.Quoted
import InterfaceGen.Text.Reader

/-!
# Reading JSON

Reads the text of a JSON document. The reader takes nothing but the format: no comments, no comma
before a closing bracket, no mark before the text. Numbers have to fit binary64, and arrays and
objects may be nested up to a given depth.
-/

namespace InterfaceGen.Json

open Text

/-- The blanks that may stand between the parts of a document. -/
def isSpace (char : Char) : Bool :=
  char == ' ' || char == '\t' || char == '\n' || char == '\r'

/-- The text without the spaces at its start. -/
def dropSpaces (text : List Char) : List Char :=
  text.dropWhile isSpace

theorem length_dropSpaces_le (text : List Char) : (dropSpaces text).length ≤ text.length :=
  (List.dropWhile_sublist isSpace).length_le

/-- Reads with spaces allowed first. -/
def afterSpaces {α : Type} (reader : Reader α) : Reader α := fun text =>
  (reader (dropSpaces text)).map (·.widen (length_dropSpaces_le text))

/-- Reads one character, with spaces allowed before it. -/
def symbol (expected : Char) : Reader Unit := fun text =>
  match spaces : dropSpaces text with
  | [] => none
  | char :: rest =>
    if char = expected then
      some ⟨(), rest, by
        have := length_dropSpaces_le text
        rw [spaces, List.length_cons] at this
        omega⟩
    else none

/-- Reads the items of a list, separated by commas, and the bracket that closes it. There is at
least one item. -/
def items {α : Type} (close : Char) (item : Reader α) : Reader (List α) := fun text =>
  match afterSpaces item text with
  | none => none
  | some ⟨first, rest, shorter⟩ =>
    match symbol close rest with
    | some ⟨_, rest, last⟩ => some ⟨[first], rest, by omega⟩
    | none =>
      match symbol ',' rest with
      | none => none
      | some ⟨_, rest, separated⟩ =>
        match items close item rest with
        | none => none
        | some ⟨others, rest, more⟩ => some ⟨first :: others, rest, by omega⟩
termination_by text => text.length

/-- Reads a list after its opening bracket. -/
def list {α : Type} (close : Char) (item : Reader α) : Reader (List α) := fun text =>
  match symbol close text with
  | some ⟨_, rest, shorter⟩ => some ⟨[], rest, shorter⟩
  | none => items close item text

/-- Reads a string literal. -/
def stringLiteral : Reader String
  | '"' :: tail =>
    match read : readQuoted? tail with
    | none => none
    | some (text, rest) =>
      some ⟨String.ofList text, rest, Nat.lt_succ_of_lt (length_lt_of_readQuoted? read)⟩
  | _ => none

/-- Reads a member of an object: its name, a colon and its value. -/
def member {α : Type} (value : Reader α) : Reader (String × α) := fun text =>
  match stringLiteral text with
  | none => none
  | some ⟨name, rest, named⟩ =>
    match symbol ':' rest with
    | none => none
    | some ⟨_, rest, separated⟩ =>
      match afterSpaces value rest with
      | none => none
      | some ⟨value, rest, read⟩ => some ⟨(name, value), rest, by omega⟩

/-- Reads a word that stands for a value. -/
def keyword (word : List Char) (value : Json) : Reader Json := fun text =>
  match word.isPrefixOf? text with
  | none => none
  | some rest => if shorter : rest.length < text.length then some ⟨value, rest, shorter⟩ else none

/-- Reads a number. -/
def numeral : Reader Json := fun text =>
  match Numeral.read? text with
  | none => none
  | some (numeral, rest) =>
    if shorter : rest.length < text.length then
      if numeral.inRange then some ⟨.number numeral.toDecimal, rest, shorter⟩ else none
    else none

/-- Reads a value that is no array and no object. -/
def scalar : Reader Json := fun text =>
  ((stringLiteral text).map (·.map .string)) <|> keyword "null".toList .null text <|>
    keyword "true".toList (.bool true) text <|> keyword "false".toList (.bool false) text <|>
    numeral text

/-- Reads a value that nests arrays and objects up to a depth. -/
def value : (depth : Nat) → Reader Json
  | depth + 1, '[' :: rest =>
    (list ']' (value depth) rest).map fun items => (items.map .array).widen (by simp)
  | depth + 1, '{' :: rest =>
    (list '}' (member (value depth)) rest).map fun members =>
      (members.map .object).widen (by simp)
  | _, text => scalar text

/-- The value of a document, which holds one value and nothing else, nested up to a depth. -/
def parse? (depth : Nat) (text : String) : Option Json :=
  match afterSpaces (value depth) text.toList with
  | none => none
  | some reading => if dropSpaces reading.rest = [] then some reading.value else none

end InterfaceGen.Json
