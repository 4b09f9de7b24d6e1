import InterfaceGen.Schema.Basic
import InterfaceGen.Source.Braces
import InterfaceGen.Text.Blank
import InterfaceGen.Text.Name

/-!
# Reading fields

The body of a declaration is read as a list of fields. Reading never fails: text at which no field
begins is skipped to the end of its line, and a type that is not understood is unknown.
-/

namespace InterfaceGen

open Text Source

/-- What comes before a field's type: its name, a mark if it may be left out, and a colon. -/
structure FieldHead where
  name : List Char
  required : Bool
  deriving DecidableEq, Repr

/-- Reads a head at the start of a text. Blanks may stand before the mark and the colon. -/
def FieldHead.read? (text : List Char) : Option (FieldHead × List Char) :=
  let name := text.takeWhile isNameChar
  if name = [] then none
  else
    match dropBlanks (text.dropWhile isNameChar) with
    | ':' :: rest => some (⟨name, true⟩, rest)
    | '?' :: rest =>
      match dropBlanks rest with
      | ':' :: rest => some (⟨name, false⟩, rest)
      | _ => none
    | _ => none

/-- A head takes characters from the text. -/
theorem FieldHead.length_lt_of_read? {text rest : List Char} {head : FieldHead}
    (read : FieldHead.read? text = some (head, rest)) : rest.length < text.length := by
  have afterName : (text.dropWhile isNameChar).length ≤ text.length :=
    (List.dropWhile_sublist isNameChar).length_le
  have afterBlanks := length_dropBlanks_le (text.dropWhile isNameChar)
  simp only [FieldHead.read?] at read
  split at read
  · contradiction
  · split at read
    · next colon =>
        obtain ⟨rfl, rfl⟩ : _ ∧ _ = rest := by simpa using read
        rw [colon, List.length_cons] at afterBlanks
        omega
    · next tail mark =>
        have afterMark := length_dropBlanks_le tail
        rw [mark, List.length_cons] at afterBlanks
        split at read
        · next colon =>
            obtain ⟨rfl, rfl⟩ : _ ∧ _ = rest := by simpa using read
            rw [colon, List.length_cons] at afterMark
            omega
        · contradiction
    · contradiction

/-- The type that a token names, as whether it is an array and of which shape. The six tokens are
taken as they stand; all else is unknown. -/
def classify (token : List Char) : Bool × Shape :=
  if token = "string".toList then (false, .string)
  else if token = "number".toList then (false, .number)
  else if token = "boolean".toList then (false, .boolean)
  else if token = "string[]".toList then (true, .string)
  else if token = "number[]".toList then (true, .number)
  else if token = "boolean[]".toList then (true, .boolean)
  else (false, .unknown)

/-- Whether a character ends a type token. -/
def endsToken (char : Char) : Bool :=
  char == ';' || char == '\n'

/-- The text after its first newline, if it has one. -/
def afterLine? : List Char → Option (List Char)
  | [] => none
  | char :: rest => if char = '\n' then some rest else afterLine? rest

theorem length_lt_of_afterLine? {text rest : List Char} (line : afterLine? text = some rest) :
    rest.length < text.length := by
  induction text with
  | nil => simp [afterLine?] at line
  | cons char tail inductionHypothesis =>
      rw [afterLine?] at line
      split at line
      · simp_all
      · exact Nat.lt_succ_of_lt (inductionHypothesis line)

/-- The text after an array mark, which blanks may precede. -/
def afterArrayMark? (text : List Char) : Option (List Char) :=
  match dropBlanks text with
  | '[' :: ']' :: rest => some rest
  | _ => none

theorem length_lt_of_afterArrayMark? {text rest : List Char}
    (mark : afterArrayMark? text = some rest) : rest.length < text.length := by
  have shorter := length_dropBlanks_le text
  rw [afterArrayMark?] at mark
  split at mark
  · next brackets =>
      rw [brackets, List.length_cons, List.length_cons] at shorter
      obtain rfl := Option.some.inj mark
      omega
  · contradiction

/-- What stands at the front of a body, with the text that follows it. -/
inductive Piece where
  /-- A line at which no field begins. -/
  | skipped (rest : List Char)
  /-- A field whose type is a token. -/
  | leaf (head : FieldHead) (token rest : List Char)
  /-- A field whose type is an object, given by the text between its braces, or an array of such. -/
  | object (head : FieldHead) (repeated : Bool) (body rest : List Char)

namespace Piece

/-- The text after a piece. -/
def rest : Piece → List Char
  | skipped rest => rest
  | leaf _ _ rest => rest
  | object _ _ _ rest => rest

/-- Reads the type after a head. An object takes its text up to the matching brace, or all that is
left if there is none. Any other type ends at a semicolon or with its line. -/
def ofType (head : FieldHead) (text : List Char) : Piece :=
  match dropBlanks text with
  | '{' :: inner =>
    match splitClosing 1 inner with
    | none => object head false inner []
    | some (body, after) =>
      match afterArrayMark? after with
      | some rest => object head true body rest
      | none => object head false body after
  | token =>
    leaf head (trim (token.takeWhile (!endsToken ·))) ((token.dropWhile (!endsToken ·)).drop 1)

/-- Reads the piece at the front of a body. There is none if the last line begins no field. -/
def read? (text : List Char) : Option Piece :=
  let line := dropBlanks text
  match FieldHead.read? line with
  | some (head, rest) => some (ofType head rest)
  | none => (afterLine? line).map skipped

theorem length_rest_ofType_le (head : FieldHead) (text : List Char) :
    (ofType head text).rest.length ≤ text.length := by
  have blanks := length_dropBlanks_le text
  rw [ofType]
  split
  · next inner opened =>
      rw [opened, List.length_cons] at blanks
      split
      · simp [rest]
      · next body after closed =>
          rw [eq_append_of_splitClosing closed] at blanks
          simp only [List.length_append, List.length_cons] at blanks
          split
          · next mark =>
              have := length_lt_of_afterArrayMark? mark
              simp only [rest]
              omega
          · simp only [rest]
            omega
  · have token : ((dropBlanks text).dropWhile (!endsToken ·)).length ≤ (dropBlanks text).length :=
      (List.dropWhile_sublist _).length_le
    simp only [rest, List.length_drop]
    omega

theorem length_body_of_ofType {head field : FieldHead} {repeated : Bool}
    {text body after : List Char} (object : ofType head text = object field repeated body after) :
    body.length ≤ text.length := by
  have blanks := length_dropBlanks_le text
  rw [ofType] at object
  split at object
  · next inner opened =>
      rw [opened, List.length_cons] at blanks
      split at object
      · cases object
        omega
      · next before _ closed =>
          rw [eq_append_of_splitClosing closed] at blanks
          simp only [List.length_append, List.length_cons] at blanks
          split at object <;> cases object <;> omega
  · cases object

/-- A piece takes characters from the text. -/
theorem length_rest_lt_of_read? {text : List Char} {piece : Piece} (read : read? text = some piece) :
    piece.rest.length < text.length := by
  have blanks := length_dropBlanks_le text
  simp only [read?] at read
  split at read
  · next head tail start =>
      have := FieldHead.length_lt_of_read? start
      have := length_rest_ofType_le head tail
      obtain rfl := Option.some.inj read
      omega
  · obtain ⟨tail, line, rfl⟩ := Option.map_eq_some_iff.1 read
    have := length_lt_of_afterLine? line
    simp only [rest]
    omega

/-- The text between the braces of a piece is shorter than the text that the piece begins. -/
theorem length_body_lt_of_read? {text body after : List Char} {head : FieldHead} {repeated : Bool}
    (read : read? text = some (object head repeated body after)) : body.length < text.length := by
  have blanks := length_dropBlanks_le text
  simp only [read?] at read
  split at read
  · next start =>
      have := FieldHead.length_lt_of_read? start
      have := length_body_of_ofType (Option.some.inj read)
      omega
  · obtain ⟨_, _, differ⟩ := Option.map_eq_some_iff.1 read
    cases differ

end Piece

/-- The field that a head and a type declare. -/
def FieldHead.declare (head : FieldHead) (repeated : Bool) (shape : Shape) : Field :=
  ⟨String.ofList head.name, head.required, repeated, shape⟩

/-- The fields that a text declares, in order. -/
def Field.parseBody (text : List Char) : List Field :=
  match _ : Piece.read? text with
  | none => []
  | some (.skipped rest) => parseBody rest
  | some (.leaf head token rest) =>
    head.declare (classify token).1 (classify token).2 :: parseBody rest
  | some (.object head repeated body rest) =>
    head.declare repeated (.object (parseBody body)) :: parseBody rest
termination_by text.length
decreasing_by
  · exact Piece.length_rest_lt_of_read? (by assumption)
  · exact Piece.length_rest_lt_of_read? (by assumption)
  · exact Piece.length_body_lt_of_read? (by assumption)
  · exact Piece.length_rest_lt_of_read? (by assumption)

end InterfaceGen
