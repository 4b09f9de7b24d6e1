/-!
# Positions in a text

Offsets into a text count the bytes of its UTF-8 form. Lines end at a newline, and a column
counts characters. Both start at one.
-/

namespace InterfaceGen.Text

/-- The number of bytes of a text in UTF-8. -/
def byteLength : List Char → Nat
  | [] => 0
  | char :: rest => char.utf8Size + byteLength rest

@[simp] theorem byteLength_append (left right : List Char) :
    byteLength (left ++ right) = byteLength left + byteLength right := by
  induction left with
  | nil => simp [byteLength]
  | cons char rest inductionHypothesis =>
      simp [byteLength, inductionHypothesis, Nat.add_assoc]

/-- The text from a byte offset on. An offset inside a character leaves what follows that
character, and an offset past the end leaves nothing. -/
def fromByte : Nat → List Char → List Char
  | _, [] => []
  | offset, char :: rest =>
    if offset = 0 then char :: rest else fromByte (offset - char.utf8Size) rest

/-- The text before a byte offset, where an offset past the end counts as the end. An offset
inside a character cuts no text. -/
def before? : Nat → List Char → Option (List Char)
  | _, [] => some []
  | offset, char :: rest =>
    if offset = 0 then some []
    else if offset < char.utf8Size then none
    else (before? (offset - char.utf8Size) rest).map (char :: ·)

/-- A line and a column, both counted from one. -/
structure Position where
  line : Nat
  column : Nat
  deriving DecidableEq, Repr

namespace Position

/-- The position of the first character of a text. -/
def start : Position := ⟨1, 1⟩

/-- The position after one more character. -/
def advance (position : Position) (char : Char) : Position :=
  if char = '\n' then ⟨position.line + 1, 1⟩ else ⟨position.line, position.column + 1⟩

/-- The position right after a text that begins at the start. -/
def after (text : List Char) : Position :=
  text.foldl advance start

/-- The position of a byte offset, unless the offset is inside a character. -/
def atByte? (text : List Char) (offset : Nat) : Option Position :=
  (before? offset text).map after

end Position

end InterfaceGen.Text
