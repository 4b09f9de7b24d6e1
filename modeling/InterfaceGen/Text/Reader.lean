/-!
# Readers

A reader takes something from the start of a text. What it leaves is shorter than the text, so that
reading one thing after another comes to an end.
-/

namespace InterfaceGen.Text

/-- What a reader takes from the start of a text, and what it leaves. -/
structure Reading (α : Type) (text : List Char) where
  value : α
  rest : List Char
  shorter : rest.length < text.length

/-- Reads something at the start of a text, or fails. -/
abbrev Reader (α : Type) := (text : List Char) → Option (Reading α text)

namespace Reading

/-- Gives what was read another form. -/
def map {α β : Type} {text : List Char} (change : α → β) (reading : Reading α text) :
    Reading β text :=
  ⟨change reading.value, reading.rest, reading.shorter⟩

/-- Counts text that was left out first as read. -/
def widen {α : Type} {text tail : List Char} (reading : Reading α tail)
    (within : tail.length ≤ text.length) : Reading α text :=
  ⟨reading.value, reading.rest, Nat.lt_of_lt_of_le reading.shorter within⟩

end Reading

end InterfaceGen.Text
