import InterfaceGen.Text.Reader

/-!
# What a reader reads

A reader is described by what it takes from the front of a text and what it leaves, apart from the
proof that it takes something.
-/

namespace InterfaceGen.Text

/-- A reader takes a value from the front of a text and leaves the rest. -/
def Reads {α : Type} (reader : Reader α) (text : List Char) (value : α)
    (rest : List Char) : Prop :=
  ∃ shorter, reader text = some ⟨value, rest, shorter⟩

theorem Reads.shorter {α : Type} {reader : Reader α} {text rest : List Char} {value : α}
    (reads : Reads reader text value rest) : rest.length < text.length :=
  reads.elim fun shorter _ => shorter

/-- What a reader gives, as an equation that rewrites a call of it. -/
theorem Reads.eq {α : Type} {reader : Reader α} {text rest : List Char} {value : α}
    (reads : Reads reader text value rest) : reader text = some ⟨value, rest, reads.shorter⟩ :=
  reads.elim fun _ read => read

end InterfaceGen.Text
