import InterfaceGen.Json.Quoted
import InterfaceGen.Proofs.Text.Case
import InterfaceGen.Proofs.Text.Lines

/-!
# String literals read back

What is written for a character reads back as that character, so a literal reads back as its text.
A literal stays on its line, and a name stands in it as it is.
-/

namespace InterfaceGen.Json

open Text

/-- The four digits that are written for a control character have its value. -/
theorem hexValue?_control {code : Nat} (control : code < 0x20) :
    hexValue? ['0', '0', Nat.digitChar (code / 16), Nat.digitChar (code % 16)] = some code := by
  have all : ∀ code < 0x20,
      hexValue? ['0', '0', Nat.digitChar (code / 16), Nat.digitChar (code % 16)] = some code := by
    decide
  exact all code control

/-- A character reads back from what is written for it. -/
theorem readQuoted?_quoteChar_append (char : Char) (rest : List Char) :
    readQuoted? (quoteChar char ++ rest) =
      (readQuoted? rest).map fun (text, rest) => (char :: text, rest) := by
  unfold quoteChar
  split
  iterate 7 (simp [readQuoted?, shortEscape?])
  next quote backslash _ _ _ _ _ =>
    split
    · next control =>
        have plain : ¬ (0xD800 ≤ char.toNat ∧ char.toNat < 0xE000) := by omega
        simp [readQuoted?, hexValue?_control control, plain]
    · next visible =>
        rw [List.singleton_append, readQuoted?]
        · simp [visible]
        · exact quote
        · exact fun _ _ _ _ _ equal _ => backslash equal
        · exact fun _ _ equal _ => backslash equal

/-- The characters of a literal read back up to its closing quote. -/
theorem readQuoted?_flatMap_append (text rest : List Char) :
    readQuoted? (text.flatMap quoteChar ++ '"' :: rest) = some (text, rest) := by
  induction text with
  | nil => rfl
  | cons char tail inductionHypothesis =>
      rw [List.flatMap_cons, List.append_assoc, readQuoted?_quoteChar_append, inductionHypothesis]
      rfl

theorem toList_quote (text : String) :
    (quote text).toList = '"' :: (text.toList.flatMap quoteChar ++ ['"']) := by
  simp [quote]

/-- A newline is escaped. -/
theorem newline_not_mem_quoteChar (char : Char) : '\n' ∉ quoteChar char := by
  have control : ∀ code < 0x20, '\n' ∉
      ['\\', 'u', '0', '0', Nat.digitChar (code / 16), Nat.digitChar (code % 16)] := by
    decide
  unfold quoteChar
  split
  iterate 7 decide
  next _ _ _ _ newline _ _ =>
    split
    · next low => exact control char.toNat low
    · simpa using fun equal => newline equal.symm

/-- A character of a name stands in a literal as it is. -/
theorem quoteChar_of_isNameChar : ∀ char, isNameChar char = true → quoteChar char = [char] := by
  apply forall_isNameChar
  decide +kernel

/-- A text stands in its literal as it is if each of its characters does. -/
theorem toList_quote_of_plain {text : String}
    (plain : ∀ char ∈ text.toList, quoteChar char = [char]) :
    (quote text).toList = '"' :: (text.toList ++ ['"']) := by
  rw [toList_quote, List.flatMap_congr plain, List.flatMap_singleton']

theorem oneLine_quote (text : String) : OneLine (quote text) := by
  rw [OneLine, toList_quote]
  simp [newline_not_mem_quoteChar]

end InterfaceGen.Json
