import InterfaceGen.Text.Position

/-!
# Matching braces

Braces are matched by nesting depth alone: nothing in the text, such as a quoted string or a
comment, hides a brace. A closing brace where none is open matches at once.
-/

namespace InterfaceGen.Source

open Text

/-- Splits a text at the brace that closes the last of `depth` open braces: the text before it
and the text after it. At depth zero the first opening brace begins the nesting. -/
def splitClosing (depth : Nat) : List Char → Option (List Char × List Char)
  | [] => none
  | char :: rest =>
    if char = '}' ∧ depth ≤ 1 then some ([], rest)
    else
      let inside := if char = '{' then depth + 1 else if char = '}' then depth - 1 else depth
      (splitClosing inside rest).map fun (before, after) => (char :: before, after)

/-- The two parts and the closing brace make up the text. -/
theorem eq_append_of_splitClosing {depth : Nat} {text before after : List Char}
    (split : splitClosing depth text = some (before, after)) :
    text = before ++ '}' :: after := by
  induction text generalizing depth before with
  | nil => simp [splitClosing] at split
  | cons char rest inductionHypothesis =>
      rw [splitClosing] at split
      split at split
      · simp_all
      · obtain ⟨⟨_, _⟩, inner, equal⟩ := Option.map_eq_some_iff.1 split
        obtain ⟨rfl, rfl⟩ := Prod.mk.inj equal
        simpa using inductionHypothesis inner

/-- The byte offset of the brace that closes the first brace at or after the offset `start`. If
that first brace is a closing one, it is the answer itself. -/
def closingBrace? (text : List Char) (start : Nat) : Option Nat :=
  let tail := fromByte start text
  (splitClosing 0 tail).map fun (before, _) =>
    byteLength text - byteLength tail + byteLength before

end InterfaceGen.Source
