import InterfaceGen.Text.Case

/-!
# Plurals

A rule of thumb for the English plural of a name: a final `y` after a consonant becomes `ies`; a
name that ends in `s`, `x`, `z`, `ch` or `sh` takes `es`; any other takes `s`. Letter case does not
matter to the rule, and the letters of the name keep theirs.
-/

namespace InterfaceGen

open Text

/-- How a name forms its plural. -/
inductive PluralEnding where
  | s
  | es
  /-- In place of the last letter. -/
  | ies
  deriving DecidableEq, Repr

/-- The vowels that keep a `y` behind them. -/
def isVowel (char : Char) : Bool :=
  char == 'a' || char == 'e' || char == 'i' || char == 'o' || char == 'u'

/-- The ending for a name, given its lower-case letters from the last to the first. -/
def PluralEnding.ofReversed : List Char → PluralEnding
  | 'y' :: before :: _ => if isVowel before then s else ies
  | 's' :: _ | 'x' :: _ | 'z' :: _ | 'h' :: 'c' :: _ | 'h' :: 's' :: _ => es
  | _ => s

/-- The letters of the plural of a name. -/
def pluralLetters (name : List Char) : List Char :=
  match PluralEnding.ofReversed (lower name).reverse with
  | .s => name ++ ['s']
  | .es => name ++ ['e', 's']
  | .ies => name.dropLast ++ ['i', 'e', 's']

/-- The plural of a name. -/
def plural (name : String) : String :=
  String.ofList (pluralLetters name.toList)

end InterfaceGen
