import InterfaceGen.Text.Case

/-!
# Kebab case

Writes a name in lower case with a hyphen between its words. A word begins at a capital that
follows no capital, at the last of several capitals if a small letter follows it, and after
underscores.
-/

namespace InterfaceGen

open Text

/-- Whether a hyphen may follow what has been written so far, given its last character. -/
def allowsHyphen (written : Option Char) : Bool :=
  match written with
  | none => false
  | some last => last != '-'

/-- Whether a capital begins a word, given the character before it and the text after it. -/
def startsWord (previous : Option Char) (rest : List Char) : Bool :=
  !previous.any isUppercase || rest.head?.any isLowercase

/-- The kebab case of the rest of a name. `previous` is the character of the name before it, and
`written` the last character of what has been written for the name so far. -/
def kebabFrom (previous written : Option Char) : List Char → List Char
  | [] => []
  | char :: rest =>
    if char = '_' then
      if allowsHyphen written then '-' :: kebabFrom (some char) (some '-') rest
      else kebabFrom (some char) written rest
    else if isUppercase char then
      let letters := lowerChar char
      let hyphen := if allowsHyphen written && startsWord previous rest then ['-'] else []
      hyphen ++ letters ++ kebabFrom (some char) letters.getLast? rest
    else char :: kebabFrom (some char) (some char) rest

/-- A name in kebab case. -/
def kebab (name : String) : String :=
  String.ofList (kebabFrom none none name.toList)

end InterfaceGen
