import InterfaceGen.Text.Printable

/-!
# Escaped text

Shows a text between double quotes on one line, so that each of its characters can be told: what
does not show as itself is written as an escape.
-/

namespace InterfaceGen.Text

/-- How a character is shown. -/
def escapeChar (char : Char) : List Char :=
  match char with
  | '"' => ['\\', '"']
  | '\\' => ['\\', '\\']
  | '\n' => ['\\', 'n']
  | '\r' => ['\\', 'r']
  | '\t' => ['\\', 't']
  | '\x00' => ['\\', '0']
  | _ =>
    if isPrintable char then [char]
    else ['\\', 'u', '{'] ++ Nat.toDigits 16 char.toNat ++ ['}']

/-- A text between double quotes, with escapes. -/
def escaped (text : String) : String :=
  String.ofList ('"' :: text.toList.flatMap escapeChar ++ ['"'])

end InterfaceGen.Text
