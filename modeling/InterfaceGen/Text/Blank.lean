/-!
# Blanks

A blank is a character with the Unicode property White_Space. The newline is one of them.
-/

namespace InterfaceGen.Text

/-- Membership in the Unicode property White_Space. -/
def isBlank (char : Char) : Bool :=
  let code := char.toNat
  (0x9 ≤ code && code ≤ 0xD) || code == 0x20 || code == 0x85 || code == 0xA0 ||
    code == 0x1680 || (0x2000 ≤ code && code ≤ 0x200A) || code == 0x2028 || code == 0x2029 ||
    code == 0x202F || code == 0x205F || code == 0x3000

/-- The text from its first character on that is no blank. -/
def dropBlanks (text : List Char) : List Char :=
  text.dropWhile isBlank

/-- The text up to its last character that is no blank. -/
def dropBlanksRight (text : List Char) : List Char :=
  (text.reverse.dropWhile isBlank).reverse

/-- The text without the blanks at its two ends. -/
def trim (text : List Char) : List Char :=
  dropBlanksRight (dropBlanks text)

theorem length_dropBlanks_le (text : List Char) : (dropBlanks text).length ≤ text.length :=
  (List.dropWhile_sublist isBlank).length_le

end InterfaceGen.Text
