/-!
# JSON strings

A string literal stands between double quotes. `quote` writes one with as few escapes as the
format allows; `readQuoted?` reads every literal, so that it reads back what `quote` writes.
-/

namespace InterfaceGen.Json

/-- The character that a short escape stands for. -/
def shortEscape? : Char → Option Char
  | '"' => some '"'
  | '\\' => some '\\'
  | '/' => some '/'
  | 'b' => some '\x08'
  | 'f' => some '\x0c'
  | 'n' => some '\n'
  | 'r' => some '\r'
  | 't' => some '\t'
  | _ => none

/-- How a character is written in a literal: quotes, backslashes and control characters are
escaped. -/
def quoteChar (char : Char) : List Char :=
  match char with
  | '"' => ['\\', '"']
  | '\\' => ['\\', '\\']
  | '\x08' => ['\\', 'b']
  | '\x0c' => ['\\', 'f']
  | '\n' => ['\\', 'n']
  | '\r' => ['\\', 'r']
  | '\t' => ['\\', 't']
  | _ =>
    if char.toNat < 0x20 then
      ['\\', 'u', '0', '0', Nat.digitChar (char.toNat / 16), Nat.digitChar (char.toNat % 16)]
    else [char]

/-- The literal of a text. -/
def quote (text : String) : String :=
  String.ofList ('"' :: text.toList.flatMap quoteChar ++ ['"'])

/-- The value of a hexadecimal digit. -/
def hexDigit? (char : Char) : Option Nat :=
  if '0' ≤ char ∧ char ≤ '9' then some (char.toNat - '0'.toNat)
  else if 'a' ≤ char ∧ char ≤ 'f' then some (char.toNat - 'a'.toNat + 10)
  else if 'A' ≤ char ∧ char ≤ 'F' then some (char.toNat - 'A'.toNat + 10)
  else none

/-- The value of a run of hexadecimal digits. -/
def hexValue? (digits : List Char) : Option Nat :=
  digits.foldl (fun value digit => do return 16 * (← value) + (← hexDigit? digit)) (some 0)

/-- The character that two code units of UTF-16 make, the first being a leading and the second a
trailing surrogate. -/
def joinSurrogates? (leading trailing : Nat) : Option Char :=
  if 0xD800 ≤ leading ∧ leading < 0xDC00 ∧ 0xDC00 ≤ trailing ∧ trailing < 0xE000 then
    some (Char.ofNat (0x10000 + (leading - 0xD800) * 0x400 + (trailing - 0xDC00)))
  else none

/-- Reads a literal after its opening quote up to its closing quote. Control characters have to be
escaped, and so does a character outside the basic plane that is written by code units: as its
two surrogates in their order. -/
def readQuoted? : List Char → Option (List Char × List Char)
  | [] => none
  | '"' :: rest => some ([], rest)
  | '\\' :: 'u' :: a :: b :: c :: d :: rest =>
    match hexValue? [a, b, c, d] with
    | none => none
    | some unit =>
      if 0xD800 ≤ unit ∧ unit < 0xE000 then
        match rest with
        | '\\' :: 'u' :: e :: f :: g :: h :: rest =>
          match hexValue? [e, f, g, h] with
          | none => none
          | some second =>
            match joinSurrogates? unit second with
            | none => none
            | some char => (readQuoted? rest).map fun (text, rest) => (char :: text, rest)
        | _ => none
      else (readQuoted? rest).map fun (text, rest) => (Char.ofNat unit :: text, rest)
  | '\\' :: escape :: rest =>
    match shortEscape? escape with
    | none => none
    | some char => (readQuoted? rest).map fun (text, rest) => (char :: text, rest)
  | char :: rest =>
    if char.toNat < 0x20 then none
    else (readQuoted? rest).map fun (text, rest) => (char :: text, rest)

/-- A literal takes characters from the text. -/
theorem length_lt_of_readQuoted? {text value rest : List Char}
    (read : readQuoted? text = some (value, rest)) : rest.length < text.length := by
  fun_induction readQuoted? text generalizing value <;>
    simp only [reduceCtorEq, Option.some.injEq, Prod.mk.injEq, Option.map_eq_some_iff,
      Prod.exists] at read
  all_goals simp only [List.length_cons]
  case case2 =>
    rw [read.2]
    omega
  all_goals
    rename_i inductionHypothesis
    obtain ⟨_, _, inner, _, rfl⟩ := read
    have := inductionHypothesis inner
    omega

end InterfaceGen.Json
