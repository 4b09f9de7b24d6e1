import InterfaceGen.Json.Basic

/-!
# JSON numbers

A numeral is read digit by digit into the decimal it denotes. Numbers are meant to be held in
binary64, so a numeral too large for that format is refused. The test for size rounds twice: the
digits that fit a 64-bit word are rounded to binary64, and so is their product with the power of
ten that is left.
-/

namespace InterfaceGen.Json

/-- The digits of a numeral. -/
structure Numeral where
  negative : Bool
  whole : List Nat
  fraction : List Nat
  exponent : Int
  deriving DecidableEq, Repr

namespace Numeral

/-- The value of a digit. -/
def digit? (char : Char) : Option Nat :=
  if char.isDigit then some (char.toNat - '0'.toNat) else none

/-- The digits at the start of a text and the text after them. -/
def readDigits : List Char → List Nat × List Char
  | [] => ([], [])
  | char :: rest =>
    match digit? char with
    | none => ([], char :: rest)
    | some digit => (digit :: (readDigits rest).1, (readDigits rest).2)

/-- The number that a run of decimal digits writes. -/
def value (digits : List Nat) : Nat :=
  digits.foldl (fun sum digit => 10 * sum + digit) 0

/-- Reads the part after the decimal point, if there is a point: at least one digit. -/
def readFraction? : List Char → Option (List Nat × List Char)
  | '.' :: rest =>
    match readDigits rest with
    | ([], _) => none
    | (digits, rest) => some (digits, rest)
  | text => some ([], text)

/-- Reads digits as an exponent of the given sign: at least one digit. -/
def readSigned? (negative : Bool) (text : List Char) : Option (Int × List Char) :=
  match readDigits text with
  | ([], _) => none
  | (digits, rest) => some (if negative then -(value digits : Int) else value digits, rest)

/-- Reads the exponent, if there is one. -/
def readExponent? : List Char → Option (Int × List Char)
  | [] => some (0, [])
  | char :: rest =>
    if char = 'e' ∨ char = 'E' then
      match rest with
      | '-' :: rest => readSigned? true rest
      | '+' :: rest => readSigned? false rest
      | _ => readSigned? false rest
    else some (0, char :: rest)

/-- Reads a numeral after its sign. A whole part of several digits does not begin with a zero. -/
def readUnsigned? (negative : Bool) (text : List Char) : Option (Numeral × List Char) :=
  match readDigits text with
  | ([], _) | (0 :: _ :: _, _) => none
  | (whole, rest) =>
    match readFraction? rest with
    | none => none
    | some (fraction, rest) =>
      match readExponent? rest with
      | none => none
      | some (exponent, rest) => some (⟨negative, whole, fraction, exponent⟩, rest)

/-- Reads a numeral at the start of a text. -/
def read? : List Char → Option (Numeral × List Char)
  | '-' :: rest => readUnsigned? true rest
  | text => readUnsigned? false text

/-- The number that a numeral denotes. -/
def toDecimal (numeral : Numeral) : Decimal :=
  let magnitude := value (numeral.whole ++ numeral.fraction)
  ⟨if numeral.negative then -magnitude else magnitude, numeral.exponent - numeral.fraction.length⟩

/-- Adds digits to a number while it fits a 64-bit word. Gives the number and the digits left. -/
def fillWord (word : Nat) : List Nat → Nat × List Nat
  | [] => (word, [])
  | digit :: rest =>
    if 10 * word + digit < 2 ^ 64 then fillWord (10 * word + digit) rest
    else (word, digit :: rest)

/-- A number close to that of a numeral, up to its sign: the digits that fit a 64-bit word, first
of the whole part and then of the fraction, times the power of ten that is left. -/
def significand (numeral : Numeral) : Nat × Int :=
  let (wholeWord, wholeLeft) := fillWord 0 numeral.whole
  let (word, fractionLeft) := fillWord wholeWord numeral.fraction
  (word, wholeLeft.length - (numeral.fraction.length - fractionLeft.length : Nat) + numeral.exponent)

/-- The number that has at most 53 binary digits before its trailing zeros and is nearest to a
given one. Of two nearest ones it is the one whose 53rd digit is zero. -/
def roundToBinary (number : Nat) : Nat :=
  let unit := Nat.pow 2 (number.log2 - 52)
  let below := number / unit
  let excess := number % unit
  if unit < 2 * excess ∨ (unit = 2 * excess ∧ below % 2 = 1) then (below + 1) * unit
  else below * unit

/-- The least number that rounds past the largest finite number of binary64: it lies half a unit
above that number. -/
def overflow : Nat :=
  Nat.pow 2 1024 - Nat.pow 2 970

/-- Whether a numeral is not too large for binary64: the product of its rounded factors does not
overflow. -/
def inRange (numeral : Numeral) : Bool :=
  let (word, exponent) := numeral.significand
  word = 0 ∨ exponent < 0 ∨
    (exponent ≤ 308 ∧
      roundToBinary word * roundToBinary (Nat.pow 10 exponent.toNat) < overflow)

end Numeral

end InterfaceGen.Json
