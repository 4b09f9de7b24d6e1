import InterfaceGen.Proofs.Text.Blanks
import InterfaceGen.Text.Case

/-!
# Letter case of names

The characters of names are among the first 128. There the tables of letter case hold the letters
from A to Z alone, and a lower-case form is a single character.
-/

namespace InterfaceGen.Text

/-- Whether a character is a small letter or a digit. -/
def isSmall (char : Char) : Bool :=
  char.isLower || char.isDigit

/-- A law of the characters of names is checked among the first 128 characters. -/
theorem forall_isNameChar {law : Char → Prop}
    (each : ∀ code < 128, isNameChar (Char.ofNat code) = true → law (Char.ofNat code)) :
    ∀ char, isNameChar char = true → law char := by
  intro char named
  have ascii : char.toNat < 128 := by
    rw [isNameChar_iff] at named
    omega
  rw [← Char.ofNat_toNat char] at named ⊢
  exact each char.toNat ascii named

/-- The capitals of names are those from A to Z. -/
theorem isUppercase_of_isNameChar :
    ∀ char, isNameChar char = true → isUppercase char = char.isUpper := by
  apply forall_isNameChar
  decide +kernel

/-- The lower-case form of a character of a name is one character. -/
theorem lowerChar_of_isNameChar :
    ∀ char, isNameChar char = true → lowerChar char = [char.toLower] := by
  apply forall_isNameChar
  decide +kernel

/-- Small letters and digits are the lower-case forms of characters of names other than the
underscore. -/
theorem isSmall_toLower :
    ∀ char, isNameChar char = true → char ≠ '_' → isSmall char.toLower = true := by
  apply forall_isNameChar
  decide +kernel

theorem isNameChar_of_isSmall {char : Char} (small : isSmall char = true) :
    isNameChar char = true := by
  change (((char.isUpper || char.isLower) || char.isDigit) || char == '_') = true
  obtain letter | digit := Bool.or_eq_true_iff.1 small
  · simp [letter]
  · simp [digit]

theorem isUppercase_of_isSmall {char : Char} (small : isSmall char = true) :
    isUppercase char = false := by
  have each : ∀ char, isNameChar char = true → isSmall char = true → char.isUpper = false := by
    apply forall_isNameChar
    decide +kernel
  have named := isNameChar_of_isSmall small
  rw [isUppercase_of_isNameChar char named, each char named small]

theorem ne_of_isSmall {char : Char} (small : isSmall char = true) : char ≠ '_' ∧ char ≠ '-' := by
  constructor <;> rintro rfl <;> exact absurd small (by decide)

theorem toLower_of_not_isUpper {char : Char} (small : char.isUpper = false) :
    char.toLower = char :=
  dif_neg (of_decide_eq_false small)

end InterfaceGen.Text
