import InterfaceGen.Naming.Plural
import InterfaceGen.Proofs.Text.Case
import InterfaceGen.Proofs.Text.Lowering

/-!
# The plural of a name

A plural ends in a small `s`, behind letters of the name or small ones. A name gives up its last
letter for `ies` exactly if its lower case ends in a `y` that no vowel precedes, and this letter is
one of the two letters Y. Any other plural is the whole name with an ending.
-/

namespace InterfaceGen

open Text

/-! ## Endings -/

/-- A text that ends in a `y` behind a character that is no vowel. -/
def EndsInConsonantY (text : List Char) : Prop :=
  ∃ front before, text = front ++ [before, 'y'] ∧ before ∉ ['a', 'e', 'i', 'o', 'u']

theorem isVowel_eq_false_iff {char : Char} :
    isVowel char = false ↔ char ∉ ['a', 'e', 'i', 'o', 'u'] := by
  simp [isVowel, and_assoc]

theorem isVowel_unfinal (char : Char) : isVowel (unfinal char) = isVowel char := by
  rw [Bool.eq_iff_iff]
  simp [isVowel, unfinal_eq_iff]

namespace PluralEnding

/-- Only a final `y` behind a character that is no vowel is given up for an ending. -/
theorem ofReversed_eq_ies_iff {text : List Char} :
    ofReversed text.reverse = .ies ↔ EndsInConsonantY text := by
  constructor
  · intro ies
    unfold ofReversed at ies
    split at ies
    · next before front letters =>
        split at ies
        · cases ies
        · next consonant =>
            refine ⟨front.reverse, before, ?_, isVowel_eq_false_iff.1 (by simpa using consonant)⟩
            rw [← text.reverse_reverse, letters]
            simp
    all_goals cases ies
  · rintro ⟨front, before, rfl, consonant⟩
    simp [ofReversed, isVowel_eq_false_iff.2 consonant]

theorem ofReversed_singleton (last : Char) :
    ofReversed [last] = if last ∈ ['s', 'x', 'z'] then es else s := by
  unfold ofReversed
  split <;> simp_all

/-- An ending is chosen by the last letter and the one before it. -/
theorem ofReversed_cons_cons (last before : Char) (front : List Char) :
    ofReversed (last :: before :: front) =
      if last = 'y' then if isVowel before then s else ies
      else if last ∈ ['s', 'x', 'z'] ∨ last = 'h' ∧ before ∈ ['c', 's'] then es
      else s := by
  unfold ofReversed
  split <;> simp_all

/-- Neither small sigma is a letter that an ending is chosen by. -/
theorem ofReversed_map_unfinal (letters : List Char) :
    ofReversed (letters.map unfinal) = ofReversed letters := by
  obtain _ | ⟨last, _ | ⟨before, front⟩⟩ := letters
  · rfl
  · simp [ofReversed_singleton, unfinal_eq_iff]
  · simp [ofReversed_cons_cons, isVowel_unfinal, unfinal_eq_iff]

/-- The ending of a name does not depend on which of its sigmas end a word. -/
theorem ofReversed_lowerBy (endsWord : SigmaRule) (name : List Char) :
    ofReversed (lowerBy endsWord name).reverse = ofReversed (lower name).reverse := by
  rw [← ofReversed_map_unfinal, List.map_reverse, map_unfinal_lowerBy, ← List.map_reverse,
    ofReversed_map_unfinal]

end PluralEnding

theorem endsInConsonantY_lowerBy_iff (endsWord : SigmaRule) (name : List Char) :
    EndsInConsonantY (lowerBy endsWord name) ↔ EndsInConsonantY (lower name) := by
  rw [← PluralEnding.ofReversed_eq_ies_iff, ← PluralEnding.ofReversed_eq_ies_iff,
    PluralEnding.ofReversed_lowerBy]

/-- A name whose lower case ends in a `y` ends in one of the two letters Y. -/
theorem EndsInConsonantY.exists_concat {name : List Char} (ends : EndsInConsonantY (lower name)) :
    ∃ stem last, name = stem ++ [last] ∧ (last = 'y' ∨ last = 'Y') := by
  obtain ⟨front, before, lowered, -⟩ := ends
  have final : name.getLast? = some 'y' ∨ name.getLast? = some 'Y' := by
    apply getLast?_of_lower
    rw [lowered]
    simp
  obtain small | capital := final
  · obtain ⟨stem, rfl⟩ := List.getLast?_eq_some_iff.1 small
    exact ⟨stem, 'y', rfl, .inl rfl⟩
  · obtain ⟨stem, rfl⟩ := List.getLast?_eq_some_iff.1 capital
    exact ⟨stem, 'Y', rfl, .inr rfl⟩

/-! ## Plurals -/

theorem toList_plural (name : String) : (plural name).toList = pluralLetters name.toList :=
  String.toList_ofList

theorem plural_eq_append {name stem ending : String}
    (written : pluralLetters name.toList = stem.toList ++ ending.toList) :
    plural name = stem ++ ending := by
  apply String.toList_inj.1
  rw [toList_plural, written, String.toList_append]

/-- A plural ends in an `s`, and holds letters of the name and small ones alone. -/
theorem exists_pluralLetters (name : List Char) :
    ∃ front, pluralLetters name = front ++ ['s'] ∧
      ∀ char ∈ front, char ∈ name ∨ isSmall char = true := by
  rw [pluralLetters]
  split
  · exact ⟨name, rfl, fun _ member => .inl member⟩
  · refine ⟨name ++ ['e'], by simp, fun char member => ?_⟩
    obtain own | rfl := by simpa using member
    · exact .inl own
    · exact .inr (by decide)
  · refine ⟨name.dropLast ++ ['i', 'e'], by simp, fun char member => ?_⟩
    obtain own | rfl | rfl := by simpa using member
    · exact .inl (List.dropLast_subset _ own)
    · exact .inr (by decide)
    · exact .inr (by decide)

theorem plural_of_s {name : String}
    (ending : PluralEnding.ofReversed (lower name.toList).reverse = .s) :
    plural name = name ++ "s" := by
  apply plural_eq_append
  rw [pluralLetters, ending]
  rfl

theorem plural_of_es {name : String}
    (ending : PluralEnding.ofReversed (lower name.toList).reverse = .es) :
    plural name = name ++ "es" := by
  apply plural_eq_append
  rw [pluralLetters, ending]
  rfl

/-- The letter that is given up for `ies` is one of the two letters Y. -/
theorem exists_plural_of_ies {name : String}
    (ending : PluralEnding.ofReversed (lower name.toList).reverse = .ies) :
    ∃ stem last, name = stem ++ String.singleton last ∧ (last = 'y' ∨ last = 'Y') ∧
      plural name = stem ++ "ies" := by
  obtain ⟨stem, last, split, letter⟩ :=
    (PluralEnding.ofReversed_eq_ies_iff.1 ending).exists_concat
  refine ⟨String.ofList stem, last, ?_, letter, plural_eq_append ?_⟩
  · apply String.toList_inj.1
    simp [split]
  · rw [pluralLetters, ending, split, String.toList_ofList]
    simp

/-- A plural is the name without its last letter, which is one of the two letters Y, and `ies`, or
the whole name with another ending. The lower case of the name tells which. -/
theorem plural_cases (name : String) :
    (EndsInConsonantY (lower name.toList) ∧ ∃ stem last, name = stem ++ String.singleton last ∧
        (last = 'y' ∨ last = 'Y') ∧ plural name = stem ++ "ies") ∨
      (¬ EndsInConsonantY (lower name.toList) ∧
        (plural name = name ++ "s" ∨ plural name = name ++ "es")) := by
  rw [← PluralEnding.ofReversed_eq_ies_iff]
  cases ending : PluralEnding.ofReversed (lower name.toList).reverse with
  | s => exact .inr ⟨nofun, .inl (plural_of_s ending)⟩
  | es => exact .inr ⟨nofun, .inr (plural_of_es ending)⟩
  | ies => exact .inl ⟨rfl, exists_plural_of_ies ending⟩

/-- A name that does not end in a `y` is kept whole in its plural. -/
theorem exists_plural_eq {name : String} (notSmall : name.toList.getLast? ≠ some 'y')
    (notCapital : name.toList.getLast? ≠ some 'Y') :
    ∃ ending, (ending = "s" ∨ ending = "es") ∧ plural name = name ++ ending := by
  obtain ⟨-, stem, last, rfl, rfl | rfl, -⟩ | ⟨-, same | same⟩ := plural_cases name
  · simp at notSmall
  · simp at notCapital
  · exact ⟨"s", .inl rfl, same⟩
  · exact ⟨"es", .inr rfl, same⟩

end InterfaceGen
