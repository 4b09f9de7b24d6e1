import InterfaceGen.Naming.Resource
import InterfaceGen.Proofs.Naming.Plural
import InterfaceGen.Proofs.Text.Slices

/-!
# Plurals by bytes

The last letter of a name can be cut off as the last byte of it, wherever a plural gives it up: it is
then one of the two letters Y, which are one byte each. So the names that are built from a plural are
the same by bytes, for any name and any rule that tells which of its sigmas end a word.
-/

namespace InterfaceGen

open Text

variable (endsWord : SigmaRule)

/-- The plural of a name, where the last letter is given up as the last byte. -/
def pluralByBytes (name : String) : Except Fault String := do
  match PluralEnding.ofReversed (lowerBy endsWord name.toList).reverse with
  | .s => return name ++ "s"
  | .es => return name ++ "es"
  | .ies =>
    let stem ← dropLastByte name.toList
    return String.ofList stem ++ "ies"

/-- The operation names for a record name, by bytes. -/
def OperationNames.ofRecordByBytes (name : String) : Except Fault OperationNames := do
  let records ← pluralByBytes endsWord name
  return {
    create := "create" ++ name
    fetch := "fetch" ++ name
    list := "list" ++ records
    update := "update" ++ name
    delete := "delete" ++ name }

/-- The path of the records of a name, by bytes. -/
def resourcePathByBytes (name : String) : Except Fault String := do
  let records ← pluralByBytes endsWord name
  return "/" ++ kebab records

/-- Both letters Y are one byte. -/
theorem utf8Size_of_y {letter : Char} (isY : letter = 'y' ∨ letter = 'Y') :
    letter.utf8Size = 1 := by
  obtain rfl | rfl := isY <;> rfl

/-- A plural by bytes cuts no character, and is the plural by letters. -/
theorem pluralByBytes_eq (name : String) : pluralByBytes endsWord name = .ok (plural name) := by
  rw [pluralByBytes, PluralEnding.ofReversed_lowerBy]
  cases ending : PluralEnding.ofReversed (lower name.toList).reverse with
  | s =>
      rw [plural_of_s ending]
      rfl
  | es =>
      rw [plural_of_es ending]
      rfl
  | ies =>
      obtain ⟨stem, last, rfl, letter, whole⟩ := exists_plural_of_ies ending
      have cut : dropLastByte (stem ++ String.singleton last).toList = .ok stem.toList := by
        rw [String.toList_append, String.toList_singleton]
        exact dropLastByte_concat (utf8Size_of_y letter) stem.toList
      rw [whole]
      simp only [cut, bind, Except.bind, String.ofList_toList]
      rfl

/-- For every name, and whichever of its sigmas end a word, the plural and the names that are built
from it can be made by bytes. If the lower case of the name ends in a `y` behind a character that is
no vowel, the name ends in one of the two letters Y, which is one byte, and `ies` takes the place of
this letter. Any other name is kept whole, with `s` or `es` behind it. -/
theorem plural_keeps_characters (name : String) :
    pluralByBytes endsWord name = .ok (plural name) ∧
      OperationNames.ofRecordByBytes endsWord name = .ok (OperationNames.ofRecord name) ∧
      resourcePathByBytes endsWord name = .ok (resourcePath name) ∧
      ((EndsInConsonantY (lowerBy endsWord name.toList) ∧
          ∃ stem last, name = stem ++ String.singleton last ∧ (last = 'y' ∨ last = 'Y') ∧
            last.utf8Size = 1 ∧ plural name = stem ++ "ies") ∨
        (¬ EndsInConsonantY (lowerBy endsWord name.toList) ∧
          (plural name = name ++ "s" ∨ plural name = name ++ "es"))) := by
  have plurals := pluralByBytes_eq endsWord name
  refine ⟨plurals, ?_, ?_, ?_⟩
  · rw [OperationNames.ofRecordByBytes, plurals]
    rfl
  · rw [resourcePathByBytes, plurals]
    rfl
  · rw [endsInConsonantY_lowerBy_iff]
    obtain ⟨ends, stem, last, split, letter, whole⟩ | other := plural_cases name
    · exact .inl ⟨ends, stem, last, split, letter, utf8Size_of_y letter, whole⟩
    · exact .inr other

/-- In lower case this name is one character longer, and its `y` stands behind a mark. -/
theorem plural_keeps_characters_mark :
    let endsWord : SigmaRule := fun _ rest => rest.isEmpty
    (lowerBy endsWord "ΣİY".toList).length = 4 ∧ plural "ΣİY" = "Σİies" ∧
      pluralByBytes endsWord "ΣİY" = .ok "Σİies" ∧
      resourcePathByBytes endsWord "ΣİY" = .ok (resourcePath "ΣİY") := by
  intro endsWord
  have whole : plural "ΣİY" = "Σİies" := by decide +kernel
  obtain ⟨cut, -, path, -⟩ := plural_keeps_characters endsWord "ΣİY"
  rw [whole] at cut
  exact ⟨by decide +kernel, whole, cut, path⟩

end InterfaceGen
