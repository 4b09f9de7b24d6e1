import InterfaceGen.Naming.Resource
import InterfaceGen.Proofs.Naming.Kebab
import InterfaceGen.Proofs.Naming.Plural

/-!
# Resource paths

The path of a resource is a slash and words of small letters and digits with one hyphen between each
two, and these are the letters and digits of the plural. The path of a name is that of its plural,
not the plural of its path: the small letter behind the last capital of an acronym at the end of a
name makes this capital begin a word of its own.
-/

namespace InterfaceGen

open Text

/-! ## Words -/

theorem toList_kebab (name : String) : (kebab name).toList = kebabFrom none none name.toList :=
  String.toList_ofList

theorem toList_resourcePath (name : String) :
    (resourcePath name).toList = '/' :: kebabFrom none none (plural name).toList := by
  simp [resourcePath, toList_kebab]

/-- The plural of a name is a name, and the last letter of it is no underscore. -/
theorem exists_plural {name : String} (named : IsName name.toList) :
    ∃ front, (plural name).toList = front ++ ['s'] ∧ ∀ char ∈ front, isNameChar char = true := by
  obtain ⟨front, split, within⟩ := exists_pluralLetters name.toList
  refine ⟨front, by rw [toList_plural, split], fun char member => ?_⟩
  obtain own | small := within char member
  · exact named.2 char own
  · exact isNameChar_of_isSmall small

/-- A resource path is a slash and words of small letters and digits with one hyphen between each
two. Without its hyphens it has the lower-case letters of the plural without the underscores, and in
kebab case a name is left as it is. -/
theorem resourcePath_eq_words {name : String} (named : IsName name.toList) :
    (∃ words : List String, words ≠ [] ∧ (∀ word ∈ words, IsKebabWord word) ∧
      resourcePath name = "/" ++ join "-" words) ∧
    (resourcePath name).toList.filter (· ≠ '-') =
      '/' :: (lower (plural name).toList).filter (· ≠ '_') ∧
    kebab (kebab name) = kebab name := by
  obtain ⟨front, split, frontNamed⟩ := exists_plural named
  have pluralNamed : ∀ char ∈ (plural name).toList, isNameChar char = true := by
    rw [split]
    exact List.forall_mem_append.2 ⟨frontNamed, List.forall_mem_singleton.2 rfl⟩
  refine ⟨?_, ?_, kebab_kebab named.2⟩
  · have words : KebabRest false (kebabFrom none none (front ++ ['s'])) :=
      kebabRest_kebabFrom frontNamed (by decide) (by decide) none none
    obtain ⟨parts, nonempty, each, joined⟩ := words.exists_join
    refine ⟨parts, nonempty, each, ?_⟩
    rw [resourcePath, kebab, split, joined]
  · rw [toList_resourcePath, List.filter_cons_of_pos (by decide), filter_kebabFrom pluralNamed]

/-- Underscores at both ends and between words, digits before capitals, and a `y` that is given up
behind an underscore. -/
theorem resourcePath_eq_words_underscores :
    let name := "_API__2Keys_y"
    IsName name.toList ∧ plural name = "_API__2Keys_ies" ∧
      (∃ words : List String, words ≠ [] ∧ (∀ word ∈ words, IsKebabWord word) ∧
        resourcePath name = "/" ++ join "-" words) ∧
      resourcePath name = "/api-2-keys-ies" ∧ kebab (kebab name) = kebab name := by
  intro name
  have named : IsName name.toList := by decide
  obtain ⟨words, -, same⟩ := resourcePath_eq_words named
  exact ⟨named, by decide +kernel, words, by decide +kernel, same⟩

/-! ## Acronyms -/

/-- Whether the last two characters of a text are capitals. -/
def endsInCapitals (text : List Char) : Bool :=
  match text.reverse with
  | last :: before :: _ => before.isUpper && last.isUpper
  | _ => false

theorem endsInCapitals_concat (front : List Char) (last : Char) :
    endsInCapitals (front ++ [last]) = (front.getLast?.any Char.isUpper && last.isUpper) := by
  rw [endsInCapitals, List.reverse_append, ← List.head?_reverse]
  cases front.reverse <;> rfl

/-- A small ending continues the last word of a name, and leaves what was written of the name. Only
behind two capitals the last of them begins a new word with the ending. -/
theorem exists_kebabFrom_ending {front : List Char} {last : Char}
    (named : ∀ char ∈ front ++ [last], isNameChar char = true) (letters : '_' ∉ front ++ [last]) :
    ∃ wrote, kebabFrom none none (front ++ [last]) = wrote ++ [last.toLower] ∧
      ∀ ending : List Char, ending.head?.any isLowercase = true →
        (∀ char ∈ ending, isSmall char = true) →
          kebabFrom none none (front ++ [last] ++ ending) =
            wrote ++ (if endsInCapitals (front ++ [last]) then ['-'] else []) ++
              last.toLower :: ending := by
  obtain ⟨frontNamed, lastNamed⟩ := List.forall_mem_append.1 named
  replace lastNamed : isNameChar last = true := lastNamed last (List.mem_singleton_self last)
  have lastLetter : last ≠ '_' := fun same => letters (by simp [same])
  obtain ⟨wrote, written, step, able⟩ := exists_kebabFrom_append frontNamed none none (some last)
  rw [Option.or_none] at step
  have bare := step [last] rfl
  have more (ending : List Char) := step (last :: ending) rfl
  have kept (ending : List Char) (smalls : ∀ char ∈ ending, isSmall char = true)
      (previous written : Option Char) : kebabFrom previous written ending = ending :=
    kebabFrom_eq_self (fun char member => .inr (smalls char member)) previous written
  cases capital : last.isUpper with
  | false =>
      have lowered := toLower_of_not_isUpper capital
      refine ⟨wrote, ?_, fun ending _ smalls => ?_⟩
      · rw [bare, kebabFrom_small lastNamed lastLetter capital, lowered]
        rfl
      · rw [List.append_assoc, List.singleton_append, more,
          kebabFrom_small lastNamed lastLetter capital, kept ending smalls, endsInCapitals_concat,
          capital, Bool.and_false, lowered]
        simp
  | true =>
      have capitals : front.getLast?.any isUppercase = front.getLast?.any Char.isUpper := by
        cases found : front.getLast? with
        | none => rfl
        | some before =>
            exact isUppercase_of_isNameChar before (frontNamed before (List.mem_of_getLast? found))
      have alone : startsWord front.getLast? [] = !front.getLast?.any Char.isUpper := by
        simp [startsWord, capitals]
      refine ⟨wrote ++ (if allowsHyphen written && !front.getLast?.any Char.isUpper then ['-']
        else []), ?_, fun ending begins smalls => ?_⟩
      · rw [bare, kebabFrom_capital lastNamed capital, alone, List.append_assoc]
        rfl
      · have followed : startsWord front.getLast? ending = true := by simp [startsWord, begins]
        rw [List.append_assoc, List.singleton_append, more, kebabFrom_capital lastNamed capital,
          followed, kept ending smalls, endsInCapitals_concat, capital]
        cases acronym : front.getLast?.any Char.isUpper with
        | false => simp
        | true =>
            have nonempty : front ≠ [] := by
              rintro rfl
              cases acronym
            have allowed := able (fun member => letters (by simp [member])) (.inl nonempty)
            simp [allowed]

/-- The path of a name without underscores that does not end in a `y` is a slash, its kebab case and
the ending of its plural, unless the name ends in two capitals. If it does, there is a hyphen before
the last letter of the name. -/
theorem resourcePath_eq_iff {name : String} (named : IsName name.toList)
    (letters : '_' ∉ name.toList)
    (notSmall : name.toList.getLast? ≠ some 'y') (notCapital : name.toList.getLast? ≠ some 'Y') :
    ∃ ending, (ending = "s" ∨ ending = "es") ∧ plural name = name ++ ending ∧
      (resourcePath name = "/" ++ kebab name ++ ending ↔ endsInCapitals name.toList = false) ∧
      (endsInCapitals name.toList = true → ∃ front last,
        kebab name = front ++ String.singleton last ∧
          resourcePath name = "/" ++ front ++ "-" ++ String.singleton last ++ ending) := by
  obtain ⟨ending, kind, whole⟩ := exists_plural_eq notSmall notCapital
  have begins : ending.toList.head?.any isLowercase = true := by
    obtain rfl | rfl := kind <;> decide +kernel
  have smalls : ∀ char ∈ ending.toList, isSmall char = true := by
    apply List.all_eq_true.1
    obtain rfl | rfl := kind <;> decide
  obtain ⟨front, last, split⟩ := (List.eq_nil_or_concat' name.toList).resolve_left named.1
  have all := named.2
  rw [split] at all letters
  obtain ⟨wrote, bare, more⟩ := exists_kebabFrom_ending all letters
  have plain : (kebab name).toList = wrote ++ [last.toLower] := by rw [toList_kebab, split, bare]
  have path : (resourcePath name).toList =
      '/' :: (wrote ++ (if endsInCapitals name.toList then ['-'] else []) ++
        last.toLower :: ending.toList) := by
    rw [toList_resourcePath, whole, String.toList_append, split, more ending.toList begins smalls]
  refine ⟨ending, kind, whole, ?_, fun acronym => ⟨String.ofList wrote, last.toLower, ?_, ?_⟩⟩
  · rw [← String.toList_inj, path]
    cases endsInCapitals name.toList <;> simp [plain]
  · apply String.toList_inj.1
    simp [plain]
  · apply String.toList_inj.1
    rw [path, acronym]
    simp

/-- An acronym that is one word is two in the path of its plural. -/
theorem resourcePath_splits_acronym :
    let name := "API"
    IsName name.toList ∧ '_' ∉ name.toList ∧ name.toList.getLast? ≠ some 'y' ∧
      name.toList.getLast? ≠ some 'Y' ∧ plural name = name ++ "s" ∧
      resourcePath name = "/ap-is" ∧ "/" ++ kebab name ++ "s" = "/apis" ∧
      resourcePath name ≠ "/" ++ kebab name ++ "s" := by
  decide +kernel

/-- Behind an acronym with a digit the ending continues the word. -/
theorem resourcePath_eq_iff_digit :
    let name := "OrderAPI2"
    IsName name.toList ∧ '_' ∉ name.toList ∧ name.toList.getLast? ≠ some 'y' ∧
      name.toList.getLast? ≠ some 'Y' ∧
      ∃ ending, (ending = "s" ∨ ending = "es") ∧ plural name = name ++ ending ∧
        resourcePath name = "/" ++ kebab name ++ ending := by
  intro name
  have named : IsName name.toList := by decide
  have letters : '_' ∉ name.toList := by decide
  have notSmall : name.toList.getLast? ≠ some 'y' := by decide
  have notCapital : name.toList.getLast? ≠ some 'Y' := by decide
  obtain ⟨ending, kind, whole, same, -⟩ := resourcePath_eq_iff named letters notSmall notCapital
  exact ⟨named, letters, notSmall, notCapital, ending, kind, whole, same.2 (by decide)⟩

end InterfaceGen
