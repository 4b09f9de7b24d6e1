import InterfaceGen.Proofs.Text.Lines
import InterfaceGen.Proofs.Text.Positions

/-!
# Line endings

A text whose lines end in newlines is written with a carriage return before each of them. Both are
blanks and neither is part of a name, so that whatever cuts a text at blanks or names cuts the
written text at the same places.
-/

namespace InterfaceGen.Text

/-- The characters of a text with a carriage return before each newline. -/
def crlf : List Char → List Char
  | [] => []
  | char :: rest => if char = '\n' then '\r' :: '\n' :: crlf rest else char :: crlf rest

@[simp] theorem crlf_nil : crlf [] = [] :=
  rfl

@[simp] theorem crlf_newline (rest : List Char) :
    crlf ('\n' :: rest) = '\r' :: '\n' :: crlf rest :=
  rfl

@[simp] theorem crlf_cons {char : Char} (other : char ≠ '\n') (rest : List Char) :
    crlf (char :: rest) = char :: crlf rest :=
  if_neg other

@[simp] theorem crlf_append (left right : List Char) :
    crlf (left ++ right) = crlf left ++ crlf right := by
  induction left with
  | nil => rfl
  | cons char rest inductionHypothesis =>
      by_cases newline : char = '\n'
      · simp [newline, inductionHypothesis]
      · simp [newline, inductionHypothesis]

/-- A text that stays on its line is written as it is. -/
theorem crlf_eq_self {text : List Char} (onLine : '\n' ∉ text) : crlf text = text := by
  induction text with
  | nil => rfl
  | cons char rest inductionHypothesis =>
      obtain ⟨first, others⟩ := not_or.1 (mt List.mem_cons.2 onLine)
      rw [crlf_cons (Ne.symm first), inductionHypothesis others]

/-- A text with a carriage return before each newline. -/
def withCrlf (text : String) : String :=
  String.ofList (crlf text.toList)

@[simp] theorem toList_withCrlf (text : String) : (withCrlf text).toList = crlf text.toList :=
  String.toList_ofList

/-! ## Cutting at blanks and names -/

/-- A test that does not tell the two characters apart cuts both texts at the same place. -/
theorem takeWhile_crlf {p : Char → Bool} (same : p '\r' = p '\n') (text : List Char) :
    (crlf text).takeWhile p = crlf (text.takeWhile p) := by
  induction text with
  | nil => rfl
  | cons char rest inductionHypothesis =>
      by_cases newline : char = '\n'
      · subst newline
        cases taken : p '\n' <;> simp [taken, same, inductionHypothesis]
      · cases taken : p char <;> simp [taken, newline, inductionHypothesis]

theorem dropWhile_crlf {p : Char → Bool} (same : p '\r' = p '\n') (text : List Char) :
    (crlf text).dropWhile p = crlf (text.dropWhile p) := by
  induction text with
  | nil => rfl
  | cons char rest inductionHypothesis =>
      by_cases newline : char = '\n'
      · subst newline
        cases dropped : p '\n' <;> simp [dropped, same, inductionHypothesis]
      · cases dropped : p char <;> simp [dropped, newline, inductionHypothesis]

@[simp] theorem dropBlanks_crlf (text : List Char) :
    dropBlanks (crlf text) = crlf (dropBlanks text) :=
  dropWhile_crlf (by decide) text

theorem IsBlanks.crlf {text : List Char} (all : IsBlanks text) : IsBlanks (crlf text) := by
  rw [← dropBlanks_eq_nil_iff, dropBlanks_crlf, dropBlanks_eq_nil_iff.2 all, crlf_nil]

/-- A text that ends with no blank is left as it is. -/
theorem dropBlanksRight_concat {char : Char} (visible : isBlank char = false)
    (text : List Char) : dropBlanksRight (text ++ [char]) = text ++ [char] := by
  rw [dropBlanksRight, List.reverse_append, List.reverse_singleton, List.singleton_append,
    List.dropWhile_cons_of_neg (by simp [visible])]
  simp

/-- What is left of a text is nothing or ends with a character that is no blank. -/
theorem dropBlanksRight_eq_nil_or_concat (text : List Char) :
    dropBlanksRight text = [] ∨
      ∃ front char, isBlank char = false ∧ dropBlanksRight text = front ++ [char] := by
  cases turned : dropBlanks text.reverse with
  | nil => exact .inl (by rw [dropBlanksRight, ← dropBlanks, turned]; rfl)
  | cons char rest =>
      refine .inr ⟨rest.reverse, char, isBlank_eq_false_of_dropBlanks turned, ?_⟩
      rw [dropBlanksRight, ← dropBlanks, turned, List.reverse_cons]

@[simp] theorem dropBlanksRight_crlf (text : List Char) :
    dropBlanksRight (crlf text) = crlf (dropBlanksRight text) := by
  obtain ⟨blanks, all, split⟩ := exists_dropBlanksRight_append text
  have written : dropBlanksRight (crlf text) = dropBlanksRight (crlf (dropBlanksRight text)) := by
    rw [split, crlf_append, dropBlanksRight_append_blanks all.crlf, ← split]
  rw [written]
  obtain empty | ⟨front, char, visible, ends⟩ := dropBlanksRight_eq_nil_or_concat text
  · rw [empty]
    rfl
  · have other : char ≠ '\n' := by
      rintro rfl
      exact absurd visible (by decide)
    rw [ends, crlf_append, crlf_cons other, crlf_nil, dropBlanksRight_concat visible]

@[simp] theorem trim_crlf (text : List Char) : trim (crlf text) = crlf (trim text) := by
  rw [trim, dropBlanks_crlf, dropBlanksRight_crlf, trim]

/-- A name is read from the written text as it is. -/
theorem takeWhile_isNameChar_crlf (text : List Char) :
    (crlf text).takeWhile isNameChar = text.takeWhile isNameChar := by
  rw [takeWhile_crlf (by decide)]
  have named : ∀ char ∈ text.takeWhile isNameChar, isNameChar char = true :=
    List.all_eq_true.1 List.all_takeWhile
  exact crlf_eq_self fun member => absurd (named '\n' member) (by decide)

theorem dropWhile_isNameChar_crlf (text : List Char) :
    (crlf text).dropWhile isNameChar = crlf (text.dropWhile isNameChar) :=
  dropWhile_crlf (by decide) text

/-- A word that holds neither of the two characters begins both texts or none. -/
theorem isPrefixOf?_crlf {word : List Char} (newline : '\n' ∉ word) (carriageReturn : '\r' ∉ word)
    (text : List Char) : word.isPrefixOf? (crlf text) = (word.isPrefixOf? text).map crlf := by
  induction word generalizing text with
  | nil => rfl
  | cons letter rest inductionHypothesis =>
      obtain ⟨noNewline, newlineRest⟩ := not_or.1 (mt List.mem_cons.2 newline)
      obtain ⟨noReturn, returnRest⟩ := not_or.1 (mt List.mem_cons.2 carriageReturn)
      cases text with
      | nil => rfl
      | cons char others =>
          by_cases ended : char = '\n'
          · subst ended
            simp [List.isPrefixOf?, Ne.symm noNewline, Ne.symm noReturn]
          · by_cases begins : letter = char
            · simp [List.isPrefixOf?, ended, begins, inductionHypothesis newlineRest returnRest]
            · simp [List.isPrefixOf?, ended, begins]

/-! ## Lines and positions -/

/-- Written line endings move no position. -/
theorem Position.after_crlf (text : List Char) :
    Position.after (crlf text) = Position.after text := by
  rw [Position.after, Position.after]
  generalize Position.start = position
  induction text generalizing position with
  | nil => rfl
  | cons char rest inductionHypothesis =>
      by_cases newline : char = '\n'
      · subst newline
        simp [Position.advance, inductionHypothesis]
      · simp [newline, inductionHypothesis]

end InterfaceGen.Text
