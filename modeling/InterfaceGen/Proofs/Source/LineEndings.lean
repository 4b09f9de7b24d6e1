import InterfaceGen.Proofs.Source.Header
import InterfaceGen.Proofs.Source.Opening
import InterfaceGen.Proofs.Text.LineEndings
import InterfaceGen.Source.Braces

/-!
# Declarations and line endings

An opening, a header and a closing brace are found in a text with other line endings as they are
found in the text itself. A header line alone looks at the end of its line, and it may end with one
carriage return, so the text may not hold carriage returns of its own.
-/

namespace InterfaceGen.Source

open Text

/-! ## Braces -/

/-- Braces match whatever the line endings. -/
theorem splitClosing_crlf (depth : Nat) (text : List Char) :
    splitClosing depth (crlf text) =
      (splitClosing depth text).map fun (before, after) => (crlf before, crlf after) := by
  induction text generalizing depth with
  | nil => rfl
  | cons char rest inductionHypothesis =>
      by_cases newline : char = '\n'
      · subst newline
        simp [splitClosing, inductionHypothesis, Function.comp_def]
      · by_cases closing : char = '}' ∧ depth ≤ 1
        · simp [splitClosing, closing]
        · simp [splitClosing, newline, closing, inductionHypothesis, Function.comp_def]

/-! ## Openings -/

theorem afterKeyword?_crlf (text : List Char) :
    afterKeyword? (crlf text) = (afterKeyword? text).map crlf := by
  rw [afterKeyword?, afterKeyword?, isPrefixOf?_crlf (by decide) (by decide),
    isPrefixOf?_crlf (by decide) (by decide)]
  cases "interface".toList.isPrefixOf? text <;> rfl

theorem dropEquals_crlf (text : List Char) : dropEquals (crlf text) = crlf (dropEquals text) := by
  cases text with
  | nil => rfl
  | cons char rest =>
      by_cases newline : char = '\n'
      · subst newline
        rfl
      · by_cases sign : char = '='
        · simp [sign, dropEquals]
        · simp [newline, sign, dropEquals]

namespace Opening

/-- An opening with other line endings in the text behind it. -/
def withCrlf (opening : Opening) : Opening :=
  ⟨opening.name, crlf opening.inner⟩

theorem readName?_crlf (text : List Char) :
    readName? (crlf text) = (readName? text).map withCrlf := by
  rw [readName?, readName?, takeWhile_isNameChar_crlf, dropWhile_isNameChar_crlf, dropBlanks_crlf,
    dropEquals_crlf, dropBlanks_crlf]
  by_cases unnamed : text.takeWhile isNameChar = []
  · simp [unnamed]
  rw [if_neg unnamed, if_neg unnamed]
  cases dropBlanks (dropEquals (dropBlanks (text.dropWhile isNameChar))) with
  | nil => rfl
  | cons char rest =>
      by_cases newline : char = '\n'
      · subst newline
        rfl
      · by_cases brace : char = '{'
        · simp [brace, withCrlf]
        · simp [newline, brace]

/-- The line endings behind a keyword are blanks like others. -/
theorem read?_crlf (text : List Char) : read? (crlf text) = (read? text).map withCrlf := by
  rw [read?, read?, afterKeyword?_crlf]
  cases afterKeyword? text with
  | none => rfl
  | some behind =>
      cases behind with
      | nil => rfl
      | cons char rest =>
          by_cases newline : char = '\n'
          · subst newline
            have blank : isBlank '\n' = true := by decide
            have carriageReturn : isBlank '\r' = true := by decide
            have dropped : dropBlanks ('\n' :: crlf rest) = crlf (dropBlanks rest) := by
              rw [← dropBlanks_crlf]
              exact List.dropWhile_cons_of_pos blank
            simp [blank, carriageReturn, dropped, readName?_crlf]
          · by_cases blank : isBlank char = true <;> simp [newline, blank, readName?_crlf]

/-- The first opening stays the first one. -/
theorem first?_crlf (inWord : Bool) (text : List Char) :
    first? inWord (crlf text) = (first? inWord text).map withCrlf := by
  induction text generalizing inWord with
  | nil => rfl
  | cons char rest inductionHypothesis =>
      by_cases newline : char = '\n'
      · subst newline
        have noWord : isWord '\n' = false ∧ isWord '\r' = false := by decide +kernel
        have newline (behind : List Char) : read? ('\n' :: behind) = none := rfl
        have carriageReturn (behind : List Char) : read? ('\r' :: behind) = none := rfl
        simp [first?_cons, noWord, newline, carriageReturn, inductionHypothesis]
      · have here := read?_crlf (char :: rest)
        rw [crlf_cons newline] at here
        rw [crlf_cons newline, first?_cons, first?_cons, here, inductionHypothesis]
        cases inWord <;> cases read? (char :: rest) <;> rfl

/-- The text before the brace keeps its line endings. -/
theorem lead_withCrlf {text : List Char} {opening : Opening}
    (found : first? false text = some opening) :
    opening.withCrlf.lead (crlf text) = crlf (opening.lead text) := by
  obtain ⟨name, inner⟩ := opening
  obtain ⟨front, split⟩ := exists_append_of_first? found
  have brace : '{' ≠ '\n' := by decide
  rw [split, crlf_append, crlf_cons brace, lead_append]
  exact lead_append name (crlf front) (crlf inner)

end Opening

/-! ## Headers -/

namespace Header

theorem suffix_dropEquals (text : List Char) : dropEquals text <:+ text := by
  obtain ⟨equals, -, split⟩ := exists_append_dropEquals text
  exact ⟨equals, split.symm⟩

/-- One carriage return may end a line that has none. -/
theorem tailLayout_append_return {tail : List Char} (plain : '\r' ∉ tail) :
    TailLayout (tail ++ ['\r']) ↔ TailLayout tail := by
  have stop : isGap '\r' = false := by decide
  have equals (text : List Char) : dropEquals (text ++ ['\r']) = dropEquals text ++ ['\r'] := by
    cases text with
    | nil => rfl
    | cons char rest => by_cases sign : char = '=' <;> simp [dropEquals, sign]
  have within : (dropEquals (tail.dropWhile isGap)).dropWhile isGap <:+ tail :=
    ((List.dropWhile_suffix isGap).trans (suffix_dropEquals _)).trans (List.dropWhile_suffix isGap)
  rw [tailLayout_iff, tailLayout_iff, dropWhile_append_stop stop, equals,
    dropWhile_append_stop stop]
  generalize (dropEquals (tail.dropWhile isGap)).dropWhile isGap = left at within
  have noReturn : left ≠ ['\r'] := by
    rintro rfl
    exact plain (within.mem List.mem_cons_self)
  simp [noReturn]

/-- A line that has no carriage return is a header with one exactly if it is a header. -/
theorem isHeader_append_return {line name lead : List Char} (plain : '\r' ∉ line) :
    IsHeader (line ++ ['\r']) name lead ↔ IsHeader line name lead := by
  constructor
  · rintro ⟨tail, layout, split⟩
    obtain rfl | ⟨front, char, rfl⟩ := List.eq_nil_or_concat' tail
    · -- The carriage return would be the last character of the name.
      obtain ⟨named, before, rfl⟩ := layout.exists_append
      obtain ⟨first, last, rfl⟩ :=
        (List.eq_nil_or_concat' name).resolve_left named.1
      rw [List.append_nil, ← List.append_assoc] at split
      obtain ⟨-, same⟩ := List.append_inj' split rfl
      obtain rfl : '\r' = last := by simpa using same
      exact absurd (named.2 '\r' (by simp)) (by decide)
    · rw [← List.append_assoc] at split
      obtain ⟨rfl, same⟩ := List.append_inj' split rfl
      obtain rfl : '\r' = char := by simpa using same
      have tailPlain : '\r' ∉ front := fun member => plain (List.mem_append_right _ member)
      exact ⟨front, layout.of_tail ((tailLayout_append_return tailPlain).1 layout.trail), rfl⟩
  · rintro ⟨tail, layout, rfl⟩
    have tailPlain : '\r' ∉ tail := fun member => plain (List.mem_append_right _ member)
    exact ⟨tail ++ ['\r'], layout.of_tail ((tailLayout_append_return tailPlain).2 layout.trail),
      List.append_assoc lead tail ['\r']⟩

theorem read?_append_return {line : List Char} (plain : '\r' ∉ line) :
    read? (line ++ ['\r']) = read? line := by
  ext ⟨name, lead⟩
  rw [read?_eq_some_iff, read?_eq_some_iff, isHeader_append_return plain]

/-- The first header among the lines stays the first one, with its position. -/
theorem first?_crlf {text : List Char} (plain : '\r' ∉ text) (line : Nat) :
    first? line (linesOf (crlf text)) = first? line (linesOf text) := by
  -- Each line but the last gets a carriage return at its end, which a header may have.
  induction length : text.length using Nat.strong_induction_on generalizing text line with
  | _ length inductionHypothesis =>
    subst length
    by_cases newline : '\n' ∈ text
    · obtain ⟨front, rest, rfl, onLine⟩ := List.eq_append_cons_of_mem newline
      have frontPlain : '\r' ∉ front := fun member => plain (List.mem_append_left _ member)
      have restPlain : '\r' ∉ rest := fun member =>
        plain (List.mem_append_right _ (List.mem_cons_of_mem _ member))
      have written : crlf (front ++ '\n' :: rest) = (front ++ ['\r']) ++ '\n' :: crlf rest := by
        simp [crlf_eq_self onLine]
      have ended : '\n' ∉ front ++ ['\r'] := by simpa using onLine
      have lines : linesOf (front ++ '\n' :: rest) = front :: linesOf rest :=
        List.splitOn_append_cons_self_of_not_mem onLine rest
      have writtenLines : linesOf ((front ++ ['\r']) ++ '\n' :: crlf rest) =
          (front ++ ['\r']) :: linesOf (crlf rest) :=
        List.splitOn_append_cons_self_of_not_mem ended (crlf rest)
      have later := inductionHypothesis rest.length (by simp; omega) restPlain (line + 1) rfl
      rw [written, lines, writtenLines, first?, first?, read?_append_return frontPlain, later]
    · rw [crlf_eq_self newline]

end Header

/-! ## Declarations -/

/-- A declaration is found with its name and its body, whatever the line endings, and a text without
one fails for the same reason at the same position. -/
theorem Declaration.first_withCrlf {text : String} (plain : '\r' ∉ text.toList) :
    ((Declaration.first (withCrlf text)).map fun declaration =>
        (declaration.name, declaration.body)) =
      (Declaration.first text).map fun declaration =>
        (declaration.name, withCrlf declaration.body) := by
  simp only [Declaration.first, toList_withCrlf, Opening.first?_crlf]
  cases found : Opening.first? false text.toList with
  | none =>
      have headers := Header.first?_crlf plain 1
      simp only [linesOf] at headers
      simp only [Option.map_none, headers]
      cases Header.first? 1 (text.toList.splitOn '\n') <;> rfl
  | some opening =>
      have inner : opening.withCrlf.inner = crlf opening.inner := rfl
      simp only [Option.map_some, Opening.lead_withCrlf found, Position.after_crlf, inner,
        splitClosing_crlf]
      cases splitClosing 1 opening.inner with
      | none => rfl
      | some parts => simp [withCrlf, trim_crlf, Opening.withCrlf, Except.map]

end InterfaceGen.Source
