import InterfaceGen.Proofs.Text.Lines
import InterfaceGen.Proofs.Text.Positions

/-!
# Whole lines before a text

Lines that are put before a text move the positions in it down and leave their columns. So a
position that is reached within a text is on one of its lines, and at most one character behind the
end of this line.
-/

namespace InterfaceGen.Text

/-- A text that ends where a line ends, so that what follows it begins a line. -/
def WholeLines (text : List Char) : Prop :=
  text = [] ∨ text.getLast? = some '\n'

instance (text : List Char) : Decidable (WholeLines text) :=
  inferInstanceAs (Decidable (text = [] ∨ text.getLast? = some '\n'))

theorem WholeLines.eq_nil_or_concat {text : List Char} (whole : WholeLines text) :
    text = [] ∨ ∃ front, text = front ++ ['\n'] := by
  refine whole.imp_right fun ends => ?_
  obtain ⟨front, split⟩ := List.getLast?_eq_some_iff.1 ends
  exact ⟨front, split⟩

/-- Whole lines without a newline are none. -/
theorem WholeLines.eq_nil {text : List Char} (whole : WholeLines text) (onLine : '\n' ∉ text) :
    text = [] :=
  whole.resolve_right fun ends => onLine (List.mem_of_getLast? ends)

/-- What follows a newline in whole lines is whole lines. -/
theorem WholeLines.of_append_cons {front rest : List Char}
    (whole : WholeLines (front ++ '\n' :: rest)) : WholeLines rest := by
  cases rest with
  | nil => exact .inl rfl
  | cons char others =>
      refine .inr ((whole.resolve_left (by simp)).symm.trans ?_).symm
      rw [List.getLast?_append_cons, List.getLast?_cons_cons]

theorem wholeLines_concat (front : List Char) : WholeLines (front ++ ['\n']) :=
  .inr List.getLast?_concat

theorem linesOf_append_cons {front : List Char} (onLine : '\n' ∉ front) (rest : List Char) :
    linesOf (front ++ '\n' :: rest) = front :: linesOf rest :=
  List.splitOn_append_cons_self_of_not_mem onLine rest

namespace Position

/-- The position with some lines put before its text. -/
def below (lines : Nat) (position : Position) : Position :=
  ⟨position.line + lines, position.column⟩

theorem advance_below (lines : Nat) (position : Position) (char : Char) :
    (position.below lines).advance char = (position.advance char).below lines := by
  by_cases newline : char = '\n'
  · simp only [advance, below, if_pos newline, Nat.add_right_comm]
  · simp only [advance, below, if_neg newline]

theorem foldl_advance_below (lines : Nat) (position : Position) (text : List Char) :
    text.foldl advance (position.below lines) = (text.foldl advance position).below lines := by
  induction text generalizing position with
  | nil => rfl
  | cons char rest inductionHypothesis =>
      rw [List.foldl_cons, List.foldl_cons, advance_below, inductionHypothesis]

/-- Behind whole lines the first character of another line follows. -/
theorem after_wholeLines {text : List Char} (whole : WholeLines text) :
    after text = start.below (text.count '\n') := by
  obtain rfl | ⟨front, rfl⟩ := whole.eq_nil_or_concat
  · rfl
  · rw [after_eq_counted, counted_concat, advance, if_pos rfl, List.count_append]
    simp [counted, below, start, Nat.add_comm]

/-- Whole lines before a text move the position behind it down by their number. -/
theorem after_wholeLines_append {before : List Char} (whole : WholeLines before)
    (text : List Char) :
    after (before ++ text) = (after text).below (before.count '\n') := by
  rw [after_append, after_wholeLines whole, foldl_advance_below]
  rfl

/-- Within the first line the column follows the characters. -/
theorem after_line {text : List Char} (onLine : '\n' ∉ text) :
    after text = ⟨1, text.length + 1⟩ := by
  have own : text.rtakeWhile (· ≠ '\n') = text :=
    List.rtakeWhile_eq_self_iff.2 fun char member =>
      decide_eq_true fun same => onLine (same ▸ member)
  rw [after_eq_counted, counted, own, List.count_eq_zero.2 onLine]

/-- Behind whole lines the line is given by their number and the column by what follows them, as
long as that is on one line. -/
theorem after_wholeLines_line {before text : List Char} (whole : WholeLines before)
    (onLine : '\n' ∉ text) :
    after (before ++ text) = ⟨before.count '\n' + 1, text.length + 1⟩ := by
  rw [after_wholeLines_append whole, after_line onLine, below, Nat.add_comm 1]

/-- A position in a text: on one of its lines, at one of the characters of this line or right behind
the last of them. -/
def IsIn (position : Position) (text : List Char) : Prop :=
  ∃ before line after, linesOf text = before ++ line :: after ∧
    position.line = before.length + 1 ∧ 1 ≤ position.column ∧ position.column ≤ line.length + 1

/-- A position in a text stays in it when a line is put before both. -/
theorem IsIn.below_cons {position : Position} {text : List Char} (inside : position.IsIn text)
    {line : List Char} (onLine : '\n' ∉ line) : (position.below 1).IsIn (line ++ '\n' :: text) := by
  obtain ⟨before, own, after, split, lineNumber, first, last⟩ := inside
  refine ⟨line :: before, own, after, ?_, ?_, first, last⟩
  · rw [linesOf_append_cons onLine, split]
    rfl
  · rw [below, lineNumber, List.length_cons]

/-- The position reached at some place of a text is in the text. -/
theorem isIn_after_append (front rest : List Char) : (after front).IsIn (front ++ rest) := by
  induction length : front.length using Nat.strong_induction_on generalizing front with
  | _ length inductionHypothesis =>
    subst length
    by_cases newline : '\n' ∈ front
    · -- The first line is put before the others.
      obtain ⟨line, others, rfl, onLine⟩ := List.eq_append_cons_of_mem newline
      have later := inductionHypothesis others.length (by simp; omega) others rfl
      have moved : after (line ++ '\n' :: others) = (after others).below 1 := by
        have lineEnd : line ++ '\n' :: others = (line ++ ['\n']) ++ others := by simp
        rw [lineEnd, after_wholeLines_append (wholeLines_concat line)]
        simp [List.count_append, List.count_eq_zero.2 onLine]
      rw [moved, List.append_assoc, List.cons_append]
      exact later.below_cons onLine
    · obtain ⟨tail, after, split⟩ :
          ∃ tail after, linesOf (front ++ rest) = (front ++ tail) :: after := by
        by_cases later : '\n' ∈ rest
        · obtain ⟨tail, others, rfl, onLine⟩ := List.eq_append_cons_of_mem later
          refine ⟨tail, linesOf others, ?_⟩
          rw [← List.append_assoc, linesOf_append_cons]
          simp [newline, onLine]
        · exact ⟨rest, [], List.splitOn_eq_singleton (by simp [newline, later])⟩
      rw [after_line newline]
      exact ⟨[], front ++ tail, after, split, rfl, by simp, by simp⟩

end Position

end InterfaceGen.Text
