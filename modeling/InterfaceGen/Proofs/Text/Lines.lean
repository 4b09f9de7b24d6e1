import InterfaceGen.Proofs.Text.Blanks
import InterfaceGen.Text.Lines

/-!
# Lines of a text

A text is split at its newlines. Texts that hold none stay on their line.
-/

namespace InterfaceGen.Text

/-- The lines of a text. -/
def linesOf (text : List Char) : List (List Char) :=
  text.splitOn '\n'

/-- The text behind the first of its lines that is a given one. -/
def behindLine? (line text : List Char) : Option (List Char) :=
  match (linesOf text).dropWhile (· ≠ line) with
  | [] => none
  | _ :: rest => some (['\n'].intercalate rest)

/-- The text from the first of its lines on that begins with a word. -/
def fromLine? (start text : List Char) : Option (List Char) :=
  match (linesOf text).dropWhile (¬ start <+: ·) with
  | [] => none
  | lines => some (['\n'].intercalate lines)

/-- Lines as text, each with its newline. -/
def textOf (lines : List String) : List Char :=
  lines.flatMap fun line => line.toList ++ ['\n']

theorem textOf_append (before after : List String) :
    textOf (before ++ after) = textOf before ++ textOf after :=
  List.flatMap_append

theorem textOf_cons (line : String) (rest : List String) :
    textOf (line :: rest) = line.toList ++ '\n' :: textOf rest := by
  simp [textOf]

/-- A line stands in the text of lines that it is one of. -/
theorem infix_textOf {lines : List String} {line : String} (member : line ∈ lines) :
    line.toList <:+: textOf lines := by
  obtain ⟨before, behind, rfl⟩ := List.append_of_mem member
  rw [textOf_append, textOf_cons]
  exact ⟨textOf before, '\n' :: textOf behind, by simp⟩

/-- A text that stays on its line. -/
def OneLine (text : String) : Prop :=
  '\n' ∉ text.toList

instance (text : String) : Decidable (OneLine text) :=
  inferInstanceAs (Decidable ('\n' ∉ text.toList))

@[simp] theorem oneLine_append {left right : String} :
    OneLine (left ++ right) ↔ OneLine left ∧ OneLine right := by
  simp [OneLine, not_or]

theorem linesOf_cons {line : String} (whole : OneLine line) (rest : List Char) :
    linesOf (line.toList ++ '\n' :: rest) = line.toList :: linesOf rest :=
  List.splitOn_append_cons_self_of_not_mem whole rest

theorem linesOf_eq_singleton {line : String} (whole : OneLine line) :
    linesOf line.toList = [line.toList] :=
  List.splitOn_eq_singleton whole

/-- The lines of two texts with a newline between them are those of the one and of the other. -/
theorem linesOf_append_newline (before after : List Char) :
    linesOf (before ++ '\n' :: after) = linesOf before ++ linesOf after :=
  List.splitOn_append_cons_self before after

/-- Parts are put together with a separator as lists are. -/
theorem toList_join (separator : String) (parts : List String) :
    (join separator parts).toList = separator.toList.intercalate (parts.map (·.toList)) := by
  induction parts with
  | nil => rfl
  | cons part rest inductionHypothesis =>
      cases rest with
      | nil => simp [join]
      | cons next others =>
          change (part ++ separator ++ join separator (next :: others)).toList = _
          rw [String.toList_append, String.toList_append, inductionHypothesis]
          simp

/-- Parts that stay on their line do so together. -/
theorem oneLine_join {separator : String} (whole : OneLine separator) {parts : List String}
    (each : ∀ part ∈ parts, OneLine part) : OneLine (join separator parts) := by
  induction parts with
  | nil => simp [join, OneLine]
  | cons part rest inductionHypothesis =>
      have here := each part List.mem_cons_self
      cases rest with
      | nil => exact here
      | cons next others =>
          have later := inductionHypothesis fun other member =>
            each other (List.mem_cons_of_mem _ member)
          simp only [join, oneLine_append]
          exact ⟨⟨here, whole⟩, later⟩

/-- A name stays on its line. -/
theorem oneLine_of_isName {name : String} (named : IsName name.toList) : OneLine name :=
  fun member => absurd (named.2 '\n' member) (by decide)

theorem isBlanks_indent (level : Nat) : IsBlanks (indent level).toList := by
  induction level with
  | zero => simp [indent, IsBlanks]
  | succ level inductionHypothesis =>
      rw [indent, String.toList_append]
      exact isBlanks_append.2 ⟨by decide, inductionHypothesis⟩

/-- An indentation continues blanks. -/
theorem IsBlanks.append_indent {text : List Char} (blanks : IsBlanks text) (level : Nat) :
    IsBlanks (text ++ (indent level).toList) :=
  isBlanks_append.2 ⟨blanks, isBlanks_indent level⟩

theorem oneLine_indent (level : Nat) : OneLine (indent level) := by
  induction level with
  | zero => decide
  | succ level inductionHypothesis =>
      rw [indent, oneLine_append]
      exact ⟨by decide, inductionHypothesis⟩

/-- Lines that another one follows are put together with a newline after each. -/
theorem toList_joinLines_append (before : List String) (next : String) (rest : List String) :
    (joinLines (before ++ next :: rest)).toList =
      textOf before ++ (joinLines (next :: rest)).toList := by
  induction before with
  | nil => rfl
  | cons line others inductionHypothesis =>
      have step : joinLines (line :: others ++ next :: rest) =
          line ++ "\n" ++ joinLines (others ++ next :: rest) := by
        cases others <;> rfl
      rw [step, String.toList_append, inductionHypothesis]
      simp [textOf]

/-- Lines that an empty one follows are put together with a newline after each. -/
theorem toList_joinLines (lines : List String) :
    (joinLines (lines ++ [""])).toList = textOf lines := by
  rw [toList_joinLines_append]
  exact List.append_nil _

/-- The lines of a text that begins with some lines begin with these. -/
theorem linesOf_textOf_append {before : List String} (each : ∀ other ∈ before, OneLine other)
    {line : String} (whole : OneLine line) (rest : List Char) :
    linesOf (textOf before ++ (line.toList ++ '\n' :: rest)) =
      before.map (·.toList) ++ line.toList :: linesOf rest := by
  induction before with
  | nil => exact linesOf_cons whole rest
  | cons first others inductionHypothesis =>
      have later := inductionHypothesis fun other member =>
        each other (List.mem_cons_of_mem _ member)
      have split : textOf (first :: others) ++ (line.toList ++ '\n' :: rest) =
          first.toList ++ '\n' :: (textOf others ++ (line.toList ++ '\n' :: rest)) := by
        simp [textOf]
      rw [split, linesOf_cons (each first List.mem_cons_self), later]
      rfl

/-- The lines of lines as text are these lines, and an empty one at the end. -/
theorem linesOf_textOf {lines : List String} (each : ∀ line ∈ lines, OneLine line) :
    linesOf (textOf lines) = lines.map (·.toList) ++ [[]] := by
  induction lines with
  | nil => rfl
  | cons first others inductionHypothesis =>
      have later := inductionHypothesis fun other member =>
        each other (List.mem_cons_of_mem _ member)
      rw [textOf_cons, linesOf_cons (each first List.mem_cons_self), later]
      rfl

/-- The text behind a line is what stands behind it, if it is none of the lines before. -/
theorem behindLine?_textOf {line : String} {before : List String} (whole : OneLine line)
    (others : ∀ other ∈ before, OneLine other ∧ other ≠ line) (rest : List Char) :
    behindLine? line.toList (textOf before ++ (line.toList ++ '\n' :: rest)) = some rest := by
  have split : linesOf (textOf before ++ (line.toList ++ '\n' :: rest)) =
      before.map (·.toList) ++ line.toList :: linesOf rest :=
    linesOf_textOf_append (fun other member => (others other member).1) whole rest
  have passed : ∀ other ∈ before.map (·.toList), decide (other ≠ line.toList) = true := by
    intro other member
    obtain ⟨source, within, rfl⟩ := List.mem_map.1 member
    simpa [String.toList_inj] using (others source within).2
  rw [behindLine?, split, List.dropWhile_append_of_pos passed,
    List.dropWhile_cons_of_neg (by simp)]
  simp [linesOf, List.intercalate_splitOn]

/-- The text from a line on begins at this line, if none of the lines before begins with the same
word. -/
theorem fromLine?_textOf {start line : String} {before : List String} (whole : OneLine line)
    (begins : start.toList <+: line.toList)
    (others : ∀ other ∈ before, OneLine other ∧ ¬ start.toList <+: other.toList)
    (rest : List Char) :
    fromLine? start.toList (textOf before ++ (line.toList ++ '\n' :: rest)) =
      some (line.toList ++ '\n' :: rest) := by
  have split := linesOf_textOf_append (fun other member => (others other member).1) whole rest
  have passed : ∀ other ∈ before.map (·.toList), decide (¬ start.toList <+: other) = true := by
    intro other member
    obtain ⟨source, within, rfl⟩ := List.mem_map.1 member
    exact decide_eq_true (others source within).2
  rw [fromLine?, split, List.dropWhile_append_of_pos passed,
    List.dropWhile_cons_of_neg (by simpa using begins), ← linesOf_cons whole]
  simp [linesOf, List.intercalate_splitOn]

end InterfaceGen.Text
