import InterfaceGen.Proofs.Source.Header
import InterfaceGen.Proofs.Source.Balance
import InterfaceGen.Proofs.Text.WholeLines
import Mathlib.Data.List.Infix

/-!
# Text around a declaration

Text behind a declaration changes nothing about it: an opening stops at its first brace, so what
begins before that brace cannot become one by what stands behind it. Lines before a text change
nothing but the positions, if they hold no keyword: neither an opening nor a header begins in them,
and none begins in them and ends behind them.
-/

namespace InterfaceGen.Source

open Text

/-! ## Text behind an opening -/

/-- The start of a declaration holds no brace before its own. -/
theorem OpeningLayout.brace_not_mem {name head : List Char} (layout : OpeningLayout name head) :
    '{' ∉ head := by
  cases layout with
  | @write keyword _ _ equals _ word _ lead named beforeEquals equal afterEquals =>
      have blank {text : List Char} (blanks : IsBlanks text) : '{' ∉ text :=
        fun member => absurd (blanks '{' member) (by decide)
      have inKeyword : '{' ∉ keyword := by rcases word with rfl | rfl <;> decide
      have inName : '{' ∉ name := fun member => absurd (named.2 '{' member) (by decide)
      have inEquals : '{' ∉ equals := by rcases equal with rfl | rfl <;> decide
      simp [inKeyword, blank lead, inName, blank beforeEquals, inEquals, blank afterEquals]

namespace Opening

/-- An opening with more text behind it. -/
def followedBy (opening : Opening) (rest : List Char) : Opening :=
  ⟨opening.name, opening.inner ++ rest⟩

/-- What is read at the start of a text that holds a brace is read whatever stands behind it. -/
theorem read?_followedBy {text : List Char} (brace : '{' ∈ text) (rest : List Char) :
    read? (text ++ rest) = (read? text).map (·.followedBy rest) := by
  ext ⟨name, inner⟩
  rw [Option.map_eq_some_iff, read?_eq_some_iff]
  constructor
  · rintro ⟨head, layout, split⟩
    -- The brace of the text stands behind the head, so the brace of the opening is in the text.
    obtain ⟨more, rfl, -⟩ | ⟨more, rfl, behind⟩ := List.append_eq_append_iff.1 split
    · exact absurd (List.mem_append_left more brace) layout.brace_not_mem
    · cases more with
      | nil => exact absurd (by simpa using brace) layout.brace_not_mem
      | cons first others =>
          obtain ⟨rfl, rfl⟩ : '{' = first ∧ inner = others ++ rest := by simpa using behind
          exact ⟨⟨name, others⟩, read?_eq_some_iff.2 ⟨head, layout, rfl⟩, rfl⟩
  · rintro ⟨opening, read, same⟩
    cases same
    obtain ⟨head, layout, rfl⟩ := read?_eq_some_iff.1 read
    exact ⟨head, layout, by simp⟩

/-- The first opening of a text is the first one whatever stands behind the text. -/
theorem first?_followedBy {inWord : Bool} {text : List Char} {opening : Opening}
    (found : first? inWord text = some opening) (rest : List Char) :
    first? inWord (text ++ rest) = some (opening.followedBy rest) := by
  induction text generalizing inWord with
  | nil => cases found
  | cons char others inductionHypothesis =>
      have brace : '{' ∈ char :: others := by
        obtain ⟨front, split⟩ := exists_append_of_first? found
        simp [split]
      have here : (if inWord then none else read? (char :: (others ++ rest))) =
          (if inWord then none else read? (char :: others)).map (·.followedBy rest) := by
        rw [← List.cons_append, read?_followedBy brace]
        cases inWord <;> rfl
      rw [first?_cons, Option.or_eq_some_iff] at found
      rw [List.cons_append, first?_cons, here]
      obtain read | ⟨passed, later⟩ := found
      · rw [read]
        rfl
      · rw [passed, inductionHypothesis later]
        rfl

theorem lead_followedBy {text : List Char} {opening : Opening}
    (found : first? false text = some opening) (rest : List Char) :
    (opening.followedBy rest).lead (text ++ rest) = opening.lead text := by
  obtain ⟨name, inner⟩ := opening
  obtain ⟨front, split⟩ := exists_append_of_first? found
  rw [split, lead_append, List.append_assoc, List.cons_append]
  exact lead_append name front (inner ++ rest)

end Opening

/-- A declaration is found as it is, whatever stands behind it. -/
theorem Declaration.first_append {text : String} {declaration : Declaration}
    (found : Declaration.first text = .ok declaration) (rest : String) :
    Declaration.first (text ++ rest) = .ok declaration := by
  rw [Declaration.first] at found ⊢
  rw [String.toList_append]
  cases read : Opening.first? false text.toList with
  | none =>
      simp only [read] at found
      split at found <;> cases found
  | some opening =>
      simp only [read] at found
      simp only [Opening.first?_followedBy read, Opening.lead_followedBy read]
      cases closed : splitClosing 1 opening.inner with
      | none =>
          rw [closed] at found
          cases found
      | some parts =>
          rw [closed] at found
          simp only [Opening.followedBy, splitClosing_append_of_some closed]
          exact found

/-! ## Lines before a text -/

/-- A text that holds no keyword, not even within a word. -/
def Keywordless (text : List Char) : Prop :=
  ¬ "interface".toList <:+: text ∧ ¬ "type".toList <:+: text

instance (text : List Char) : Decidable (Keywordless text) :=
  inferInstanceAs (Decidable (¬ "interface".toList <:+: text ∧ ¬ "type".toList <:+: text))

theorem Keywordless.not_infix {text keyword : List Char} (keywordless : Keywordless text)
    (word : keyword = "interface".toList ∨ keyword = "type".toList) : ¬ keyword <:+: text := by
  rcases word with rfl | rfl
  · exact keywordless.1
  · exact keywordless.2

theorem Keywordless.of_infix {text part : List Char} (keywordless : Keywordless text)
    (within : part <:+: text) : Keywordless part :=
  ⟨fun inside => keywordless.1 (inside.trans within),
    fun inside => keywordless.2 (inside.trans within)⟩

/-- A keyword stays on its line. -/
theorem newline_not_mem_keyword {keyword : List Char}
    (word : keyword = "interface".toList ∨ keyword = "type".toList) : '\n' ∉ keyword := by
  rcases word with rfl | rfl <;> decide

/-- A word on one line that begins a text begins the first line of it. -/
theorem prefix_of_prefix_line {word front rest : List Char} (onLine : '\n' ∉ word)
    (begins : word <+: front ++ '\n' :: rest) : word <+: front := by
  obtain within | ⟨more, rfl⟩ :=
    List.prefix_or_prefix_of_prefix begins (List.prefix_append front ('\n' :: rest))
  · exact within
  · obtain rfl | ⟨tail, rfl, -⟩ :=
      List.prefix_cons_iff.1 ((List.prefix_append_right_inj front).1 begins)
    · simp
    · exact absurd (by simp) onLine

/-- What is read as an opening begins with a keyword. -/
theorem Opening.exists_keyword_of_read? {text : List Char} {opening : Opening}
    (read : read? text = some opening) :
    ∃ keyword, (keyword = "interface".toList ∨ keyword = "type".toList) ∧ keyword <+: text := by
  obtain ⟨head, layout, rfl⟩ := read?_eq_some_iff.1 read
  cases layout with
  | @write keyword _ _ _ _ word =>
      refine ⟨keyword, word, ?_⟩
      rw [List.append_assoc]
      exact List.prefix_append _ _

/-- No opening begins on lines without a keyword. -/
theorem Opening.first?_lines_append {before : List Char} (whole : WholeLines before)
    (keywordless : Keywordless before) (text : List Char) :
    first? false (before ++ text) = first? false text := by
  obtain rfl | ⟨front, rfl⟩ := whole.eq_nil_or_concat
  · rfl
  -- The search goes on behind the last newline as if nothing preceded it.
  suffices every : ∀ inWord, first? inWord (front ++ '\n' :: text) = first? false text by
    simpa using every false
  have frontless : Keywordless front := keywordless.of_infix (List.prefix_append front _).isInfix
  induction front with
  | nil =>
      intro inWord
      have noWord : isWord '\n' = false := by decide +kernel
      have nothing : read? ('\n' :: text) = none := rfl
      simp [first?_cons, noWord, nothing]
  | cons char others inductionHypothesis =>
      intro inWord
      have tail : others <:+: char :: others := (List.suffix_cons char others).isInfix
      have nothing : read? (char :: (others ++ '\n' :: text)) = none := by
        rw [Option.eq_none_iff_forall_ne_some]
        intro opening read
        obtain ⟨keyword, word, begins⟩ := exists_keyword_of_read? read
        have within : keyword <+: char :: others :=
          prefix_of_prefix_line (newline_not_mem_keyword word) begins
        exact frontless.not_infix word within.isInfix
      have later := inductionHypothesis (wholeLines_concat others)
        (keywordless.of_infix (List.suffix_cons char _).isInfix) (frontless.of_infix tail)
      rw [List.cons_append, first?_cons, nothing, later]
      cases inWord <;> rfl

namespace Header

/-- A line without a keyword is no header. -/
theorem read?_of_keywordless {line : List Char} (keywordless : Keywordless line) :
    read? line = none := by
  rw [Option.eq_none_iff_forall_ne_some]
  rintro ⟨name, lead⟩ read
  obtain ⟨tail, layout, rfl⟩ := read?_eq_some_iff.1 read
  cases layout with
  | @write indentation exported declared keyword gap _ _ _ _ word =>
      have within : keyword <:+: indentation ++ (exported ++ (declared ++ (keyword ++
          (gap ++ name)))) ++ tail :=
        ⟨indentation ++ (exported ++ declared), gap ++ (name ++ tail), by simp⟩
      exact keywordless.not_infix word within

/-- The number of the first line is added to the line of the header. -/
theorem first?_add (line more : Nat) (lines : List (List Char)) :
    first? (line + more) lines =
      (first? line lines).map fun (name, position) => (name, position.below more) := by
  induction lines generalizing line with
  | nil => rfl
  | cons text rest inductionHypothesis =>
      rw [first?, first?]
      cases read? text with
      | none => rw [Nat.add_right_comm, inductionHypothesis]
      | some header => rfl

/-- Lines without a keyword move the first header down. -/
theorem first?_lines_append {before : List Char} (whole : WholeLines before)
    (keywordless : Keywordless before) (line : Nat) (text : List Char) :
    first? line (linesOf (before ++ text)) =
      (first? line (linesOf text)).map fun (name, position) =>
        (name, position.below (before.count '\n')) := by
  induction length : before.length using Nat.strong_induction_on generalizing before line with
  | _ length inductionHypothesis =>
    subst length
    by_cases newline : '\n' ∈ before
    · obtain ⟨front, rest, rfl, onLine⟩ := List.eq_append_cons_of_mem newline
      have later := inductionHypothesis rest.length (by simp; omega) whole.of_append_cons
        (keywordless.of_infix ((List.suffix_cons '\n' rest).isInfix.trans
          (List.suffix_append front ('\n' :: rest)).isInfix)) (line + 1) rfl
      have skipped := read?_of_keywordless
        (keywordless.of_infix (List.prefix_append front ('\n' :: rest)).isInfix)
      have number : (front ++ '\n' :: rest).count '\n' = 1 + rest.count '\n' := by
        simp [List.count_append, List.count_eq_zero.2 onLine, Nat.add_comm]
      rw [List.append_assoc, List.cons_append, linesOf_append_cons onLine, first?, skipped, later,
        ← first?_add, ← first?_add, number, Nat.add_assoc]
    · obtain rfl := whole.eq_nil newline
      rw [List.nil_append]
      cases first? line (linesOf text) <;> rfl

end Header

/-- The reason why a text has no declaration, with some lines put before the text. -/
def SourceError.below (lines : Nat) : SourceError → SourceError
  | .noDeclaration => .noDeclaration
  | .missingOpenBrace name position => .missingOpenBrace name (position.below lines)
  | .unbalancedBraces name position => .unbalancedBraces name (position.below lines)

/-- The text before the brace of an opening grows by what is put before the text. -/
theorem Opening.lead_lines_append {text : List Char} {opening : Opening}
    (found : first? false text = some opening) (before : List Char) :
    opening.lead (before ++ text) = before ++ opening.lead text := by
  obtain ⟨name, inner⟩ := opening
  obtain ⟨front, split⟩ := exists_append_of_first? found
  rw [split, lead_append, ← List.append_assoc]
  exact lead_append name (before ++ front) inner

/-- Lines without a keyword that are put before a text move its declaration down, or the position
of what is wrong with it. -/
theorem Declaration.first_lines_append {before : String} (whole : WholeLines before.toList)
    (keywordless : Keywordless before.toList) (text : String) :
    Declaration.first (before ++ text) =
      match Declaration.first text with
      | .ok declaration =>
        .ok { declaration with openBrace := byteLength before.toList + declaration.openBrace }
      | .error cause => .error (cause.below (before.toList.count '\n')) := by
  simp only [Declaration.first, String.toList_append,
    Opening.first?_lines_append whole keywordless]
  cases read : Opening.first? false text.toList with
  | none =>
      have headers := Header.first?_lines_append whole keywordless 1 text.toList
      simp only [linesOf] at headers
      simp only [headers]
      cases Header.first? 1 (text.toList.splitOn '\n') <;> rfl
  | some opening =>
      simp only [Opening.lead_lines_append read, Position.after_wholeLines_append whole]
      cases splitClosing 1 opening.inner with
      | none => rfl
      | some parts => simp

end InterfaceGen.Source
