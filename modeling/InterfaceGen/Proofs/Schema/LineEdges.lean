import InterfaceGen.Proofs.Schema.Pieces
import Mathlib.Logic.Relation

/-!
# Blanks at the edges of lines

Blanks before a newline, behind it, and at both ends of a body declare nothing and change nothing.
Where a newline stands between the parts of a field, they fall to the blanks between these; where it
ends a type token, to those that are trimmed; and where it ends a line that is skipped, to this line
or to the front of the next one. Braces, balanced or not, are not touched by blanks at all.
-/

namespace InterfaceGen

open Text Source

namespace Text

/-- Blanks to be put before and behind each newline of a text, without another newline. They may
depend on the text behind the newline. -/
structure Spacing where
  before : List Char → List Char
  behind : List Char → List Char
  isGap_before : ∀ rest, IsGap (before rest)
  isGap_behind : ∀ rest, IsGap (behind rest)

namespace Spacing

/-- A text with blanks around its newlines. -/
def apply (spacing : Spacing) : List Char → List Char
  | [] => []
  | char :: rest =>
    if char = '\n' then
      spacing.before rest ++ '\n' :: (spacing.behind rest ++ spacing.apply rest)
    else char :: spacing.apply rest

variable (spacing : Spacing)

@[simp] theorem apply_nil : spacing.apply [] = [] :=
  rfl

@[simp] theorem apply_newline (rest : List Char) :
    spacing.apply ('\n' :: rest) =
      spacing.before rest ++ '\n' :: (spacing.behind rest ++ spacing.apply rest) :=
  rfl

@[simp] theorem apply_cons {char : Char} (other : char ≠ '\n') (rest : List Char) :
    spacing.apply (char :: rest) = char :: spacing.apply rest :=
  if_neg other

/-- Blanks around one newline alone, which is given by the text behind it. -/
def single (rest : List Char) {before behind : List Char} (isBefore : IsGap before)
    (isBehind : IsGap behind) : Spacing where
  before other := if other = rest then before else []
  behind other := if other = rest then behind else []
  isGap_before other := by
    split
    · exact isBefore
    · exact isGap_nil
  isGap_behind other := by
    split
    · exact isBehind
    · exact isGap_nil

/-- Within the text behind a newline there is no newline with this text behind it. -/
theorem apply_single_of_length_le {rest text before behind : List Char} (isBefore : IsGap before)
    (isBehind : IsGap behind) (shorter : text.length ≤ rest.length) :
    (single rest isBefore isBehind).apply text = text := by
  induction text with
  | nil => rfl
  | cons char tail inductionHypothesis =>
      rw [List.length_cons] at shorter
      by_cases newline : char = '\n'
      · have other : tail ≠ rest := by
          rintro rfl
          omega
        subst newline
        rw [apply_newline, inductionHypothesis (by omega)]
        simp [single, other]
      · rw [apply_cons _ newline, inductionHypothesis (by omega)]

/-- Blanks are put around the newline that is given. -/
theorem apply_single (front rest : List Char) {before behind : List Char}
    (isBefore : IsGap before) (isBehind : IsGap behind) :
    (single rest isBefore isBehind).apply (front ++ '\n' :: rest) =
      front ++ (before ++ '\n' :: (behind ++ rest)) := by
  induction front with
  | nil =>
      rw [List.nil_append, apply_newline, apply_single_of_length_le isBefore isBehind le_rfl]
      simp [single]
  | cons char others inductionHypothesis =>
      by_cases newline : char = '\n'
      · have other : others ++ '\n' :: rest ≠ rest := by
          intro same
          have lengths := congrArg List.length same
          rw [List.length_append, List.length_cons] at lengths
          omega
        subst newline
        rw [List.cons_append, apply_newline, inductionHypothesis]
        simp [single, other]
      · rw [List.cons_append, apply_cons _ newline, inductionHypothesis, List.cons_append]

/-! ### Cutting at blanks and names -/

theorem takeWhile_isNameChar_apply (text : List Char) :
    (spacing.apply text).takeWhile isNameChar = text.takeWhile isNameChar := by
  induction text with
  | nil => rfl
  | cons char rest inductionHypothesis =>
      by_cases newline : char = '\n'
      · subst newline
        rw [apply_newline,
          takeWhile_isNameChar_blanks (spacing.isGap_before rest).isBlanks (by decide)]
        rfl
      · rw [apply_cons spacing newline, List.takeWhile_cons, List.takeWhile_cons,
          inductionHypothesis]

theorem dropWhile_isNameChar_apply (text : List Char) :
    (spacing.apply text).dropWhile isNameChar = spacing.apply (text.dropWhile isNameChar) := by
  induction text with
  | nil => rfl
  | cons char rest inductionHypothesis =>
      by_cases newline : char = '\n'
      · subst newline
        rw [apply_newline,
          dropWhile_isNameChar_blanks (spacing.isGap_before rest).isBlanks (by decide)]
        rfl
      · rw [apply_cons spacing newline, List.dropWhile_cons, List.dropWhile_cons,
          inductionHypothesis]
        split
        · rfl
        · rw [apply_cons spacing newline]

/-- Blanks around newlines are dropped with the blanks at the front of a text. -/
theorem dropBlanks_apply (text : List Char) :
    dropBlanks (spacing.apply text) = spacing.apply (dropBlanks text) := by
  induction text with
  | nil => rfl
  | cons char rest inductionHypothesis =>
      by_cases newline : char = '\n'
      · subst newline
        have behind : IsBlanks ('\n' :: spacing.behind rest) :=
          List.forall_mem_cons.2 ⟨rfl, (spacing.isGap_behind rest).isBlanks⟩
        rw [apply_newline, dropBlanks_append (spacing.isGap_before rest).isBlanks,
          ← List.cons_append, dropBlanks_append behind, inductionHypothesis]
        rfl
      · rw [apply_cons spacing newline]
        cases blank : isBlank char with
        | false => rw [dropBlanks_cons blank, dropBlanks_cons blank, apply_cons spacing newline]
        | true =>
            have step (tail : List Char) : dropBlanks (char :: tail) = dropBlanks tail :=
              List.dropWhile_cons_of_pos blank
            rw [step, step, inductionHypothesis]

/-- Blanks around newlines leave the front of a text as it is. -/
theorem keepsFront_apply : KeepsFront spacing.apply where
  name := spacing.takeWhile_isNameChar_apply
  behindName := spacing.dropWhile_isNameChar_apply
  front text := by
    rw [dropBlanks_apply]
    cases front : dropBlanks text with
    | nil => exact .inl ⟨rfl, by simp⟩
    | cons char rest =>
        have other : char ≠ '\n' := by
          rintro rfl
          exact absurd (isBlank_eq_false_of_dropBlanks front) (by decide)
        exact .inr ⟨char, rest, rfl, spacing.apply_cons other rest⟩
  closing _ := rfl
  noClosing text unclosed := by
    cases text with
    | nil => exact unclosed
    | cons first others =>
        by_cases newline : first = '\n'
        · subst newline
          rw [apply_newline]
          cases gap : spacing.before others with
          | nil => simp
          | cons blank more =>
              have isBlank := (spacing.isGap_before others blank (by simp [gap])).1
              rintro closes
              obtain rfl : blank = ']' := by simpa using closes
              exact absurd isBlank (by decide)
        · rw [apply_cons spacing newline]
          exact unclosed

/-! ### Braces and lines -/

/-- The spacing of a text behind which a closing brace and more text stand. -/
def upTo (after : List Char) : Spacing where
  before rest := spacing.before (rest ++ '}' :: after)
  behind rest := spacing.behind (rest ++ '}' :: after)
  isGap_before _ := spacing.isGap_before _
  isGap_behind _ := spacing.isGap_behind _

/-- Blanks around newlines are passed by the search for a closing brace. -/
theorem splitClosing_apply {depth : Nat} (within : 1 ≤ depth) (text : List Char) :
    splitClosing depth (spacing.apply text) =
      (splitClosing depth text).map fun (before, after) =>
        ((spacing.upTo after).apply before, spacing.apply after) := by
  induction text generalizing depth with
  | nil => rfl
  | cons char rest inductionHypothesis =>
      by_cases newline : char = '\n'
      · subst newline
        have passed (gap : List Char) (isGap : IsGap gap) :=
          (braceless_of_isBlanks isGap.isBlanks).balanced.splitClosing_append within
        have ended : ¬ ('\n' = '}' ∧ depth ≤ 1) := by simp
        rw [apply_newline, passed _ (spacing.isGap_before rest), splitClosing, splitClosing,
          if_neg ended, if_neg ended]
        simp only [Char.reduceEq, if_false]
        rw [passed _ (spacing.isGap_behind rest), inductionHypothesis within]
        cases split : splitClosing depth rest with
        | none => rfl
        | some parts =>
            obtain ⟨before, after⟩ := parts
            rw [eq_append_of_splitClosing split]
            rfl
      · rw [apply_cons spacing newline, splitClosing, splitClosing]
        by_cases ended : char = '}' ∧ depth ≤ 1
        · rw [if_pos ended, if_pos ended]
          rfl
        · have inside :
              1 ≤ if char = '{' then depth + 1 else if char = '}' then depth - 1 else depth := by
            split
            · omega
            · split
              · next closing => exact Nat.le_sub_one_of_lt (by simpa [closing] using ended)
              · exact within
          rw [if_neg ended, if_neg ended]
          simp only [inductionHypothesis inside, Option.map_map, Function.comp_def,
            apply_cons _ newline]

/-- A line is skipped with the blanks before its end, and those behind it are left. -/
theorem afterLine?_apply (text : List Char) :
    afterLine? (spacing.apply text) =
      (afterLine? text).map fun rest => spacing.behind rest ++ spacing.apply rest := by
  induction text with
  | nil => rfl
  | cons char rest inductionHypothesis =>
      by_cases newline : char = '\n'
      · subst newline
        have onLine : '\n' ∉ spacing.before rest := fun member =>
          (spacing.isGap_before rest _ member).2 rfl
        rw [apply_newline, afterLine?_append_of_none (afterLine?_eq_none onLine)]
        rfl
      · rw [apply_cons spacing newline, afterLine?, afterLine?, if_neg newline, if_neg newline,
          inductionHypothesis]

/-- The token of a type takes over the blanks before the newline that ends it, and leaves those
behind it. -/
theorem exists_token_apply (text : List Char) :
    ∃ gap front, IsBlanks gap ∧ IsBlanks front ∧
      (spacing.apply text).takeWhile (!endsToken ·) = text.takeWhile (!endsToken ·) ++ gap ∧
      ((spacing.apply text).dropWhile (!endsToken ·)).drop 1 =
        front ++ spacing.apply ((text.dropWhile (!endsToken ·)).drop 1) := by
  induction text with
  | nil => exact ⟨[], [], isBlanks_nil, isBlanks_nil, rfl, rfl⟩
  | cons char rest inductionHypothesis =>
      by_cases newline : char = '\n'
      · subst newline
        have inToken : ∀ char ∈ spacing.before rest, (!endsToken char) = true := by
          intro char member
          obtain ⟨blank, other⟩ := spacing.isGap_before rest char member
          have semicolon : char ≠ ';' := by
            rintro rfl
            exact absurd blank (by decide)
          simp [endsToken, other, semicolon]
        refine ⟨spacing.before rest, spacing.behind rest, (spacing.isGap_before rest).isBlanks,
          (spacing.isGap_behind rest).isBlanks, ?_, ?_⟩
        · rw [apply_newline, List.takeWhile_append_of_pos inToken]
          simp [endsToken]
        · rw [apply_newline, List.dropWhile_append_of_pos inToken]
          simp [endsToken]
      · rw [apply_cons spacing newline]
        cases ends : endsToken char with
        | true => exact ⟨[], [], isBlanks_nil, isBlanks_nil, by simp [ends], by simp [ends]⟩
        | false =>
            obtain ⟨gap, front, allGap, allFront, taken, left⟩ := inductionHypothesis
            exact ⟨gap, front, allGap, allFront, by simp [ends, taken], by simp [ends, left]⟩

end Spacing

end Text

/-! ## Bodies with blanks around their newlines -/

/-- A type token declares the same field with blanks around the newlines behind it, given that the
fields behind it are the same. -/
theorem Piece.fields_leaf_spaced (spacing : Spacing) (head : FieldHead) (text : List Char)
    (shorter : ∀ rest, rest.length ≤ text.length →
      Field.parseBody (spacing.apply rest) = Field.parseBody rest) :
    (Piece.leaf head (trim ((spacing.apply text).takeWhile (!endsToken ·)))
        (((spacing.apply text).dropWhile (!endsToken ·)).drop 1)).fields =
      (Piece.leaf head (trim (text.takeWhile (!endsToken ·)))
        ((text.dropWhile (!endsToken ·)).drop 1)).fields := by
  obtain ⟨gap, front, allGap, allFront, taken, left⟩ := spacing.exists_token_apply text
  have behind : ((text.dropWhile (!endsToken ·)).drop 1).length ≤ text.length :=
    ((List.drop_sublist 1 _).trans (List.dropWhile_sublist _)).length_le
  rw [taken, left, trim_append_blanks allGap, fields, Field.parseBody_blanks_append allFront,
    shorter _ behind, fields]

/-- A type declares the same field with blanks around newlines, given that they change no text that
is not longer. -/
theorem Piece.fields_ofType_spaced (spacing : Spacing) (head : FieldHead) (text : List Char)
    (shorter : ∀ (spacing : Spacing) (rest : List Char), rest.length ≤ text.length →
      Field.parseBody (spacing.apply rest) = Field.parseBody rest) :
    (ofType head (spacing.apply text)).fields = (ofType head text).fields := by
  have blankless := length_dropBlanks_le text
  have long := spacing.dropBlanks_apply text
  cases short : dropBlanks text with
  | nil =>
      rw [short] at long
      rw [ofType, ofType, short, long, Spacing.apply_nil]
  | cons char rest =>
      have other : char ≠ '\n' := by
        rintro rfl
        exact absurd (isBlank_eq_false_of_dropBlanks short) (by decide)
      rw [short, List.length_cons] at blankless
      rw [short, spacing.apply_cons other] at long
      by_cases opening : char = '{'
      · subst opening
        rw [ofType, ofType, long, short]
        simp only [spacing.splitClosing_apply le_rfl]
        cases split : splitClosing 1 rest with
        | none =>
            simp [fields, shorter _ rest (by omega), Field.parseBody_blanks isBlanks_nil]
        | some parts =>
            obtain ⟨body, after⟩ := parts
            have lengths := congrArg List.length (eq_append_of_splitClosing split)
            rw [List.length_append, List.length_cons] at lengths
            simp only [Option.map_some, spacing.keepsFront_apply.afterArrayMark?]
            cases mark : afterArrayMark? after with
            | none => simp [fields, shorter _ body (by omega), shorter _ after (by omega)]
            | some tail =>
                have := length_lt_of_afterArrayMark? mark
                simp [fields, shorter _ body (by omega), shorter _ tail (by omega)]
      · have leaf := fields_leaf_spaced spacing head (char :: rest) fun tail bound =>
          shorter spacing tail (bound.trans blankless)
        rw [spacing.apply_cons other] at leaf
        rw [ofType_token long opening, ofType_token short opening, leaf]

/-- A body declares the same fields with blanks around its newlines. -/
theorem Field.parseBody_spaced (spacing : Spacing) (text : List Char) :
    parseBody (spacing.apply text) = parseBody text := by
  -- The induction is on the length, since a body is read both in its objects and behind them.
  induction length : text.length using Nat.strong_induction_on generalizing spacing text with
  | _ length inductionHypothesis =>
    subst length
    have blankless := length_dropBlanks_le text
    rw [parseBody_eq, parseBody_eq text, Piece.read?, Piece.read?, spacing.dropBlanks_apply,
      spacing.keepsFront_apply.read?]
    cases read : FieldHead.read? (dropBlanks text) with
    | some start =>
        obtain ⟨head, tail⟩ := start
        have := FieldHead.length_lt_of_read? read
        exact Piece.fields_ofType_spaced spacing head tail fun other rest bound =>
          inductionHypothesis rest.length (by omega) other rest rfl
    | none =>
        simp only [Option.map_none, spacing.afterLine?_apply]
        cases skipped : afterLine? (dropBlanks text) with
        | none => rfl
        | some tail =>
            have := length_lt_of_afterLine? skipped
            have blanks := (spacing.isGap_behind tail).isBlanks
            exact (parseBody_blanks_append blanks _).trans
              (inductionHypothesis tail.length (by omega) spacing tail rfl)

/-! ## Blanks put in one after the other -/

/-- Blanks are put into a text at the edge of a line: before a newline or behind it without another
newline, or any blanks at an end of the text. -/
inductive PadsEdge : List Char → List Char → Prop where
  | beforeNewline (front rest : List Char) {gap : List Char} (isGap : IsGap gap) :
      PadsEdge (front ++ '\n' :: rest) (front ++ gap ++ '\n' :: rest)
  | behindNewline (front rest : List Char) {gap : List Char} (isGap : IsGap gap) :
      PadsEdge (front ++ '\n' :: rest) (front ++ '\n' :: (gap ++ rest))
  | atStart (text : List Char) {blanks : List Char} (all : IsBlanks blanks) :
      PadsEdge text (blanks ++ text)
  | atEnd (text : List Char) {blanks : List Char} (all : IsBlanks blanks) :
      PadsEdge text (text ++ blanks)

/-- Blanks around one newline change no field. -/
theorem Field.parseBody_aroundNewline (front rest : List Char) {before behind : List Char}
    (isBefore : IsGap before) (isBehind : IsGap behind) :
    parseBody (front ++ (before ++ '\n' :: (behind ++ rest))) =
      parseBody (front ++ '\n' :: rest) := by
  rw [← Spacing.apply_single front rest isBefore isBehind, parseBody_spaced]

/-- Blanks at the edge of one line change no field. -/
theorem PadsEdge.parseBody_eq {text padded : List Char} (pads : PadsEdge text padded) :
    Field.parseBody padded = Field.parseBody text := by
  cases pads with
  | beforeNewline front rest isGap =>
      rw [List.append_assoc]
      exact Field.parseBody_aroundNewline front rest isGap isGap_nil
  | behindNewline front rest isGap =>
      exact Field.parseBody_aroundNewline front rest isGap_nil isGap
  | atStart text all => exact Field.parseBody_blanks_append all text
  | atEnd text all => exact Field.parseBody_append_blanks all text

/-- A body declares the same fields when blanks are put in at the edges of its lines, however often.
So it does when it is trimmed. -/
theorem parseBody_eq_of_padded :
    (∀ text padded, Relation.ReflTransGen PadsEdge text padded →
      Field.parseBody padded = Field.parseBody text) ∧
    ∀ text, Field.parseBody (trim text) = Field.parseBody text := by
  refine ⟨fun text padded pads => ?_, Field.parseBody_trim⟩
  induction pads with
  | refl => rfl
  | tail _ pads inductionHypothesis => exact pads.parseBody_eq.trans inductionHypothesis

/-- A newline between a closing brace and its array mark, within an object that is not closed, with
an em space before it and a tab behind it. -/
theorem parseBody_eq_of_padded_unclosed :
    let front := "a: \x7bb: \x7bc\x7d".toList
    let rest := "[]; d".toList
    let text := front ++ '\n' :: rest
    let padded := ['\n'] ++ ((front ++ ['\u2003'] ++ '\n' :: (['\t'] ++ rest)) ++ ['\r', '\n'])
    let fields : List Field := [⟨"a", true, false, .object [⟨"b", true, true, .object []⟩]⟩]
    Relation.ReflTransGen PadsEdge text padded ∧ Field.parseBody text = fields ∧
      Field.parseBody padded = fields := by
  intro front rest text padded fields
  have space : IsGap ['\u2003'] := by decide
  have tab : IsGap ['\t'] := by decide
  have lineEnd : IsBlanks ['\r', '\n'] := by decide
  have spaced := PadsEdge.beforeNewline front rest space
  have tabbed := PadsEdge.behindNewline (front ++ ['\u2003']) rest tab
  have pads : Relation.ReflTransGen PadsEdge text padded :=
    .tail (.tail (.tail (.single spaced) tabbed) (.atEnd _ lineEnd)) (.atStart _ isBlanks_newline)
  have read : Field.parseBody text = fields := by decide +kernel
  exact ⟨pads, read, (parseBody_eq_of_padded.1 text padded pads).trans read⟩

end InterfaceGen
