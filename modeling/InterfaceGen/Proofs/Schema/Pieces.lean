import InterfaceGen.Proofs.Source.Balance
import InterfaceGen.Proofs.Text.Blanks
import InterfaceGen.Schema.Body
import Mathlib.Data.List.TakeWhile

/-!
# The pieces of a body

How a head, a type and a skipped line are read when other text follows them, and what blanks at the
ends of a body mean for its fields: nothing.
-/

namespace InterfaceGen

open Text Source

/-- The fields that a body declares when a piece stands at its front. -/
def Piece.fields : Piece → List Field
  | .skipped rest => Field.parseBody rest
  | .leaf head token rest =>
    head.declare (classify token).1 (classify token).2 :: Field.parseBody rest
  | .object head repeated body rest =>
    head.declare repeated (.object (Field.parseBody body)) :: Field.parseBody rest

/-- A body is read piece by piece. -/
theorem Field.parseBody_eq (text : List Char) :
    Field.parseBody text = ((Piece.read? text).map Piece.fields).getD [] := by
  rw [Field.parseBody]
  split <;> next read => simp [read, Piece.fields]

theorem Field.parseBody_of_read? {text : List Char} {piece : Piece}
    (read : Piece.read? text = some piece) : Field.parseBody text = piece.fields := by
  rw [Field.parseBody_eq, read]
  rfl

/-- Blanks before a body declare nothing. -/
theorem Field.parseBody_blanks_append {blanks : List Char} (all : IsBlanks blanks)
    (text : List Char) : Field.parseBody (blanks ++ text) = Field.parseBody text := by
  rw [Field.parseBody_eq, Field.parseBody_eq text]
  simp only [Piece.read?, dropBlanks_append all]

/-- A type that does not begin with a brace is a token. -/
theorem Piece.ofType_token {text others : List Char} {first : Char}
    (front : dropBlanks text = first :: others) (token : first ≠ '{') (head : FieldHead) :
    ofType head text =
      .leaf head (trim ((first :: others).takeWhile (!endsToken ·)))
        (((first :: others).dropWhile (!endsToken ·)).drop 1) := by
  rw [ofType, front]
  split
  · next opening => exact absurd (List.cons.inj opening).1 token
  · rfl

/-- A type that begins with a brace is an object, and its body ends at the matching brace. -/
theorem Piece.ofType_object {body : List Char} (balanced : Balanced body) (head : FieldHead)
    (rest : List Char) :
    ofType head ('{' :: (body ++ '}' :: rest)) =
      match afterArrayMark? rest with
      | some after => .object head true body after
      | none => .object head false body rest := by
  have visible : isBlank '{' = false := by decide
  rw [ofType, dropBlanks_cons visible]
  cases marked : afterArrayMark? rest with
  | none => simp [balanced.splitClosing_closing, marked]
  | some after => simp [balanced.splitClosing_closing, marked]

/-- Blanks before a type do not matter. -/
theorem Piece.ofType_blanks_append {blanks : List Char} (all : IsBlanks blanks)
    (head : FieldHead) (text : List Char) :
    ofType head (blanks ++ text) = ofType head text := by
  rw [ofType, ofType, dropBlanks_append all]

/-! ## Heads -/

namespace FieldHead

/-- The head of a required field reads back. -/
theorem read?_required {name before : List Char} (named : IsName name) (blanks : IsBlanks before)
    (rest : List Char) :
    read? (name ++ (before ++ ':' :: rest)) = some (⟨name, true⟩, rest) := by
  have stop : isNameChar ':' = false := by decide
  have taken := takeWhile_isNameChar_blanks blanks stop rest
  have dropped := dropWhile_isNameChar_blanks blanks stop rest
  have visible : isBlank ':' = false := by decide
  rw [read?, List.takeWhile_append_of_pos named.2, List.dropWhile_append_of_pos named.2, taken,
    dropped, dropBlanks_append blanks, dropBlanks_cons visible]
  simp [named.1]

/-- The head of a field that may be left out reads back. -/
theorem read?_optional {name before between : List Char} (named : IsName name)
    (blanks : IsBlanks before) (moreBlanks : IsBlanks between) (rest : List Char) :
    read? (name ++ (before ++ '?' :: (between ++ ':' :: rest))) =
      some (⟨name, false⟩, rest) := by
  have stop : isNameChar '?' = false := by decide
  have taken := takeWhile_isNameChar_blanks blanks stop (between ++ ':' :: rest)
  have dropped := dropWhile_isNameChar_blanks blanks stop (between ++ ':' :: rest)
  have mark : isBlank '?' = false := by decide
  have colon : isBlank ':' = false := by decide
  rw [read?, List.takeWhile_append_of_pos named.2, List.dropWhile_append_of_pos named.2, taken,
    dropped, dropBlanks_append blanks, dropBlanks_cons mark]
  simp [named.1, dropBlanks_append moreBlanks, dropBlanks_cons colon]

end FieldHead

/-! ## Changes behind the front of a text -/

/-- A change of a text that keeps what a reader looks at: the name at its front, and the first
character behind blanks. Where there is none, the change brings none of the marks that readers
look for. -/
structure KeepsFront (change : List Char → List Char) : Prop where
  name : ∀ text, (change text).takeWhile isNameChar = text.takeWhile isNameChar
  behindName : ∀ text, (change text).dropWhile isNameChar = change (text.dropWhile isNameChar)
  front : ∀ text,
    (dropBlanks text = [] ∧
        ∀ char ∈ (dropBlanks (change text)).head?, char ≠ ':' ∧ char ≠ '?' ∧ char ≠ '[') ∨
      ∃ char rest, dropBlanks text = char :: rest ∧ dropBlanks (change text) = char :: change rest
  closing : ∀ text, change (']' :: text) = ']' :: change text
  noClosing : ∀ text, text.head? ≠ some ']' → (change text).head? ≠ some ']'

namespace KeepsFront

variable {change : List Char → List Char}

/-- The head at the front of a text stays when the text behind its front is changed. -/
theorem read? (keeps : KeepsFront change) (text : List Char) :
    FieldHead.read? (change text) =
      (FieldHead.read? text).map fun (head, rest) => (head, change rest) := by
  rw [FieldHead.read?, FieldHead.read?, keeps.name, keeps.behindName]
  by_cases unnamed : text.takeWhile isNameChar = []
  · simp [unnamed]
  rw [if_neg unnamed, if_neg unnamed]
  obtain ⟨short, unmarked⟩ | ⟨char, rest, short, long⟩ := keeps.front (text.dropWhile isNameChar)
  · rw [short]
    cases front : dropBlanks (change (text.dropWhile isNameChar)) with
    | nil => rfl
    | cons char rest =>
        obtain ⟨colon, mark, -⟩ := unmarked char (by rw [front]; rfl)
        simp [colon, mark]
  rw [short, long]
  by_cases colon : char = ':'
  · simp [colon]
  by_cases mark : char = '?'
  · subst mark
    obtain ⟨short, unmarked⟩ | ⟨next, rest, short, long⟩ := keeps.front rest
    · simp only [short]
      cases front : dropBlanks (change rest) with
      | nil => rfl
      | cons next others =>
          have colon := (unmarked next (by rw [front]; rfl)).1
          simp [colon]
    · by_cases colon : next = ':' <;> simp [short, long, colon]
  · simp [colon, mark]

/-- The array mark at the front of a text stays when the text behind its front is changed. -/
theorem afterArrayMark? (keeps : KeepsFront change) (text : List Char) :
    InterfaceGen.afterArrayMark? (change text) =
      (InterfaceGen.afterArrayMark? text).map change := by
  rw [InterfaceGen.afterArrayMark?, InterfaceGen.afterArrayMark?]
  obtain ⟨short, unmarked⟩ | ⟨char, rest, short, long⟩ := keeps.front text
  · rw [short]
    cases front : dropBlanks (change text) with
    | nil => rfl
    | cons char rest =>
        obtain ⟨-, -, bracket⟩ := unmarked char (by rw [front]; rfl)
        simp [bracket]
  rw [short, long]
  by_cases bracket : char = '['
  · subst bracket
    by_cases closed : rest.head? = some ']'
    · obtain ⟨others, rfl⟩ := List.head?_eq_some_iff.1 closed
      simp [keeps.closing]
    · have stillOpen := keeps.noClosing rest closed
      generalize change rest = behind at stillOpen
      cases rest <;> cases behind <;> simp_all
  · simp [bracket]

end KeepsFront

/-! ## Blanks behind a body -/

/-- Blanks hold no brace. -/
theorem braceless_of_isBlanks {blanks : List Char} (all : IsBlanks blanks) : Braceless blanks := by
  intro char member
  have blank := all char member
  constructor <;> (rintro rfl; simp [isBlank] at blank)

theorem afterLine?_append_of_some {text after : List Char} (line : afterLine? text = some after)
    (rest : List Char) : afterLine? (text ++ rest) = some (after ++ rest) := by
  induction text with
  | nil => simp [afterLine?] at line
  | cons char tail inductionHypothesis =>
      rw [afterLine?] at line
      rw [List.cons_append, afterLine?]
      by_cases newline : char = '\n'
      · obtain rfl : tail = after := by simpa [newline] using line
        simp [newline]
      · rw [if_neg newline] at line ⊢
        exact inductionHypothesis line

theorem afterLine?_append_of_none {text : List Char} (line : afterLine? text = none)
    (rest : List Char) : afterLine? (text ++ rest) = afterLine? rest := by
  induction text with
  | nil => rfl
  | cons char tail inductionHypothesis =>
      rw [afterLine?] at line
      rw [List.cons_append, afterLine?]
      by_cases newline : char = '\n'
      · simp [newline] at line
      · rw [if_neg newline] at line ⊢
        exact inductionHypothesis line

theorem afterLine?_eq_none {line : List Char} (onLine : '\n' ∉ line) : afterLine? line = none := by
  induction line with
  | nil => rfl
  | cons char rest inductionHypothesis =>
      obtain ⟨first, others⟩ := not_or.1 (mt List.mem_cons.2 onLine)
      rw [afterLine?, if_neg (Ne.symm first), inductionHypothesis others]

/-- A line that is skipped ends with a newline. -/
theorem exists_append_of_afterLine? {text rest : List Char}
    (read : afterLine? text = some rest) : ∃ line, text = line ++ '\n' :: rest := by
  induction text with
  | nil => simp [afterLine?] at read
  | cons char tail inductionHypothesis =>
      rw [afterLine?] at read
      split at read
      · next newline =>
          obtain rfl : tail = rest := Option.some.inj read
          exact ⟨[], by rw [newline]; rfl⟩
      · obtain ⟨line, rfl⟩ := inductionHypothesis read
        exact ⟨char :: line, rfl⟩

theorem suffix_of_afterLine? {text after : List Char} (line : afterLine? text = some after) :
    after <:+ text := by
  obtain ⟨skipped, rfl⟩ := exists_append_of_afterLine? line
  exact (List.suffix_cons '\n' after).trans (List.suffix_append skipped ('\n' :: after))

/-- Blanks behind a text leave its front as it is. -/
theorem keepsFront_append_blanks {blanks : List Char} (all : IsBlanks blanks) :
    KeepsFront (· ++ blanks) where
  name := takeWhile_isNameChar_append_blanks all
  behindName := dropWhile_isNameChar_append_blanks all
  front text := (dropBlanks_append_blanks all text).imp_left fun ⟨short, long⟩ =>
    ⟨short, by simp [long]⟩
  closing _ := rfl
  noClosing text unclosed := by
    cases text with
    | cons first others => exact unclosed
    | nil =>
        intro closes
        exact absurd (all ']' (List.mem_of_mem_head? closes)) (by decide)

/-- A text of blanks declares nothing. -/
theorem Field.parseBody_blanks {blanks : List Char} (all : IsBlanks blanks) :
    Field.parseBody blanks = [] := by
  rw [Field.parseBody_eq]
  simp [Piece.read?, dropBlanks_eq_nil_iff.2 all, FieldHead.read?, afterLine?]

/-- A type token that ends within a text is not touched by what follows the text, and one that ends
with the text takes over the blanks behind it, up to the end of the line. -/
theorem Piece.fields_leaf_append_blanks {blanks : List Char} (all : IsBlanks blanks)
    (head : FieldHead) (text : List Char)
    (shorter : ∀ rest, rest.length ≤ text.length →
      Field.parseBody (rest ++ blanks) = Field.parseBody rest) :
    (Piece.leaf head (trim ((text ++ blanks).takeWhile (!endsToken ·)))
        (((text ++ blanks).dropWhile (!endsToken ·)).drop 1)).fields =
      (Piece.leaf head (trim (text.takeWhile (!endsToken ·)))
        ((text.dropWhile (!endsToken ·)).drop 1)).fields := by
  simp only [Piece.fields]
  by_cases ends : text.dropWhile (!endsToken ·) = []
  · have inside : ∀ char ∈ text, (!endsToken char) = true := by
      simpa [List.dropWhile_eq_nil_iff] using ends
    have taken : IsBlanks (blanks.takeWhile (!endsToken ·)) :=
      fun char member => all char (List.takeWhile_sublist _ |>.mem member)
    have left : IsBlanks ((blanks.dropWhile (!endsToken ·)).drop 1) := fun char member =>
      all char ((List.dropWhile_sublist _).mem ((List.drop_sublist 1 _).mem member))
    rw [List.takeWhile_append_of_pos inside, List.dropWhile_append_of_pos inside,
      trim_append_blanks taken, ends, Field.parseBody_blanks left,
      List.takeWhile_eq_self_iff.2 inside]
    simp [Field.parseBody_blanks isBlanks_nil]
  · obtain ⟨stop, rest, tail⟩ := List.exists_cons_of_ne_nil ends
    have length : rest.length ≤ text.length := by
      have := (List.dropWhile_sublist (l := text) (!endsToken ·)).length_le
      rw [tail, List.length_cons] at this
      omega
    have within : (text.takeWhile (!endsToken ·)).length ≠ text.length := by
      have split := congrArg List.length
        (List.takeWhile_append_dropWhile (p := (!endsToken ·)) (l := text))
      rw [tail, List.length_append, List.length_cons] at split
      omega
    rw [List.takeWhile_append, if_neg within, List.dropWhile_append, tail]
    simp [shorter rest length]

/-- Blanks behind a type do not change its field, given that they change nothing behind any text
that is not longer. -/
theorem Piece.fields_ofType_append_blanks {blanks : List Char} (all : IsBlanks blanks)
    (head : FieldHead) (text : List Char)
    (shorter : ∀ rest, rest.length ≤ text.length →
      Field.parseBody (rest ++ blanks) = Field.parseBody rest) :
    (ofType head (text ++ blanks)).fields = (ofType head text).fields := by
  have blankless := length_dropBlanks_le text
  obtain ⟨short, long⟩ | ⟨char, rest, short, long⟩ := dropBlanks_append_blanks all text
  · rw [ofType, ofType, short, long]
  rw [short, List.length_cons] at blankless
  by_cases opening : char = '{'
  · subst opening
    rw [ofType, ofType, short, long]
    cases split : splitClosing 1 rest with
    | none =>
        simp [splitClosing_append_of_none (braceless_of_isBlanks all) split, split, fields,
          shorter rest (by omega)]
    | some parts =>
        obtain ⟨body, after⟩ := parts
        have lengths := congrArg List.length (eq_append_of_splitClosing split)
        rw [List.length_append, List.length_cons] at lengths
        simp only [splitClosing_append_of_some split, split,
          (keepsFront_append_blanks all).afterArrayMark?]
        cases mark : afterArrayMark? after with
        | none => simp [fields, shorter after (by omega)]
        | some tail =>
            have := length_lt_of_afterArrayMark? mark
            simp [fields, shorter tail (by omega)]
  · rw [ofType_token long opening, ofType_token short opening]
    exact fields_leaf_append_blanks all head (char :: rest) fun tail bound =>
      shorter tail (bound.trans blankless)

/-- Blanks behind a body declare nothing and change nothing. -/
theorem Field.parseBody_append_blanks {blanks : List Char} (all : IsBlanks blanks)
    (text : List Char) : Field.parseBody (text ++ blanks) = Field.parseBody text := by
  -- The induction is on the length, since a body is read both in its objects and behind them.
  induction length : text.length using Nat.strong_induction_on generalizing text with
  | _ length inductionHypothesis =>
    subst length
    have blankless := length_dropBlanks_le text
    rw [parseBody_eq, parseBody_eq text, Piece.read?, Piece.read?]
    obtain ⟨short, long⟩ | ⟨char, rest, short, long⟩ := dropBlanks_append_blanks all text
    · rw [short, long]
    have line : char :: (rest ++ blanks) = (char :: rest) ++ blanks := rfl
    rw [short] at blankless
    rw [short, long, line, (keepsFront_append_blanks all).read?]
    cases read : FieldHead.read? (char :: rest) with
    | some start =>
        obtain ⟨head, tail⟩ := start
        have := FieldHead.length_lt_of_read? read
        exact Piece.fields_ofType_append_blanks all head tail fun other bound =>
          inductionHypothesis other.length (by omega) other rfl
    | none =>
        cases skipped : afterLine? (char :: rest) with
        | some tail =>
            have := length_lt_of_afterLine? skipped
            simp only [afterLine?_append_of_some skipped]
            exact inductionHypothesis tail.length (by omega) tail rfl
        | none =>
            rw [Option.map_none, afterLine?_append_of_none skipped]
            cases blankLine : afterLine? blanks with
            | none => rfl
            | some tail =>
                have tailBlanks : IsBlanks tail := fun other member =>
                  all other ((suffix_of_afterLine? blankLine).mem member)
                simpa [Piece.fields] using parseBody_blanks tailBlanks

/-- A body declares the same fields when it is trimmed. -/
theorem Field.parseBody_trim (text : List Char) :
    Field.parseBody (trim text) = Field.parseBody text := by
  obtain ⟨before, after, allBefore, allAfter, split⟩ := exists_blanks_trim text
  calc Field.parseBody (trim text)
      = Field.parseBody (trim text ++ after) := (parseBody_append_blanks allAfter _).symm
    _ = Field.parseBody (before ++ (trim text ++ after)) :=
        (parseBody_blanks_append allBefore _).symm
    _ = Field.parseBody text := by rw [← split]

end InterfaceGen
