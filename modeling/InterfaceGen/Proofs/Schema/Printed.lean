import InterfaceGen.Proofs.Schema.Fronts
import InterfaceGen.Proofs.Schema.ReadBack
import InterfaceGen.Proofs.Schema.TypeText
import InterfaceGen.Proofs.Text.Lines

/-!
# Printed fields and malformed lines

Fields that are printed on lines of their own read back whatever text follows them, be it balanced
or not, unless this text turns their last object into an array. A line behind them at which no field
begins is skipped, and nothing else is lost with it.
-/

namespace InterfaceGen

open Text Source

/-! ## Printing -/

/-- The token that a type is printed as, if it is no object. -/
def Shape.printedToken (repeated : Bool) : Shape → String
  | .unknown => if repeated then "unknown[]" else "\"a\" | \"b\""
  | shape => shape.token repeated

/-- What is printed behind an object and its mark. Only an array has a semicolon there. -/
def printedEnd (repeated : Bool) : List Char :=
  if repeated then [';', '\n'] else ['\n']

mutual

/-- A type as it is printed at a level, up to the end of its last line. -/
def Shape.printed (level : Nat) (repeated : Bool) : Shape → List Char
  | .object fields =>
    '{' :: (('\n' :: (printFields (level + 1) fields ++ (indent level).toList)) ++
      '}' :: (arrayMark repeated ++ printedEnd repeated))
  | shape => (shape.printedToken repeated).toList ++ [';', '\n']

/-- Fields as they are printed at a level, each beginning a line. -/
def printFields (level : Nat) : List Field → List Char
  | [] => []
  | ⟨name, required, repeated, shape⟩ :: rest =>
    (indent level).toList ++ (name.toList ++ (if required then [] else ['?']) ++ [':', ' ']) ++
      (shape.printed level repeated ++ printFields level rest)

end

/-- What is printed between the braces of an object. -/
def printedBody (level : Nat) (members : List Field) : List Char :=
  '\n' :: (printFields (level + 1) members ++ (indent level).toList)

/-! ## Parts of what is printed -/

/-- Blanks before a head belong to it. -/
theorem HeadLayout.blanks_append {name : String} {required : Bool} {blanks head : List Char}
    (all : IsBlanks blanks) (start : HeadLayout name required head) :
    HeadLayout name required (blanks ++ head) := by
  cases start with
  | required named lead inside trail =>
      rw [← List.append_assoc]
      exact .required named (isBlanks_append.2 ⟨all, lead⟩) inside trail
  | optional named lead inside marked trail =>
      rw [← List.append_assoc]
      exact .optional named (isBlanks_append.2 ⟨all, lead⟩) inside marked trail

/-- What is printed before a type is a head. -/
theorem headLayout_printed {name : String} (named : IsName name.toList) (required : Bool)
    (level : Nat) :
    HeadLayout name required ((indent level).toList ++
      (name.toList ++ (if required then [] else ['?']) ++ [':', ' '])) :=
  (headLayout_line named required).blanks_append (isBlanks_indent level)

/-- A token that is printed reads back as its type, if there is a notation for it. -/
theorem tokenLayout_printedToken {repeated : Bool} {shape : Shape}
    (leaf : ∀ members, shape ≠ .object members) (described : repeated = true → shape ≠ .unknown) :
    TokenLayout repeated shape (shape.printedToken repeated).toList := by
  cases shape with
  | unknown =>
      obtain rfl : repeated = false := by simpa using described
      exact .unknown (by decide) (by decide)
  | _ => exact tokenLayout_token leaf described

theorem Shape.printed_leaf {shape : Shape} (leaf : ∀ members, shape ≠ .object members)
    (level : Nat) (repeated : Bool) :
    shape.printed level repeated = (shape.printedToken repeated).toList ++ [';', '\n'] := by
  cases shape with
  | object members => exact absurd rfl (leaf members)
  | _ => rfl

/-- A printed object stands in braces, with its mark and the end of its line behind them. -/
theorem Shape.printed_object_append (level : Nat) (repeated : Bool) (members : List Field)
    (rest : List Char) :
    Shape.printed level repeated (.object members) ++ rest =
      '{' :: (printedBody level members ++
        '}' :: (arrayMark repeated ++ (printedEnd repeated ++ rest))) := by
  simp [Shape.printed, printedBody]

theorem balanced_printedBody {level : Nat} {members : List Field}
    (inner : Balanced (printFields (level + 1) members)) : Balanced (printedBody level members) :=
  .char (by decide) (by decide)
    (inner.append (braceless_of_isBlanks (isBlanks_indent level)).balanced)

/-- The braces that are printed for fields match. -/
theorem balanced_printFields (level : Nat) : ∀ fields : List Field, Writable fields →
    EveryLevelBelow Writable fields → Balanced (printFields level fields)
  | [], _, _ => .nil
  | ⟨name, required, repeated, shape⟩ :: others, writable, below => by
      have head := (headLayout_printed (writable.1 _ List.mem_cons_self) required level).balanced
      have rest := balanced_printFields level others writable.tail below.2
      refine head.append ?_
      by_cases leaf : ∀ members, shape ≠ .object members
      · have type := tokenLayout_printedToken leaf (writable.2 _ List.mem_cons_self)
        have lineEnd : Balanced [';', '\n'] := Braceless.balanced (by decide)
        rw [Shape.printed_leaf leaf]
        exact (type.isToken.braceless.balanced.append lineEnd).append rest
      · obtain ⟨members, rfl⟩ : ∃ members, shape = .object members := by simpa using leaf
        have inner := balanced_printFields (level + 1) members below.1.1 below.1.2
        have mark : Balanced (arrayMark repeated) :=
          Braceless.balanced (by cases repeated <;> decide)
        have lineEnd : Balanced (printedEnd repeated) :=
          Braceless.balanced (by cases repeated <;> decide)
        rw [Shape.printed_object_append]
        exact .nested (balanced_printedBody inner) (mark.append (lineEnd.append rest))
termination_by fields => sizeOf fields

/-! ## Reading printed fields -/

theorem afterArrayMark?_blanks_append {blanks : List Char} (all : IsBlanks blanks)
    (text : List Char) : afterArrayMark? (blanks ++ text) = afterArrayMark? text := by
  rw [afterArrayMark?, afterArrayMark?, dropBlanks_append all]

/-- Printed fields do not begin with an array mark, nor do they bring one about. -/
theorem afterArrayMark?_printFields_append {fields : List Field} (named : Named fields)
    (level : Nat) {rest : List Char} (unmarked : afterArrayMark? rest = none) :
    afterArrayMark? (printFields level fields ++ rest) = none := by
  cases fields with
  | nil => exact unmarked
  | cons field others =>
      obtain ⟨name, required, repeated, shape⟩ := field
      rw [printFields, List.append_assoc]
      have layout := headLayout_printed (named _ List.mem_cons_self) required level
      exact layout.afterArrayMark?_append _

/-- The end of the line of a printed object is skipped. -/
theorem parseBody_printedEnd (repeated : Bool) (rest : List Char) :
    Field.parseBody (printedEnd repeated ++ rest) = Field.parseBody rest := by
  cases repeated with
  | false => exact Field.parseBody_blanks_append isBlanks_newline rest
  | true => exact parseBody_close_append (.inr rfl) rest

theorem afterArrayMark?_printedEnd (repeated : Bool) {rest : List Char}
    (unmarked : afterArrayMark? rest = none) :
    afterArrayMark? (printedEnd repeated ++ rest) = none := by
  cases repeated with
  | false =>
      change afterArrayMark? (['\n'] ++ rest) = none
      rw [afterArrayMark?_blanks_append isBlanks_newline, unmarked]
  | true => exact afterArrayMark?_close_append (.inr rfl) unmarked

/-- Printed fields read back before any text that does not begin with an array mark, and reading
goes on at this text. -/
theorem parseBody_printFields_append (level : Nat) : ∀ fields : List Field, Writable fields →
    EveryLevelBelow Writable fields → ∀ rest : List Char, afterArrayMark? rest = none →
      Field.parseBody (printFields level fields ++ rest) = fields ++ Field.parseBody rest
  | [], _, _, _, _ => rfl
  | ⟨name, required, repeated, shape⟩ :: others, writable, below, rest, unmarked => by
      have start := headLayout_printed (writable.1 _ List.mem_cons_self) required level
      have following :=
        parseBody_printFields_append level others writable.tail below.2 rest unmarked
      rw [printFields, List.append_assoc, Field.parseBody_of_read? (start.read?_append _)]
      by_cases leaf : ∀ members, shape ≠ .object members
      · have type := tokenLayout_printedToken leaf (writable.2 _ List.mem_cons_self)
        have read := type.isToken.ofType_stop isGap_nil (.inl rfl) ⟨name.toList, required⟩
          (['\n'] ++ (printFields level others ++ rest))
        have behind := Field.parseBody_blanks_append isBlanks_newline
          (printFields level others ++ rest)
        rw [Shape.printed_leaf leaf]
        simp only [List.append_assoc, List.cons_append, List.nil_append] at read behind ⊢
        rw [read, Piece.fields, behind, following, type.classify_eq]
        simp [FieldHead.declare]
      · obtain ⟨members, rfl⟩ : ∃ members, shape = .object members := by simpa using leaf
        have indented := isBlanks_indent level
        have balanced := balanced_printedBody
          (balanced_printFields (level + 1) members below.1.1 below.1.2)
        -- The blanks before the closing brace are all that stands behind the members.
        have nothing : afterArrayMark? (indent level).toList = none := by
          rw [afterArrayMark?, dropBlanks_eq_nil_iff.2 indented]
        have inner : Field.parseBody (printedBody level members) = members := by
          have read := parseBody_printFields_append (level + 1) members below.1.1 below.1.2
            (indent level).toList nothing
          rw [Field.parseBody_blanks indented, List.append_nil] at read
          exact (Field.parseBody_blanks_append isBlanks_newline _).trans read
        have unmarkedEnd := afterArrayMark?_printedEnd repeated
          (afterArrayMark?_printFields_append writable.tail.1 level unmarked)
        have mark := (markLayout_write repeated).afterArrayMark?_append unmarkedEnd
        have object (head : FieldHead) : Piece.ofType head ('{' :: (printedBody level members ++
            '}' :: (arrayMark repeated ++ (printedEnd repeated ++
              (printFields level others ++ rest))))) =
            .object head repeated (printedBody level members)
              (printedEnd repeated ++ (printFields level others ++ rest)) := by
          rw [Piece.ofType_object balanced, mark]
          cases repeated <;> rfl
        rw [List.append_assoc, Shape.printed_object_append, object, Piece.fields, inner,
          parseBody_printedEnd, following]
        simp [FieldHead.declare]
termination_by fields => sizeOf fields

/-- An array of objects keeps its semicolon, an object alone has none. -/
example : printFields 1 [⟨"tags", false, true, .object [⟨"v", true, false, .unknown⟩]⟩,
    ⟨"geo", true, false, .object []⟩] =
      "  tags?: \x7b\n    v: \"a\" | \"b\";\n  \x7d[];\n  geo: \x7b\n  \x7d\n".toList := by
  decide

/-! ## Lines at which no field begins -/

/-- A line at which no field begins is skipped. -/
theorem parseBody_headlessLine {line : List Char} (onLine : '\n' ∉ line)
    (visible : ¬ IsBlanks line) (body : List Char)
    (headless : ∀ name required front rest, HeadText name required front →
      dropBlanks (line ++ '\n' :: body) ≠ front ++ rest) :
    Field.parseBody (line ++ '\n' :: body) = Field.parseBody body := by
  have unread := FieldHead.read?_eq_none_iff.2 headless
  have left : '\n' ∉ dropBlanks line := fun member =>
    onLine ((List.dropWhile_suffix isBlank).mem member)
  have ends : afterLine? (dropBlanks line ++ '\n' :: body) = some body := by
    rw [afterLine?_append_of_none (afterLine?_eq_none left), afterLine?, if_pos rfl]
  rw [dropBlanks_append_right visible] at unread
  have read : Piece.read? (line ++ '\n' :: body) = some (.skipped body) := by
    simp only [Piece.read?, dropBlanks_append_right visible, unread, ends, Option.map_some]
  exact Field.parseBody_of_read? read

/-- A text that does not begin with the two brackets brings about no array. -/
theorem afterArrayMark?_line {line : List Char} (visible : ¬ IsBlanks line)
    (unmarked : ¬ ['[', ']'] <+: dropBlanks line) (body : List Char) :
    afterArrayMark? (line ++ '\n' :: body) = none := by
  rw [afterArrayMark?, dropBlanks_append_right visible]
  split
  · next rest brackets =>
      exfalso
      apply unmarked
      obtain ⟨first, others, front⟩ :=
        List.exists_cons_of_ne_nil (mt dropBlanks_eq_nil_iff.1 visible)
      rw [front, List.cons_append, List.cons.injEq] at brackets
      obtain ⟨rfl, behind⟩ := brackets
      cases others with
      | nil => simp at behind
      | cons second more =>
          obtain rfl := (List.cons.inj behind).1
          exact ⟨more, front.symm⟩
  · rfl

/-- Printed fields read back before a line at which no field begins, whatever follows the line. The
line is lost, and of what follows nothing is. -/
theorem parseBody_printFields_malformed {fields : List Field}
    (writable : (Shape.object fields).EveryLevel Writable) (level : Nat) {line : List Char}
    (onLine : '\n' ∉ line) (visible : ¬ IsBlanks line) (body : List Char)
    (headless : ∀ name required front rest, HeadText name required front →
      dropBlanks (line ++ '\n' :: body) ≠ front ++ rest)
    (unmarked : ¬ ['[', ']'] <+: dropBlanks line) :
    Field.parseBody (printFields level fields ++ (line ++ '\n' :: body)) =
      fields ++ Field.parseBody body := by
  have behind := afterArrayMark?_line visible unmarked body
  calc Field.parseBody (printFields level fields ++ (line ++ '\n' :: body))
      = fields ++ Field.parseBody (line ++ '\n' :: body) :=
        parseBody_printFields_append level fields writable.1 writable.2 _ behind
    _ = fields ++ Field.parseBody body := by
        rw [parseBody_headlessLine onLine visible body headless]

/-- An object at the end of the fields, a line that closes a brace which is not open, and a text
behind it that opens one which is not closed. -/
theorem parseBody_printFields_malformed_brace :
    let fields : List Field := [⟨"tags", true, true, .object [⟨"v", false, false, .unknown⟩]⟩,
      ⟨"geo", true, false, .object [⟨"lat", true, true, .number⟩]⟩]
    let line := " \x7d [ x".toList
    let body := "? : \x7b a: string".toList
    (Shape.object fields).EveryLevel Writable ∧ '\n' ∉ line ∧ ¬ IsBlanks line ∧
      (∀ name required front rest, HeadText name required front →
        dropBlanks (line ++ '\n' :: body) ≠ front ++ rest) ∧
      ¬ ['[', ']'] <+: dropBlanks line ∧
      Field.parseBody (printFields 1 fields ++ (line ++ '\n' :: body)) =
        fields ++ Field.parseBody body := by
  intro fields line body
  have writable : (Shape.object fields).EveryLevel Writable := by decide
  have onLine : '\n' ∉ line := by decide
  have visible : ¬ IsBlanks line := by decide
  have headless := FieldHead.read?_eq_none_iff.1
    (by decide : FieldHead.read? (dropBlanks (line ++ '\n' :: body)) = none)
  have unmarked : ¬ ['[', ']'] <+: dropBlanks line := by decide
  exact ⟨writable, onLine, visible, headless, unmarked,
    parseBody_printFields_malformed writable 1 onLine visible body headless unmarked⟩

end InterfaceGen
