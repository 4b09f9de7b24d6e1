import InterfaceGen.Proofs.Schema.Fronts
import InterfaceGen.Proofs.Source.Nesting

/-!
# Types that are not understood

A type that is no object is cut at its first semicolon, whatever brackets are open there. The text
behind it, up to the end of the line, is read for more fields of the same level. What follows the
line is not touched: a type whose braces match never reaches beyond it.
-/

namespace InterfaceGen

open Text Source

/-! ## Text behind a semicolon -/

/-- A semicolon behind a text leaves its front as it is, whatever follows. -/
theorem keepsFront_append_semicolon (rest : List Char) :
    KeepsFront (· ++ ';' :: rest) where
  name text := takeWhile_append_stop (by decide) text rest
  behindName text := dropWhile_append_stop (by decide) text rest
  front text := by
    rw [dropBlanks_append_stop (by decide : isBlank ';' = false)]
    cases dropBlanks text with
    | nil => exact .inl ⟨rfl, by simp⟩
    | cons char others => exact .inr ⟨char, others, rfl, rfl⟩
  closing _ := rfl
  noClosing text unclosed := by
    cases text with
    | nil => simp
    | cons first others => exact unclosed

/-! ## What is left of a text -/

theorem FieldHead.suffix_of_read? {text rest : List Char} {head : FieldHead}
    (read : FieldHead.read? text = some (head, rest)) : rest <:+ text := by
  obtain ⟨front, -, rfl⟩ := exists_headText_of_read? read
  exact List.suffix_append front rest

theorem suffix_of_afterArrayMark? {text rest : List Char}
    (read : afterArrayMark? text = some rest) : rest <:+ text := by
  obtain ⟨mark, -, rfl⟩ := exists_markLayout_of_afterArrayMark? read
  exact List.suffix_append mark rest

theorem suffix_of_splitClosing {depth : Nat} {text before after : List Char}
    (split : splitClosing depth text = some (before, after)) : after <:+ text := by
  rw [eq_append_of_splitClosing split]
  exact (List.suffix_cons '}' after).trans (List.suffix_append before ('}' :: after))

/-! ## Lines that end with a semicolon -/

section LineEnd

variable (rest : List Char)

/-- The token of a type at the end of a line ends with the line or before it, and the fields behind
it are those of the line and those of the text behind it. -/
theorem Piece.fields_leaf_append_lineEnd (head : FieldHead) {text : List Char}
    (shorter : ∀ left, left <:+ text →
      Field.parseBody (left ++ ';' :: '\n' :: rest) =
        Field.parseBody left ++ Field.parseBody rest) :
    (Piece.leaf head (trim ((text ++ ';' :: '\n' :: rest).takeWhile (!endsToken ·)))
        (((text ++ ';' :: '\n' :: rest).dropWhile (!endsToken ·)).drop 1)).fields =
      (Piece.leaf head (trim (text.takeWhile (!endsToken ·)))
        ((text.dropWhile (!endsToken ·)).drop 1)).fields ++ Field.parseBody rest := by
  have stop : (!endsToken ';') = false := by decide
  have suffix : text.dropWhile (!endsToken ·) <:+ text := List.dropWhile_suffix _
  rw [takeWhile_append_stop stop, dropWhile_append_stop stop]
  cases left : text.dropWhile (!endsToken ·) with
  | nil =>
      have behind := Field.parseBody_blanks_append isBlanks_newline rest
      have nothing := Field.parseBody_blanks isBlanks_nil
      simp only [List.singleton_append] at behind
      simp [fields, behind, nothing]
  | cons semicolon tail =>
      rw [left] at suffix
      have tailSuffix := (List.suffix_cons semicolon tail).trans suffix
      simp [fields, shorter tail tailSuffix]

/-- The fields that a type at the end of a line begins are those of the line, and those of the text
behind it, given that it is so for what the type leaves of the line. -/
theorem Piece.fields_ofType_append_lineEnd (head : FieldHead) {text : List Char}
    (ends : EndsBalanced text)
    (shorter : ∀ left, left <:+ text →
      Field.parseBody (left ++ ';' :: '\n' :: rest) =
        Field.parseBody left ++ Field.parseBody rest) :
    (ofType head (text ++ ';' :: '\n' :: rest)).fields =
      (ofType head text).fields ++ Field.parseBody rest := by
  have suffix : dropBlanks text <:+ text := List.dropWhile_suffix isBlank
  have long := dropBlanks_append_stop (by decide : isBlank ';' = false) text ('\n' :: rest)
  cases short : dropBlanks text with
  | nil =>
      rw [short, List.nil_append] at long
      rw [ofType_token long (by decide), ofType, short]
      exact fields_leaf_append_lineEnd rest head fun left within =>
        shorter left (within.trans (List.nil_suffix))
  | cons char others =>
      rw [short] at long suffix
      by_cases opening : char = '{'
      · subst opening
        obtain ⟨body, after, split⟩ := (ends.of_suffix suffix).exists_splitClosing
        have afterSuffix : after <:+ text :=
          (suffix_of_splitClosing split).trans ((List.suffix_cons '{' others).trans suffix)
        rw [ofType, ofType, long, short]
        simp only [List.cons_append, splitClosing_append_of_some split, split,
          (keepsFront_append_semicolon _).afterArrayMark?]
        cases mark : afterArrayMark? after with
        | none => simp [fields, shorter after afterSuffix]
        | some left =>
            simp [fields, shorter left ((suffix_of_afterArrayMark? mark).trans afterSuffix)]
      · have front : dropBlanks (text ++ ';' :: '\n' :: rest) =
            char :: (others ++ ';' :: '\n' :: rest) := long
        rw [ofType_token front opening, ofType_token short opening]
        exact fields_leaf_append_lineEnd rest head fun left within =>
          shorter left (within.trans suffix)

/-- A line that ends with a semicolon declares its fields before those of the text behind it, if the
braces that it opens are closed on it. -/
theorem Field.parseBody_append_lineEnd {line : List Char} (onLine : '\n' ∉ line)
    (ends : EndsBalanced line) :
    parseBody (line ++ ';' :: '\n' :: rest) = parseBody line ++ parseBody rest := by
  -- A piece leaves a shorter end of the line, which is the end of a balanced text too.
  induction length : line.length using Nat.strong_induction_on generalizing line with
  | _ length inductionHypothesis =>
    subst length
    have suffix : dropBlanks line <:+ line := List.dropWhile_suffix isBlank
    have long := dropBlanks_append_stop (by decide : isBlank ';' = false) line ('\n' :: rest)
    have onSuffix {text : List Char} (within : text <:+ line) : '\n' ∉ text :=
      fun member => onLine (within.mem member)
    rw [parseBody_eq, parseBody_eq line, Piece.read?, Piece.read?, long,
      (keepsFront_append_semicolon _).read?]
    cases read : FieldHead.read? (dropBlanks line) with
    | some start =>
        obtain ⟨head, tail⟩ := start
        have tailSuffix := (FieldHead.suffix_of_read? read).trans suffix
        have tailShorter := FieldHead.length_lt_of_read? read
        have lineShorter := suffix.length_le
        exact Piece.fields_ofType_append_lineEnd rest head
          (ends.of_suffix tailSuffix) fun left leftSuffix =>
            inductionHypothesis left.length (by have := leftSuffix.length_le; omega)
              (onSuffix (leftSuffix.trans tailSuffix))
              (ends.of_suffix (leftSuffix.trans tailSuffix)) rfl
    | none =>
        have skipped := afterLine?_eq_none (onSuffix suffix)
        simp [afterLine?_append_of_none skipped, skipped, afterLine?, Piece.fields]

end LineEnd

/-! ## Types on one line -/

/-- A type on one line that is no object and none of the tokens that are understood. -/
structure IsTypeText (type : List Char) : Prop where
  nonempty : type ≠ []
  trimmed : trim type = type
  onLine : '\n' ∉ type
  balanced : Balanced type
  noObject : type.head? ≠ some '{'
  unlisted : ∀ entry ∈ typeTokens, type ≠ entry.1.toList

/-- A field on a line of its own, with its type as given. -/
def fieldLine (name : String) (required : Bool) (type : List Char) : List Char :=
  name.toList ++ (if required then [] else ['?']) ++ [':', ' '] ++ (type ++ [';', '\n'])

/-- The part of a type that is read as its token. -/
def typeToken (type : List Char) : List Char :=
  trim (type.takeWhile (· ≠ ';'))

/-- The part of a type that is read for more fields. -/
def behindToken (type : List Char) : List Char :=
  (type.dropWhile (· ≠ ';')).drop 1

theorem classify_eq_unknown_iff {token : List Char} :
    classify token = (false, .unknown) ↔ ∀ entry ∈ typeTokens, token ≠ entry.1.toList := by
  refine ⟨?_, classify_eq_unknown⟩
  rintro unknown ⟨_, repeated, shape⟩ listed rfl
  have known := (TokenLayout.named listed).classify_eq.symm.trans unknown
  simp only [typeTokens, List.mem_cons, Prod.mk.injEq, List.not_mem_nil, or_false] at listed
  obtain ⟨rfl, rfl⟩ := Prod.mk.inj known
  simp at listed

theorem headLayout_line {name : String} (named : IsName name.toList) (required : Bool) :
    HeadLayout name required
      (name.toList ++ (if required then [] else ['?']) ++ [':', ' ']) := by
  cases required with
  | false =>
      simpa using HeadLayout.optional named isBlanks_nil isBlanks_nil isBlanks_nil isBlanks_space
  | true => simpa using HeadLayout.required named isBlanks_nil isBlanks_nil isBlanks_space

/-- On one line a token ends at the first semicolon. -/
theorem takeWhile_endsToken_line {line : List Char} (onLine : '\n' ∉ line) :
    line.takeWhile (!endsToken ·) = line.takeWhile (· ≠ ';') ∧
      line.dropWhile (!endsToken ·) = line.dropWhile (· ≠ ';') := by
  induction line with
  | nil => exact ⟨rfl, rfl⟩
  | cons char rest inductionHypothesis =>
      obtain ⟨first, others⟩ := not_or.1 (mt List.mem_cons.2 onLine)
      obtain ⟨taken, dropped⟩ := inductionHypothesis others
      have newline : (char == '\n') = false := by simpa using Ne.symm first
      have same : (!endsToken char) = decide (char ≠ ';') := by
        simp [endsToken, newline, beq_eq_decide]
      simp only [List.takeWhile_cons, List.dropWhile_cons, same, taken, dropped, and_self]

/-- A type on one line is cut at its first semicolon. -/
theorem IsTypeText.ofType_eq {type : List Char} (isType : IsTypeText type) (head : FieldHead) :
    Piece.ofType head type = .leaf head (typeToken type) (behindToken type) := by
  obtain ⟨first, others, rfl⟩ := List.exists_cons_of_ne_nil isType.nonempty
  have front : dropBlanks (first :: others) = first :: others :=
    dropBlanks_eq_self_of_trim isType.trimmed
  have noObject : first ≠ '{' := by simpa using isType.noObject
  obtain ⟨taken, dropped⟩ := takeWhile_endsToken_line isType.onLine
  rw [Piece.ofType_token front noObject, typeToken, behindToken, taken, dropped]

/-- A type without a semicolon is its own token. -/
theorem IsTypeText.of_not_mem {type : List Char} (isType : IsTypeText type) (whole : ';' ∉ type) :
    typeToken type = type ∧ behindToken type = [] := by
  have inside : ∀ char ∈ type, decide (char ≠ ';') = true := fun char member =>
    decide_eq_true fun semicolon => whole (semicolon ▸ member)
  rw [typeToken, behindToken, List.takeWhile_eq_self_iff.2 inside,
    List.dropWhile_eq_nil_iff.2 inside, isType.trimmed]
  exact ⟨rfl, rfl⟩

/-- A field on a line of its own declares itself, with the fields that stand behind the first
semicolon of its type, before those of the text behind the line. -/
theorem parseBody_fieldLine_append {name : String} {required : Bool} {type : List Char}
    (named : IsName name.toList) (isType : IsTypeText type) (rest : List Char) :
    Field.parseBody (fieldLine name required type ++ rest) =
      ⟨name, required, (classify (typeToken type)).1, (classify (typeToken type)).2⟩ ::
        (Field.parseBody (behindToken type) ++ Field.parseBody rest) := by
  have start := headLayout_line named required
  have line : fieldLine name required type ++ rest =
      (name.toList ++ (if required then [] else ['?']) ++ [':', ' '] ++ type) ++
        ';' :: '\n' :: rest := by
    simp [fieldLine]
  have onLine : '\n' ∉ name.toList ++ (if required then [] else ['?']) ++ [':', ' '] ++ type := by
    have inName : '\n' ∉ name.toList := fun member => absurd (named.2 '\n' member) (by decide)
    cases required <;> simp [inName, isType.onLine]
  have ends := (start.balanced.append isType.balanced).endsBalanced
  rw [line, Field.parseBody_append_lineEnd rest onLine ends,
    Field.parseBody_of_read? (start.read?_append type), isType.ofType_eq]
  simp [Piece.fields, FieldHead.declare]

/-- A field whose type is not understood is one field with an unknown type exactly if the part of
the type before its first semicolon is no token that is understood, and the part behind it declares
no field. This is so for a type without a semicolon. -/
theorem parseBody_fieldLine_unknown {name : String} {required : Bool} {type : List Char}
    (named : IsName name.toList) (isType : IsTypeText type) (rest : List Char) :
    Field.parseBody (fieldLine name required type ++ rest) =
        ⟨name, required, (classify (typeToken type)).1, (classify (typeToken type)).2⟩ ::
          (Field.parseBody (behindToken type) ++ Field.parseBody rest) ∧
      (Field.parseBody (fieldLine name required type ++ rest) =
          ⟨name, required, false, .unknown⟩ :: Field.parseBody rest ↔
        (∀ entry ∈ typeTokens, typeToken type ≠ entry.1.toList) ∧
          Field.parseBody (behindToken type) = []) ∧
      (';' ∉ type →
        Field.parseBody (fieldLine name required type ++ rest) =
          ⟨name, required, false, .unknown⟩ :: Field.parseBody rest) := by
  have read : Field.parseBody (fieldLine name required type ++ rest) = _ :=
    parseBody_fieldLine_append named isType rest
  refine ⟨read, ?_, fun whole => ?_⟩
  · rw [read]
    constructor
    · intro same
      obtain ⟨first, others⟩ := List.cons.inj same
      obtain ⟨-, -, repeated, shape⟩ := Field.mk.inj first
      exact ⟨classify_eq_unknown_iff.1 (Prod.ext repeated shape), by simpa using others⟩
    · rintro ⟨unlisted, nothing⟩
      rw [classify_eq_unknown_iff.2 unlisted, nothing, List.nil_append]
  · obtain ⟨token, behind⟩ := isType.of_not_mem whole
    rw [read, token, behind, classify_eq_unknown_iff.2 isType.unlisted,
      Field.parseBody_blanks isBlanks_nil, List.nil_append]

/-- A member of a balanced type that stands behind a semicolon becomes a field of the surrounding
level. -/
theorem parseBody_fieldLine_leaks :
    let type := "Array<\x7b a: string; b: number \x7d>".toList
    IsName "x".toList ∧ IsTypeText type ∧
      ('(' ∉ type ∧ ')' ∉ type ∧ '[' ∉ type ∧ ']' ∉ type) ∧
      Field.parseBody (fieldLine "x" true type ++ []) ≠
        ⟨"x", true, false, .unknown⟩ :: Field.parseBody [] := by
  intro type
  have balanced : Balanced type :=
    balanced_of_splitClosing (by decide : splitClosing 1 (type ++ ['}']) = some (type, []))
  exact ⟨by decide, ⟨by decide, by decide, by decide, balanced, by decide, by decide⟩, by decide,
    by decide +kernel⟩

/-- A type whose part behind the semicolon declares nothing is one unknown field. -/
theorem parseBody_fieldLine_unknown_map :
    let type := "Map<string, \x7b size: number; \x7d>".toList
    IsName "by_id".toList ∧ IsTypeText type ∧
      Field.parseBody (fieldLine "by_id" false type ++ "next: string".toList) =
        [⟨"by_id", false, false, .unknown⟩, ⟨"next", true, false, .string⟩] := by
  intro type
  have named : IsName "by_id".toList := by decide
  have balanced : Balanced type :=
    balanced_of_splitClosing (by decide : splitClosing 1 (type ++ ['}']) = some (type, []))
  have isType : IsTypeText type :=
    ⟨by decide, by decide, by decide, balanced, by decide, by decide⟩
  have next : Field.parseBody "next: string".toList = [⟨"next", true, false, .string⟩] := by
    decide +kernel
  have unlisted : ∀ entry ∈ typeTokens, typeToken type ≠ entry.1.toList := by decide
  have nothing : Field.parseBody (behindToken type) = [] := by decide +kernel
  have read : Field.parseBody (fieldLine "by_id" false type ++ "next: string".toList) = _ :=
    (parseBody_fieldLine_unknown named isType "next: string".toList).2.1.2 ⟨unlisted, nothing⟩
  rw [next] at read
  exact ⟨named, isType, read⟩

end InterfaceGen
