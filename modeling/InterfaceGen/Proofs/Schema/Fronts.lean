import InterfaceGen.Proofs.Schema.Layout

/-!
# The fronts of bodies

What a reader takes from the front of a text, stated without the reader: the head of a field with
the blanks that may stand in it, and the piece that such a head or a line without one begins.
Readers take exactly such fronts, so that what is said of a front is known of all that is read.
-/

namespace InterfaceGen

open Text Source

/-! ## Heads -/

/-- The text of a head, from the first character of its name to its colon. -/
inductive HeadText (name : List Char) : Bool → List Char → Prop where
  | required {before : List Char} (named : IsName name) (inside : IsBlanks before) :
      HeadText name true (name ++ (before ++ [':']))
  | optional {before between : List Char} (named : IsName name) (inside : IsBlanks before)
      (marked : IsBlanks between) :
      HeadText name false (name ++ (before ++ '?' :: (between ++ [':'])))

theorem HeadText.isName {name text : List Char} {required : Bool}
    (head : HeadText name required text) : IsName name := by
  cases head <;> assumption

theorem HeadText.ne_nil {name text : List Char} {required : Bool}
    (head : HeadText name required text) : text ≠ [] := by
  cases head <;> simp

/-- What a head declares has its name. -/
theorem HeadText.isName_declare {head : FieldHead} {text : List Char}
    (start : HeadText head.name head.required text) (repeated : Bool) (shape : Shape) :
    IsName (head.declare repeated shape).name.toList := by
  rw [FieldHead.declare, String.toList_ofList]
  exact start.isName

/-- A head that stands at the front of a text is read there. -/
theorem HeadText.read?_append {name front : List Char} {required : Bool}
    (head : HeadText name required front) (rest : List Char) :
    FieldHead.read? (front ++ rest) = some (⟨name, required⟩, rest) := by
  cases head with
  | required named inside => simpa using FieldHead.read?_required named inside rest
  | optional named inside marked =>
      simpa using FieldHead.read?_optional named inside marked rest

/-- Behind a head that is read stands the rest, and the head is a head. -/
theorem FieldHead.exists_headText_of_read? {text rest : List Char} {head : FieldHead}
    (read : FieldHead.read? text = some (head, rest)) :
    ∃ front, HeadText head.name head.required front ∧ text = front ++ rest := by
  have name : text.takeWhile isNameChar ++ text.dropWhile isNameChar = text :=
    List.takeWhile_append_dropWhile
  have chars : ∀ char ∈ text.takeWhile isNameChar, isNameChar char = true :=
    List.all_eq_true.1 List.all_takeWhile
  obtain ⟨before, inside, behindName⟩ :=
    exists_blanks_append_dropBlanks (text.dropWhile isNameChar)
  simp only [FieldHead.read?] at read
  split at read
  · contradiction
  next nonempty =>
    split at read
    · next left colon =>
        obtain ⟨rfl, rfl⟩ : _ ∧ left = rest := by simpa using read
        refine ⟨_, .required ⟨nonempty, chars⟩ inside, ?_⟩
        rw [colon] at behindName
        calc text = text.takeWhile isNameChar ++ (before ++ ':' :: left) := by
              rw [← behindName, name]
          _ = _ := by simp
    · next tail mark =>
        obtain ⟨between, marked, behindMark⟩ := exists_blanks_append_dropBlanks tail
        split at read
        · next left colon =>
            obtain ⟨rfl, rfl⟩ : _ ∧ left = rest := by simpa using read
            refine ⟨_, .optional ⟨nonempty, chars⟩ inside marked, ?_⟩
            rw [mark, behindMark, colon] at behindName
            calc text = text.takeWhile isNameChar ++
                  (before ++ '?' :: (between ++ ':' :: left)) := by rw [← behindName, name]
              _ = _ := by simp
        · contradiction
    · contradiction

/-- A reader finds a head exactly where one stands. -/
theorem FieldHead.read?_eq_some_iff {text rest : List Char} {head : FieldHead} :
    FieldHead.read? text = some (head, rest) ↔
      ∃ front, HeadText head.name head.required front ∧ text = front ++ rest := by
  constructor
  · exact exists_headText_of_read?
  · rintro ⟨front, here, rfl⟩
    exact here.read?_append rest

/-- A reader finds no head exactly where none stands. -/
theorem FieldHead.read?_eq_none_iff {text : List Char} :
    FieldHead.read? text = none ↔
      ∀ name required front rest, HeadText name required front → text ≠ front ++ rest := by
  rw [Option.eq_none_iff_forall_ne_some]
  constructor
  · intro missing name required front rest here split
    exact missing (⟨name, required⟩, rest) (read?_eq_some_iff.2 ⟨front, here, split⟩)
  · rintro headless ⟨head, rest⟩ read
    obtain ⟨front, here, split⟩ := read?_eq_some_iff.1 read
    exact headless _ _ _ _ here split

/-! ## Pieces -/

/-- What stands at the front of a text when a piece is read there. A line ends with its newline, and
a token with the character that ends it unless the text ends first. -/
inductive Piece.TakenFrom : List Char → Piece → Prop where
  | skipped {line rest : List Char} :
      TakenFrom (line ++ '\n' :: rest) (.skipped rest)
  | leaf {head : FieldHead} {lead front gap type : List Char} {stop : Char} {rest : List Char}
      (blanks : IsBlanks lead) (start : HeadText head.name head.required front)
      (trail : IsBlanks gap) (inside : ∀ char ∈ type, endsToken char = false)
      (ends : endsToken stop = true) :
      TakenFrom (lead ++ (front ++ (gap ++ (type ++ stop :: rest)))) (.leaf head (trim type) rest)
  | lastLeaf {head : FieldHead} {lead front gap type : List Char}
      (blanks : IsBlanks lead) (start : HeadText head.name head.required front)
      (trail : IsBlanks gap) (inside : ∀ char ∈ type, endsToken char = false) :
      TakenFrom (lead ++ (front ++ (gap ++ type))) (.leaf head (trim type) [])
  | object {head : FieldHead} {repeated : Bool} {lead front gap body mark rest : List Char}
      (blanks : IsBlanks lead) (start : HeadText head.name head.required front)
      (trail : IsBlanks gap)
      (closes : splitClosing 1 (body ++ '}' :: (mark ++ rest)) = some (body, mark ++ rest))
      (marked : MarkLayout repeated mark) :
      TakenFrom (lead ++ (front ++ (gap ++ '{' :: (body ++ '}' :: (mark ++ rest)))))
        (.object head repeated body rest)
  | openObject {head : FieldHead} {lead front gap inner : List Char}
      (blanks : IsBlanks lead) (start : HeadText head.name head.required front)
      (trail : IsBlanks gap) (unclosed : splitClosing 1 inner = none) :
      TakenFrom (lead ++ (front ++ (gap ++ '{' :: inner))) (.object head false inner [])

/-- A token names no object, and no array of items of unknown type. -/
theorem classify_cases (token : List Char) :
    (∀ members, (classify token).2 ≠ .object members) ∧
      ((classify token).1 = true → (classify token).2 ≠ .unknown) := by
  unfold classify
  repeat' split
  all_goals simp

/-- The mark of an array stands where one is read. -/
theorem exists_markLayout_of_afterArrayMark? {text rest : List Char}
    (read : afterArrayMark? text = some rest) :
    ∃ mark, MarkLayout true mark ∧ text = mark ++ rest := by
  obtain ⟨blanks, lead, split⟩ := exists_blanks_append_dropBlanks text
  rw [afterArrayMark?] at read
  split at read
  · next left brackets =>
      obtain rfl : left = rest := Option.some.inj read
      refine ⟨blanks ++ ['[', ']'], .array lead, ?_⟩
      rw [split, brackets]
      simp
  · contradiction

/-- Behind a head, the text of a type is taken as far as the type goes. -/
theorem Piece.takenFrom_ofType {head : FieldHead} {lead front : List Char}
    (blanks : IsBlanks lead) (start : HeadText head.name head.required front)
    (text : List Char) : TakenFrom (lead ++ (front ++ text)) (ofType head text) := by
  obtain ⟨gap, trail, split⟩ := exists_blanks_append_dropBlanks text
  rw [ofType]
  split
  · next inner opened =>
      rw [split, opened]
      cases closed : splitClosing 1 inner with
      | none => exact .openObject blanks start trail closed
      | some parts =>
          obtain ⟨body, after⟩ := parts
          obtain rfl := eq_append_of_splitClosing closed
          cases marked : afterArrayMark? after with
          | none => simpa [marked] using TakenFrom.object blanks start trail closed .single
          | some rest =>
              obtain ⟨mark, layout, rfl⟩ := exists_markLayout_of_afterArrayMark? marked
              simpa [marked] using TakenFrom.object blanks start trail closed layout
  · have token : (dropBlanks text).takeWhile (!endsToken ·) ++
        (dropBlanks text).dropWhile (!endsToken ·) = dropBlanks text :=
      List.takeWhile_append_dropWhile
    have inside : ∀ char ∈ (dropBlanks text).takeWhile (!endsToken ·), endsToken char = false := by
      intro char member
      simpa using List.all_eq_true.1 List.all_takeWhile char member
    cases left : (dropBlanks text).dropWhile (!endsToken ·) with
    | nil =>
        have taken := TakenFrom.lastLeaf blanks start trail inside
        rw [left, List.append_nil] at token
        rwa [token, ← split, ← token] at taken
    | cons stop rest =>
        have ends : endsToken stop = true := by
          have first := List.head?_dropWhile_not (!endsToken ·) (dropBlanks text)
          rw [left] at first
          simpa using first
        have taken : TakenFrom _ (.leaf head _ rest) := .leaf blanks start trail inside ends
        rw [left] at token
        rwa [token, ← split] at taken

/-- Whatever is read at the front of a text stands there. -/
theorem Piece.takenFrom_of_read? {text : List Char} {piece : Piece}
    (read : Piece.read? text = some piece) : TakenFrom text piece := by
  obtain ⟨lead, blanks, split⟩ := exists_blanks_append_dropBlanks text
  simp only [Piece.read?] at read
  split at read
  · next head rest found =>
      obtain ⟨front, start, line⟩ := FieldHead.exists_headText_of_read? found
      obtain rfl := Option.some.inj read
      rw [split, line]
      exact takenFrom_ofType blanks start rest
  · obtain ⟨rest, skipped, rfl⟩ := Option.map_eq_some_iff.1 read
    obtain ⟨line, ends⟩ := exists_append_of_afterLine? skipped
    rw [split, ends, ← List.append_assoc]
    exact .skipped

end InterfaceGen
