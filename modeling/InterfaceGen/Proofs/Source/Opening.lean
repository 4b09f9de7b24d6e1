import InterfaceGen.Proofs.Text.Blanks
import InterfaceGen.Source.Declaration

/-!
# Openings

What the start of a declaration looks like, and where in a text one begins: at the start of a word,
anywhere in a line. The search finds the first of them.
-/

namespace InterfaceGen.Source

open Text

/-! ## Ways to write an opening -/

/-- The ways to write the start of a declaration up to its brace, with blanks between the parts.
What follows the name continues no name, so the name is as long as it can be. -/
inductive OpeningLayout (name : List Char) : List Char → Prop where
  | write {keyword blanks before equals after : List Char}
      (word : keyword = "interface".toList ∨ keyword = "type".toList) (separated : blanks ≠ [])
      (lead : IsBlanks blanks) (named : IsName name) (beforeEquals : IsBlanks before)
      (equal : equals = [] ∨ equals = ['=']) (afterEquals : IsBlanks after) :
      OpeningLayout name (keyword ++ (blanks ++ (name ++ (before ++ (equals ++ after)))))

theorem OpeningLayout.isName {name head : List Char} (layout : OpeningLayout name head) :
    IsName name := by
  cases layout with
  | write _ _ _ named => exact named

/-- A word begins or ends between two parts of a text: of the characters on the two sides, one
belongs to a word and the other does not. -/
def WordBoundary (before after : List Char) : Prop :=
  before.getLast?.any isWord ≠ after.head?.any isWord

/-- A declaration opens in a text behind `before`: the start of it is written as `head`, and `inner`
follows the brace. -/
structure OpensAt (text before head name inner : List Char) : Prop where
  split : text = before ++ (head ++ '{' :: inner)
  boundary : WordBoundary before (head ++ '{' :: inner)
  layout : OpeningLayout name head

/-- The first declaration of a text opens behind `before`. -/
structure OpensFirst (text before head name inner : List Char) : Prop
    extends OpensAt text before head name inner where
  first : ∀ {earlier head' name' inner' : List Char},
    OpensAt text earlier head' name' inner' → before.length ≤ earlier.length

/-! ## Reading an opening -/

theorem afterKeyword?_append {keyword : List Char}
    (word : keyword = "interface".toList ∨ keyword = "type".toList) (rest : List Char) :
    afterKeyword? (keyword ++ rest) = some rest := by
  rcases word with rfl | rfl <;> rfl

namespace Opening

/-- The name of an opening reads back, and what follows its brace is left. -/
theorem readName?_append {name before equals after : List Char} (named : IsName name)
    (beforeEquals : IsBlanks before) (equal : equals = [] ∨ equals = ['='])
    (afterEquals : IsBlanks after) (inner : List Char) :
    readName? (name ++ (before ++ (equals ++ (after ++ '{' :: inner)))) =
      some ⟨name, inner⟩ := by
  have brace : isBlank '{' = false := by decide
  have equalsSign : isBlank '=' = false := by decide
  rcases equal with rfl | rfl
  · have stop : isNameChar '{' = false := by decide
    have blanks : IsBlanks (before ++ after) := isBlanks_append.2 ⟨beforeEquals, afterEquals⟩
    have taken := takeWhile_isNameChar_blanks blanks stop inner
    have dropped := dropWhile_isNameChar_blanks blanks stop inner
    rw [List.append_assoc] at taken dropped
    simp [readName?, List.takeWhile_append_of_pos named.2, List.dropWhile_append_of_pos named.2,
      taken, dropped, named.1, dropBlanks_append beforeEquals, dropBlanks_append afterEquals,
      dropBlanks_cons brace, dropEquals]
  · have stop : isNameChar '=' = false := by decide
    have taken := takeWhile_isNameChar_blanks beforeEquals stop (after ++ '{' :: inner)
    have dropped := dropWhile_isNameChar_blanks beforeEquals stop (after ++ '{' :: inner)
    simp [readName?, List.takeWhile_append_of_pos named.2, List.dropWhile_append_of_pos named.2,
      taken, dropped, named.1, dropBlanks_append beforeEquals, dropBlanks_append afterEquals,
      dropBlanks_cons brace, dropBlanks_cons equalsSign, dropEquals]

/-- An opening at the start of a text reads back. -/
theorem read?_append {keyword blanks name before equals after : List Char}
    (word : keyword = "interface".toList ∨ keyword = "type".toList) (separated : blanks ≠ [])
    (lead : IsBlanks blanks) (named : IsName name) (beforeEquals : IsBlanks before)
    (equal : equals = [] ∨ equals = ['=']) (afterEquals : IsBlanks after)
    (inner : List Char) :
    read? (keyword ++ (blanks ++ (name ++ (before ++ (equals ++ (after ++ '{' :: inner)))))) =
      some ⟨name, inner⟩ := by
  obtain ⟨blank, others, rfl⟩ := List.exists_cons_of_ne_nil separated
  have first := lead blank List.mem_cons_self
  have rest : IsBlanks others := fun char member => lead char (List.mem_cons_of_mem _ member)
  rw [read?, afterKeyword?_append word]
  simp [first, dropBlanks_append rest, dropBlanks_name_append named,
    readName?_append named beforeEquals equal afterEquals]

/-- An opening at the start of a text is the first one. -/
theorem first?_of_read? {text : List Char} {opening : Opening}
    (read : read? text = some opening) : first? false text = some opening := by
  cases text with
  | nil => exact nomatch show none = some opening from read
  | cons char rest => simp [first?, read]

end Opening

/-- A keyword is the front of the text. -/
theorem exists_keyword_of_afterKeyword? {text rest : List Char}
    (read : afterKeyword? text = some rest) :
    ∃ keyword, (keyword = "interface".toList ∨ keyword = "type".toList) ∧
      text = keyword ++ rest := by
  rw [afterKeyword?] at read
  split at read
  · next found =>
      obtain rfl := Option.some.inj read
      exact ⟨_, .inl rfl, (List.isPrefixOf?_eq_some_iff_append_eq.1 found).symm⟩
  · exact ⟨_, .inr rfl, (List.isPrefixOf?_eq_some_iff_append_eq.1 read).symm⟩

/-- What `dropEquals` drops is an equals sign or nothing. -/
theorem exists_append_dropEquals (text : List Char) :
    ∃ equals, (equals = [] ∨ equals = ['=']) ∧ text = equals ++ dropEquals text := by
  unfold dropEquals
  split
  · exact ⟨['='], .inr rfl, rfl⟩
  · exact ⟨[], .inl rfl, rfl⟩

namespace Opening

/-- What is read as the name of an opening and what follows it is written so. -/
theorem exists_layout_of_readName? {text : List Char} {opening : Opening}
    (read : readName? text = some opening) :
    IsName opening.name ∧ ∃ before equals after, IsBlanks before ∧
      (equals = [] ∨ equals = ['=']) ∧ IsBlanks after ∧
      text = opening.name ++ (before ++ (equals ++ (after ++ '{' :: opening.inner))) := by
  rw [readName?] at read
  by_cases unnamed : text.takeWhile isNameChar = []
  · simp [unnamed] at read
  simp only [if_neg unnamed] at read
  obtain ⟨before, beforeBlanks, beforeSplit⟩ :=
    exists_blanks_append_dropBlanks (text.dropWhile isNameChar)
  obtain ⟨equals, equal, equalSplit⟩ :=
    exists_append_dropEquals (dropBlanks (text.dropWhile isNameChar))
  obtain ⟨after, afterBlanks, afterSplit⟩ := exists_blanks_append_dropBlanks
    (dropEquals (dropBlanks (text.dropWhile isNameChar)))
  split at read
  · next inner brace =>
      obtain rfl := Option.some.inj read
      refine ⟨⟨unnamed, List.all_eq_true.1 List.all_takeWhile⟩, before, equals, after,
        beforeBlanks, equal, afterBlanks, ?_⟩
      rw [← brace, ← afterSplit, ← equalSplit, ← beforeSplit, List.takeWhile_append_dropWhile]
  · contradiction

/-- An opening is read at the start of a text exactly if the text begins with one. -/
theorem read?_eq_some_iff {text : List Char} {opening : Opening} :
    read? text = some opening ↔
      ∃ head, OpeningLayout opening.name head ∧ text = head ++ '{' :: opening.inner := by
  constructor
  · intro read
    rw [read?] at read
    split at read
    · next blank rest keyword =>
        obtain ⟨word, isWord, split⟩ := exists_keyword_of_afterKeyword? keyword
        by_cases separated : isBlank blank = true
        · rw [if_pos separated] at read
          obtain ⟨named, before, equals, after, beforeBlanks, equal, afterBlanks, written⟩ :=
            exists_layout_of_readName? read
          obtain ⟨more, moreBlanks, restSplit⟩ := exists_blanks_append_dropBlanks rest
          have blanks : IsBlanks (blank :: more) := List.forall_mem_cons.2 ⟨separated, moreBlanks⟩
          refine ⟨_, .write isWord (List.cons_ne_nil blank more) blanks named beforeBlanks equal
            afterBlanks, ?_⟩
          rw [split, restSplit, written]
          simp
        · simp [separated] at read
    · contradiction
  · rintro ⟨head, layout, rfl⟩
    obtain ⟨name, inner⟩ := opening
    cases layout with
    | write word separated lead named beforeEquals equal afterEquals =>
        simpa using read?_append word separated lead named beforeEquals equal afterEquals inner

/-- The text before the brace of an opening is what stands in front of it. -/
theorem lead_append (name front inner : List Char) :
    lead ⟨name, inner⟩ (front ++ '{' :: inner) = front := by
  refine List.take_left' ?_
  simp only [List.length_append, List.length_cons]
  omega

/-! ## Searching for an opening -/

/-- Whether the character before a place belongs to a word: the last one of `before`, or if there
is none the one before that. -/
def endsInWord (inWord : Bool) (before : List Char) : Bool :=
  before.getLast?.elim inWord isWord

@[simp] theorem endsInWord_cons (inWord : Bool) (char : Char) (before : List Char) :
    endsInWord inWord (char :: before) = endsInWord (isWord char) before := by
  cases before with
  | nil => rfl
  | cons next others =>
      rw [endsInWord, endsInWord, List.getLast?_cons_cons,
        List.getLast?_eq_some_getLast (List.cons_ne_nil next others)]
      rfl

/-- At each place an opening is read if no word precedes it, and else the search goes on. -/
theorem first?_cons (inWord : Bool) (char : Char) (rest : List Char) :
    first? inWord (char :: rest) =
      (if inWord then none else read? (char :: rest)).or (first? (isWord char) rest) := by
  rw [first?]
  split <;> next found => simp [found]

/-- The search stops at the first place behind no word at which an opening is read. -/
theorem first?_eq_some_iff {inWord : Bool} {text : List Char} {opening : Opening} :
    first? inWord text = some opening ↔
      ∃ before rest, text = before ++ rest ∧ endsInWord inWord before = false ∧
        read? rest = some opening ∧
        ∀ earlier later, text = earlier ++ later → earlier.length < before.length →
          endsInWord inWord earlier = false → read? later = none := by
  induction text generalizing inWord with
  | nil =>
      have nothing : read? [] = none := rfl
      simp [first?, nothing]
  | cons char rest inductionHypothesis =>
      have here : (if inWord then none else read? (char :: rest)) = some opening ↔
          inWord = false ∧ read? (char :: rest) = some opening := by
        cases inWord <;> simp
      have notHere : (if inWord then none else read? (char :: rest)) = none ↔
          (inWord = false → read? (char :: rest) = none) := by
        cases inWord <;> simp
      rw [first?_cons, Option.or_eq_some_iff, here, notHere, inductionHypothesis]
      constructor
      · rintro (⟨unworded, read⟩ | ⟨passed, before, tail, rfl, unworded, read, first⟩)
        · exact ⟨[], char :: rest, rfl, unworded, read, by simp⟩
        · refine ⟨char :: before, tail, rfl, by simpa using unworded, read, ?_⟩
          intro earlier later split shorter boundary
          cases earlier with
          | nil =>
              obtain rfl : char :: (before ++ tail) = later := split
              exact passed boundary
          | cons other others =>
              obtain ⟨rfl, behind⟩ : char = other ∧ before ++ tail = others ++ later := by
                simpa using split
              exact first others later behind (by simpa using shorter) (by simpa using boundary)
      · rintro ⟨before, tail, split, unworded, read, first⟩
        cases before with
        | nil =>
            obtain rfl : char :: rest = tail := split
            exact .inl ⟨unworded, read⟩
        | cons other others =>
            obtain ⟨rfl, rfl⟩ : char = other ∧ rest = others ++ tail := by simpa using split
            refine .inr ⟨first [] _ rfl (by simp), others, tail, rfl, by simpa using unworded,
              read, fun earlier later behind shorter boundary => ?_⟩
            exact first (char :: earlier) later (by rw [behind]; rfl) (by simpa using shorter)
              (by simpa using boundary)

/-- An opening that is found is followed by what stands behind its brace. -/
theorem exists_append_of_first? {inWord : Bool} {text : List Char} {opening : Opening}
    (found : first? inWord text = some opening) :
    ∃ front, text = front ++ '{' :: opening.inner := by
  obtain ⟨before, rest, split, -, read, -⟩ := first?_eq_some_iff.1 found
  obtain ⟨head, -, written⟩ := read?_eq_some_iff.1 read
  exact ⟨before ++ head, by rw [split, written, List.append_assoc]⟩

/-- The search stops nowhere exactly if no opening is read behind no word. -/
theorem first?_eq_none_iff {inWord : Bool} {text : List Char} :
    first? inWord text = none ↔
      ∀ before rest, text = before ++ rest → endsInWord inWord before = false →
        read? rest = none := by
  induction text generalizing inWord with
  | nil =>
      have nothing : read? [] = none := rfl
      simp [first?, nothing]
  | cons char rest inductionHypothesis =>
      have notHere : (if inWord then none else read? (char :: rest)) = none ↔
          (inWord = false → read? (char :: rest) = none) := by
        cases inWord <;> simp
      rw [first?_cons, Option.or_eq_none_iff, notHere, inductionHypothesis]
      constructor
      · rintro ⟨passed, later⟩ before tail split unworded
        cases before with
        | nil =>
            obtain rfl : char :: rest = tail := split
            exact passed unworded
        | cons other others =>
            obtain ⟨rfl, behind⟩ : char = other ∧ rest = others ++ tail := by simpa using split
            exact later others tail behind (by simpa using unworded)
      · intro none
        refine ⟨none [] _ rfl, fun before tail split unworded => ?_⟩
        exact none (char :: before) tail (by rw [split]; rfl) (by simpa using unworded)

end Opening

/-- An opening begins a word, as its keyword does. -/
theorem OpeningLayout.head?_any_isWord {name head : List Char} (layout : OpeningLayout name head)
    (rest : List Char) : (head ++ rest).head?.any isWord = true := by
  cases layout with
  | write word =>
      rcases word with rfl | rfl <;> simp <;> decide

/-- A declaration opens where no word precedes an opening that is read. -/
theorem opensAt_iff {text before head name inner : List Char} :
    OpensAt text before head name inner ↔
      text = before ++ (head ++ '{' :: inner) ∧ Opening.endsInWord false before = false ∧
        OpeningLayout name head := by
  have atWord (layout : OpeningLayout name head) :
      WordBoundary before (head ++ '{' :: inner) ↔ Opening.endsInWord false before = false := by
    rw [WordBoundary, layout.head?_any_isWord, Opening.endsInWord]
    cases before.getLast? <;> simp
  constructor
  · rintro ⟨split, boundary, layout⟩
    exact ⟨split, (atWord layout).1 boundary, layout⟩
  · rintro ⟨split, boundary, layout⟩
    exact ⟨split, (atWord layout).2 boundary, layout⟩

/-- An opening is found exactly if it is that of the first declaration that opens. -/
theorem Opening.first?_eq_some_iff_opensFirst {text : List Char} {opening : Opening} :
    first? false text = some opening ↔
      ∃ before head, OpensFirst text before head opening.name opening.inner := by
  rw [first?_eq_some_iff]
  constructor
  · rintro ⟨before, rest, rfl, boundary, read, first⟩
    obtain ⟨head, layout, rfl⟩ := read?_eq_some_iff.1 read
    refine ⟨before, head, ⟨opensAt_iff.2 ⟨rfl, boundary, layout⟩, ?_⟩⟩
    intro earlier head' name' inner' opens
    obtain ⟨split, unworded, layout'⟩ := opensAt_iff.1 opens
    by_contra shorter
    have none := first earlier _ split (by omega) unworded
    have some : read? (head' ++ '{' :: inner') = some ⟨name', inner'⟩ :=
      read?_eq_some_iff.2 ⟨head', layout', rfl⟩
    rw [some] at none
    cases none
  · rintro ⟨before, head, opens, first⟩
    obtain ⟨split, boundary, layout⟩ := opensAt_iff.1 opens
    refine ⟨before, _, split, boundary, read?_eq_some_iff.2 ⟨head, layout, rfl⟩, ?_⟩
    intro earlier later split' shorter unworded
    rw [Option.eq_none_iff_forall_ne_some]
    intro found read
    obtain ⟨head', layout', rfl⟩ := read?_eq_some_iff.1 read
    have bound := first (opensAt_iff.2 ⟨split', unworded, layout'⟩)
    omega

/-- No opening is found exactly if no declaration opens. -/
theorem Opening.first?_eq_none_iff_not_opensAt {text : List Char} :
    first? false text = none ↔
      ∀ before head name inner, ¬ OpensAt text before head name inner := by
  rw [first?_eq_none_iff]
  constructor
  · intro none before head name inner opens
    obtain ⟨split, unworded, layout⟩ := opensAt_iff.1 opens
    have some : read? (head ++ '{' :: inner) = some ⟨name, inner⟩ :=
      read?_eq_some_iff.2 ⟨head, layout, rfl⟩
    rw [none before _ split unworded] at some
    cases some
  · intro none before rest split unworded
    rw [Option.eq_none_iff_forall_ne_some]
    intro opening read
    obtain ⟨head, layout, rfl⟩ := read?_eq_some_iff.1 read
    exact none _ _ _ _ (opensAt_iff.2 ⟨split, unworded, layout⟩)

end InterfaceGen.Source
