import InterfaceGen.Proofs.Schema.Cursor
import InterfaceGen.Proofs.Schema.Fronts
import InterfaceGen.Proofs.Schema.NormalForm

/-!
# Strict reading

A body that leaves a brace open is read all the same: the object takes all that is left. A strict
reader refuses such a body, and reads all others alike. The body of a declaration is one of these:
each brace that reading it comes to is closed in the text that is being read.
-/

namespace InterfaceGen

open Text Source

/-! ## A strict reader -/

namespace Piece

/-- Reads the type after a head, and refuses an object whose brace is not closed. -/
def ofTypeStrict? (head : FieldHead) (text : List Char) : Option Piece :=
  match dropBlanks text with
  | '{' :: inner =>
    match splitClosing 1 inner with
    | none => none
    | some (body, after) =>
      match afterArrayMark? after with
      | some rest => some (object head true body rest)
      | none => some (object head false body after)
  | token =>
    some (leaf head (trim (token.takeWhile (!endsToken ·)))
      ((token.dropWhile (!endsToken ·)).drop 1))

/-- Reads the piece at the front of a body, of which there may be none, unless it is refused. -/
def readStrict? (text : List Char) : Option (Option Piece) :=
  let line := dropBlanks text
  match FieldHead.read? line with
  | some (head, rest) => (ofTypeStrict? head rest).map some
  | none => some ((afterLine? line).map skipped)

/-- A head stands at the front of a text, and behind it a brace that is closed nowhere. -/
def LeavesOpen (text : List Char) : Prop :=
  ∃ head rest inner, FieldHead.read? (dropBlanks text) = some (head, rest) ∧
    dropBlanks rest = '{' :: inner ∧ splitClosing 1 inner = none

/-- A type is refused for a brace that is left open, and else read as always. -/
theorem ofTypeStrict?_cases (head : FieldHead) (text : List Char) :
    (ofTypeStrict? head text = none ∧
        ∃ inner, dropBlanks text = '{' :: inner ∧ splitClosing 1 inner = none) ∨
      (ofTypeStrict? head text = some (ofType head text) ∧
        ∀ inner, dropBlanks text = '{' :: inner → splitClosing 1 inner ≠ none) := by
  by_cases object : ∃ inner, dropBlanks text = '{' :: inner
  · obtain ⟨inner, opened⟩ := object
    simp only [ofTypeStrict?, ofType, opened]
    cases closed : splitClosing 1 inner with
    | none => exact .inl ⟨rfl, inner, rfl, closed⟩
    | some parts =>
        obtain ⟨body, after⟩ := parts
        refine .inr ⟨?_, fun other same => ?_⟩
        · cases marked : afterArrayMark? after <;> simp only [marked]
        · obtain rfl := (List.cons.inj same).2
          simp [closed]
  · have token : ofType head text = leaf head (trim ((dropBlanks text).takeWhile (!endsToken ·)))
        (((dropBlanks text).dropWhile (!endsToken ·)).drop 1) := by
      rw [ofType]
      split
      · next inner opened => exact absurd ⟨inner, opened⟩ object
      · rfl
    refine .inr ⟨?_, fun inner opened => absurd ⟨inner, opened⟩ object⟩
    rw [token, ofTypeStrict?]
    split
    · next inner opened => exact absurd ⟨inner, opened⟩ object
    · rfl

/-- A piece is refused for a brace that is left open, and else read as always. -/
theorem readStrict?_cases (text : List Char) :
    (readStrict? text = none ∧ LeavesOpen text) ∨
      (readStrict? text = some (read? text) ∧ ¬ LeavesOpen text) := by
  simp only [readStrict?, read?, LeavesOpen]
  cases start : FieldHead.read? (dropBlanks text) with
  | none => exact .inr ⟨rfl, by simp⟩
  | some parts =>
      obtain ⟨head, rest⟩ := parts
      obtain ⟨refused, inner, opened, unclosed⟩ | ⟨taken, closed⟩ := ofTypeStrict?_cases head rest
      · exact .inl
          ⟨by simp only [refused, Option.map_none], head, rest, inner, rfl, opened, unclosed⟩
      · refine .inr ⟨by simp only [taken, Option.map_some], ?_⟩
        rintro ⟨_, _, inner, same, opened, unclosed⟩
        cases same
        exact closed inner opened unclosed

/-- What is read strictly is read. -/
theorem read?_of_readStrict? {text : List Char} {piece? : Option Piece}
    (strict : readStrict? text = some piece?) : read? text = piece? := by
  obtain ⟨refused, -⟩ | ⟨taken, -⟩ := readStrict?_cases text
  · rw [refused] at strict
    cases strict
  · exact Option.some.inj (taken.symm.trans strict)

theorem readStrict?_eq_none_iff {text : List Char} :
    readStrict? text = none ↔ LeavesOpen text := by
  obtain ⟨refused, leavesOpen⟩ | ⟨taken, closed⟩ := readStrict?_cases text
  · exact iff_of_true refused leavesOpen
  · exact iff_of_false (by simp [taken]) closed

end Piece

/-- The fields that a text declares, in order, unless it leaves the brace of an object open. -/
def Field.parseStrict? (text : List Char) : Option (List Field) :=
  match _ : Piece.readStrict? text with
  | none => none
  | some none => some []
  | some (some (.skipped rest)) => parseStrict? rest
  | some (some (.leaf head token rest)) => do
    return head.declare (classify token).1 (classify token).2 :: (← parseStrict? rest)
  | some (some (.object head repeated body rest)) => do
    let members ← parseStrict? body
    return head.declare repeated (.object members) :: (← parseStrict? rest)
termination_by text.length
decreasing_by
  · exact Piece.length_rest_lt_of_read? (Piece.read?_of_readStrict? (by assumption))
  · exact Piece.length_rest_lt_of_read? (Piece.read?_of_readStrict? (by assumption))
  · exact Piece.length_body_lt_of_read? (Piece.read?_of_readStrict? (by assumption))
  · exact Piece.length_rest_lt_of_read? (Piece.read?_of_readStrict? (by assumption))

/-- The fields that a body declares when a piece stands at its front, read strictly. -/
def Piece.fieldsStrict? : Piece → Option (List Field)
  | .skipped rest => Field.parseStrict? rest
  | .leaf head token rest => do
    return head.declare (classify token).1 (classify token).2 :: (← Field.parseStrict? rest)
  | .object head repeated body rest => do
    let members ← Field.parseStrict? body
    return head.declare repeated (.object members) :: (← Field.parseStrict? rest)

/-- A piece is refused with the text behind it, and an object with its body. -/
theorem Piece.fieldsStrict?_eq_none_iff (piece : Piece) :
    piece.fieldsStrict? = none ↔ Field.parseStrict? piece.rest = none ∨
      ∃ head repeated body rest, piece = .object head repeated body rest ∧
        Field.parseStrict? body = none := by
  cases piece with
  | skipped rest => simp [fieldsStrict?, Piece.rest]
  | leaf head token rest =>
      cases later : Field.parseStrict? rest <;> simp [fieldsStrict?, Piece.rest, later]
  | object head repeated body rest =>
      cases within : Field.parseStrict? body <;> cases later : Field.parseStrict? rest <;>
        simp [fieldsStrict?, Piece.rest, within, later]

namespace Field

theorem parseStrict?_of_leavesOpen {text : List Char} (leavesOpen : Piece.LeavesOpen text) :
    parseStrict? text = none := by
  rw [parseStrict?]
  split
  case h_1 => rfl
  all_goals
    next taken => simp [Piece.readStrict?_eq_none_iff.2 leavesOpen] at taken

/-- A body that leaves no brace open at its front is read strictly piece by piece. -/
theorem parseStrict?_of_not_leavesOpen {text : List Char} (closed : ¬ Piece.LeavesOpen text) :
    parseStrict? text = ((Piece.read? text).map Piece.fieldsStrict?).getD (some []) := by
  obtain ⟨-, leavesOpen⟩ | ⟨taken, -⟩ := Piece.readStrict?_cases text
  · exact absurd leavesOpen closed
  · rw [parseStrict?]
    split
    case h_1 refused => simp [taken] at refused
    all_goals
      next found =>
        rw [← Option.some.inj (found.symm.trans taken)]
        rfl

/-- What is read strictly is what is read. -/
theorem parseBody_of_parseStrict? {text : List Char} {fields : List Field}
    (strict : parseStrict? text = some fields) : parseBody text = fields := by
  -- The induction is on the length, since a body is read both in its objects and behind them.
  induction length : text.length using Nat.strong_induction_on generalizing text fields with
  | _ length inductionHypothesis =>
    subst length
    have closed : ¬ Piece.LeavesOpen text := fun leavesOpen => by
      simp [parseStrict?_of_leavesOpen leavesOpen] at strict
    rw [parseStrict?_of_not_leavesOpen closed] at strict
    rw [parseBody_eq]
    cases read : Piece.read? text with
    | none => simpa [read] using strict
    | some piece =>
        have behind {others : List Field} (later : parseStrict? piece.rest = some others) :=
          inductionHypothesis _ (Piece.length_rest_lt_of_read? read) later rfl
        rw [read] at strict
        cases piece with
        | skipped rest => exact behind strict
        | leaf head token rest =>
            obtain ⟨others, later, rfl⟩ : ∃ others, parseStrict? rest = some others ∧
                head.declare (classify token).1 (classify token).2 :: others = fields := by
              simpa [Piece.fieldsStrict?, Option.bind_eq_some_iff] using strict
            rw [← behind later]
            rfl
        | object head repeated body rest =>
            obtain ⟨members, within, others, later, rfl⟩ : ∃ members,
                parseStrict? body = some members ∧ ∃ others, parseStrict? rest = some others ∧
                  head.declare repeated (.object members) :: others = fields := by
              simpa [Piece.fieldsStrict?, Option.bind_eq_some_iff] using strict
            rw [← behind later,
              ← inductionHypothesis _ (Piece.length_body_lt_of_read? read) within rfl]
            rfl

end Field

/-! ## Where reading comes to -/

deriving instance DecidableEq for Turn

namespace Turn

/-- Reading a block from an offset, as `Field.parseFrom` does, comes to an offset in the block, or
to one in the body of an object that it reads on the way. -/
inductive ComesTo : List Char → Nat → List Char → Nat → Prop where
  | here {block : List Char} {index : Nat} : ComesTo block index block index
  | onward {block inner : List Char} {index offset : Nat} {turn : Turn}
      (read : read? block index = .ok (some turn))
      (later : ComesTo block turn.next inner offset) : ComesTo block index inner offset
  | inward {block body inner : List Char} {index next offset : Nat} {head : FieldHead}
      {repeated : Bool} (read : read? block index = .ok (some (.object head repeated body next)))
      (within : ComesTo body 0 inner offset) : ComesTo block index inner offset

/-- At an offset, behind blanks, a head begins, and behind it and blanks stands a brace, which is
that of an object. -/
inductive OpensObject (block : List Char) (index opening : Nat) : Prop where
  | intro {start : Nat} {line tail inner : List Char} {head : FieldHead}
      (skipped : skipBlanks block index = .ok start) (cut : sliceFrom block start = .ok line)
      (read : FieldHead.read? line = some (head, tail))
      (trail : skipBlanks block (start + (byteLength line - byteLength tail)) = .ok opening)
      (brace : sliceFrom block opening = .ok ('{' :: inner))

/-- Behind a head in the text at an offset, blanks are skipped to the text without them. -/
theorem exists_behindHead {block text rest : List Char} {index : Nat} {head : FieldHead}
    (remains : Remains block index text)
    (read : FieldHead.read? (dropBlanks text) = some (head, rest)) :
    ∃ start opening, skipBlanks block index = .ok start ∧
      sliceFrom block start = .ok (dropBlanks text) ∧
      skipBlanks block (start + (byteLength (dropBlanks text) - byteLength rest)) = .ok opening ∧
      Remains block opening (dropBlanks rest) := by
  obtain ⟨start, skipped, atStart⟩ := remains.exists_skipBlanks
  have cut := atStart.sliceFrom_eq
  obtain ⟨front, line⟩ := FieldHead.suffix_of_read? read
  rw [← line] at atStart
  obtain ⟨opening, trail, atOpening⟩ := atStart.add.exists_skipBlanks
  refine ⟨start, opening, skipped, cut, ?_, atOpening⟩
  rwa [← line, byteLength_append, Nat.add_sub_cancel]

/-- Where reading comes to the brace of an object, a head and a brace stand in the text. -/
theorem OpensObject.exists_remains {block text : List Char} {index opening : Nat}
    (opens : OpensObject block index opening) (remains : Remains block index text) :
    ∃ head rest inner, FieldHead.read? (dropBlanks text) = some (head, rest) ∧
      dropBlanks rest = '{' :: inner ∧ Remains block opening ('{' :: inner) := by
  obtain ⟨skipped, cut, read, trail, brace⟩ := opens
  obtain ⟨start, alsoSkipped, atStart⟩ := remains.exists_skipBlanks
  obtain rfl := Except.ok.inj (alsoSkipped.symm.trans skipped)
  obtain rfl := Except.ok.inj (atStart.sliceFrom_eq.symm.trans cut)
  obtain ⟨_, _, sameStart, -, sameTrail, atOpening⟩ := exists_behindHead remains read
  obtain rfl := Except.ok.inj (skipped.symm.trans sameStart)
  obtain rfl := Except.ok.inj (trail.symm.trans sameTrail)
  have opened := Except.ok.inj (atOpening.sliceFrom_eq.symm.trans brace)
  exact ⟨_, _, _, read, opened, opened ▸ atOpening⟩

/-- Reading comes to the brace that stands behind a head. -/
theorem exists_opensObject {block text rest inner : List Char} {index : Nat} {head : FieldHead}
    (remains : Remains block index text)
    (read : FieldHead.read? (dropBlanks text) = some (head, rest))
    (opened : dropBlanks rest = '{' :: inner) :
    ∃ opening, OpensObject block index opening ∧ Remains block opening ('{' :: inner) := by
  obtain ⟨start, opening, skipped, cut, trail, atOpening⟩ := exists_behindHead remains read
  rw [opened] at atOpening
  exact ⟨opening, ⟨skipped, cut, read, trail, atOpening.sliceFrom_eq⟩, atOpening⟩

/-- Reading comes to a brace that is closed nowhere exactly if the text leaves it open. -/
theorem exists_opensObject_unclosed_iff {block text : List Char} {index : Nat}
    (remains : Remains block index text) :
    (∃ opening, OpensObject block index opening ∧ matchingBrace? block opening = none) ↔
      Piece.LeavesOpen text := by
  constructor
  · rintro ⟨opening, opens, unclosed⟩
    obtain ⟨head, rest, inner, read, opened, atBrace⟩ := opens.exists_remains remains
    rw [matchingBrace?_of_opening atBrace, Option.map_eq_none_iff] at unclosed
    exact ⟨head, rest, inner, read, opened, unclosed⟩
  · rintro ⟨head, rest, inner, read, opened, unclosed⟩
    obtain ⟨opening, opens, atBrace⟩ := exists_opensObject remains read opened
    refine ⟨opening, opens, ?_⟩
    rw [matchingBrace?_of_opening atBrace, unclosed]
    rfl

/-- From an offset, reading comes to a brace that is closed nowhere in its block. -/
def ComesToUnclosed (block : List Char) (index : Nat) : Prop :=
  ∃ inner offset opening, ComesTo block index inner offset ∧
    OpensObject inner offset opening ∧ matchingBrace? inner opening = none

/-- Reading comes to an unclosed brace at once, or behind what it reads first, or within that. -/
theorem comesToUnclosed_iff {block text : List Char} {index : Nat}
    (remains : Remains block index text) :
    ComesToUnclosed block index ↔
      Piece.LeavesOpen text ∨ ∃ turn, read? block index = .ok (some turn) ∧
        (ComesToUnclosed block turn.next ∨ ∃ head repeated body next,
          turn = .object head repeated body next ∧ ComesToUnclosed body 0) := by
  constructor
  · rintro ⟨inner, offset, opening, comes, opens, unclosed⟩
    cases comes with
    | here => exact .inl ((exists_opensObject_unclosed_iff remains).1 ⟨opening, opens, unclosed⟩)
    | onward read later =>
        exact .inr ⟨_, read, .inl ⟨inner, offset, opening, later, opens, unclosed⟩⟩
    | inward read within =>
        exact .inr ⟨_, read, .inr ⟨_, _, _, _, rfl,
          inner, offset, opening, within, opens, unclosed⟩⟩
  · rintro (leavesOpen | ⟨turn, read, later | ⟨head, repeated, body, next, rfl, within⟩⟩)
    · obtain ⟨opening, opens, unclosed⟩ := (exists_opensObject_unclosed_iff remains).2 leavesOpen
      exact ⟨block, index, opening, .here, opens, unclosed⟩
    · obtain ⟨inner, offset, opening, comes, opens, unclosed⟩ := later
      exact ⟨inner, offset, opening, .onward read comes, opens, unclosed⟩
    · obtain ⟨inner, offset, opening, comes, opens, unclosed⟩ := within
      exact ⟨inner, offset, opening, .inward read comes, opens, unclosed⟩

end Turn

/-- A text is refused exactly if reading it comes to a brace that is closed nowhere in its block. -/
theorem Field.parseStrict?_eq_none_iff {block text : List Char} {index : Nat}
    (remains : Remains block index text) :
    parseStrict? text = none ↔ Turn.ComesToUnclosed block index := by
  induction length : text.length using Nat.strong_induction_on generalizing block text index with
  | _ length inductionHypothesis =>
    subst length
    rw [Turn.comesToUnclosed_iff remains]
    by_cases leavesOpen : Piece.LeavesOpen text
    · exact iff_of_true (parseStrict?_of_leavesOpen leavesOpen) (.inl leavesOpen)
    rw [parseStrict?_of_not_leavesOpen leavesOpen, or_iff_right leavesOpen]
    obtain ⟨nothing, read⟩ | ⟨turn, piece, found, read, reads⟩ := Turn.exists_read? remains
    · simp [nothing, read]
    · have shorter := Piece.length_rest_lt_of_read? read
      have behind := inductionHypothesis _ shorter reads.remains rfl
      rw [read, Option.map_some, Option.getD_some, Piece.fieldsStrict?_eq_none_iff]
      simp only [found, Except.ok.injEq, Option.some.injEq, exists_eq_left', ← behind]
      refine or_congr_right ?_
      cases reads with
      | skipped => simp
      | leaf => simp
      | object =>
          have within := inductionHypothesis _ (Piece.length_body_lt_of_read? read)
            (remains_start _) rfl
          simp [within]

/-! ## The bodies of declarations -/

/-- Behind a piece an end of the text is left. -/
theorem Piece.TakenFrom.rest_suffix {text : List Char} {piece : Piece}
    (taken : TakenFrom text piece) : piece.rest <:+ text := by
  cases taken with
  | @skipped line rest => exact ⟨line ++ ['\n'], by simp [Piece.rest]⟩
  | @leaf head lead front gap type stop rest =>
      exact ⟨lead ++ (front ++ (gap ++ (type ++ [stop]))), by simp [Piece.rest]⟩
  | lastLeaf => exact List.nil_suffix
  | @object head repeated lead front gap body mark rest =>
      exact ⟨lead ++ (front ++ (gap ++ '{' :: (body ++ '}' :: mark))), by simp [Piece.rest]⟩
  | openObject => exact List.nil_suffix

namespace Turn

/-- At an offset the end of a balanced text stands, in which no brace is left open. -/
def StandsBalanced (block : List Char) (index : Nat) : Prop :=
  ∃ text, Remains block index text ∧ EndsBalanced text

theorem standsBalanced_start {block : List Char} (balanced : Balanced block) :
    StandsBalanced block 0 :=
  ⟨block, remains_start block, balanced.endsBalanced⟩

namespace StandsBalanced

variable {block : List Char} {index : Nat}

/-- The brace of an object is closed in its block. -/
theorem exists_matchingBrace? (stands : StandsBalanced block index) {opening : Nat}
    (opens : OpensObject block index opening) :
    ∃ closing, matchingBrace? block opening = some closing ∧ opening < closing ∧
      closing < byteLength block := by
  obtain ⟨text, remains, ends⟩ := stands
  obtain ⟨head, rest, inner, read, opened, atBrace⟩ := opens.exists_remains remains
  have restSuffix := (FieldHead.suffix_of_read? read).trans (List.dropWhile_suffix isBlank)
  have braceSuffix : '{' :: inner <:+ text :=
    opened ▸ (List.dropWhile_suffix isBlank).trans restSuffix
  obtain ⟨body, after, closed⟩ := (ends.of_suffix braceSuffix).exists_splitClosing
  have behind : Remains block (opening + 1) inner := atBrace.next
  rw [eq_append_of_splitClosing closed] at behind
  refine ⟨opening + 1 + byteLength body, ?_, by omega, behind.add.lt_iff.2 (List.cons_ne_nil _ _)⟩
  rw [matchingBrace?_of_opening atBrace, closed]
  rfl

/-- What is read is a piece at the front of the end of a balanced text. -/
theorem exists_takenFrom (stands : StandsBalanced block index) {turn : Turn}
    (read : read? block index = .ok (some turn)) :
    ∃ text piece, Piece.TakenFrom text piece ∧ EndsBalanced text ∧ Reads block piece turn := by
  obtain ⟨text, remains, ends⟩ := stands
  obtain ⟨nothing, -⟩ | ⟨other, piece, found, pieceRead, reads⟩ := exists_read? remains
  · simp [nothing] at read
  · obtain rfl : other = turn := by simpa [read] using found.symm
    exact ⟨text, piece, Piece.takenFrom_of_read? pieceRead, ends, reads⟩

/-- Behind what is read the end of a balanced text stands again. -/
theorem next (stands : StandsBalanced block index) {turn : Turn}
    (read : read? block index = .ok (some turn)) : StandsBalanced block turn.next := by
  obtain ⟨text, piece, taken, ends, reads⟩ := stands.exists_takenFrom read
  exact ⟨piece.rest, reads.remains, ends.of_suffix taken.rest_suffix⟩

/-- The body of an object that is read is balanced. -/
theorem body (stands : StandsBalanced block index) {head : FieldHead} {repeated : Bool}
    {body : List Char} {next : Nat}
    (read : read? block index = .ok (some (.object head repeated body next))) :
    StandsBalanced body 0 := by
  obtain ⟨text, piece, taken, ends, reads⟩ := stands.exists_takenFrom read
  cases reads
  cases taken with
  | object _ _ _ closes _ => exact standsBalanced_start (balanced_of_splitClosing closes)
  | @openObject _ lead front gap _ _ _ _ unclosed =>
      -- Nothing is left open at the end of a balanced text.
      have braceSuffix : '{' :: body <:+ lead ++ (front ++ (gap ++ '{' :: body)) :=
        ⟨lead ++ (front ++ gap), by simp⟩
      obtain ⟨_, _, closed⟩ := (ends.of_suffix braceSuffix).exists_splitClosing
      simp [closed] at unclosed

/-- Wherever reading comes to, the end of a balanced text stands. -/
theorem comesTo (stands : StandsBalanced block index) {inner : List Char} {offset : Nat}
    (comes : ComesTo block index inner offset) : StandsBalanced inner offset := by
  induction comes with
  | here => exact stands
  | onward read _ inductionHypothesis => exact inductionHypothesis (stands.next read)
  | inward read _ inductionHypothesis => exact inductionHypothesis (stands.body read)

end StandsBalanced

end Turn

/-- A strict reader refuses a body exactly if reading the body comes to the brace of an object that
is closed nowhere in the block being read. In the body of a declaration there is no such brace: at
every level, each brace that reading comes to is closed within its block, so that a strict reader
reads the body and gives its fields. -/
theorem parseStrict?_first :
    (∀ body, Field.parseStrict? body = none ↔ Turn.ComesToUnclosed body 0) ∧
      ∀ text declaration, Declaration.first text = .ok declaration →
        (∀ block index opening, Turn.ComesTo declaration.body.toList 0 block index →
          Turn.OpensObject block index opening →
          ∃ closing, matchingBrace? block opening = some closing ∧ opening < closing ∧
            closing < byteLength block) ∧
        Field.parseStrict? declaration.body.toList =
          some (Field.parseBody declaration.body.toList) := by
  have refused (body : List Char) := Field.parseStrict?_eq_none_iff (remains_start body)
  refine ⟨refused, fun text declaration found => ?_⟩
  have start := Turn.standsBalanced_start (isNormal_of_first found).balanced
  have closed block index opening
      (comes : Turn.ComesTo declaration.body.toList 0 block index)
      (opens : Turn.OpensObject block index opening) :=
    (start.comesTo comes).exists_matchingBrace? opens
  refine ⟨closed, ?_⟩
  cases strict : Field.parseStrict? declaration.body.toList with
  | some fields => rw [Field.parseBody_of_parseStrict? strict]
  | none =>
      obtain ⟨block, index, opening, comes, opens, unclosed⟩ := (refused _).1 strict
      obtain ⟨closing, found, -⟩ := closed block index opening comes opens
      simp [found] at unclosed

/-- Reading gets among the members of an object on whose line no field begins, and from there into
the body of an array of objects, where it comes to a brace. -/
theorem parseStrict?_first_skipped :
    let body := "! q: \x7b\nb: \x7bc: \x7b\x7d\x7d[]; \x7d"
    Declaration.first ("type A = \x7b\n" ++ body ++ "\n\x7d") = .ok ⟨"A", body, 9⟩ ∧
      (∃ closing, matchingBrace? "c: \x7b\x7d".toList 3 = some closing ∧ 3 < closing ∧
        closing < byteLength "c: \x7b\x7d".toList) ∧
      Field.parseStrict? body.toList = some (Field.parseBody body.toList) := by
  intro body
  have found : Declaration.first ("type A = \x7b\n" ++ body ++ "\n\x7d") =
      .ok ⟨"A", body, 9⟩ := by
    decide +kernel
  have skipped : Turn.read? body.toList 0 = .ok (some (.skipped 7)) := by decide +kernel
  have object : Turn.read? body.toList 7 =
      .ok (some (.object ⟨['b'], true⟩ true "c: \x7b\x7d".toList 19)) := by
    decide +kernel
  have opens : Turn.OpensObject "c: \x7b\x7d".toList 0 3 :=
    @Turn.OpensObject.intro _ _ _ 0 "c: \x7b\x7d".toList " \x7b\x7d".toList ['}']
      ⟨['c'], true⟩ (by decide +kernel) (by decide +kernel) (by decide +kernel)
      (by decide +kernel) (by decide +kernel)
  obtain ⟨closed, strict⟩ := parseStrict?_first.2 _ _ found
  exact ⟨found, closed _ _ _ (.onward skipped (.inward object .here)) opens, strict⟩

end InterfaceGen
