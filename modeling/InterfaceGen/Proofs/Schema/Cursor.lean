import InterfaceGen.Proofs.Schema.TypeText
import InterfaceGen.Proofs.Source.Offsets
import InterfaceGen.Schema.OfSource

/-!
# Fields by byte offsets

A body can be read at a byte offset that moves on over the body, from field to field. At every
offset it reads the piece that stands there, so that no cut on the way is a fault and the fields are
those that are read from the text itself.
-/

namespace InterfaceGen

open Text Source

/-- What is read at an offset, with the offset at which reading goes on. -/
inductive Turn where
  /-- A line at which no field begins. -/
  | skipped (next : Nat)
  /-- A field whose type is a token. -/
  | leaf (head : FieldHead) (token : List Char) (next : Nat)
  /-- A field whose type is an object, or an array of objects. -/
  | object (head : FieldHead) (repeated : Bool) (body : List Char) (next : Nat)

namespace Turn

/-- The offset behind a turn. -/
def next : Turn → Nat
  | skipped next => next
  | leaf _ _ next => next
  | object _ _ _ next => next

/-- Reads a type whose brace stands at an offset. A brace that is not closed takes all that is
left. -/
def ofObject (head : FieldHead) (block : List Char) (index : Nat) : Except Fault Turn := do
  let close := (matchingBrace? block index).getD (byteLength block)
  let body ← slice block (index + 1) close
  let index := min (close + 1) (byteLength block)
  let mark ← skipBlanks block index
  match ← sliceFrom block mark with
  | '[' :: ']' :: _ => return object head true body (mark + 2)
  | _ => return object head false body index

/-- Reads a type that is a token. -/
def ofToken (head : FieldHead) (block : List Char) (index : Nat) : Except Fault Turn := do
  let stop :=
    match find? endsToken (← sliceFrom block index) with
    | some offset => index + offset
    | none => byteLength block
  return leaf head (trim (← slice block index stop)) (min (stop + 1) (byteLength block))

/-- Reads the type behind a head that ends at an offset. -/
def ofType (head : FieldHead) (block : List Char) (index : Nat) : Except Fault Turn := do
  let index ← skipBlanks block index
  match ← sliceFrom block index with
  | '{' :: _ => ofObject head block index
  | _ => ofToken head block index

/-- Reads what begins at an offset. There is nothing if the last line begins no field. -/
def read? (block : List Char) (index : Nat) : Except Fault (Option Turn) := do
  let index ← skipBlanks block index
  if byteLength block ≤ index then return none
  let line ← sliceFrom block index
  match FieldHead.read? line with
  | some (head, tail) =>
    return some (← ofType head block (index + (byteLength line - byteLength tail)))
  | none =>
    match find? (· == '\n') line with
    | none => return none
    | some newline =>
      -- The line is cut off for the log alone.
      let _ ← slice line 0 newline
      return some (skipped (index + newline + 1))

/-- A turn reads a piece if it says the same, and goes on where the text behind the piece stands. -/
inductive Reads (block : List Char) : Piece → Turn → Prop where
  | skipped {rest : List Char} {next : Nat} (behind : Remains block next rest) :
      Reads block (.skipped rest) (.skipped next)
  | leaf {head : FieldHead} {token rest : List Char} {next : Nat}
      (behind : Remains block next rest) :
      Reads block (.leaf head token rest) (.leaf head token next)
  | object {head : FieldHead} {repeated : Bool} {body rest : List Char} {next : Nat}
      (behind : Remains block next rest) :
      Reads block (.object head repeated body rest) (.object head repeated body next)

theorem Reads.remains {block : List Char} {piece : Piece} {turn : Turn}
    (reads : Reads block piece turn) : Remains block turn.next piece.rest := by
  cases reads <;> assumption

/-- An object type is read at its brace as it is read from the text that stands there. -/
theorem exists_ofObject {block text inner : List Char} {index : Nat}
    (opened : dropBlanks text = '{' :: inner) (remains : Remains block index ('{' :: inner))
    (head : FieldHead) :
    ∃ turn, ofObject head block index = .ok turn ∧ Reads block (Piece.ofType head text) turn := by
  have closing := matchingBrace?_of_opening remains
  have behind : Remains block (index + 1) inner := remains.next
  cases closed : splitClosing 1 inner with
  | none =>
      have piece : Piece.ofType head text = .object head false inner [] := by
        simp only [Piece.ofType, opened, closed]
      obtain ⟨mark, skipped, nothing⟩ := (remains_end block).exists_skipBlanks
      have whole : slice block (index + 1) (byteLength block) = .ok inner := behind.sliceFrom_eq
      have stop : min (byteLength block + 1) (byteLength block) = byteLength block := by omega
      rw [piece]
      refine ⟨object head false inner (byteLength block), ?_, .object (remains_end block)⟩
      simp only [ofObject, closing, closed, Option.map_none, Option.getD_none, whole, stop, skipped,
        nothing.sliceFrom_eq, bind, Except.bind]
      rfl
  | some parts =>
      obtain ⟨body, after⟩ := parts
      rw [eq_append_of_splitClosing closed] at behind
      have brace : Remains block (index + 1 + byteLength body) ('}' :: after) := behind.add
      have remains : Remains block (index + 1 + byteLength body + 1) after := brace.next
      have stop : min (index + 1 + byteLength body + 1) (byteLength block) =
          index + 1 + byteLength body + 1 := Nat.min_eq_left remains.le
      obtain ⟨mark, skipped, marked⟩ := remains.exists_skipBlanks
      simp only [ofObject, closing, closed, Option.map_some, Option.getD_some, behind.slice_eq,
        stop, skipped, marked.sliceFrom_eq, bind, Except.bind]
      split
      · next rest brackets =>
          have piece : Piece.ofType head text = .object head true body rest := by
            simp only [Piece.ofType, opened, closed, afterArrayMark?, brackets]
          rw [piece]
          rw [brackets] at marked
          exact ⟨_, rfl, .object marked.next.next⟩
      · next unmarked =>
          have piece : Piece.ofType head text = .object head false body after := by
            simp only [Piece.ofType, opened, closed, afterArrayMark?]
          rw [piece]
          exact ⟨_, rfl, .object remains⟩

theorem utf8Size_of_endsToken {char : Char} (ends : endsToken char = true) : char.utf8Size = 1 := by
  simp only [endsToken, Bool.or_eq_true, beq_iff_eq] at ends
  obtain rfl | rfl := ends <;> rfl

/-- A type that is a token is read as it is read from the text that stands there. -/
theorem exists_ofToken {block text : List Char} {index : Nat}
    (unopened : ∀ inner, dropBlanks text ≠ '{' :: inner)
    (remains : Remains block index (dropBlanks text)) (head : FieldHead) :
    ∃ turn, ofToken head block index = .ok turn ∧ Reads block (Piece.ofType head text) turn := by
  have piece : Piece.ofType head text =
      .leaf head (trim ((dropBlanks text).takeWhile (!endsToken ·)))
        (((dropBlanks text).dropWhile (!endsToken ·)).drop 1) := by
    rw [Piece.ofType]
    split
    · next inner opened => exact absurd opened (unopened inner)
    · rfl
  rw [piece]
  simp only [ofToken, remains.sliceFrom_eq, bind, Except.bind]
  generalize dropBlanks text = line at remains
  obtain ⟨missing, all⟩ | ⟨token, char, rest, rfl, ends, all, found⟩ := find?_cases endsToken line
  · have whole : slice block index (byteLength block) = .ok line := remains.sliceFrom_eq
    have stop : min (byteLength block + 1) (byteLength block) = byteLength block := by omega
    have token : line.takeWhile (!endsToken ·) = line :=
      List.takeWhile_eq_self_iff.2 (by simpa using all)
    have rest : line.dropWhile (!endsToken ·) = [] :=
      List.dropWhile_eq_nil_iff.2 (by simpa using all)
    rw [token, rest]
    simp only [missing, whole, stop]
    exact ⟨_, rfl, .leaf (remains_end block)⟩
  · have cut : Remains block (index + byteLength token) (char :: rest) := remains.add
    have behind : Remains block (index + byteLength token + 1) rest :=
      utf8Size_of_endsToken ends ▸ cut.next
    have stop : min (index + byteLength token + 1) (byteLength block) =
        index + byteLength token + 1 := Nat.min_eq_left behind.le
    have inToken : ∀ other ∈ token, (!endsToken other) = true := by simpa using all
    have taken : (token ++ char :: rest).takeWhile (!endsToken ·) = token := by
      rw [List.takeWhile_append_of_pos inToken]
      simp [ends]
    have left : (token ++ char :: rest).dropWhile (!endsToken ·) = char :: rest := by
      rw [List.dropWhile_append_of_pos inToken]
      simp [ends]
    rw [taken, left]
    simp only [found, remains.slice_eq, stop]
    exact ⟨_, rfl, .leaf behind⟩

/-- A type is read at an offset as it is read from the text that stands there. -/
theorem exists_ofType {block text : List Char} {index : Nat} (remains : Remains block index text)
    (head : FieldHead) :
    ∃ turn, ofType head block index = .ok turn ∧ Reads block (Piece.ofType head text) turn := by
  obtain ⟨start, skipped, remains⟩ := remains.exists_skipBlanks
  simp only [ofType, skipped, remains.sliceFrom_eq, bind, Except.bind]
  split
  · next inner opened => exact exists_ofObject opened (opened ▸ remains) head
  · next unopened => exact exists_ofToken unopened remains head

/-- A line is left where its first newline is. -/
theorem afterLine?_cases (text : List Char) :
    (find? (· == '\n') text = none ∧ afterLine? text = none) ∨
      ∃ line rest, text = line ++ '\n' :: rest ∧
        find? (· == '\n') text = some (byteLength line) ∧ afterLine? text = some rest := by
  obtain ⟨missing, others⟩ | ⟨line, newline, rest, rfl, found, others, offset⟩ :=
    find?_cases (· == '\n') text
  · have onLine : '\n' ∉ text := fun member => by simpa using others _ member
    exact .inl ⟨missing, afterLine?_eq_none onLine⟩
  · obtain rfl : newline = '\n' := by simpa using found
    have onLine : '\n' ∉ line := fun member => by simpa using others _ member
    refine .inr ⟨line, rest, rfl, offset, ?_⟩
    rw [afterLine?_append_of_none (afterLine?_eq_none onLine), afterLine?, if_pos rfl]

/-- At every offset what is read is the piece at the front of the text that stands there. -/
theorem exists_read? {block text : List Char} {index : Nat} (remains : Remains block index text) :
    (read? block index = .ok none ∧ Piece.read? text = none) ∨
      ∃ turn piece, read? block index = .ok (some turn) ∧ Piece.read? text = some piece ∧
        Reads block piece turn := by
  obtain ⟨start, skipped, remains⟩ := remains.exists_skipBlanks
  simp only [read?, skipped, remains.sliceFrom_eq, bind, Except.bind, Piece.read?]
  generalize dropBlanks text = line at remains
  by_cases atEnd : byteLength block ≤ start
  · obtain rfl : line = [] := by
      by_contra left
      have := remains.lt_iff.2 left
      omega
    exact .inl ⟨if_pos atEnd, rfl⟩
  · rw [if_neg atEnd]
    cases read : FieldHead.read? line with
    | some parts =>
        obtain ⟨head, tail⟩ := parts
        obtain ⟨front, rfl⟩ := FieldHead.suffix_of_read? read
        have length : byteLength (front ++ tail) - byteLength tail = byteLength front := by simp
        have type : Remains block (start + byteLength front) tail := remains.add
        obtain ⟨turn, typed, reads⟩ := exists_ofType type head
        simp only [length, typed]
        exact .inr ⟨turn, _, rfl, rfl, reads⟩
    | none =>
        obtain ⟨missing, last⟩ | ⟨front, rest, rfl, found, line⟩ := afterLine?_cases line
        · simp only [missing, last]
          exact .inl ⟨rfl, rfl⟩
        · have cut : slice (front ++ '\n' :: rest) 0 (byteLength front) = .ok front := by
            simpa using (remains_start (front ++ '\n' :: rest)).slice_eq
          have newline : Remains block (start + byteLength front) ('\n' :: rest) := remains.add
          simp only [found, line, cut]
          exact .inr ⟨_, _, rfl, rfl, .skipped newline.next⟩

/-- What is read at an offset is a piece of the text that stands there. -/
theorem exists_piece_of_read? {block : List Char} {index : Nat} {turn : Turn}
    (read : read? block index = .ok (some turn)) :
    ∃ text piece, Remains block index text ∧ Piece.read? text = some piece ∧
      Reads block piece turn := by
  obtain ⟨text, remains⟩ : ∃ text, Remains block index text := by
    cases skipped : skipBlanks block index with
    | error fault => simp [read?, skipped, bind, Except.bind] at read
    | ok start => exact exists_remains_of_skipBlanks skipped
  obtain ⟨nothing, -⟩ | ⟨other, piece, found, pieceRead, reads⟩ := exists_read? remains
  · simp [nothing] at read
  · obtain rfl : other = turn := by simpa [read] using found.symm
    exact ⟨text, piece, remains, pieceRead, reads⟩

/-- Behind what is read at an offset less of the block is left. -/
theorem sub_next_lt_of_read? {block : List Char} {index : Nat} {turn : Turn}
    (read : read? block index = .ok (some turn)) :
    byteLength block - turn.next < byteLength block - index := by
  obtain ⟨text, piece, remains, pieceRead, reads⟩ := exists_piece_of_read? read
  have later : index < turn.next :=
    remains.lt_of_length_lt reads.remains (Piece.length_rest_lt_of_read? pieceRead)
  exact Nat.sub_lt_sub_left (Nat.lt_of_lt_of_le later reads.remains.le) later

/-- The body of an object is shorter than the block it stands in. -/
theorem length_body_lt_of_read? {block body : List Char} {index next : Nat} {head : FieldHead}
    {repeated : Bool} (read : read? block index = .ok (some (object head repeated body next))) :
    body.length < block.length := by
  obtain ⟨text, piece, ⟨before, rfl, -⟩, pieceRead, reads⟩ := exists_piece_of_read? read
  cases reads with
  | object behind =>
      have := Piece.length_body_lt_of_read? pieceRead
      rw [List.length_append]
      omega

end Turn

/-- The fields that a block declares from an offset on. -/
def Field.parseFrom (block : List Char) (index : Nat) : Except Fault (List Field) :=
  if byteLength block ≤ index then .ok []
  else
    match _ : Turn.read? block index with
    | .error fault => .error fault
    | .ok none => .ok []
    | .ok (some (.skipped next)) => parseFrom block next
    | .ok (some (.leaf head token next)) => do
      return head.declare (classify token).1 (classify token).2 :: (← parseFrom block next)
    | .ok (some (.object head repeated body next)) => do
      let members ← parseFrom body 0
      return head.declare repeated (.object members) :: (← parseFrom block next)
termination_by (block.length, byteLength block - index)
decreasing_by
  · exact Prod.Lex.right _ (Turn.sub_next_lt_of_read? (by assumption))
  · exact Prod.Lex.right _ (Turn.sub_next_lt_of_read? (by assumption))
  · exact Prod.Lex.left _ _ (Turn.length_body_lt_of_read? (by assumption))
  · exact Prod.Lex.right _ (Turn.sub_next_lt_of_read? (by assumption))

/-- The fields from an offset on are those that are read from the text that stands there. -/
theorem Field.parseFrom_eq {block text : List Char} {index : Nat}
    (remains : Remains block index text) : parseFrom block index = .ok (parseBody text) := by
  induction length : text.length using Nat.strong_induction_on generalizing block text index with
  | _ length inductionHypothesis =>
    subst length
    rw [parseFrom]
    split
    · next atEnd =>
        obtain rfl : text = [] := by
          by_contra left
          have := remains.lt_iff.2 left
          omega
        rw [parseBody_eq]
        rfl
    · obtain ⟨nothing, none⟩ | ⟨turn, piece, found, read, reads⟩ := Turn.exists_read? remains
      · rw [parseBody_eq, none]
        split
        case h_2 => rfl
        all_goals
          next other => simp [nothing] at other
      · have shorter := Piece.length_rest_lt_of_read? read
        rw [parseBody_of_read? read]
        split
        case h_1 failed => simp [found] at failed
        case h_2 missing => simp [found] at missing
        case h_3 next skipped =>
          obtain rfl : turn = .skipped next := by simpa [found] using skipped
          cases reads with
          | skipped behind => exact inductionHypothesis _ shorter behind rfl
        case h_4 head token next leaf =>
          obtain rfl : turn = .leaf head token next := by simpa [found] using leaf
          cases reads with
          | leaf behind =>
              have others := inductionHypothesis _ shorter behind rfl
              simp only [others, bind, Except.bind]
              rfl
        case h_5 head repeated body next object =>
          obtain rfl : turn = .object head repeated body next := by simpa [found] using object
          cases reads with
          | object behind =>
              have inner := Piece.length_body_lt_of_read? read
              have members := inductionHypothesis _ inner (remains_start body) rfl
              have others := inductionHypothesis _ shorter behind rfl
              simp only [members, others, bind, Except.bind]
              rfl

/-- The schema that the first declaration of a text describes, read by offsets. -/
def Schema.compile (text : String) : Except Fault (Except Error Schema) := do
  match ← Declaration.locate text.toList with
  | .error cause => return .error (.source cause)
  | .ok declaration =>
    let fields ← Field.parseFrom declaration.body.toList 0
    return .ok ⟨declaration.name, fields, declaration.body⟩

/-- Read by offsets, a text is cut only where it can be cut, and gives the schema that is read from
its characters, or the same error. A body, balanced or not, is cut only where it can be cut as well,
and gives the fields that it declares. -/
theorem Schema.compile_without_fault :
    (∀ text : String, compile text = .ok (ofSource text)) ∧
      ∀ body : List Char, Field.parseFrom body 0 = .ok (Field.parseBody body) := by
  refine ⟨fun text => ?_, fun body => Field.parseFrom_eq (remains_start body)⟩
  simp only [compile, ofSource, Declaration.locate_eq, bind, Except.bind]
  cases Declaration.first text with
  | error cause => rfl
  | ok declaration =>
      simp only [Field.parseFrom_eq (remains_start declaration.body.toList)]
      rfl

end InterfaceGen
