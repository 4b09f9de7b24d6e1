import InterfaceGen.Proofs.Source.Bytes
import InterfaceGen.Proofs.Source.Header
import InterfaceGen.Proofs.Source.Opening
import InterfaceGen.Proofs.Text.WholeLines

/-!
# Declarations by byte offsets

A declaration can be located by the byte offsets of its parts, and the position of what is wrong
with it be computed from such an offset. Every cut on the way is at bounds where the text can be cut,
and the answer is the one that is found on the characters.
-/

namespace InterfaceGen

open Text

namespace Text

/-- The line and the column of a byte offset, where an offset past the end counts as the end. -/
def lineColumn (text : List Char) (offset : Nat) : Except Fault Position := do
  let before ← slice text 0 (min offset (byteLength text))
  match findLast? (· == '\n') before with
  | some newline =>
    return ⟨before.count '\n' + 1, (← sliceFrom before (newline + 1)).length + 1⟩
  | none => return ⟨before.count '\n' + 1, before.length + 1⟩

/-- Between characters the line and the column are those that are reached character by character. -/
theorem lineColumn_append (before rest : List Char) :
    lineColumn (before ++ rest) (byteLength before) = .ok (Position.after before) := by
  have within : min (byteLength before) (byteLength (before ++ rest)) = 0 + byteLength before := by
    simp
  simp only [lineColumn, within, (remains_start (before ++ rest)).slice_eq, bind, Except.bind]
  obtain ⟨missing, others⟩ | ⟨front, newline, last, rfl, found, others, offset⟩ :=
    findLast?_cases (· == '\n') before
  · have onLine : '\n' ∉ before := fun member => by simpa using others _ member
    rw [missing, Position.after_line onLine, List.count_eq_zero.2 onLine]
    rfl
  · obtain rfl : newline = '\n' := by simpa using found
    have onLine : '\n' ∉ last := fun member => by simpa using others _ member
    have lines : front ++ '\n' :: last = (front ++ ['\n']) ++ last := by simp
    have behind : Remains (front ++ '\n' :: last) (byteLength front + 1) last :=
      ⟨front ++ ['\n'], lines, (byteLength_append front ['\n']).symm⟩
    have position := Position.after_wholeLines_line (wholeLines_concat front) onLine
    have count : (front ++ '\n' :: last).count '\n' = (front ++ ['\n']).count '\n' := by
      rw [lines, List.count_append, List.count_eq_zero.2 onLine, Nat.add_zero]
    rw [← lines] at position
    simp only [offset, position, count, behind.sliceFrom_eq]
    rfl

end Text

namespace Source

/-- The first header among lines that begin at a byte offset, with the offset behind its name. -/
def Header.findName? (start : Nat) : List (List Char) → Option (List Char × Nat)
  | [] => none
  | line :: rest =>
    match read? line with
    | some header => some (header.name, start + byteLength header.lead)
    | none => findName? (start + byteLength line + 1) rest

/-- A header on the line behind whole lines is found by its offset as by its position. -/
theorem Header.findName?_of_read? {before line : List Char} {header : Header}
    (whole : WholeLines before) (onLine : '\n' ∉ line) (read : read? line = some header)
    (others : List (List Char)) :
    ∃ tail, line = header.lead ++ tail ∧
      findName? (byteLength before) (line :: others) =
        some (header.name, byteLength (before ++ header.lead)) ∧
      first? (before.count '\n' + 1) (line :: others) =
        some (header.name, Position.after (before ++ header.lead)) := by
  obtain ⟨tail, -, split⟩ := read?_eq_some_iff.1 read
  have leadOnLine : '\n' ∉ header.lead := fun member =>
    onLine (split ▸ List.mem_append_left tail member)
  refine ⟨tail, split, ?_, ?_⟩
  · rw [findName?, read, byteLength_append]
  · rw [first?, read, Position.after_wholeLines_line whole leadOnLine]

/-- Behind whole lines a header is found by its offset if it is found by its position, and the
offset is where its name ends. -/
theorem Header.findName?_cases {before : List Char} (whole : WholeLines before) (text : List Char) :
    (findName? (byteLength before) (linesOf text) = none ∧
        first? (before.count '\n' + 1) (linesOf text) = none) ∨
      ∃ name lead tail, text = lead ++ tail ∧
        findName? (byteLength before) (linesOf text) = some (name, byteLength (before ++ lead)) ∧
        first? (before.count '\n' + 1) (linesOf text) =
          some (name, Position.after (before ++ lead)) := by
  induction length : text.length using Nat.strong_induction_on generalizing before text with
  | _ length inductionHypothesis =>
    subst length
    by_cases newline : '\n' ∈ text
    · obtain ⟨line, rest, rfl, onLine⟩ := List.eq_append_cons_of_mem newline
      rw [linesOf_append_cons onLine]
      cases read : read? line with
      | some header =>
          obtain ⟨tail, rfl, found⟩ := findName?_of_read? whole onLine read (linesOf rest)
          exact .inr ⟨header.name, header.lead, tail ++ '\n' :: rest, by simp, found⟩
      | none =>
          -- The line is one more of the whole lines before the rest.
          have next : WholeLines (before ++ (line ++ ['\n'])) := by
            rw [← List.append_assoc]
            exact wholeLines_concat (before ++ line)
          have offset : byteLength (before ++ (line ++ ['\n'])) =
              byteLength before + byteLength line + 1 := by
            rw [byteLength_append, byteLength_append]
            rfl
          have number : (before ++ (line ++ ['\n'])).count '\n' = before.count '\n' + 1 := by
            simp [List.count_append, List.count_eq_zero.2 onLine]
          have later := inductionHypothesis rest.length (by simp; omega) next rest rfl
          rw [offset, number] at later
          simp only [findName?, first?, read]
          obtain missing | ⟨name, lead, tail, rfl, found⟩ := later
          · exact .inl missing
          · rw [List.append_assoc, List.append_assoc] at found
            exact .inr ⟨name, line ++ ['\n'] ++ lead, tail, by simp, by simpa using found⟩
    · have lines : linesOf text = [text] := List.splitOn_eq_singleton newline
      rw [lines]
      cases read : read? text with
      | some header =>
          obtain ⟨tail, split, found⟩ := findName?_of_read? whole newline read []
          exact .inr ⟨header.name, header.lead, tail, split, found⟩
      | none => exact .inl ⟨by simp only [findName?, read], by simp only [first?, read]⟩

/-- The first declaration of a text, located by offsets. -/
def Declaration.locate (text : List Char) : Except Fault (Except SourceError Declaration) := do
  match Opening.first? false text with
  | none =>
    match Header.findName? 0 (text.splitOn '\n') with
    | none => return .error .noDeclaration
    | some (name, offset) =>
      return .error (.missingOpenBrace (String.ofList name) (← lineColumn text offset))
  | some opening =>
    let name := String.ofList opening.name
    -- The opening ends with its brace.
    let openBrace := byteLength text - byteLength opening.inner - 1
    match matchingBrace? text openBrace with
    | none => return .error (.unbalancedBraces name (← lineColumn text openBrace))
    | some closeBrace =>
      let body ← slice text (openBrace + 1) closeBrace
      return .ok ⟨name, String.ofList (trim body), openBrace⟩

/-- Locating a declaration by offsets cuts no text where it cannot be cut, and finds the first
declaration, or what is wrong with it and where. -/
theorem Declaration.locate_eq (text : String) :
    locate text.toList = .ok (Declaration.first text) := by
  cases read : Opening.first? false text.toList with
  | none =>
      simp only [locate, Declaration.first, read]
      obtain ⟨missing, headless⟩ | ⟨name, lead, tail, split, found, headed⟩ :=
        Header.findName?_cases (.inl rfl) text.toList
      · simp only [linesOf, byteLength, List.count_nil, Nat.zero_add] at missing headless
        rw [missing, headless]
        rfl
      · simp only [linesOf, byteLength, List.count_nil, Nat.zero_add, List.nil_append]
          at found headed
        have position := lineColumn_append lead tail
        rw [← split] at position
        simp only [found, headed, position]
        rfl
  | some opening =>
      obtain ⟨name, inner⟩ := opening
      obtain ⟨front, split⟩ := Opening.exists_append_of_first? read
      have opened : Remains text.toList (byteLength front) ('{' :: inner) := ⟨front, split, rfl⟩
      have lead : Opening.lead ⟨name, inner⟩ text.toList = front := by
        rw [split, Opening.lead_append]
      have behind : Remains text.toList (byteLength front + 1) inner := opened.next
      have offset : byteLength text.toList - byteLength inner - 1 = byteLength front := by
        have := behind.add_eq
        omega
      have closing := matchingBrace?_of_opening opened
      simp only [locate, Declaration.first, read, lead, offset, closing]
      cases closed : splitClosing 1 inner with
      | none =>
          simp only [split, lineColumn_append]
          rfl
      | some parts =>
          obtain ⟨body, after⟩ := parts
          rw [eq_append_of_splitClosing closed] at behind
          simp only [Option.map_some, behind.slice_eq]
          rfl

end Source

end InterfaceGen
