import InterfaceGen.Proofs.Text.Blanks
import InterfaceGen.Text.Position

/-!
# Slices

A text can be cut by byte offsets where they are in order, within the text, and not inside a
character. A cut anywhere else is a fault. What stands behind an offset determines every cut that
begins there, so that work on offsets is followed by the text that is left.
-/

namespace InterfaceGen.Text

/-! ## Cuts -/

/-- What is wrong with the bounds of a cut. -/
inductive Fault where
  | unordered
  | pastEnd
  | insideCharacter
  deriving DecidableEq, Repr

/-- The text between two byte offsets. -/
def slice (text : List Char) (start stop : Nat) : Except Fault (List Char) :=
  if stop < start then .error .unordered
  else if byteLength text < stop then .error .pastEnd
  else
    match before? start text, before? stop text with
    | some before, some whole => .ok (whole.drop before.length)
    | _, _ => .error .insideCharacter

/-- The text from a byte offset on. -/
def sliceFrom (text : List Char) (start : Nat) : Except Fault (List Char) :=
  slice text start (byteLength text)

theorem byteLength_eq_zero_iff {text : List Char} : byteLength text = 0 ↔ text = [] := by
  cases text with
  | nil => simp [byteLength]
  | cons char rest =>
      have := char.utf8Size_pos
      simp only [byteLength, reduceCtorEq, iff_false]
      omega

/-- The offset at which a part of a text ends cuts this part off. -/
theorem before?_append (before rest : List Char) :
    before? (byteLength before) (before ++ rest) = some before := by
  induction before with
  | nil => cases rest <;> simp [byteLength, before?]
  | cons char others inductionHypothesis =>
      have := char.utf8Size_pos
      rw [List.cons_append, before?, if_neg (by simp only [byteLength]; omega),
        if_neg (by simp only [byteLength]; omega), byteLength, Nat.add_sub_cancel_left,
        inductionHypothesis, Option.map_some]

/-- An offset within a text that cuts it is where the part before it ends. -/
theorem exists_append_of_before? {offset : Nat} {text before : List Char}
    (cut : before? offset text = some before) (within : offset ≤ byteLength text) :
    ∃ rest, text = before ++ rest ∧ offset = byteLength before := by
  induction text generalizing offset before with
  | nil =>
      obtain rfl : [] = before := by simpa [before?] using cut
      exact ⟨[], rfl, Nat.le_zero.1 within⟩
  | cons char others inductionHypothesis =>
      rw [before?] at cut
      split at cut
      · next start =>
          obtain rfl : [] = before := by simpa using cut
          exact ⟨char :: others, rfl, start⟩
      · split at cut
        · cases cut
        · obtain ⟨inner, later, rfl⟩ := Option.map_eq_some_iff.1 cut
          rw [byteLength] at within
          obtain ⟨rest, rfl, offset⟩ := inductionHypothesis later (by omega)
          exact ⟨rest, rfl, by rw [byteLength]; omega⟩

/-! ## What stands behind an offset -/

/-- An offset is between two characters, or at an end of the text, and a text stands behind it. -/
def Remains (text : List Char) (offset : Nat) (rest : List Char) : Prop :=
  ∃ before, text = before ++ rest ∧ offset = byteLength before

theorem remains_start (text : List Char) : Remains text 0 text :=
  ⟨[], rfl, rfl⟩

theorem remains_end (text : List Char) : Remains text (byteLength text) [] :=
  ⟨text, by simp, rfl⟩

namespace Remains

variable {text rest : List Char} {offset : Nat}

/-- The part of a text before an offset and the part behind it have the length of the text. -/
theorem add_eq (remains : Remains text offset rest) :
    offset + byteLength rest = byteLength text := by
  obtain ⟨before, rfl, rfl⟩ := remains
  rw [byteLength_append]

theorem le (remains : Remains text offset rest) : offset ≤ byteLength text :=
  Nat.le.intro remains.add_eq

/-- The end of the text is where nothing is left. -/
theorem lt_iff (remains : Remains text offset rest) : offset < byteLength text ↔ rest ≠ [] := by
  have := remains.add_eq
  rw [ne_eq, ← byteLength_eq_zero_iff]
  omega

/-- An offset moves on by the length of what is taken. -/
theorem add {front : List Char} (remains : Remains text offset (front ++ rest)) :
    Remains text (offset + byteLength front) rest := by
  obtain ⟨before, rfl, rfl⟩ := remains
  exact ⟨before ++ front, by simp, by simp⟩

/-- An offset moves on by one character. -/
theorem next {char : Char} (remains : Remains text offset (char :: rest)) :
    Remains text (offset + char.utf8Size) rest := by
  have front : char :: rest = [char] ++ rest := rfl
  rw [front] at remains
  exact remains.add

end Remains

/-- Of two parts at the front of a text, the longer one goes on from the shorter one. -/
theorem exists_append_of_byteLength_le {before behind whole rest : List Char}
    (same : before ++ behind = whole ++ rest) (ordered : byteLength before ≤ byteLength whole) :
    ∃ middle, whole = before ++ middle ∧ behind = middle ++ rest := by
  obtain ⟨middle, longer, behind⟩ | ⟨middle, rfl, rfl⟩ := List.append_eq_append_iff.1 same
  · exact ⟨middle, longer, behind⟩
  · have empty : middle = [] := by
      rw [byteLength_append] at ordered
      exact byteLength_eq_zero_iff.1 (by omega)
    exact ⟨[], by simp [empty], by simp [empty]⟩

/-- A character that stands in a part of a text splits this part. -/
theorem Remains.exists_split {text front rest more : List Char} {char : Char} {start offset : Nat}
    (remains : Remains text start (front ++ rest)) (stands : Remains text offset (char :: more))
    (behind : start ≤ offset) (within : offset < start + byteLength front) :
    ∃ before after, front = before ++ char :: after ∧ more = after ++ rest ∧
      offset = start + byteLength before := by
  obtain ⟨lead, rfl, rfl⟩ := remains
  obtain ⟨whole, same, rfl⟩ := stands
  obtain ⟨before, rfl, fromBefore⟩ := exists_append_of_byteLength_le same behind
  rw [byteLength_append] at within ⊢
  obtain ⟨tail, rfl, fromChar⟩ := exists_append_of_byteLength_le fromBefore.symm (by omega)
  cases tail with
  | nil => simp at within
  | cons first after =>
      obtain ⟨rfl, rfl⟩ := List.cons.inj fromChar
      exact ⟨before, after, rfl, rfl, rfl⟩

/-- The less text is left, the later it begins. -/
theorem Remains.lt_of_length_lt {text rest tail : List Char} {offset later : Nat}
    (remains : Remains text offset rest) (behind : Remains text later tail)
    (shorter : tail.length < rest.length) : offset < later := by
  obtain ⟨before, rfl, rfl⟩ := remains
  obtain ⟨whole, same, rfl⟩ := behind
  by_contra unordered
  obtain ⟨middle, -, rfl⟩ := exists_append_of_byteLength_le same.symm (by omega)
  simp at shorter

/-- A cut gives what stands behind its first bound, up to its second one. -/
theorem slice_eq_ok_iff {text middle : List Char} {start stop : Nat} :
    slice text start stop = .ok middle ↔
      ∃ rest, Remains text start (middle ++ rest) ∧ stop = start + byteLength middle := by
  constructor
  · intro cut
    rw [slice] at cut
    split at cut
    · cases cut
    · split at cut
      · cases cut
      · split at cut
        · next first last =>
            obtain rfl := Except.ok.inj cut
            obtain ⟨behind, rfl, rfl⟩ := exists_append_of_before? first (by omega)
            obtain ⟨rest, same, rfl⟩ := exists_append_of_before? last (by omega)
            obtain ⟨middle, rfl, rfl⟩ := exists_append_of_byteLength_le same (by omega)
            rw [List.drop_left]
            exact ⟨rest, ⟨_, rfl, rfl⟩, byteLength_append _ middle⟩
        · cases cut
  · rintro ⟨rest, ⟨before, rfl, rfl⟩, rfl⟩
    have start := before?_append before (middle ++ rest)
    have stop := before?_append (before ++ middle) rest
    rw [List.append_assoc, byteLength_append] at stop
    rw [slice, if_neg (by simp), if_neg (by simp), start, stop]
    simp

/-- The second bound is inside a character of two bytes. -/
example : slice "aéb".toList 1 2 = .error .insideCharacter := by decide +kernel

namespace Remains

variable {text rest : List Char} {offset : Nat}

/-- What stands behind an offset can be cut off. -/
theorem sliceFrom_eq (remains : Remains text offset rest) :
    sliceFrom text offset = .ok rest :=
  slice_eq_ok_iff.2 ⟨[], by rwa [List.append_nil], remains.add_eq.symm⟩

theorem slice_eq {middle : List Char} (remains : Remains text offset (middle ++ rest)) :
    slice text offset (offset + byteLength middle) = .ok middle :=
  slice_eq_ok_iff.2 ⟨rest, remains, rfl⟩

end Remains

/-- Only an offset that cuts the text leaves something behind it. -/
theorem remains_of_sliceFrom {text rest : List Char} {offset : Nat}
    (cut : sliceFrom text offset = .ok rest) : Remains text offset rest := by
  obtain ⟨tail, remains, stop⟩ := slice_eq_ok_iff.1 cut
  have whole := remains.add_eq
  rw [byteLength_append] at whole
  have nothing : tail = [] := byteLength_eq_zero_iff.1 (by omega)
  rwa [nothing, List.append_nil] at remains

/-- A text without its last byte. An empty text has none. -/
def dropLastByte (text : List Char) : Except Fault (List Char) :=
  match byteLength text with
  | 0 => .error .unordered
  | stop + 1 => slice text 0 stop

/-- A last character of one byte is dropped with its byte. -/
theorem dropLastByte_concat {last : Char} (single : last.utf8Size = 1) (front : List Char) :
    dropLastByte (front ++ [last]) = .ok front := by
  have length : byteLength (front ++ [last]) = byteLength front + 1 := by simp [byteLength, single]
  have cut := (remains_start (front ++ [last])).slice_eq
  rw [Nat.zero_add] at cut
  rw [dropLastByte, length]
  exact cut

/-! ## Searches -/

/-- The byte offset of the first character of a kind. -/
def find? (kind : Char → Bool) : List Char → Option Nat
  | [] => none
  | char :: rest => if kind char then some 0 else (find? kind rest).map (char.utf8Size + ·)

/-- The byte offset of the last character of a kind. -/
def findLast? (kind : Char → Bool) : List Char → Option Nat
  | [] => none
  | char :: rest =>
    match findLast? kind rest with
    | some offset => some (char.utf8Size + offset)
    | none => if kind char then some 0 else none

/-- A text has no character of a kind, or those before the first one that is found are not of this
kind. -/
theorem find?_cases (kind : Char → Bool) (text : List Char) :
    (find? kind text = none ∧ ∀ char ∈ text, kind char = false) ∨
      ∃ before char rest, text = before ++ char :: rest ∧ kind char = true ∧
        (∀ other ∈ before, kind other = false) ∧ find? kind text = some (byteLength before) := by
  induction text with
  | nil => exact .inl ⟨rfl, nofun⟩
  | cons char rest inductionHypothesis =>
      rw [find?]
      cases found : kind char with
      | true => exact .inr ⟨[], char, rest, rfl, found, nofun, rfl⟩
      | false =>
          obtain ⟨missing, others⟩ | ⟨before, first, behind, rfl, kindly, others, offset⟩ :=
            inductionHypothesis
          · exact .inl ⟨by simp [missing], List.forall_mem_cons.2 ⟨found, others⟩⟩
          · exact .inr ⟨char :: before, first, behind, rfl, kindly,
              List.forall_mem_cons.2 ⟨found, others⟩, by simp [offset, byteLength]⟩

/-- A text has no character of a kind, or all those behind the last one that is found are not of
this kind. -/
theorem findLast?_cases (kind : Char → Bool) (text : List Char) :
    (findLast? kind text = none ∧ ∀ char ∈ text, kind char = false) ∨
      ∃ before char rest, text = before ++ char :: rest ∧ kind char = true ∧
        (∀ other ∈ rest, kind other = false) ∧ findLast? kind text = some (byteLength before) := by
  induction text with
  | nil => exact .inl ⟨rfl, nofun⟩
  | cons char rest inductionHypothesis =>
      rw [findLast?]
      obtain ⟨missing, others⟩ | ⟨before, last, behind, rfl, found, others, offset⟩ :=
        inductionHypothesis
      · rw [missing]
        cases found : kind char with
        | true => exact .inr ⟨[], char, rest, rfl, found, others, rfl⟩
        | false => exact .inl ⟨rfl, List.forall_mem_cons.2 ⟨found, others⟩⟩
      · rw [offset]
        exact .inr ⟨char :: before, last, behind, rfl, found, others, rfl⟩

/-- The byte offset of the first character from an offset on that is no blank, or of the end. -/
def skipBlanks (text : List Char) (start : Nat) : Except Fault Nat := do
  match find? (!isBlank ·) (← sliceFrom text start) with
  | some offset => return start + offset
  | none => return byteLength text

/-- Blanks are skipped to where the text without them begins. -/
theorem Remains.exists_skipBlanks {text rest : List Char} {offset : Nat}
    (remains : Remains text offset rest) :
    ∃ next, skipBlanks text offset = .ok next ∧ Remains text next (dropBlanks rest) := by
  simp only [skipBlanks, remains.sliceFrom_eq, bind, Except.bind]
  obtain ⟨missing, all⟩ | ⟨blanks, char, behind, rfl, visible, all, found⟩ :=
    find?_cases (!isBlank ·) rest
  · rw [missing, dropBlanks_eq_nil_iff.2 (by simpa [IsBlanks] using all)]
    exact ⟨_, rfl, remains_end text⟩
  · rw [found, dropBlanks_append (by simpa [IsBlanks] using all),
      dropBlanks_cons (by simpa using visible)]
    exact ⟨_, rfl, remains.add⟩

/-- Blanks are skipped from nowhere inside a character. -/
theorem exists_remains_of_skipBlanks {text : List Char} {start next : Nat}
    (skipped : skipBlanks text start = .ok next) : ∃ rest, Remains text start rest := by
  cases cut : sliceFrom text start with
  | error fault => simp [skipBlanks, cut, bind, Except.bind] at skipped
  | ok rest => exact ⟨rest, remains_of_sliceFrom cut⟩

end InterfaceGen.Text
