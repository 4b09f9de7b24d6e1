import InterfaceGen.Proofs.Source.Bytes
import InterfaceGen.Proofs.Source.Nesting
import Mathlib.Order.Bounds.Basic
import Mathlib.Order.Nat

/-!
# Partners of braces

From any offset on, the search for a closing brace is decided by the first brace that it comes to.
A closing brace is the answer itself. For an opening brace the answer is the first place behind it
at which as many braces are closed as are opened from it on. What stands between the two is
balanced, so a search from a brace within stays within.
-/

namespace InterfaceGen.Source

open Text

/-! ## Braces at offsets -/

/-- A character of one byte stands at a byte offset. -/
def StandsAt (text : List Char) (offset : Nat) (char : Char) : Prop :=
  (utf8 text)[offset]? = some char.toUInt8

instance (text : List Char) (offset : Nat) (char : Char) : Decidable (StandsAt text offset char) :=
  inferInstanceAs (Decidable ((utf8 text)[offset]? = some char.toUInt8))

/-- A brace stands at a byte offset. -/
def BraceAt (text : List Char) (offset : Nat) : Prop :=
  StandsAt text offset '{' ∨ StandsAt text offset '}'

instance (text : List Char) (offset : Nat) : Decidable (BraceAt text offset) :=
  inferInstanceAs (Decidable (_ ∨ _))

/-- The first brace at a byte offset or behind it. -/
structure FirstBrace (text : List Char) (start first : Nat) (brace : Char) : Prop where
  behind : start ≤ first
  stands : StandsAt text first brace
  earlier : ∀ offset < first, start ≤ offset → ¬ BraceAt text offset

/-- The bytes of a text from one offset through another one. -/
def bytesThrough (text : List Char) (first last : Nat) : List UInt8 :=
  ((utf8 text).take (last + 1)).drop first

/-- The offsets behind a brace at which as many braces are closed as are opened from it on. -/
def levelOffsets (text : List Char) (first : Nat) : Set Nat :=
  {last | first < last ∧ last < byteLength text ∧
    (bytesThrough text first last).count '{'.toUInt8 =
      (bytesThrough text first last).count '}'.toUInt8}

/-! ## Searches among bytes -/

/-- Behind so many open braces, the byte at an offset closes as many as were open or opened. -/
def ClosesAt (depth : Nat) (bytes : List UInt8) (offset : Nat) : Prop :=
  offset < bytes.length ∧
    depth + (bytes.take (offset + 1)).count '{'.toUInt8 =
      (bytes.take (offset + 1)).count '}'.toUInt8

/-- While braces stay open behind a byte, what closes them is found among the bytes behind it. -/
theorem closesAt_cons {depth inside : Nat} {byte : UInt8} (stillOpen : 1 ≤ inside)
    (level : depth + [byte].count '{'.toUInt8 = inside + [byte].count '}'.toUInt8)
    (rest : List UInt8) :
    ¬ ClosesAt depth (byte :: rest) 0 ∧
      ∀ offset, ClosesAt depth (byte :: rest) (offset + 1) ↔ ClosesAt inside rest offset := by
  constructor
  · rintro ⟨-, closed⟩
    simp only [List.take_succ_cons, List.take_zero] at closed
    omega
  · intro offset
    have count (brace : UInt8) : (byte :: rest.take (offset + 1)).count brace =
        [byte].count brace + (rest.take (offset + 1)).count brace := by
      rw [← List.singleton_append, List.count_append]
    simp only [ClosesAt, List.length_cons, List.take_succ_cons, count]
    omega

/-- A byte closes the last open brace, or the depth behind it decides about the bytes behind it. -/
theorem scanClosing_cons {depth : Nat} (within : 1 ≤ depth) (byte : UInt8) (rest : List UInt8) :
    (ClosesAt depth (byte :: rest) 0 ∧ scanClosing depth (byte :: rest) = some 0) ∨
      ∃ inside, 1 ≤ inside ∧
        scanClosing depth (byte :: rest) = (scanClosing inside rest).map (1 + ·) ∧
        ¬ ClosesAt depth (byte :: rest) 0 ∧
        ∀ offset, ClosesAt depth (byte :: rest) (offset + 1) ↔ ClosesAt inside rest offset := by
  by_cases opens : byte = '{'.toUInt8
  · subst opens
    refine .inr ⟨depth + 1, by omega, ?_, closesAt_cons (by omega) rfl rest⟩
    rw [scanClosing, if_pos rfl]
  · by_cases closes : byte = '}'.toUInt8
    · subst closes
      by_cases last : depth = 1
      · subst last
        exact .inl ⟨⟨by simp, rfl⟩, rfl⟩
      · have level : depth + ['}'.toUInt8].count '{'.toUInt8 =
            depth - 1 + ['}'.toUInt8].count '}'.toUInt8 :=
          (Nat.sub_add_cancel within).symm
        refine .inr ⟨depth - 1, by omega, ?_, closesAt_cons (by omega) level rest⟩
        rw [scanClosing, if_neg opens, if_pos rfl, if_neg (by omega)]
    · have level : depth + [byte].count '{'.toUInt8 = depth + [byte].count '}'.toUInt8 := by
        simp [opens, closes]
      refine .inr ⟨depth, within, ?_, closesAt_cons within level rest⟩
      rw [scanClosing, if_neg opens, if_neg closes]

/-- Behind open braces the search ends at the first byte that closes them. -/
theorem scanClosing_eq_some_iff {depth : Nat} (within : 1 ≤ depth) {bytes : List UInt8}
    {offset : Nat} :
    scanClosing depth bytes = some offset ↔
      ClosesAt depth bytes offset ∧ ∀ earlier < offset, ¬ ClosesAt depth bytes earlier := by
  induction bytes generalizing depth offset with
  | nil => simp [scanClosing, ClosesAt]
  | cons byte rest inductionHypothesis =>
      obtain ⟨closes, ended⟩ | ⟨inside, stillOpen, continued, notHere, behind⟩ :=
        scanClosing_cons within byte rest
      · rw [ended, Option.some.injEq]
        constructor
        · rintro rfl
          exact ⟨closes, fun _ below => absurd below (Nat.not_lt_zero _)⟩
        · rintro ⟨-, first⟩
          by_contra later
          exact first 0 (by omega) closes
      · cases offset with
        | zero => simp [continued, notHere]
        | succ offset =>
            rw [continued, behind, Nat.forall_lt_succ_left, and_iff_right notHere]
            simp only [behind, ← inductionHypothesis stillOpen, Option.map_eq_some_iff,
              Nat.add_comm 1, Nat.add_right_cancel_iff, exists_eq_right]

/-! ## The first brace -/

/-- Bytes between offsets at which no brace stands are without braces. -/
theorem noBraceByte_between {text : List Char} {start stop : Nat}
    (braceless : ∀ offset < stop, start ≤ offset → ¬ BraceAt text offset) :
    NoBraceByte (((utf8 text).drop start).take (stop - start)) := by
  intro byte member
  obtain ⟨index, found⟩ := List.mem_iff_getElem?.1 member
  rw [List.getElem?_take, Option.ite_none_right_eq_some, List.getElem?_drop] at found
  obtain ⟨within, stands⟩ := found
  have noBrace := braceless (start + index) (by omega) (by omega)
  constructor <;> rintro rfl
  · exact noBrace (.inl stands)
  · exact noBrace (.inr stands)

/-- Where no brace is left the search finds nothing. -/
theorem closingBrace?_eq_none {text : List Char} {start : Nat}
    (braceless : ∀ offset, start ≤ offset → ¬ BraceAt text offset) :
    closingBrace? text start = none := by
  have noBrace : NoBraceByte (((utf8 text).drop start).take (byteLength text - start)) :=
    noBraceByte_between fun offset _ => braceless offset
  rw [List.take_of_length_le (by simp)] at noBrace
  have passed := scanClosing_append noBrace 0 []
  rw [List.append_nil] at passed
  rw [← matchingBrace?_eq_closingBrace?, matchingBrace?, passed]
  rfl

/-- The search passes all that stands before the first brace. -/
theorem FirstBrace.exists_drop {text : List Char} {start first : Nat} {brace : Char}
    (isFirst : FirstBrace text start first brace) :
    ∃ gap, NoBraceByte gap ∧ start + gap.length = first ∧
      (utf8 text).drop start = gap ++ brace.toUInt8 :: (utf8 text).drop (first + 1) := by
  obtain ⟨behind, stands, earlier⟩ := isFirst
  obtain ⟨within, byte⟩ := List.getElem?_eq_some_iff.1 stands
  refine ⟨_, noBraceByte_between earlier, ?_, ?_⟩
  · rw [List.length_take, List.length_drop]
    omega
  · have split := List.take_append_drop (first - start) ((utf8 text).drop start)
    rw [List.drop_drop, Nat.add_sub_cancel' behind, List.drop_eq_getElem_cons within, byte] at split
    exact split.symm

/-- A closing brace that comes first is the answer. -/
theorem FirstBrace.closingBrace?_closing {text : List Char} {start first : Nat}
    (isFirst : FirstBrace text start first '}') : closingBrace? text start = some first := by
  obtain ⟨gap, noBrace, rfl, split⟩ := isFirst.exists_drop
  have here (rest : List UInt8) : scanClosing 0 ('}'.toUInt8 :: rest) = some 0 := rfl
  rw [← matchingBrace?_eq_closingBrace?, matchingBrace?, split, scanClosing_append noBrace, here]
  rfl

/-- Behind an opening brace that comes first the search goes on within it. -/
theorem FirstBrace.closingBrace?_opening {text : List Char} {start first : Nat}
    (isFirst : FirstBrace text start first '{') :
    closingBrace? text start =
      (scanClosing 1 ((utf8 text).drop (first + 1))).map (first + 1 + ·) := by
  obtain ⟨gap, noBrace, rfl, split⟩ := isFirst.exists_drop
  have here (rest : List UInt8) :
      scanClosing 0 ('{'.toUInt8 :: rest) = (scanClosing 1 rest).map (1 + ·) := rfl
  rw [← matchingBrace?_eq_closingBrace?, matchingBrace?, split, scanClosing_append noBrace, here,
    Option.map_map, Option.map_map]
  simp only [Function.comp_def, Nat.add_assoc]

/-! ## The first place that closes a brace -/

/-- Behind a brace as many braces are closed as are opened from it on where the last open one is
closed. -/
theorem mem_levelOffsets_iff {text : List Char} {first : Nat} (opens : StandsAt text first '{')
    (last : Nat) :
    last ∈ levelOffsets text first ↔
      ∃ offset, last = first + 1 + offset ∧ ClosesAt 1 ((utf8 text).drop (first + 1)) offset := by
  have differ : '{'.toUInt8 ≠ '}'.toUInt8 := by decide
  obtain ⟨within, byte⟩ := List.getElem?_eq_some_iff.1 opens
  have through (offset : Nat) : bytesThrough text first (first + 1 + offset) =
      '{'.toUInt8 :: ((utf8 text).drop (first + 1)).take (offset + 1) := by
    have count : first + 1 + offset + 1 - first = offset + 2 := by omega
    rw [bytesThrough, List.drop_take, count, List.drop_eq_getElem_cons within, byte,
      List.take_succ_cons]
  constructor
  · rintro ⟨behind, inText, level⟩
    obtain ⟨offset, rfl⟩ := Nat.exists_eq_add_of_le (Nat.succ_le_of_lt behind)
    rw [through, List.count_cons_self, List.count_cons_of_ne differ, Nat.add_comm] at level
    refine ⟨offset, rfl, ?_, level⟩
    rw [List.length_drop, length_utf8]
    omega
  · rintro ⟨offset, rfl, inText, level⟩
    rw [List.length_drop, length_utf8] at inText
    refine ⟨by omega, by omega, ?_⟩
    rw [through, List.count_cons_self, List.count_cons_of_ne differ, Nat.add_comm]
    exact level

/-- The search finds the first place that closes an opening brace that comes first. -/
theorem FirstBrace.closingBrace?_eq_some_iff {text : List Char} {start first close : Nat}
    (isFirst : FirstBrace text start first '{') :
    closingBrace? text start = some close ↔ IsLeast (levelOffsets text first) close := by
  have members := mem_levelOffsets_iff isFirst.stands
  rw [isFirst.closingBrace?_opening, Option.map_eq_some_iff]
  constructor
  · rintro ⟨offset, found, rfl⟩
    obtain ⟨closes, earliest⟩ := (scanClosing_eq_some_iff le_rfl).1 found
    refine ⟨(members _).2 ⟨offset, rfl, closes⟩, fun last level => ?_⟩
    obtain ⟨other, rfl, alsoCloses⟩ := (members last).1 level
    by_contra earlier
    exact earliest other (by omega) alsoCloses
  · rintro ⟨level, least⟩
    obtain ⟨offset, rfl, closes⟩ := (members close).1 level
    refine ⟨offset, (scanClosing_eq_some_iff le_rfl).2 ⟨closes, fun earlier before early => ?_⟩, rfl⟩
    have := least ((members _).2 ⟨earlier, rfl, early⟩)
    omega

/-- The search fails if no place closes an opening brace that comes first. -/
theorem FirstBrace.closingBrace?_eq_none_iff {text : List Char} {start first : Nat}
    (isFirst : FirstBrace text start first '{') :
    closingBrace? text start = none ↔ levelOffsets text first = ∅ := by
  rw [Option.eq_none_iff_forall_ne_some, Set.eq_empty_iff_forall_notMem]
  classical
  constructor
  · intro missing last level
    have nonempty : (levelOffsets text first).Nonempty := ⟨last, level⟩
    exact missing _ (isFirst.closingBrace?_eq_some_iff.2 nonempty.isLeast_natFind)
  · intro empty close found
    exact empty close (isFirst.closingBrace?_eq_some_iff.1 found).1

/-! ## Between partners -/

/-- Only a brace has the byte of one. -/
theorem eq_of_mem_utf8EncodeChar {char brace : Char} (isBrace : brace = '{' ∨ brace = '}')
    (member : brace.toUInt8 ∈ String.utf8EncodeChar char) : char = brace := by
  by_cases other : char ≠ '{' ∧ char ≠ '}'
  · have noBrace := noBraceByte_utf8EncodeChar other.1 other.2 _ member
    obtain rfl | rfl := isBrace
    · exact absurd rfl noBrace.1
    · exact absurd rfl noBrace.2
  · obtain rfl | rfl : char = '{' ∨ char = '}' := by simpa [or_iff_not_imp_left] using other
    all_goals
      revert member
      obtain rfl | rfl := isBrace <;> decide

/-- The byte of a brace stands at an offset exactly if the brace does. -/
theorem standsAt_iff_remains {text : List Char} {offset : Nat} {brace : Char}
    (isBrace : brace = '{' ∨ brace = '}') :
    StandsAt text offset brace ↔ ∃ rest, Remains text offset (brace :: rest) := by
  constructor
  · intro stands
    rw [StandsAt] at stands
    induction text generalizing offset with
    | nil => simp [utf8] at stands
    | cons char rest inductionHypothesis =>
        rw [utf8_cons] at stands
        by_cases within : offset < (String.utf8EncodeChar char).length
        · rw [List.getElem?_append_left within] at stands
          obtain rfl := eq_of_mem_utf8EncodeChar isBrace (List.mem_of_getElem? stands)
          have single : (String.utf8EncodeChar char).length = 1 := by
            obtain rfl | rfl := isBrace <;> rfl
          obtain rfl : offset = 0 := by omega
          exact ⟨rest, remains_start _⟩
        · rw [List.getElem?_append_right (by omega)] at stands
          obtain ⟨tail, before, rfl, length⟩ := inductionHypothesis stands
          rw [String.length_utf8EncodeChar] at within length
          exact ⟨tail, char :: before, rfl, by rw [byteLength]; omega⟩
  · rintro ⟨rest, before, rfl, rfl⟩
    have bytes : utf8 (before ++ brace :: rest) = utf8 before ++ brace.toUInt8 :: utf8 rest := by
      obtain rfl | rfl := isBrace <;> simp [utf8] <;> rfl
    rw [StandsAt, bytes, ← length_utf8, List.getElem?_append_right le_rfl, Nat.sub_self]
    rfl

/-- Two braces of a text are partners around a balanced text, and so are the braces within. -/
structure Encloses (text : List Char) (first close : Nat) (inner : List Char) : Prop where
  between : slice text (first + 1) close = .ok inner
  closes : StandsAt text close '}'
  level : inner.count '{' = inner.count '}'
  staysOpen : ∀ front, front <+: inner → front.count '}' ≤ front.count '{'
  nested : ∀ offset, first < offset → offset < close → StandsAt text offset '{' →
    ∃ partner, closingBrace? text offset = some partner ∧ offset < partner ∧ partner < close ∧
      StandsAt text partner '}'

/-- A brace that is opened within a balanced part of a text is closed there. -/
theorem exists_closingBrace?_within {text front rest : List Char} {start offset : Nat}
    (balanced : Balanced front) (remains : Remains text start (front ++ rest))
    (behind : start ≤ offset) (within : offset < start + byteLength front)
    (opens : StandsAt text offset '{') :
    ∃ partner, closingBrace? text offset = some partner ∧ offset < partner ∧
      partner < start + byteLength front ∧ StandsAt text partner '}' := by
  obtain ⟨more, atBrace⟩ := (standsAt_iff_remains (.inl rfl)).1 opens
  obtain ⟨before, inner, rfl, rfl, rfl⟩ := remains.exists_split atBrace behind within
  obtain ⟨body, after, closed⟩ := EndsBalanced.exists_splitClosing ⟨before, balanced⟩
  obtain rfl := eq_append_of_splitClosing closed
  refine ⟨start + byteLength before + 1 + byteLength body, ?_, by omega, ?_, ?_⟩
  · rw [← matchingBrace?_eq_closingBrace?, matchingBrace?_of_opening atBrace,
      splitClosing_append_of_some closed rest]
    rfl
  · have opening : Char.utf8Size '{' = 1 := rfl
    have closing : Char.utf8Size '}' = 1 := rfl
    simp only [byteLength_append, byteLength, opening, closing]
    omega
  · have behind : Remains text (start + byteLength before + 1) (body ++ '}' :: after ++ rest) :=
      atBrace.next
    rw [List.append_assoc] at behind
    exact (standsAt_iff_remains (.inr rfl)).2 ⟨after ++ rest, behind.add⟩

/-- The search from an opening brace that comes first encloses a balanced text. -/
theorem FirstBrace.exists_encloses {text : List Char} {start first close : Nat}
    (isFirst : FirstBrace text start first '{') (found : closingBrace? text start = some close) :
    ∃ inner, Encloses text first close inner := by
  have itself : FirstBrace text first first '{' := ⟨le_rfl, isFirst.stands, fun _ _ => by omega⟩
  obtain ⟨rest, atBrace⟩ := (standsAt_iff_remains (.inl rfl)).1 isFirst.stands
  rw [isFirst.closingBrace?_opening, ← itself.closingBrace?_opening,
    ← matchingBrace?_eq_closingBrace?, matchingBrace?_of_opening atBrace,
    Option.map_eq_some_iff] at found
  obtain ⟨⟨inner, after⟩, closed, rfl⟩ := found
  have balanced := balanced_of_splitClosing closed
  have level := balanced.nesting_eq_zero
  have behind : Remains text (first + 1) rest := atBrace.next
  rw [eq_append_of_splitClosing closed] at behind
  refine ⟨inner, ⟨behind.slice_eq, ?_, ?_, fun front within => ?_, fun offset past before => ?_⟩⟩
  · exact (standsAt_iff_remains (.inr rfl)).2 ⟨after, behind.add⟩
  · rw [nesting] at level
    omega
  · have nonneg := balanced.nesting_nonneg within
    rw [nesting] at nonneg
    omega
  · exact exists_closingBrace?_within balanced behind past before

/-- The search for a closing brace from an offset. If no brace comes the answer is none, and if a
closing brace comes first, it is the answer. If an opening brace comes first, the answer is the
first offset behind it at which as many braces are closed as are opened from it on, or none if there
is no such offset. It encloses a balanced text, in which searches stay. -/
theorem closingBrace?_matches (text : List Char) (start : Nat) :
    ((∀ offset, start ≤ offset → ¬ BraceAt text offset) → closingBrace? text start = none) ∧
    (∀ first, FirstBrace text start first '}' → closingBrace? text start = some first) ∧
    ∀ first, FirstBrace text start first '{' →
      (closingBrace? text start = none ↔ levelOffsets text first = ∅) ∧
      ∀ close,
        (closingBrace? text start = some close ↔ IsLeast (levelOffsets text first) close) ∧
        (closingBrace? text start = some close → ∃ inner, Encloses text first close inner) := by
  refine ⟨closingBrace?_eq_none, fun first isFirst => isFirst.closingBrace?_closing, ?_⟩
  intro first isFirst
  refine ⟨isFirst.closingBrace?_eq_none_iff, fun close => ⟨?_, ?_⟩⟩
  · exact isFirst.closingBrace?_eq_some_iff
  · exact isFirst.exists_encloses

/-- From within a character of two bytes to a brace with another one nested in it, and from a brace
that is not closed. -/
theorem closingBrace?_matches_nested :
    let text := "é\x7ba\x7bü\x7d\x7d\x7b".toList
    (FirstBrace text 1 2 '{' ∧ IsLeast (levelOffsets text 2) 8 ∧
      ∃ inner, Encloses text 2 8 inner) ∧
    FirstBrace text 9 9 '{' ∧ levelOffsets text 9 = ∅ := by
  intro text
  have outer : FirstBrace text 1 2 '{' :=
    ⟨by decide, by decide +kernel, by decide +kernel⟩
  have last : FirstBrace text 9 9 '{' := ⟨by decide, by decide +kernel, by decide +kernel⟩
  have closed : closingBrace? text 1 = some 8 := by decide +kernel
  have unclosed : closingBrace? text 9 = none := by decide +kernel
  obtain ⟨-, found⟩ := (closingBrace?_matches text 1).2.2 2 outer
  obtain ⟨missing, -⟩ := (closingBrace?_matches text 9).2.2 9 last
  exact ⟨⟨outer, (found 8).1.1 closed, (found 8).2 closed⟩, last, missing.1 unclosed⟩

end InterfaceGen.Source
