import InterfaceGen.Proofs.Text.Positions
import InterfaceGen.Proofs.Text.Slices
import Mathlib.Data.Prod.Lex

/-!
# The order of positions

Positions are ordered by line, and on one line by column. Every character moves the position on in
this order, so the offsets between the characters of a text are told apart by their positions, and
later offsets have later positions. An offset past the end has the position of the end.
-/

namespace InterfaceGen.Text

/-- An offset between two characters of a text, or at one of its ends. -/
def IsBoundary (text : List Char) (offset : Nat) : Prop :=
  ∃ rest, Remains text offset rest

/-- An offset at the end of a text or past it has the whole text before it. -/
theorem before?_of_byteLength_le {text : List Char} {offset : Nat}
    (past : byteLength text ≤ offset) : before? offset text = some text := by
  induction text generalizing offset with
  | nil => rfl
  | cons char rest inductionHypothesis =>
      have := char.utf8Size_pos
      rw [byteLength] at past
      rw [before?, if_neg (by omega), if_neg (by omega), inductionHypothesis (by omega),
        Option.map_some]

namespace Position

/-- What positions are ordered by. -/
def key (position : Position) : ℕ ×ₗ ℕ :=
  toLex (position.line, position.column)

/-- One more character moves a position on. -/
theorem key_lt_key_advance (position : Position) (char : Char) :
    position.key < (position.advance char).key := by
  rw [advance, key, key]
  split
  · exact Prod.Lex.toLex_lt_toLex.2 (.inl (Nat.lt_succ_self _))
  · exact Prod.Lex.toLex_lt_toLex.2 (.inr ⟨rfl, Nat.lt_succ_self _⟩)

/-- More text does not move a position back. -/
theorem key_le_key_foldl_advance (position : Position) (text : List Char) :
    position.key ≤ (text.foldl advance position).key := by
  induction text generalizing position with
  | nil => exact le_refl _
  | cons char rest inductionHypothesis =>
      exact (position.key_lt_key_advance char).le.trans (inductionHypothesis _)

/-- More text moves the position right after a text on. -/
theorem key_after_lt_key_after {text more : List Char} (nonempty : more ≠ []) :
    (after text).key < (after (text ++ more)).key := by
  obtain ⟨char, rest, rfl⟩ := List.exists_cons_of_ne_nil nonempty
  rw [after_append, List.foldl_cons]
  exact ((after text).key_lt_key_advance char).trans_le (key_le_key_foldl_advance _ rest)

/-! ## Positions of offsets -/

theorem atByte?_append (before rest : List Char) :
    atByte? (before ++ rest) (byteLength before) = some (after before) := by
  rw [atByte?, before?_append, Option.map_some]

/-- An offset past the end has the position of the end. -/
theorem atByte?_of_byteLength_le {text : List Char} {offset : Nat}
    (past : byteLength text ≤ offset) : atByte? text offset = some (after text) := by
  rw [atByte?, before?_of_byteLength_le past, Option.map_some]

/-- Of two offsets in a text the later one has the later position. -/
theorem exists_atByte?_of_lt {text : List Char} {first second : Nat}
    (isFirst : IsBoundary text first) (isSecond : IsBoundary text second)
    (ordered : first < second) :
    ∃ earlier later, atByte? text first = some earlier ∧ atByte? text second = some later ∧
      earlier.key < later.key := by
  obtain ⟨behind, before, rfl, rfl⟩ := isFirst
  obtain ⟨rest, whole, same, rfl⟩ := isSecond
  obtain ⟨more, rfl, rfl⟩ := exists_append_of_byteLength_le same ordered.le
  have nonempty : more ≠ [] := by
    rintro rfl
    simp at ordered
  refine ⟨after before, after (before ++ more), atByte?_append before _, ?_,
    key_after_lt_key_after nonempty⟩
  rw [← List.append_assoc]
  exact atByte?_append (before ++ more) rest

/-- Of two offsets in a text the later one has another position. -/
theorem atByte?_ne_of_lt {text : List Char} {first second : Nat}
    (isFirst : IsBoundary text first) (isSecond : IsBoundary text second)
    (ordered : first < second) : atByte? text first ≠ atByte? text second := by
  obtain ⟨earlier, later, here, there, less⟩ := exists_atByte?_of_lt isFirst isSecond ordered
  rw [here, there]
  intro same
  obtain rfl := Option.some.inj same
  exact lt_irrefl _ less

/-- No two offsets in a text have one position. -/
theorem eq_of_atByte?_eq {text : List Char} {first second : Nat}
    (isFirst : IsBoundary text first) (isSecond : IsBoundary text second)
    (same : atByte? text first = atByte? text second) : first = second := by
  by_contra differ
  obtain earlier | later := Nat.lt_or_gt_of_ne differ
  · exact atByte?_ne_of_lt isFirst isSecond earlier same
  · exact atByte?_ne_of_lt isSecond isFirst later same.symm

/-- The line of an offset is one more than the newlines before it, and its column one more than the
characters behind the last of these. Offsets in a text are ordered as their positions are, so that a
position belongs to one of them alone, and all offsets past the end have the position of the end. -/
theorem atByte?_orders (text : List Char) :
    (∀ before rest, text = before ++ rest →
      atByte? text (byteLength before) =
        some ⟨before.count '\n' + 1, (before.rtakeWhile (· ≠ '\n')).length + 1⟩) ∧
    (∀ first second, IsBoundary text first → IsBoundary text second → first < second →
      ∃ earlier later, atByte? text first = some earlier ∧ atByte? text second = some later ∧
        toLex (earlier.line, earlier.column) < toLex (later.line, later.column)) ∧
    (∀ first second, IsBoundary text first → IsBoundary text second →
      atByte? text first = atByte? text second → first = second) ∧
    ∀ offset, byteLength text ≤ offset → atByte? text offset = atByte? text (byteLength text) := by
  refine ⟨?_, fun _ _ => exists_atByte?_of_lt, fun _ _ => eq_of_atByte?_eq, fun offset past => ?_⟩
  · rintro before rest rfl
    rw [atByte?_append, after_eq_counted]
    rfl
  · rw [atByte?_of_byteLength_le past, atByte?_of_byteLength_le le_rfl]

/-- Across a newline, from behind a character of two bytes to the end of the text. -/
theorem atByte?_orders_newline :
    IsBoundary ['a', 'é', '\n', '𝒳'] 3 ∧ IsBoundary ['a', 'é', '\n', '𝒳'] 8 ∧
      atByte? ['a', 'é', '\n', '𝒳'] 3 = some ⟨1, 3⟩ ∧
      atByte? ['a', 'é', '\n', '𝒳'] 8 = some ⟨2, 2⟩ ∧ toLex (1, 3) < toLex (2, 2) := by
  have first : IsBoundary ['a', 'é', '\n', '𝒳'] 3 := ⟨['\n', '𝒳'], ['a', 'é'], rfl, by decide⟩
  have second : IsBoundary ['a', 'é', '\n', '𝒳'] 8 := ⟨[], _, (List.append_nil _).symm, by decide⟩
  have here : atByte? ['a', 'é', '\n', '𝒳'] 3 = some ⟨1, 3⟩ := by decide +kernel
  have there : atByte? ['a', 'é', '\n', '𝒳'] 8 = some ⟨2, 2⟩ := by decide +kernel
  obtain ⟨earlier, later, isEarlier, isLater, less⟩ :=
    (atByte?_orders ['a', 'é', '\n', '𝒳']).2.1 3 8 first second (by decide)
  obtain rfl : ⟨1, 3⟩ = earlier := Option.some.inj (here.symm.trans isEarlier)
  obtain rfl : ⟨2, 2⟩ = later := Option.some.inj (there.symm.trans isLater)
  exact ⟨first, second, here, there, less⟩

end Position

end InterfaceGen.Text
