import InterfaceGen.Source.Braces
import Mathlib.Data.String.Basic

/-!
# Balanced texts

A text is balanced when each of its braces has its partner within the text. The search for a
closing brace passes over such a text whole, so a balanced body is cut out exactly where it ends.
-/

namespace InterfaceGen.Source

/-- Texts whose braces match. -/
inductive Balanced : List Char → Prop where
  | nil : Balanced []
  | char {char : Char} {rest : List Char} (opens : char ≠ '{') (closes : char ≠ '}')
      (tail : Balanced rest) : Balanced (char :: rest)
  | nested {inner rest : List Char} (within : Balanced inner) (tail : Balanced rest) :
      Balanced ('{' :: (inner ++ '}' :: rest))

/-- A text without braces. -/
def Braceless (text : List Char) : Prop :=
  ∀ char ∈ text, char ≠ '{' ∧ char ≠ '}'

instance (text : List Char) : Decidable (Braceless text) :=
  List.decidableBAll (fun char => char ≠ '{' ∧ char ≠ '}') text

theorem Braceless.balanced {text : List Char} (braceless : Braceless text) : Balanced text := by
  induction text with
  | nil => exact .nil
  | cons char rest inductionHypothesis =>
      obtain ⟨opens, closes⟩ := braceless char List.mem_cons_self
      exact .char opens closes
        (inductionHypothesis fun other member => braceless other (List.mem_cons_of_mem _ member))

/-- Balanced texts stay balanced when they follow one another. -/
theorem Balanced.append {left right : List Char} (leftBalanced : Balanced left)
    (rightBalanced : Balanced right) : Balanced (left ++ right) := by
  induction leftBalanced with
  | nil => exact rightBalanced
  | char opens closes _ inductionHypothesis => exact .char opens closes inductionHypothesis
  | nested within _ _ inductionHypothesis =>
      simpa using Balanced.nested within inductionHypothesis

/-- Within open braces, the search for the closing one passes over a balanced text. -/
theorem Balanced.splitClosing_append {text : List Char} (balanced : Balanced text)
    {depth : Nat} (within : 1 ≤ depth) (rest : List Char) :
    splitClosing depth (text ++ rest) =
      (splitClosing depth rest).map fun (before, after) => (text ++ before, after) := by
  induction balanced generalizing depth rest with
  | nil => simp
  | char opens closes _ inductionHypothesis =>
      rw [List.cons_append, splitClosing]
      simp [opens, closes, inductionHypothesis within, Function.comp_def]
  | nested _ _ innerHypothesis restHypothesis =>
      have deeper : ¬ depth + 1 ≤ 1 := by omega
      rw [List.cons_append, splitClosing]
      simp [innerHypothesis (Nat.le_succ_of_le within), splitClosing, deeper,
        restHypothesis within, Function.comp_def]

/-- A balanced body ends at the closing brace that follows it. -/
theorem Balanced.splitClosing_closing {body : List Char} (balanced : Balanced body)
    (rest : List Char) : splitClosing 1 (body ++ '}' :: rest) = some (body, rest) := by
  rw [balanced.splitClosing_append (Nat.le_refl 1)]
  simp [splitClosing]

/-- Text behind the closing brace does not move it. -/
theorem splitClosing_append_of_some {depth : Nat} {text before after : List Char}
    (split : splitClosing depth text = some (before, after)) (rest : List Char) :
    splitClosing depth (text ++ rest) = some (before, after ++ rest) := by
  induction text generalizing depth before with
  | nil => simp [splitClosing] at split
  | cons char tail inductionHypothesis =>
      rw [splitClosing] at split
      rw [List.cons_append, splitClosing]
      by_cases closing : char = '}' ∧ depth ≤ 1
      · rw [if_pos closing] at split ⊢
        obtain ⟨rfl, rfl⟩ : [] = before ∧ tail = after := by simpa using split
        rfl
      · rw [if_neg closing] at split ⊢
        obtain ⟨⟨inner, _⟩, innerSplit, equal⟩ := Option.map_eq_some_iff.1 split
        obtain ⟨rfl, rfl⟩ := Prod.mk.inj equal
        simp [inductionHypothesis innerSplit]

/-- A text that leaves a brace open does so when text without braces follows it. -/
theorem splitClosing_append_of_none {depth : Nat} {text rest : List Char}
    (braceless : Braceless rest) (split : splitClosing depth text = none) :
    splitClosing depth (text ++ rest) = none := by
  induction text generalizing depth with
  | nil =>
      induction rest with
      | nil => exact split
      | cons char tail inductionHypothesis =>
          obtain ⟨opens, closes⟩ := braceless char List.mem_cons_self
          have none := inductionHypothesis
            fun other member => braceless other (List.mem_cons_of_mem _ member)
          rw [List.nil_append] at none ⊢
          rw [splitClosing]
          simp [opens, closes, none]
  | cons char tail inductionHypothesis =>
      rw [splitClosing] at split
      rw [List.cons_append, splitClosing]
      by_cases closing : char = '}' ∧ depth ≤ 1
      · simp [if_pos closing] at split
      · rw [if_neg closing] at split ⊢
        rw [Option.map_eq_none_iff] at split ⊢
        exact inductionHypothesis split

end InterfaceGen.Source
