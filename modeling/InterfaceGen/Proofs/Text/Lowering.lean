import InterfaceGen.Text.Case
import Mathlib.Data.List.Basic

/-!
# The lower case of a text

A text is lowered character by character, but for a capital sigma: at the end of a word it becomes
another small sigma than inside. The rule that tells the two apart is left open here, and nothing
but the small sigmas depends on it. What the lower case of a text ends in is decided by the last
character of the text, and only the two letters Y give a final `y`.
-/

namespace InterfaceGen.Text

/-! ## Characters -/

theorem lowerChar_ne_nil (char : Char) : lowerChar char ≠ [] := by
  rw [lowerChar]
  split
  · exact List.cons_ne_nil _ _
  · split <;> exact List.cons_ne_nil _ _

/-- A code of no character stands for the null character, and any other code for its own one. -/
theorem eq_toNat_of_ofNat_eq {code : Nat} {char : Char} (same : Char.ofNat code = char)
    (notNull : char ≠ Char.ofNat 0) : code = char.toNat := by
  by_cases valid : code.isValidChar
  · have own : Char.ofNat code = Char.ofNatAux code valid := dif_pos valid
    exact congrArg Char.toNat (own.symm.trans same)
  · have null : Char.ofNat code = Char.ofNat 0 := dif_neg valid
    exact absurd (same.symm.trans null) notNull

/-- Of the characters with a lower-case form of their own the capital Y alone is lowered to a
`y`. -/
theorem eq_of_mem_lowerings {run : Run} {shift : Int} (listed : (run, shift) ∈ lowerings)
    {code : Nat} (within : run.contains code = true) (lowered : (code + shift).toNat = 'y'.toNat) :
    code = 'Y'.toNat := by
  -- A run and its shift leave one code that can be lowered to a `y`.
  have each : ∀ lowering ∈ lowerings, lowering.1.contains ('y'.toNat - lowering.2).toNat = true →
      ('y'.toNat - lowering.2).toNat = 'Y'.toNat := by
    decide +kernel
  have positive : 0 < 'y'.toNat := by decide
  have back : ('y'.toNat - shift).toNat = code := by omega
  have only := each (run, shift) listed
  rw [back] at only
  exact only within

/-- Only the two letters Y have a lower-case form that ends in a `y`. -/
theorem eq_of_getLast?_lowerChar {char : Char} (final : (lowerChar char).getLast? = some 'y') :
    char = 'y' ∨ char = 'Y' := by
  rw [lowerChar] at final
  split at final
  · exact absurd final (by decide)
  · split at final
    · next run shift found =>
        have same : Char.ofNat (char.toNat + shift).toNat = 'y' := Option.some.inj final
        have lowered := eq_toNat_of_ofNat_eq same (by decide)
        have within : run.contains char.toNat = true := by simpa using List.find?_some found
        have capital := eq_of_mem_lowerings (List.mem_of_find?_eq_some found) within lowered
        exact .inr (Char.toNat_inj.1 capital)
    · exact .inl (Option.some.inj final)

/-! ## Texts -/

theorem lower_cons (char : Char) (rest : List Char) :
    lower (char :: rest) = lowerChar char ++ lower rest :=
  List.flatMap_cons

theorem lower_append (left right : List Char) : lower (left ++ right) = lower left ++ lower right :=
  List.flatMap_append

/-- Only a text that ends in one of the two letters Y has a lower case that ends in a `y`. -/
theorem getLast?_of_lower {text : List Char} (final : (lower text).getLast? = some 'y') :
    text.getLast? = some 'y' ∨ text.getLast? = some 'Y' := by
  obtain rfl | ⟨front, last, rfl⟩ := List.eq_nil_or_concat' text
  · cases final
  · have lowered : lower [last] = lowerChar last := List.flatMap_singleton ..
    rw [lower_append, lowered, List.getLast?_append_of_ne_nil _ (lowerChar_ne_nil last)] at final
    rw [List.getLast?_concat]
    obtain rfl | rfl := eq_of_getLast?_lowerChar final
    · exact .inl rfl
    · exact .inr rfl

/-! ## Final sigmas -/

/-- Whether a capital sigma ends a word, given the text before it and the text behind it. -/
abbrev SigmaRule : Type := List Char → List Char → Bool

/-- The rest of a text in lower case, given the text before it. -/
def lowerFrom (endsWord : SigmaRule) (before : List Char) : List Char → List Char
  | [] => []
  | char :: rest =>
    (if char = 'Σ' ∧ endsWord before rest = true then ['ς'] else lowerChar char) ++
      lowerFrom endsWord (before ++ [char]) rest

/-- A text in lower case, with the final sigmas of a rule. -/
def lowerBy (endsWord : SigmaRule) (text : List Char) : List Char :=
  lowerFrom endsWord [] text

/-- A character, or the other small sigma in place of a final one. -/
def unfinal (char : Char) : Char :=
  if char = 'ς' then 'σ' else char

/-- Any letter but the two small sigmas stands in the same places. -/
theorem unfinal_eq_iff {char letter : Char} (notFinal : letter ≠ 'ς') (notInner : letter ≠ 'σ') :
    unfinal char = letter ↔ char = letter := by
  rw [unfinal]
  split
  · next final =>
      subst final
      exact ⟨fun same => absurd same.symm notInner, fun same => absurd same.symm notFinal⟩
  · rfl

/-- A rule decides about small sigmas alone. -/
theorem map_unfinal_lowerFrom (endsWord : SigmaRule) (before text : List Char) :
    (lowerFrom endsWord before text).map unfinal = (lower text).map unfinal := by
  induction text generalizing before with
  | nil => rfl
  | cons char rest inductionHypothesis =>
      rw [lowerFrom, lower_cons, List.map_append, List.map_append, inductionHypothesis]
      congr 1
      split
      · next final =>
          obtain ⟨rfl, -⟩ := final
          decide +kernel
      · rfl

theorem map_unfinal_lowerBy (endsWord : SigmaRule) (text : List Char) :
    (lowerBy endsWord text).map unfinal = (lower text).map unfinal :=
  map_unfinal_lowerFrom endsWord [] text

end InterfaceGen.Text
