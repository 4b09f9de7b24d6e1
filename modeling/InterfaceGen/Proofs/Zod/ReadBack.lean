import InterfaceGen.Proofs.Zod.Reader

/-!
# Zod expressions read back

The text of an expression whose keys are names reads back as that expression, whatever stands
behind it.
-/

namespace InterfaceGen

open Text TypeScript

namespace Zod

/-! ## Expressions and entries -/

/-- A scalar is an expression. -/
theorem reads_expr_scalar {word : String} {value : Expr} (known : (word, value) ∈ scalars)
    {before : List Char} (blanks : IsBlanks before) (rest : List Char) :
    Reads expr (before ++ (word.toList ++ rest)) value rest := by
  have separable : Separable scalars := by
    simp [Separable, scalars, Visible, Apart, isBlank]
  obtain ⟨shorter, read⟩ := reads_oneOf separable known blanks rest
  exact ⟨shorter, by rw [expr, read]⟩

/-- An array is read when its item is. -/
theorem reads_expr_array {item : Expr} {inner rest before : List Char}
    (blanks : IsBlanks before) (read : Reads expr inner item (")".toList ++ rest)) :
    Reads expr (before ++ ("z.array(".toList ++ inner)) (.array item) rest := by
  obtain ⟨_, opened⟩ := reads_token "z.array(" blanks inner (by decide)
  obtain ⟨shorter, read⟩ := read
  obtain ⟨_, closed⟩ := reads_token_front ")" rest (by decide)
  have composite : oneOf scalars (before ++ ("z.array(".toList ++ inner)) = none :=
    oneOf_eq_none scalars _ blanks inner (by decide) (by decide)
  refine ⟨?_, ?_⟩
  · simp only [List.length_append] at shorter ⊢
    omega
  · rw [expr]
    simp only [composite, opened, read, closed]

/-- An object is read when its entries are. -/
theorem reads_expr_object {members : List Entry} {inner rest before : List Char}
    (blanks : IsBlanks before) (read : Reads entries inner members rest) :
    Reads expr (before ++ ("z.object(\x7b".toList ++ inner)) (.object members) rest := by
  obtain ⟨_, opened⟩ := reads_token "z.object(\x7b" blanks inner (by decide)
  obtain ⟨shorter, read⟩ := read
  have composite : oneOf scalars (before ++ ("z.object(\x7b".toList ++ inner)) = none :=
    oneOf_eq_none scalars _ blanks inner (by decide) (by decide)
  have noArray : token "z.array(" (before ++ ("z.object(\x7b".toList ++ inner)) = none :=
    token_eq_none_of_apart "z.array(" "z.object(\x7b" blanks inner (by decide) (by decide)
  refine ⟨?_, ?_⟩
  · simp only [List.length_append]
    omega
  · rw [expr]
    simp only [composite, noArray, opened, read]

/-- The end of an object is read as no entries. -/
theorem reads_entries_nil {before : List Char} (blanks : IsBlanks before) (rest : List Char) :
    Reads entries (before ++ ("\x7d)".toList ++ rest)) [] rest := by
  obtain ⟨shorter, closed⟩ := reads_token "\x7d)" blanks rest (by decide)
  exact ⟨shorter, by rw [entries, closed]⟩

theorem reads_separator (optional : Bool) (rest : List Char) :
    Reads (mapped (optional, ·) (oneOf separators)) (",".toList ++ rest) (optional, true) rest := by
  have separable : Separable separators := by
    simp [Separable, separators, Visible, Apart, isBlank]
  have known : (",", true) ∈ separators := by simp [separators]
  exact reads_mapped _ (reads_oneOf separable known isBlanks_nil rest)

/-- The mark of an entry that may be missing is read, and the comma behind it. -/
theorem reads_entryEnd (optional : Bool) (rest : List Char) :
    Reads entryEnd ((if optional then ".optional()" else "").toList ++ (",".toList ++ rest))
      (optional, true) rest := by
  cases optional with
  | false =>
      have unmarked : token ".optional()" (",".toList ++ rest) = none :=
        token_eq_none_of_apart ".optional()" "," isBlanks_nil rest (by decide) (by decide)
      exact reads_either (after_eq_none unmarked) (reads_separator false rest)
  | true =>
      have marked := reads_token_front ".optional()" (",".toList ++ rest) (by decide)
      exact reads_either_first (reads_after marked (reads_separator true rest))

/-- An entry is read before others. -/
theorem reads_entries_cons {name : String} {value : Expr} {optional : Bool}
    {others : List Entry} {before text inner rest : List Char} (blanks : IsBlanks before)
    (named : IsName name.toList)
    (read : Reads expr text value
      ((if optional then ".optional()" else "").toList ++ (",".toList ++ inner)))
    (more : Reads entries inner others rest) :
    Reads entries (before ++ ((objectKey name).toList ++ (":".toList ++ text)))
      (⟨name, value, optional⟩ :: others) rest := by
  have unfinished : token "\x7d)" (before ++ ((objectKey name).toList ++ (":".toList ++ text))) =
      none := token_key_eq_none blanks named _ (by decide) (by decide)
  obtain ⟨_, keyed⟩ := reads_key ":" blanks named text (by decide)
  obtain ⟨_, colon⟩ := reads_token_front ":" text (by decide)
  obtain ⟨shorter, read⟩ := read
  obtain ⟨_, ended⟩ := reads_entryEnd optional inner
  obtain ⟨shorterRest, more⟩ := more
  refine ⟨?_, ?_⟩
  · simp only [List.length_append] at shorter ⊢
    omega
  · rw [entries]
    simp only [unfinished, keyed, colon, read, ended, more]

/-! ## Printed expressions -/

mutual

/-- Every key in an expression is a name. -/
def Expr.Keyed : Expr → Prop
  | .string | .number | .boolean | .any => True
  | .array item => item.Keyed
  | .object entries => KeyedEntries entries

/-- Every key among entries, and within them, is a name. -/
def KeyedEntries : List Entry → Prop
  | [] => True
  | ⟨key, value, _⟩ :: rest => IsName key.toList ∧ value.Keyed ∧ KeyedEntries rest

end

mutual

/-- The text of an expression reads back as the expression, at every level of indentation. -/
theorem reads_print : ∀ (expression : Expr), expression.Keyed → ∀ (level : Nat)
    {before : List Char}, IsBlanks before → ∀ rest : List Char,
      Reads expr (before ++ ((expression.print level).toList ++ rest)) expression rest
  | .string, _, _, _, blanks, rest => reads_expr_scalar (by simp [scalars, Expr.print]) blanks rest
  | .number, _, _, _, blanks, rest => reads_expr_scalar (by simp [scalars, Expr.print]) blanks rest
  | .boolean, _, _, _, blanks, rest => reads_expr_scalar (by simp [scalars, Expr.print]) blanks rest
  | .any, _, _, _, blanks, rest => reads_expr_scalar (by simp [scalars, Expr.print]) blanks rest
  | .array item, keyed, level, before, blanks, rest => by
      have inner := reads_print item keyed level isBlanks_nil (")".toList ++ rest)
      have read := reads_expr_array blanks inner
      simpa [Expr.print] using read
  | .object [], _, level, before, blanks, rest => by
      have inner := reads_entries_nil isBlanks_nil rest
      have read := reads_expr_object blanks inner
      simpa [Expr.print] using read
  | .object (entry :: others), keyed, level, before, blanks, rest => by
      have inner := reads_printEntries (entry :: others) keyed (level + 1) isBlanks_newline
        (isBlanks_indent level) rest
      have read := reads_expr_object blanks inner
      simpa [Expr.print] using read

/-- The lines of entries read back as the entries, up to the end of their object. -/
theorem reads_printEntries : ∀ (members : List Entry), KeyedEntries members → ∀ (level : Nat)
    {before gap : List Char}, IsBlanks before → IsBlanks gap → ∀ rest : List Char,
      Reads entries
        (before ++ ((printEntries level members).toList ++ (gap ++ ("\x7d)".toList ++ rest))))
        members rest
  | [], _, _, before, gap, blanks, trail, rest => by
      have read := reads_entries_nil (isBlanks_append.2 ⟨blanks, trail⟩) rest
      simpa [printEntries] using read
  | ⟨key, value, optional⟩ :: others, keyed, level, before, gap, blanks, trail, rest => by
      have more := reads_printEntries others keyed.2.2 level isBlanks_newline trail rest
      have read := reads_print value keyed.2.1 level isBlanks_space
        ((if optional then ".optional()" else "").toList ++ (",".toList ++ (['\n'] ++
          ((printEntries level others).toList ++ (gap ++ ("\x7d)".toList ++ rest))))))
      have whole := reads_entries_cons (isBlanks_append.2 ⟨blanks, isBlanks_indent level⟩) keyed.1
        read more
      simpa [printEntries] using whole

end

end Zod

end InterfaceGen
