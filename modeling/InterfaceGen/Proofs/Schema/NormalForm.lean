import InterfaceGen.Proofs.Schema.Pieces
import InterfaceGen.Proofs.Source.Location
import InterfaceGen.Schema.OfSource

/-!
# Normal forms

The name and the body that a schema keeps make up a declaration of their own, with nothing around
it. It gives the schema again: what was cut out of a longer text is cut out of the shorter one at
the same two braces.
-/

namespace InterfaceGen

open Text Source

/-- What is cut out of a text as the name and the body of its declaration. -/
structure IsNormal (name body : String) : Prop where
  named : IsName name.toList
  trimmed : trim body.toList = body.toList
  balanced : Balanced body.toList

/-- A declaration of a name and a body, with nothing around it. -/
def normalText (name body : String) : String :=
  "interface " ++ name ++ " \x7b" ++ body ++ "\x7d"

/-! ## What is cut out of a text -/

/-- A balanced text stays balanced when it is trimmed. -/
theorem balanced_trim {text : List Char} (balanced : Balanced text) : Balanced (trim text) := by
  obtain ⟨before, after, allBefore, allAfter, split⟩ := exists_blanks_trim text
  rw [split] at balanced
  exact balanced.of_append_braceless (braceless_of_isBlanks allBefore)
    (braceless_of_isBlanks allAfter)

/-- What a declaration is found to hold is in normal form. -/
theorem isNormal_of_first {text : String} {declaration : Declaration}
    (found : Declaration.first text = .ok declaration) :
    IsNormal declaration.name declaration.body := by
  obtain ⟨result, locates⟩ := exists_locates text.toList
  obtain rfl : result = .ok declaration := locates.first_eq.symm.trans found
  cases locates with
  | @found _ _ name _ body _ _ opens split closes first =>
      have cut := splitClosing_one_eq_some_iff.2 ⟨_, split, closes, first⟩
      exact {
        named := by simpa using opens.layout.isName
        trimmed := by simpa using trim_trim body
        balanced := by simpa using balanced_trim (balanced_of_splitClosing cut) }

/-! ## Reading a normal form -/

/-- The declaration in normal form is found with its name and its body. -/
theorem IsNormal.exists_first {name body : String} (normal : IsNormal name body) :
    ∃ openBrace, Declaration.first (normalText name body) = .ok ⟨name, body, openBrace⟩ := by
  have text : (normalText name body).toList = "interface".toList ++ ([' '] ++ (name.toList ++
      ([' '] ++ ([] ++ ([] ++ '{' :: (body.toList ++ ['}'])))))) := by
    simp [normalText]
  have read : Opening.first? false (normalText name body).toList =
      some ⟨name.toList, body.toList ++ ['}']⟩ := by
    rw [text]
    exact Opening.first?_of_read? (Opening.read?_append (.inl rfl) (List.cons_ne_nil _ _)
      isBlanks_space normal.named isBlanks_space (.inl rfl) isBlanks_nil _)
  refine ⟨byteLength (Opening.lead ⟨name.toList, body.toList ++ ['}']⟩
    (normalText name body).toList), ?_⟩
  simp only [Declaration.first, read, normal.balanced.splitClosing_closing, normal.trimmed,
    String.ofList_toList]

/-- A text gives a schema exactly if its declaration has the schema's name and body. -/
theorem Schema.ofSource_eq_ok_iff {text : String} {schema : Schema} :
    ofSource text = .ok schema ↔
      (∃ openBrace, Declaration.first text = .ok ⟨schema.name, schema.raw, openBrace⟩) ∧
        schema.fields = Field.parseBody schema.raw.toList := by
  rw [ofSource]
  constructor
  · intro read
    split at read
    · cases read
    · next declaration found =>
        cases read
        exact ⟨⟨declaration.openBrace, found⟩, rfl⟩
  · rintro ⟨⟨openBrace, found⟩, fields⟩
    simp only [found, ← fields]

/-- A schema that is read from a text is read again from the declaration of its name and its body.
The body is trimmed, its braces match, and no front of it closes more braces than it opens. -/
theorem ofSource_normalText {text : String} {schema : Schema}
    (read : Schema.ofSource text = .ok schema) :
    Schema.ofSource (normalText schema.name schema.raw) = .ok schema ∧
      trim schema.raw.toList = schema.raw.toList ∧
      schema.raw.toList.count '}' = schema.raw.toList.count '{' ∧
      ∀ front, front <+: schema.raw.toList → front.count '}' ≤ front.count '{' := by
  obtain ⟨⟨_, found⟩, fields⟩ := Schema.ofSource_eq_ok_iff.1 read
  have normal : IsNormal schema.name schema.raw := isNormal_of_first found
  refine ⟨Schema.ofSource_eq_ok_iff.2 ⟨normal.exists_first, fields⟩, normal.trimmed, ?_, ?_⟩
  · have level := normal.balanced.nesting_eq_zero
    rw [nesting] at level
    omega
  · intro front within
    have depth := normal.balanced.nesting_nonneg within
    rw [nesting] at depth
    omega

/-- A declaration among other text, with blanks around its body and braces behind it. -/
theorem ofSource_normalText_nested :
    let schema : Schema := ⟨"A", [⟨"a", true, true, .object [⟨"b", false, false, .number⟩]⟩],
      "a: \x7bb?: number\x7d[];"⟩
    Schema.ofSource "\x7d export type A =\n\x7b\ta: \x7bb?: number\x7d[];\n\x7d\n\x7b" =
        .ok schema ∧
      Schema.ofSource "interface A \x7ba: \x7bb?: number\x7d[];\x7d" = .ok schema := by
  intro schema
  have read : Schema.ofSource "\x7d export type A =\n\x7b\ta: \x7bb?: number\x7d[];\n\x7d\n\x7b" =
      .ok schema := by
    decide +kernel
  exact ⟨read, (ofSource_normalText read).1⟩

end InterfaceGen
