import InterfaceGen.Proofs.Source.Surroundings
import InterfaceGen.Schema.OfSource

/-!
# Schemas and the text around them

Only the first declaration of a text counts. Lines before it and any text behind it leave its schema
as it is, and the position of what is wrong with a text moves down with the text.
-/

namespace InterfaceGen

open Text Source

/-- A text gives a schema whatever stands behind it. -/
theorem Schema.ofSource_append {text : String} {schema : Schema}
    (read : ofSource text = .ok schema) (rest : String) :
    ofSource (text ++ rest) = .ok schema := by
  rw [ofSource] at read ⊢
  cases found : Declaration.first text with
  | error cause =>
      rw [found] at read
      cases read
  | ok declaration =>
      rw [found] at read
      rw [Declaration.first_append found rest]
      exact read

/-- A text gives the same schema behind lines without a keyword, or fails for the same reason as
many lines further down. -/
theorem Schema.ofSource_lines_append {before : String} (whole : WholeLines before.toList)
    (keywordless : Keywordless before.toList) (text : String) :
    ofSource (before ++ text) =
      match Declaration.first text with
      | .ok _ => ofSource text
      | .error cause => .error (.source (cause.below (before.toList.count '\n'))) := by
  rw [ofSource, ofSource, Declaration.first_lines_append whole keywordless]
  cases Declaration.first text <;> rfl

/-- The text around a declaration does not matter. Behind lines that hold no keyword a text gives
the schema that it gives alone, whatever follows it. If it fails, it fails behind such lines for the
same reason, with the same name and at the same column, as many lines further down. -/
theorem ofSource_surrounded {before text : String} (whole : WholeLines before.toList)
    (keywordless : Keywordless before.toList) :
    (∀ schema, Schema.ofSource text = .ok schema →
        ∀ after, Schema.ofSource (before ++ text ++ after) = .ok schema) ∧
      ∀ error, Schema.ofSource text = .error error →
        ∃ cause, error = .source cause ∧
          Schema.ofSource (before ++ text) =
            .error (.source (cause.below (before.toList.count '\n'))) := by
  have moved := Schema.ofSource_lines_append whole keywordless text
  constructor
  · intro schema read after
    refine Schema.ofSource_append ?_ after
    cases found : Declaration.first text with
    | error cause =>
        rw [Schema.ofSource, found] at read
        cases read
    | ok declaration =>
        rw [moved, found]
        exact read
  · intro error failed
    cases found : Declaration.first text with
    | ok declaration =>
        rw [Schema.ofSource, found] at failed
        cases failed
    | error cause =>
        rw [Schema.ofSource, found] at failed
        obtain rfl := Except.error.inj failed
        rw [found] at moved
        exact ⟨cause, rfl, moved⟩

/-- Braces and words of other scripts before a declaration, half a declaration behind it, and a
header that stops before its brace. -/
theorem ofSource_surrounded_braces :
    let before := "\x7d // déjà \x7b\n\n"
    let text := "type A = \x7b a: string \x7d"
    let header := "\tinterface User \r"
    let schema : Schema := ⟨"A", [⟨"a", true, false, .string⟩], "a: string"⟩
    (WholeLines before.toList ∧ Keywordless before.toList) ∧
      Schema.ofSource text = .ok schema ∧
      Schema.ofSource (before ++ text ++ "\x7d interface B \x7b") = .ok schema ∧
      Schema.ofSource header = .error (.source (.missingOpenBrace "User" ⟨1, 16⟩)) ∧
      Schema.ofSource (before ++ header) = .error (.source (.missingOpenBrace "User" ⟨3, 16⟩)) := by
  intro before text header schema
  have whole : WholeLines before.toList := by decide
  have keywordless : Keywordless before.toList := by decide
  have read : Schema.ofSource text = .ok schema := by decide +kernel
  have failed : Schema.ofSource header = .error (.source (.missingOpenBrace "User" ⟨1, 16⟩)) := by
    decide +kernel
  obtain ⟨cause, same, moved⟩ := (ofSource_surrounded whole keywordless).2 _ failed
  cases same
  have lines : before.toList.count '\n' = 2 := by decide
  rw [lines] at moved
  exact ⟨⟨whole, keywordless⟩, read, (ofSource_surrounded whole keywordless).1 schema read _,
    failed, moved⟩

end InterfaceGen
