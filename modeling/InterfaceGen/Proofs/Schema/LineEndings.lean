import InterfaceGen.Proofs.Schema.LineEdges
import InterfaceGen.Proofs.Source.LineEndings
import InterfaceGen.Schema.OfSource

/-!
# Schemas and line endings

A text that ends its lines with a carriage return and a newline gives the schema of the text with
newlines alone: in its body a carriage return is a blank at the end of a line.
-/

namespace InterfaceGen

open Text Source

/-- A carriage return before each newline. -/
def Text.Spacing.carriageReturns : Spacing where
  before _ := ['\r']
  behind _ := []
  isGap_before _ := by decide
  isGap_behind _ := isGap_nil

/-- Written line endings are blanks at the ends of lines. -/
theorem Text.Spacing.apply_carriageReturns (text : List Char) :
    carriageReturns.apply text = crlf text := by
  induction text with
  | nil => rfl
  | cons char rest inductionHypothesis =>
      by_cases newline : char = '\n'
      · subst newline
        rw [apply_newline, inductionHypothesis]
        rfl
      · rw [apply_cons _ newline, inductionHypothesis, crlf_cons newline]

/-- A body declares the same fields whatever the line endings. -/
theorem Field.parseBody_crlf (text : List Char) : parseBody (crlf text) = parseBody text := by
  rw [← Spacing.apply_carriageReturns, parseBody_spaced]

/-- A text without carriage returns gives the same schema when they are put before its newlines,
with the line endings of the text in what its braces hold. If it fails, it fails for the same reason
at the same position. -/
theorem ofSource_withCrlf {text : String} (plain : '\r' ∉ text.toList) :
    Schema.ofSource (withCrlf text) =
      (Schema.ofSource text).map fun schema => { schema with raw := withCrlf schema.raw } := by
  have same := Declaration.first_withCrlf plain
  rw [Schema.ofSource, Schema.ofSource]
  cases found : Declaration.first text with
  | error cause =>
      cases written : Declaration.first (withCrlf text) with
      | error other =>
          rw [found, written] at same
          obtain rfl := Except.error.inj same
          rfl
      | ok _ =>
          rw [found, written] at same
          cases same
  | ok declaration =>
      cases written : Declaration.first (withCrlf text) with
      | error _ =>
          rw [found, written] at same
          cases same
      | ok other =>
          rw [found, written] at same
          obtain ⟨name, body⟩ := Prod.mk.inj (Except.ok.inj same)
          simp [name, body, Except.map, Field.parseBody_crlf]

/-- A declaration over several lines, with a type that ends with its line and a line that declares
nothing. -/
theorem ofSource_withCrlf_lines :
    let schema : Schema := ⟨"A", [⟨"a", true, false, .string⟩, ⟨"b", false, true, .object []⟩],
      "a: string\n-\nb?:\n\x7b\x7d\n[]"⟩
    '\r' ∉ "type A\n=\x7b\na: string\n-\nb?:\n\x7b\x7d\n[]\n\x7d".toList ∧
      Schema.ofSource "type A\n=\x7b\na: string\n-\nb?:\n\x7b\x7d\n[]\n\x7d" = .ok schema ∧
      Schema.ofSource (withCrlf "type A\n=\x7b\na: string\n-\nb?:\n\x7b\x7d\n[]\n\x7d") =
        .ok { schema with raw := "a: string\r\n-\r\nb?:\r\n\x7b\x7d\r\n[]" } := by
  intro schema
  have plain : '\r' ∉ "type A\n=\x7b\na: string\n-\nb?:\n\x7b\x7d\n[]\n\x7d".toList := by decide
  have read : Schema.ofSource "type A\n=\x7b\na: string\n-\nb?:\n\x7b\x7d\n[]\n\x7d" =
      .ok schema := by
    decide +kernel
  have raw : withCrlf schema.raw = "a: string\r\n-\r\nb?:\r\n\x7b\x7d\r\n[]" := by decide +kernel
  have written := ofSource_withCrlf plain
  rw [read] at written
  exact ⟨plain, read, written.trans (by simp only [Except.map, raw])⟩

end InterfaceGen
