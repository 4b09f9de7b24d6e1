import InterfaceGen.Proofs.Schema.NormalForm
import InterfaceGen.Proofs.Session
import InterfaceGen.Proofs.Source.Repairs

/-!
# Schemas of repaired texts

A text that fails for a brace is repaired where its error says: a brace that is missing behind a
name is put in at the position that is reported, and a brace that is never closed is closed by
braces at the end of the text.
-/

namespace InterfaceGen

open Text Source

/-- A text fails for the reason why it has no declaration. -/
theorem Schema.ofSource_eq_error_iff {text : String} {error : Error} :
    ofSource text = .error error ↔
      ∃ cause, error = .source cause ∧ Declaration.first text = .error cause := by
  rw [ofSource]
  cases Declaration.first text with
  | error cause => simp [eq_comm]
  | ok declaration => simp

theorem Schema.first_of_ofSource {text : String} {cause : SourceError}
    (failed : ofSource text = .error (.source cause)) : Declaration.first text = .error cause := by
  obtain ⟨own, same, unfound⟩ := Schema.ofSource_eq_error_iff.1 failed
  exact Error.source.inj same ▸ unfound

/-- A missing brace is reported where it can be put in: the position is in the text, and with an
empty pair of braces there the text declares the name that was reported, without fields. -/
theorem ofSource_insertAt {text name : String} {position : Position}
    (failed : Schema.ofSource text = .error (.source (.missingOpenBrace name position))) :
    position.IsIn text.toList ∧
      Schema.ofSource (String.ofList (insertAt position "\x7b\x7d".toList text.toList)) =
        .ok ⟨name, [], ""⟩ := by
  have unfound := Schema.first_of_ofSource failed
  obtain ⟨openBrace, found⟩ := Declaration.exists_first_insertAt unfound
  have nothing : Field.parseBody [] = [] := Field.parseBody_blanks isBlanks_nil
  exact ⟨(Declaration.first_eq_iff_locates.1 unfound).isIn_position rfl,
    Schema.ofSource_eq_ok_iff.2 ⟨⟨openBrace, found⟩, nothing.symm⟩⟩

/-- A header after a tab, between lines that almost declare something. -/
theorem ofSource_insertAt_exported :
    let text := "type é \x7b\r\n\texport type U_1 =\r\ntype \x7b"
    Schema.ofSource text = .error (.source (.missingOpenBrace "U_1" ⟨2, 17⟩)) ∧
      insertAt ⟨2, 17⟩ "\x7b\x7d".toList text.toList =
        "type é \x7b\r\n\texport type U_1\x7b\x7d =\r\ntype \x7b".toList ∧
      Schema.ofSource (String.ofList (insertAt ⟨2, 17⟩ "\x7b\x7d".toList text.toList)) =
        .ok ⟨"U_1", [], ""⟩ := by
  intro text
  have failed : Schema.ofSource text = .error (.source (.missingOpenBrace "U_1" ⟨2, 17⟩)) := by
    decide +kernel
  exact ⟨failed, by decide +kernel, (ofSource_insertAt failed).2⟩

/-- A text that fails for a brace that is never closed lacks closing braces at its end, and no other
text does. There is a number of them below which the text fails as before, for the same name at the
same position, and from which on it gives one and the same schema, of that name. Where closing
braces at the end of a failing text give a schema, it failed for a brace that is never closed. -/
theorem ofSource_append_closers (text : String) :
    (∀ name position, Schema.ofSource text = .error (.source (.unbalancedBraces name position)) →
      ∃ missing schema, 1 ≤ missing ∧ schema.name = name ∧
        ∀ count, Schema.ofSource (text ++ closers count) =
          if count < missing then .error (.source (.unbalancedBraces name position))
          else .ok schema) ∧
      ∀ error count schema, Schema.ofSource text = .error error →
        Schema.ofSource (text ++ closers count) = .ok schema →
        ∃ name position, error = .source (.unbalancedBraces name position) := by
  constructor
  · intro name position failed
    obtain ⟨missing, _, _, declaration, some, -, -, -, named, closed⟩ :=
      Declaration.first_append_closers (Schema.first_of_ofSource failed)
    refine ⟨missing, ⟨declaration.name, Field.parseBody declaration.body.toList, declaration.body⟩,
      some, named, fun count => ?_⟩
    rw [Schema.ofSource, closed]
    by_cases few : count < missing
    · simp only [if_pos few]
    · simp only [if_neg few]
  · intro error count schema failed repaired
    obtain ⟨cause, rfl, unfound⟩ := Schema.ofSource_eq_error_iff.1 failed
    obtain ⟨⟨_, found⟩, -⟩ := Schema.ofSource_eq_ok_iff.1 repaired
    have braceless : '{' ∉ (closers count).toList := by simp [List.mem_replicate]
    obtain ⟨name, position, rfl⟩ :=
      Declaration.exists_unbalanced_of_first_append braceless unfound found
    exact ⟨name, position, rfl⟩

/-- A text that leaves two braces open lacks two closing braces. -/
theorem ofSource_append_closers_nested :
    let text := "\nexport type A = \x7b\n  a: \x7b\x7d\nb: \x7b c: number"
    let error : Error := .source (.unbalancedBraces "A" ⟨2, 17⟩)
    let schema : Schema := ⟨"A", [⟨"a", true, false, .object []⟩, ⟨"b", true, false, .object
      [⟨"c", true, false, .number⟩]⟩], "a: \x7b\x7d\nb: \x7b c: number\x7d"⟩
    Schema.ofSource text = .error error ∧ Schema.ofSource (text ++ closers 1) = .error error ∧
      ∀ count, 2 ≤ count → Schema.ofSource (text ++ closers count) = .ok schema := by
  intro text error schema
  have failed : Schema.ofSource text = .error error := by decide +kernel
  have once : Schema.ofSource (text ++ closers 1) = .error error := by decide +kernel
  have twice : Schema.ofSource (text ++ closers 2) = .ok schema := by decide +kernel
  obtain ⟨missing, repaired, -, -, closed⟩ := (ofSource_append_closers text).1 "A" ⟨2, 17⟩ failed
  -- Two braces are enough, and give the one schema that there is.
  have enough : ¬ 2 < missing := by
    intro few
    rw [closed 2, if_pos few] at twice
    cases twice
  rw [closed 2, if_neg enough] at twice
  refine ⟨failed, once, fun count many => ?_⟩
  rw [closed count, if_neg (by omega), twice]

end InterfaceGen
