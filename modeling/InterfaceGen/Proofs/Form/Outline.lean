import InterfaceGen.Proofs.Form.Casts
import InterfaceGen.Proofs.TypeScript.TopLevel
import Mathlib.Data.List.DropRight

/-!
# The outline of a form module

What the text of a form module shows around its form: the imports, the names that are taken from the
form hook, and the names that are defined. They read back as those of the form module, whatever the
text of the submit button is.
-/

namespace InterfaceGen

open Text TypeScript

namespace Form

/-- The line that a form ends with. -/
def ending : String :=
  "    </form>"

/-- The lines before the form and those behind it. -/
def surroundings (text : String) : List (List Char) :=
  (linesOf text.toList).takeWhile (· ≠ opening.toList) ++
    (linesOf text.toList).rtakeWhile (· ≠ ending.toList)

/-- Whether a line stands before the brace that ends what is taken from the form hook. -/
def isTaking (line : List Char) : Bool :=
  !"  \x7d".toList.isPrefixOf line

/-- The names that are taken from what the form hook gives. -/
def taken (text : String) : List String :=
  let lines := (linesOf text.toList).dropWhile (· ≠ "  const \x7b".toList)
  (lines.tail.takeWhile isTaking).map fun line =>
    String.ofList ((dropBlanks line).takeWhile isNameChar)

end Form

/-! ## Lines -/

/-- The end of a list is taken back to an item that is not of a kind. -/
theorem rtakeWhile_append_stop {α : Type} {kind : α → Bool} {stop : α} {behind : List α}
    (inside : ∀ item ∈ behind, kind item = true) (outside : ¬ kind stop = true)
    (before : List α) : (before ++ stop :: behind).rtakeWhile kind = behind := by
  have back : ∀ item ∈ behind.reverse, kind item = true := by simpa using inside
  rw [List.rtakeWhile, List.reverse_append, List.reverse_cons, List.append_assoc,
    List.takeWhile_append_of_pos back, List.singleton_append, List.takeWhile_cons_of_neg outside,
    List.append_nil, List.reverse_reverse]

/-! ## Endings of names -/

theorem suffix_append (front word : String) : word.toList <:+ (front ++ word).toList := by
  rw [String.toList_append]
  exact List.suffix_append _ _

/-- A text that ends with a word is no text that does not. -/
theorem append_ne {front word other : String} (differs : ¬ word.toList <:+ other.toList) :
    front ++ word ≠ other := by
  rintro rfl
  exact differs (suffix_append front word)

/-! ## Blocks -/

/-- A line behind a form: it is not the one that the form ends with, and holds no cast. -/
structure BehindForm (line : String) : Prop where
  oneLine : OneLine line
  ne_ending : line ≠ Form.ending
  uncast : Uncast line.toList

/-- Lines behind a form that define some names. -/
def Defines (lines names : List String) : Prop :=
  (∀ line ∈ lines, BehindForm line) ∧ definitions (lines.map (·.toList)) = names

/-- Characters that make up a line behind a form. -/
def IsBehind (chars : List Char) : Prop :=
  '\n' ∉ chars ∧ chars.drop 4 ≠ ['<', '/', 'f', 'o', 'r', 'm', '>'] ∧ Uncast chars

instance : DecidablePred IsBehind := fun chars =>
  inferInstanceAs (Decidable
    ('\n' ∉ chars ∧ chars.drop 4 ≠ ['<', '/', 'f', 'o', 'r', 'm', '>'] ∧ Uncast chars))

theorem IsBehind.ofList {chars : List Char} (behind : IsBehind chars) :
    BehindForm (String.ofList chars) where
  oneLine := by simpa [OneLine] using behind.1
  ne_ending := by
    intro same
    have spelled := congrArg (·.toList.drop 4) same
    exact behind.2.1 (by simpa [Form.ending] using spelled)
  uncast := by simpa using behind.2.2

theorem defines_nil : Defines [] [] :=
  ⟨List.forall_mem_nil _, rfl⟩

/-- A line that does not begin as definitions do adds no name. -/
theorem defines_cons {chars : List Char} {lines names : List String} (behind : IsBehind chars)
    (front : chars.head?.all (· ∉ ['e', 'f', 'c', 't']) = true) (rest : Defines lines names) :
    Defines (String.ofList chars :: lines) names := by
  refine ⟨List.forall_mem_cons.2 ⟨behind.ofList, rest.1⟩, ?_⟩
  rw [List.map_cons, String.toList_ofList, definitions,
    List.filterMap_cons_none (definition?_eq_none_of_head? front)]
  exact rest.2

/-- A line that begins with a word of definitions adds the name behind the word. -/
theorem defines_cons_name (word stop : String) {name : String} {chars tail : List Char}
    {lines names : List String} (known : word ∈ definitionWords) (named : IsName name.toList)
    (ends : EndsName stop) (behind : IsBehind chars)
    (spelled : chars = word.toList ++ (name.toList ++ (stop.toList ++ tail)))
    (rest : Defines lines names) : Defines (String.ofList chars :: lines) (name :: names) := by
  have defined : definition? chars = some name := by
    rw [spelled]
    exact definition?_append stop known named ends tail
  refine ⟨List.forall_mem_cons.2 ⟨behind.ofList, rest.1⟩, ?_⟩
  rw [List.map_cons, String.toList_ofList, definitions, List.filterMap_cons_some defined]
  exact congrArg (name :: ·) rest.2

theorem defines_append_cons {left right : List Char} {lines names : List String}
    (whole : Defines (String.ofList (left ++ right) :: lines) names) :
    Defines ((String.ofList left ++ String.ofList right) :: lines) names := by
  rwa [← String.ofList_append]

/-- A block defines its names. -/
theorem FormHelper.defines_lines (helper : FormHelper) : Defines helper.lines helper.names := by
  -- Line by line from the characters of each: the lines themselves are too long to be evaluated.
  cases helper <;> rw [lines, names] <;>
    repeat first
      | exact defines_nil
      | refine defines_cons (by decide) (by decide) ?_
      | refine defines_append_cons ?_
      | refine defines_cons_name "function " "(" (by decide) (by decide) (by decide) (by decide)
          rfl ?_
      | refine defines_cons_name "type " " " (by decide) (by decide) (by decide) (by decide) rfl ?_

theorem Defines.append {before after first second : List String} (left : Defines before first)
    (right : Defines after second) : Defines (before ++ after) (first ++ second) := by
  refine ⟨List.forall_mem_append.2 ⟨left.1, right.1⟩, ?_⟩
  rw [List.map_append, definitions_append, left.2, right.2]

/-- Blocks with an empty line above each define the names of each. -/
theorem defines_blocks (helpers : List FormHelper) :
    Defines (helpers.flatMap fun helper => "" :: helper.lines) (helpers.flatMap (·.names)) := by
  induction helpers with
  | nil => exact defines_nil
  | cons helper rest inductionHypothesis =>
      have empty : Defines [""] [] := defines_cons (by decide) (by decide) defines_nil
      exact (empty.append helper.defines_lines).append inductionHypothesis

namespace FormModule

/-- The lines behind the form define the names of its blocks. -/
theorem defines_footer (form : FormModule) :
    Defines form.footer (form.helpers.flatMap (·.names)) := by
  have closed : Defines ["  );", "\x7d"] [] :=
    defines_cons (by decide) (by decide) (defines_cons (by decide) (by decide) defines_nil)
  exact closed.append (defines_blocks form.helpers)

/-! ## Lines -/

/-- The lines of what the form holds, up to the one that the form ends with. -/
def bodyLines (form : FormModule) : List (List Char) :=
  linesOf (textOf (("      <h2>" ++ form.record ++ "</h2>") ::
    controlLines form.record 3 form.controls) ++ form.submitLine.toList)

/-- The lines of a form module. -/
theorem linesOf_print {form : FormModule} (named : IsName form.record.toList)
    (keyed : KeyedDefaults form.defaults) :
    linesOf form.print.toList = form.header.map (·.toList) ++ Form.opening.toList ::
      (form.bodyLines ++ Form.ending.toList :: (form.footer.map (·.toList) ++ [[]])) := by
  have before := ne_opening_of_mem_header named keyed
  have behind := form.defines_footer.1
  have body : textOf form.body ++ textOf form.footer =
      (textOf (("      <h2>" ++ form.record ++ "</h2>") ::
        controlLines form.record 3 form.controls) ++ form.submitLine.toList) ++ '\n' ::
          (Form.ending.toList ++ '\n' :: textOf form.footer) := by
    rw [FormModule.body, Form.ending]
    simp [textOf]
  rw [toList_print, linesOf_textOf_append (fun line member => (before line member).1) (by decide),
    body, linesOf_append_newline, linesOf_cons (by decide),
    linesOf_textOf fun line member => (behind line member).oneLine]
  rfl

/-- The lines around the form are those of the header and of the footer. -/
theorem surroundings_print {form : FormModule} (named : IsName form.record.toList)
    (keyed : KeyedDefaults form.defaults) :
    Form.surroundings form.print =
      form.header.map (·.toList) ++ (form.footer.map (·.toList) ++ [[]]) := by
  have before : ∀ line ∈ form.header.map (·.toList),
      decide (line ≠ Form.opening.toList) = true := by
    intro line member
    obtain ⟨source, within, rfl⟩ := List.mem_map.1 member
    simpa [String.toList_inj] using (ne_opening_of_mem_header named keyed source within).2
  have behind : ∀ line ∈ form.footer.map (·.toList) ++ [[]],
      decide (line ≠ Form.ending.toList) = true := by
    simp only [List.forall_mem_append, List.forall_mem_singleton]
    refine ⟨fun line member => ?_, by decide⟩
    obtain ⟨source, within, rfl⟩ := List.mem_map.1 member
    simpa [String.toList_inj] using (form.defines_footer.1 source within).ne_ending
  have passed : ¬ decide (Form.ending.toList ≠ Form.ending.toList) = true := by simp
  have last := rtakeWhile_append_stop behind passed
    (form.header.map (·.toList) ++ Form.opening.toList :: form.bodyLines)
  rw [List.append_assoc, List.cons_append, ← linesOf_print named keyed] at last
  rw [Form.surroundings, last, linesOf_print named keyed, List.takeWhile_append_of_pos before,
    List.takeWhile_cons_of_neg (by simp), List.append_nil]

/-! ## Definitions -/

theorem isName_component {form : FormModule} (named : IsName form.record.toList) :
    IsName form.component.toList := by
  rw [component, String.toList_append]
  exact isName_append named (by decide)

/-- The line that the component begins with defines the component. -/
theorem definition?_signature {form : FormModule} (named : IsName form.record.toList) :
    definition? form.signature.toList = some form.component := by
  have split : form.signature.toList = "export function ".toList ++ (form.component.toList ++
      ("(".toList ++ ("\x7b onSubmit \x7d: \x7b onSubmit: (data: " ++ form.record ++
        ") => void \x7d) \x7b").toList)) := by
    unfold signature
    simp
  rw [split]
  exact definition?_append "(" (by decide) (isName_component named) (by decide) _

/-- The lines before the form define the component alone. -/
theorem definitions_header {form : FormModule} (named : IsName form.record.toList)
    (keyed : KeyedDefaults form.defaults) :
    definitions (form.header.map (·.toList)) = [form.component] := by
  have imported : definitions ((form.imports.map (·.text)).map (·.toList)) = [] :=
    definitions_eq_nil fun line member word known =>
      (begins_imports named line member).not_starts (by revert word; decide)
  have called : definitions (form.hookLines.map (·.toList)) = [] :=
    definitions_eq_nil fun line member word known =>
      (begins_hookLines named line member).not_starts (by revert word; decide)
  have initial : definitions ((defaultLines form.defaults).map (·.toList)) = [] :=
    definitions_eq_nil fun line member word known =>
      (begins_defaultLines keyed line member).not_starts (by revert word; decide)
  have closed : definitions (callEnd.map (·.toList)) = [] := by decide
  have signed : definitions (form.signature.toList :: form.hookLines.map (·.toList)) =
      [form.component] := by
    rw [definitions, List.filterMap_cons_some (definition?_signature named)]
    exact congrArg (form.component :: ·) called
  have opened : definitions ("".toList :: form.signature.toList ::
      form.hookLines.map (·.toList)) = [form.component] := signed
  simp only [header, front, List.map_append, List.map_cons, definitions_append, imported, opened,
    initial, closed]
  rfl

/-- The names that the text of a form module defines are those of its component and of its
blocks. -/
theorem definitions_print {form : FormModule} (named : IsName form.record.toList)
    (keyed : KeyedDefaults form.defaults) :
    definitions (Form.surroundings form.print) =
      form.component :: form.helpers.flatMap (·.names) := by
  rw [surroundings_print named keyed, definitions_append, definitions_append,
    definitions_header named keyed, form.defines_footer.2]
  exact congrArg (form.component :: ·) (List.append_nil _)

/-! ## Imports -/

/-- What a form module imports are names, given that of its record. -/
theorem named_imports {form : FormModule} (named : IsName form.record.toList) :
    ∀ line ∈ form.imports, line.clause.Named := by
  have library : ∀ name ∈ libraryNames form.usage, name.Named := by
    obtain ⟨values, objects⟩ := form.usage
    cases values <;> cases objects <;> decide
  have nonempty : libraryNames form.usage ≠ [] := by simp [libraryNames]
  have constant : schemaConstant form.record ≠ "type" := append_ne (by decide)
  simp only [imports, List.forall_mem_cons]
  refine ⟨⟨by decide, by decide⟩, ⟨nonempty, library⟩, ?_, ⟨List.cons_ne_nil _ _, ?_⟩,
    List.forall_mem_nil _⟩
  · exact ⟨List.cons_ne_nil _ _, by decide⟩
  · simpa [ImportedName.Named] using ⟨⟨isName_schemaConstant named, constant⟩, named⟩

/-- The imports that the text of a form module begins with are those of the form module. -/
theorem importsOf_print {form : FormModule} (named : IsName form.record.toList) :
    importsOf form.print = form.imports := by
  obtain ⟨behind, whole⟩ := form.exists_toList_print
  have leads : ∀ line ∈ form.imports.map (·.text) ++ [""],
      OneLine line ∧ isLeading line.toList = true := by
    simp only [List.forall_mem_append, List.forall_mem_singleton]
    refine ⟨fun line member => ?_, by decide⟩
    obtain ⟨onLine, word, known, front⟩ := begins_imports named line member
    obtain rfl := List.mem_singleton.1 known
    exact ⟨onLine, isLeading_of_start (by decide) (by decide) front⟩
  have signed := begins_signature named
  have ended : isLeading form.signature.toList = false := by
    obtain ⟨_, word, known, begins⟩ := signed
    obtain rfl := List.mem_singleton.1 known
    exact isLeading_eq_false (by decide) (by decide) begins
  have split : form.print.toList = textOf (form.imports.map (·.text) ++ [""]) ++
      (form.signature.toList ++ '\n' :: (textOf form.hookLines ++
        (textOf (defaultLines form.defaults) ++ behind))) := by
    rw [whole, front]
    simp [textOf]
  have blank : Import.read? "".toList = none := by decide
  have read := filterMap_read?_text (named_imports named)
  rw [importsOf_eq split leads signed.1 ended, List.map_append, List.filterMap_append, List.map_map]
  exact congrArg₂ (· ++ ·) read (List.filterMap_cons_none blank) |>.trans (List.append_nil _)

/-! ## The form hook -/

/-- The lines that take names from the form hook. -/
def takenLines (form : FormModule) : List String :=
  ["    register,"] ++ (if form.usage.any then ["    control,"] else []) ++
    ["    handleSubmit,", "    formState: \x7b errors \x7d,"]

/-- The line that calls the form hook. -/
def callLine (form : FormModule) : String :=
  "  \x7d = useForm<" ++ form.record ++ ">(\x7b"

theorem front_eq (form : FormModule) :
    form.front = (form.imports.map (·.text) ++ ["", form.signature]) ++
      "  const \x7b" :: (form.takenLines ++
        [form.callLine, "    resolver: zodResolver(" ++ schemaConstant form.record ++ "),"]) := by
  unfold front hookLines takenLines callLine
  rw [List.append_assoc]
  cases form.usage.any <;> rfl

/-- The lines before those that take names are others than the one right before these. -/
theorem ne_of_mem_imports_signature {form : FormModule} (named : IsName form.record.toList) :
    ∀ line ∈ form.imports.map (·.text) ++ ["", form.signature], line ≠ "  const \x7b" := by
  have apart {words : List String} {line : String} (begins : Begins words line)
      (others : ∀ word ∈ words, Apart "  const \x7b" word) : line ≠ "  const \x7b" := by
    rintro rfl
    exact begins.not_starts others (List.prefix_refl _)
  simp only [List.forall_mem_append, List.forall_mem_cons]
  exact ⟨fun line member => apart (begins_imports named line member) (by decide), by decide,
    apart (begins_signature named) (by decide), List.forall_mem_nil _⟩

/-- The names that the text of a form module takes from the form hook. -/
theorem taken_print {form : FormModule} (named : IsName form.record.toList)
    (keyed : KeyedDefaults form.defaults) :
    Form.taken form.print = ["register"] ++ (if form.usage.any then ["control"] else []) ++
      ["handleSubmit", "formState"] := by
  have passed : ∀ line ∈ (form.imports.map (·.text) ++ ["", form.signature]).map (·.toList),
      decide (line ≠ "  const \x7b".toList) = true := by
    intro line member
    obtain ⟨source, within, rfl⟩ := List.mem_map.1 member
    have other := ne_of_mem_imports_signature named source within
    exact decide_eq_true fun same => other (String.toList_inj.1 same)
  obtain ⟨behind, split⟩ : ∃ behind, linesOf form.print.toList =
      (form.imports.map (·.text) ++ ["", form.signature]).map (·.toList) ++
        "  const \x7b".toList :: (form.takenLines.map (·.toList) ++
          form.callLine.toList :: behind) := by
    have parts (before taken others after : List String) (opened called : String)
        (rest : List (List Char)) :
        (before ++ opened :: (taken ++ called :: others) ++ after).map (·.toList) ++ rest =
          before.map (·.toList) ++ opened.toList :: (taken.map (·.toList) ++ called.toList ::
            ((others ++ after).map (·.toList) ++ rest)) := by
      simp
    rw [linesOf_print named keyed, header, front_eq, parts]
    exact ⟨_, rfl⟩
  have inside : ∀ line ∈ form.takenLines.map (·.toList), Form.isTaking line = true := by
    rw [takenLines]
    cases form.usage.any <;> decide
  have outside : ¬ Form.isTaking form.callLine.toList = true := by
    unfold callLine
    simp [Form.isTaking, List.isPrefixOf]
  rw [Form.taken, split, List.dropWhile_append_of_pos passed,
    List.dropWhile_cons_of_neg (by simp), List.tail_cons, List.takeWhile_append_of_pos inside,
    List.takeWhile_cons_of_neg outside, List.append_nil, takenLines]
  cases form.usage.any <;> decide

end FormModule

end InterfaceGen
