import InterfaceGen.Proofs.Form.ReadBack
import InterfaceGen.Proofs.Zod.Recovery

/-!
# The lines of a form module

The lines of a form module are those before the form, those of the form itself, and those behind it.
Each line before the form is told from others by the word that it begins with.
-/

namespace InterfaceGen

open Text TypeScript

/-! ## Lines that begin with a word -/

/-- A text that stays on its line and begins with one of some words. -/
def Begins (words : List String) (line : String) : Prop :=
  OneLine line ∧ ∃ word ∈ words, word.toList <+: line.toList

instance (words : List String) : DecidablePred (Begins words) := fun line =>
  inferInstanceAs (Decidable (OneLine line ∧ ∃ word ∈ words, word.toList <+: line.toList))

theorem begins_append {words : List String} {word rest : String} (known : word ∈ words)
    (whole : OneLine word) (restWhole : OneLine rest) : Begins words (word ++ rest) := by
  refine ⟨oneLine_append.2 ⟨whole, restWhole⟩, word, known, ?_⟩
  rw [String.toList_append]
  exact List.prefix_append _ _

/-- A line does not begin with a word that is apart from those it may begin with. -/
theorem Begins.not_starts {words : List String} {line start : String} (begins : Begins words line)
    (apart : ∀ word ∈ words, Apart start word) : ¬ start.toList <+: line.toList := by
  obtain ⟨_, word, known, front⟩ := begins
  intro opened
  rcases List.prefix_or_prefix_of_prefix opened front with within | within
  · exact (apart word known).1 within
  · exact (apart word known).2 within

/-! ## Default values -/

/-- What is said of the keys of entries is said of each entry. -/
theorem KeyedDefaults.forall_mem {entries : List (String × Default)}
    (keyed : KeyedDefaults entries) :
    ∀ entry ∈ entries, IsName entry.1.toList ∧ entry.2.Keyed := by
  induction entries with
  | nil => simp
  | cons first rest inductionHypothesis =>
      rw [List.forall_mem_cons]
      exact ⟨⟨keyed.1, keyed.2.1⟩, inductionHypothesis keyed.2.2⟩

mutual

/-- The literal of a default value stays on its line. -/
theorem Default.oneLine_print : ∀ value : Default, value.Keyed → OneLine value.print
  | .emptyText, _ | .zero, _ | .unchecked, _ | .emptyArray, _ | .object [], _ => by decide
  | .object ((name, value) :: rest), keyed => by
      have whole := Default.oneLine_print value keyed.2.1
      have others := oneLine_printRest rest keyed.2.2
      have key := oneLine_objectKey keyed.1
      simp only [Default.print, oneLine_append, whole, others, key]
      decide

/-- The text of the entries of an object literal stays on its line. -/
theorem Default.oneLine_printRest : ∀ entries : List (String × Default), KeyedDefaults entries →
    OneLine (Default.printRest entries)
  | [], _ => by decide
  | (name, value) :: rest, keyed => by
      have whole := Default.oneLine_print value keyed.2.1
      have others := oneLine_printRest rest keyed.2.2
      have key := oneLine_objectKey keyed.1
      simp only [Default.printRest, oneLine_append, whole, others, key]
      decide

end

namespace FormModule

/-- The line of an entry of the literal that a form begins with. -/
def defaultLine (entry : String × Default) : String :=
  "      " ++ objectKey entry.1 ++ ": " ++ entry.2.print ++ ","

theorem defaultLines_cons (entry : String × Default) (rest : List (String × Default)) :
    defaultLines (entry :: rest) = "    defaultValues: \x7b" ::
      ((entry :: rest).map defaultLine ++ ["    \x7d,"]) :=
  rfl

/-- The words that the lines of default values begin with. -/
def defaultWords : List String :=
  ["    defaultValues: \x7b", "      ", "    \x7d,"]

theorem begins_defaultLines : ∀ {defaults : List (String × Default)}, KeyedDefaults defaults →
    ∀ line ∈ defaultLines defaults, Begins defaultWords line
  | [], _ => by decide
  | first :: rest, keyed => by
      simp only [defaultLines, List.forall_mem_append, List.forall_mem_singleton]
      refine ⟨⟨by decide, ?_⟩, by decide⟩
      intro line member
      obtain ⟨⟨name, value⟩, within, rfl⟩ := List.mem_map.1 member
      obtain ⟨named, valueKeyed⟩ := keyed.forall_mem _ within
      have restWhole : OneLine (objectKey name ++ (": " ++ (value.print ++ ","))) := by
        simp only [oneLine_append, oneLine_objectKey named, Default.oneLine_print value valueKeyed]
        decide
      have begins : Begins defaultWords
          ("      " ++ (objectKey name ++ (": " ++ (value.print ++ ",")))) :=
        begins_append (by decide) (by decide) restWhole
      simpa only [String.append_assoc] using begins

end FormModule

/-! ## Imports -/

/-- An import stays on its line if the names that it binds do. -/
theorem begins_import {line : Import} (each : ∀ name ∈ line.names, OneLine name) :
    Begins ["import "] line.text := by
  obtain ⟨clause, source⟩ := line
  have quoted : OneLine (quote source) := Json.oneLine_quote source
  have wrapped {bound : String} (whole : OneLine bound) :
      Begins ["import "] ("import " ++ bound ++ " from " ++ quote source ++ ";") := by
    have restWhole : OneLine (bound ++ (" from " ++ (quote source ++ ";"))) := by
      simp only [oneLine_append, whole, quoted]
      decide
    simpa only [String.append_assoc] using
      begins_append List.mem_cons_self (by decide) restWhole
  have braced {front : String} (frontWhole : OneLine front) {names : List String}
      (all : ∀ name ∈ names, OneLine name) : OneLine (front ++ join ", " names ++ " \x7d") := by
    simp only [oneLine_append, frontWhole, oneLine_join (by decide : OneLine ", ") all]
    decide
  cases clause with
  | default name => exact wrapped (each name (by simp [Import.names]))
  | named names =>
      refine wrapped (braced (by decide) ?_)
      intro text member
      obtain ⟨name, within, rfl⟩ := List.mem_map.1 member
      have whole : OneLine name.name := each _ (List.mem_map_of_mem within)
      cases name with
      | value name => exact whole
      | type name => exact oneLine_append.2 ⟨by decide, whole⟩
  | types names => exact wrapped (braced (by decide) each)

/-! ## The parts of a form module -/

namespace FormModule

/-- The line that the component begins with. -/
def signature (form : FormModule) : String :=
  "export function " ++ form.component ++ "(\x7b onSubmit \x7d: \x7b onSubmit: (data: " ++
    form.record ++ ") => void \x7d) \x7b"

/-- The lines in which the component calls the form hook, up to the default values. -/
def hookLines (form : FormModule) : List String :=
  ["  const \x7b", "    register,"] ++ (if form.usage.any then ["    control,"] else []) ++
    ["    handleSubmit,", "    formState: \x7b errors \x7d,",
      "  \x7d = useForm<" ++ form.record ++ ">(\x7b",
      "    resolver: zodResolver(" ++ schemaConstant form.record ++ "),"]

/-- The words that the lines of the call begin with. -/
def hookWords : List String :=
  ["  const \x7b", "    register,", "    control,", "    handleSubmit,", "    formState: ",
    "  \x7d = useForm<", "    resolver: zodResolver("]

/-- The lines before the default values. -/
def front (form : FormModule) : List String :=
  form.imports.map (·.text) ++ "" :: form.signature :: form.hookLines

/-- The lines between the default values and the form. -/
def callEnd : List String :=
  ["  \x7d);", "", "  return ("]

/-- The lines of what the form holds, and the one that it ends with. -/
def body (form : FormModule) : List String :=
  ("      <h2>" ++ form.record ++ "</h2>") :: (controlLines form.record 3 form.controls ++
    [form.submitLine, "    </form>"])

/-- The lines behind the one that the form ends with. -/
def footer (form : FormModule) : List String :=
  ["  );", "\x7d"] ++ form.helpers.flatMap (fun helper => "" :: helper.lines)

/-- The lines before the one that the form begins with. -/
def header (form : FormModule) : List String :=
  form.front ++ (defaultLines form.defaults ++ callEnd)

/-- The form lies between its header and its footer. -/
theorem lines_eq (form : FormModule) :
    form.lines = form.header ++ Form.opening :: (form.body ++ form.footer) ++ [""] := by
  unfold header front signature
  simp [lines, componentLines, hookLines, callEnd, body, footer, Form.opening]

theorem begins_imports {form : FormModule} (named : IsName form.record.toList) :
    ∀ line ∈ form.imports.map (·.text), Begins ["import "] line := by
  have record := oneLine_of_isName named
  have constant := oneLine_of_isName (isName_schemaConstant named)
  have library : ∀ name ∈ (libraryNames form.usage).map (·.name), OneLine name := by
    obtain ⟨values, objects⟩ := form.usage
    cases values <;> cases objects <;> decide
  intro text member
  obtain ⟨line, within, rfl⟩ := List.mem_map.1 member
  refine begins_import ?_
  simp only [imports, List.mem_cons, List.not_mem_nil, or_false] at within
  rcases within with rfl | rfl | rfl | rfl
  · decide
  · exact library
  · decide
  · simpa [Import.names, ImportedName.name] using ⟨constant, record⟩

theorem begins_signature {form : FormModule} (named : IsName form.record.toList) :
    Begins ["export function "] form.signature := by
  have restWhole : OneLine (form.record ++ ("Form" ++
      ("(\x7b onSubmit \x7d: \x7b onSubmit: (data: " ++
        (form.record ++ ") => void \x7d) \x7b")))) := by
    simp only [oneLine_append, oneLine_of_isName named]
    decide
  have begins : Begins ["export function "] ("export function " ++ (form.record ++ ("Form" ++
      ("(\x7b onSubmit \x7d: \x7b onSubmit: (data: " ++
        (form.record ++ ") => void \x7d) \x7b"))))) :=
    begins_append (by decide) (by decide) restWhole
  unfold signature
  simpa only [component, String.append_assoc] using begins

theorem begins_hookLines {form : FormModule} (named : IsName form.record.toList) :
    ∀ line ∈ form.hookLines, Begins hookWords line := by
  have call : Begins hookWords ("  \x7d = useForm<" ++ form.record ++ ">(\x7b") := by
    have restWhole : OneLine (form.record ++ ">(\x7b") := by
      simp only [oneLine_append, oneLine_of_isName named]
      decide
    simpa only [String.append_assoc] using begins_append (by decide) (by decide) restWhole
  have resolver : Begins hookWords ("    resolver: zodResolver(" ++ schemaConstant form.record ++
      "),") := by
    have restWhole : OneLine (schemaConstant form.record ++ "),") := by
      simp only [oneLine_append, oneLine_of_isName (isName_schemaConstant named)]
      decide
    simpa only [String.append_assoc] using begins_append (by decide) (by decide) restWhole
  have control : ∀ line ∈ (if form.usage.any then ["    control,"] else []),
      Begins hookWords line := by
    cases form.usage.any <;> decide
  have options : ∀ line ∈ ["    handleSubmit,", "    formState: \x7b errors \x7d,",
      "  \x7d = useForm<" ++ form.record ++ ">(\x7b",
      "    resolver: zodResolver(" ++ schemaConstant form.record ++ "),"],
      Begins hookWords line := by
    simp only [List.forall_mem_cons]
    exact ⟨by decide, by decide, call, resolver, nofun⟩
  simp only [hookLines, List.forall_mem_append]
  exact ⟨⟨by decide, control⟩, options⟩

/-- The lines before the default values stay lines and do not begin with a word that is apart from
those that they begin with. -/
theorem not_prefix_of_mem_front {form : FormModule} (named : IsName form.record.toList)
    {start : String} (nonempty : start ≠ "")
    (apart : ∀ word ∈ "import " :: "export function " :: hookWords, Apart start word) :
    ∀ line ∈ form.front, OneLine line ∧ ¬ start.toList <+: line.toList := by
  simp only [List.forall_mem_cons] at apart
  obtain ⟨fromImport, fromSignature, fromHook⟩ := apart
  have imported := begins_imports named
  have declared := begins_signature named
  have called := begins_hookLines named
  simp only [front, List.forall_mem_append, List.forall_mem_cons]
  refine ⟨fun line member => ?_, ⟨by decide, ?_⟩, ⟨declared.1, ?_⟩, fun line member => ?_⟩
  · have begins := imported line member
    exact ⟨begins.1, begins.not_starts (by simpa using fromImport)⟩
  · simpa using nonempty
  · exact declared.not_starts (by simpa using fromSignature)
  · have begins := called line member
    exact ⟨begins.1, begins.not_starts fromHook⟩

end FormModule

end InterfaceGen
