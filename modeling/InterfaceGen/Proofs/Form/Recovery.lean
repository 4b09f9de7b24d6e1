import InterfaceGen.Proofs.Form.Controls
import InterfaceGen.Proofs.Form.Header

/-!
# Controls recovered from forms

The text of the form of a schema reads back as the controls that it was made of, if all names of the
schema are names.
-/

namespace InterfaceGen

open Text TypeScript

/-! ## The controls of a schema -/

/-- The variable for an entry is a name. -/
theorem isName_entryVariable (depth : Nat) : IsName (entryVariable depth).toList := by
  rw [entryVariable, String.toList_append]
  exact isName_append (by decide) (isName_toString depth)

mutual

/-- The keys in the default of a shape are the names of its fields. -/
theorem Default.keyed_ofShape : ∀ shape : Shape, shape.EveryLevel Named →
    (Default.ofShape shape).Keyed
  | .string, _ | .number, _ | .boolean, _ | .unknown, _ => trivial
  | .object fields, named => keyedDefaults_entriesOf fields named.1 named.2

/-- The keys in the defaults of fields, and within them, are the names of fields. -/
theorem Default.keyedDefaults_entriesOf : ∀ fields : List Field, Named fields →
    EveryLevelBelow Named fields → KeyedDefaults (Default.entriesOf fields)
  | [], _, _ => trivial
  | ⟨name, required, repeated, shape⟩ :: rest, named, below => by
      obtain ⟨here, later⟩ := named_cons.1 named
      have item := Default.keyed_ofShape shape below.1
      refine ⟨here, ?_, keyedDefaults_entriesOf rest later below.2⟩
      cases repeated with
      | true => trivial
      | false => exact item

end

mutual

/-- The control for a field is well named if its path and the levels below it are. -/
theorem Control.wellNamed_ofShape (depth : Nat) {path : Path} (bound : path.Bound) {label : String}
    (labelled : IsName label.toList) (repeated : Bool) :
    ∀ shape : Shape, shape.EveryLevel Named →
      (Control.ofShape depth path label repeated shape).WellNamed
  | .object fields, named => by
      cases repeated with
      | false =>
          exact ⟨labelled, wellNamed_controlsOf depth bound.toNamed fields named.1 named.2⟩
      | true =>
          have entered := isName_entryVariable depth
          have under : (Path.under (entryVariable depth)).Named :=
            ⟨by simp [Path.under], by simpa [Path.under] using entered⟩
          exact ⟨bound, labelled, Default.keyed_ofShape (.object fields) named, entered,
            wellNamed_controlsOf (depth + 1) under fields named.1 named.2⟩
  | .string, _ | .number, _ | .boolean, _ | .unknown, _ => by
      cases repeated with
      | false => exact ⟨bound, labelled⟩
      | true => exact ⟨bound, labelled, by simp [Form.itemTypes, Shape.word]⟩

/-- The controls for fields are well named if the path before them and their levels are. -/
theorem wellNamed_controlsOf (depth : Nat) {parent : Path} (parentNamed : parent.Named) :
    ∀ fields : List Field, Named fields → EveryLevelBelow Named fields →
      WellNamedControls (controlsOf depth parent fields)
  | [], _, _ => trivial
  | ⟨name, _, repeated, shape⟩ :: rest, named, below => by
      obtain ⟨here, later⟩ := named_cons.1 named
      exact ⟨Control.wellNamed_ofShape depth (parentNamed.child here) here repeated shape below.1,
        wellNamed_controlsOf depth parentNamed rest later below.2⟩

end

/-! ## The form -/

namespace FormModule

/-- No line before the form is the one that it begins with. -/
theorem ne_opening_of_mem_header {form : FormModule} (named : IsName form.record.toList)
    (keyed : KeyedDefaults form.defaults) :
    ∀ line ∈ form.header, OneLine line ∧ line ≠ Form.opening := by
  have opens : "    <form".toList <+: Form.opening.toList := by decide
  have before := not_prefix_of_mem_front named (by decide : "    <form" ≠ "") (by decide)
  have defaults := begins_defaultLines keyed
  have callEnd : ∀ line ∈ callEnd, OneLine line ∧ line ≠ Form.opening := by decide
  simp only [header, List.forall_mem_append]
  refine ⟨fun line member => ?_, fun line member => ?_, callEnd⟩
  · obtain ⟨whole, passed⟩ := before line member
    exact ⟨whole, fun same => passed (same ▸ opens)⟩
  · have begins := defaults line member
    exact ⟨begins.1, fun same => begins.not_starts (by decide) (same ▸ opens)⟩

end FormModule

namespace Form

/-- A text that holds no mark of an element or of code. -/
def IsText (text : List Char) : Prop :=
  ∀ char ∈ text, isTextChar char = true

instance (text : List Char) : Decidable (IsText text) :=
  List.decidableBAll (fun char => isTextChar char = true) text

/-- Plain text is read up to the end of its element. -/
theorem reads_caption {text : List Char} (plain : IsText text) (rest : List Char) :
    Reads (caption "</button>") (text ++ ("</button>".toList ++ rest)) () rest := by
  have dropped := (run_append_stop plain (by decide : isTextChar '<' = false)
    ("/button>".toList ++ rest)).2
  have split : "</button>".toList ++ rest = '<' :: ("/button>".toList ++ rest) := by
    simp
  rw [← split] at dropped
  refine reads_taking ?_ (by simp; omega)
  rw [dropped, Option.map_eq_some_iff]
  exact ⟨rest, List.isPrefixOf?_eq_some_iff_append_eq.2 rfl, rfl⟩

/-- What a form holds: a title, its controls, and the button with its text. -/
theorem textOf_body_append (form : FormModule) (rest : List Char) :
    textOf form.body ++ rest =
      "      ".toList ++ ("<h2>".toList ++ (form.record.toList ++ ("</h2>".toList ++ (['\n'] ++
        (textOf (controlLines form.record 3 form.controls) ++ ("      ".toList ++
          ("<button type=\"submit\">".toList ++ (form.submitLabel.toList ++
            ("</button>".toList ++ (['\n'] ++ "    ".toList ++ ("</form>".toList ++
              '\n' :: rest))))))))))) := by
  unfold FormModule.body FormModule.submitLine
  simp [textOf]

/-- The title of a form is read before what stands behind it. -/
theorem reads_titled {α : Type} {next : Reader α} {record : String} (named : IsName record.toList)
    {text rest : List Char} {result : α} (read : Reads next text result rest) :
    Reads (after (token "<h2>") fun _ => after name fun _ => after (token "</h2>") fun _ => next)
      ("      ".toList ++ ("<h2>".toList ++ (record.toList ++ ("</h2>".toList ++ text)))) result
      rest := by
  have inset : IsBlanks "      ".toList := by decide
  refine reads_after (reads_token "<h2>" inset _ (by decide)) ?_
  refine reads_after (reads_name "</h2>" isBlanks_nil named _ (by decide)) ?_
  exact reads_after (reads_token_front "</h2>" _ (by decide)) read

/-- What a form holds reads back as its controls. -/
theorem reads_contents {form : FormModule} (named : IsName form.record.toList)
    (wellNamed : WellNamedControls form.controls) (plain : IsText form.submitLabel.toList)
    (rest : List Char) :
    Reads contents (textOf form.body ++ rest) form.controls ('\n' :: rest) := by
  have inset : IsBlanks "      ".toList := by decide
  have lineEnd : IsBlanks (['\n'] ++ "    ".toList) := by decide
  rw [textOf_body_append]
  refine reads_titled named ?_
  refine reads_after (reads_controlsUpTo named form.controls wellNamed
    (by decide : Closes "<button type=\"submit\">") 3 isBlanks_newline inset _) ?_
  refine reads_after (reads_caption plain _) ?_
  exact reads_closing "</form>" form.controls lineEnd ('\n' :: rest) (by decide)

/-- What stands behind the controls of a form: the text of its button, the end of the form, and what
follows. -/
def behindControls (form : FormModule) (rest : List Char) : List Char :=
  form.submitLabel.toList ++ ("</button>".toList ++ (['\n'] ++ "    ".toList ++
    ("</form>".toList ++ '\n' :: rest)))

/-- The controls of a form are read up to its button, whatever the text of the button is. -/
theorem reads_titledControls {form : FormModule} (named : IsName form.record.toList)
    (wellNamed : WellNamedControls form.controls) (rest : List Char) :
    Reads titledControls (textOf form.body ++ rest) form.controls (behindControls form rest) := by
  have inset : IsBlanks "      ".toList := by decide
  rw [textOf_body_append]
  exact reads_titled named (reads_controlsUpTo named form.controls wellNamed
    (by decide : Closes "<button type=\"submit\">") 3 isBlanks_newline inset _)

end Form

/-- The text of a form module: the lines before the form, its first line, and the lines that
follow. -/
theorem FormModule.toList_print (form : FormModule) :
    form.print.toList = textOf form.header ++
      (Form.opening.toList ++ '\n' :: (textOf form.body ++ textOf form.footer)) := by
  rw [print, lines_eq, toList_joinLines, textOf_append, textOf_cons, textOf_append]

/-- The text of a form module begins with its lines up to the default values. -/
theorem FormModule.exists_toList_print (form : FormModule) :
    ∃ rest, form.print.toList =
      textOf form.front ++ (textOf (defaultLines form.defaults) ++ rest) := by
  rw [toList_print, header, textOf_append, textOf_append]
  simp only [List.append_assoc]
  exact ⟨_, rfl⟩

/-- The text behind the line that the form begins with. -/
theorem FormModule.behindLine?_print {form : FormModule} (named : IsName form.record.toList)
    (keyed : KeyedDefaults form.defaults) :
    behindLine? Form.opening.toList form.print.toList =
      some (textOf form.body ++ textOf form.footer) := by
  rw [toList_print]
  exact behindLine?_textOf (by decide) (ne_opening_of_mem_header named keyed) _

/-- The controls of a form module read back from its text. -/
theorem FormModule.controls?_print {form : FormModule} (named : IsName form.record.toList)
    (keyed : KeyedDefaults form.defaults) (wellNamed : WellNamedControls form.controls)
    (plain : Form.IsText form.submitLabel.toList) :
    Form.controls? form.print = some form.controls := by
  have read := Form.reads_contents named wellNamed plain (textOf form.footer)
  rw [Form.controls?, behindLine?_print named keyed, Option.bind_some, read.eq]
  rfl

/-- The controls of a form module up to its button read back from its text. -/
theorem FormModule.shownControls?_print {form : FormModule} (named : IsName form.record.toList)
    (keyed : KeyedDefaults form.defaults) (wellNamed : WellNamedControls form.controls) :
    Form.shownControls? form.print = some form.controls := by
  have read := Form.reads_titledControls named wellNamed (textOf form.footer)
  rw [Form.shownControls?, behindLine?_print named keyed, Option.bind_some, read.eq]
  rfl

/-! ## The form of a schema -/

/-- The keys in the defaults of the form of a schema are names. -/
theorem Schema.keyedDefaults_toForm {schema : Schema} (config : Config)
    (levels : schema.EveryLevel Named) : KeyedDefaults (schema.toForm config).defaults :=
  Default.keyedDefaults_entriesOf schema.fields levels.1 levels.2

/-- The controls of the form of a schema are well named. -/
theorem Schema.wellNamedControls_toForm {schema : Schema} (config : Config)
    (levels : schema.EveryLevel Named) : WellNamedControls (schema.toForm config).controls :=
  have rootNamed : Path.root.Named := ⟨by simp [Path.root], by simp [Path.root]⟩
  wellNamed_controlsOf 0 rootNamed schema.fields levels.1 levels.2

/-- The controls of the form of a schema read back from its text. -/
theorem controls?_toForm (schema : Schema) (config : Config) (named : IsName schema.name.toList)
    (levels : schema.EveryLevel Named) (plain : Form.IsText config.submitLabel.toList) :
    Form.controls? (schema.toForm config).print = some (controlsOf 0 .root schema.fields) :=
  FormModule.controls?_print named
    (schema.keyedDefaults_toForm config levels) (schema.wellNamedControls_toForm config levels)
    plain

/-- The controls of the form of a schema up to its button read back from its text. -/
theorem shownControls?_toForm (schema : Schema) (config : Config)
    (named : IsName schema.name.toList) (levels : schema.EveryLevel Named) :
    Form.shownControls? (schema.toForm config).print =
      some (controlsOf 0 .root schema.fields) :=
  FormModule.shownControls?_print named
    (schema.keyedDefaults_toForm config levels) (schema.wellNamedControls_toForm config levels)

end InterfaceGen
