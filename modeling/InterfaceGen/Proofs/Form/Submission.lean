import InterfaceGen.Config.Load
import InterfaceGen.Proofs.Form.Jsx

/-!
# What the submit button shows

The label of the submit button stands in the text of a form module as it is configured. The button
shows it, and ends behind it, if and only if the label is text that is shown as it is written. Any
other label is cut short, replaced in part or read as code.
-/

namespace InterfaceGen

open Text TypeScript Jsx

/-- What the submit button of the form in the text of a form module shows, and the text behind the
button. -/
def Form.submission? (named : String → Option Char) (text : String) :
    Option (String × List Char) :=
  (behindLine? opening.toList text.toList).bind fun body =>
    (titledControls body).bind fun controls =>
      (children named "</button>" controls.rest).map fun reading =>
        (String.ofList reading.value, reading.rest)

namespace FormModule

/-- The text behind the submit button. -/
def behindButton (form : FormModule) : List Char :=
  ['\n'] ++ "    ".toList ++ ("</form>".toList ++ '\n' :: textOf form.footer)

variable {form : FormModule}

/-- The children of the button are read from the label on. -/
theorem submission?_print (isName : IsName form.record.toList)
    (keyed : KeyedDefaults form.defaults) (wellNamed : WellNamedControls form.controls)
    (named : String → Option Char) :
    Form.submission? named form.print =
      (children named "</button>" (form.submitLabel.toList ++
        ("</button>".toList ++ form.behindButton))).map fun reading =>
          (String.ofList reading.value, reading.rest) := by
  have titled := Form.reads_titledControls isName wellNamed (textOf form.footer)
  rw [Form.submission?, behindLine?_print isName keyed, Option.bind_some, titled.eq]
  rfl

/-- The button shows its label, and what stands behind it is left alone, if and only if the label is
shown as it is written. -/
theorem submission?_print_iff (isName : IsName form.record.toList)
    (keyed : KeyedDefaults form.defaults) (wellNamed : WellNamedControls form.controls)
    (named : String → Option Char) :
    Form.submission? named form.print = some (form.submitLabel, form.behindButton) ↔
      IsVerbatim named form.submitLabel.toList := by
  rw [submission?_print isName keyed wellNamed, ← @reads_children_iff named form.submitLabel.toList]
  constructor
  · intro read
    obtain ⟨⟨value, rest, shorter⟩, found, same⟩ := Option.map_eq_some_iff.1 read
    obtain ⟨shown, rfl⟩ : String.ofList value = form.submitLabel ∧ rest = form.behindButton :=
      Prod.mk.inj same
    obtain rfl : value = form.submitLabel.toList := by rw [← shown, String.toList_ofList]
    exact ⟨shorter, found⟩
  · intro read
    exact Option.map_eq_some_iff.2 ⟨_, read.eq, by simp⟩

end FormModule

/-- The submit button of a form shows the configured label, and what stands behind the button does
not depend on it, if and only if the label is text that is shown as it is written. -/
theorem submission?_toForm_iff (schema : Schema) (isName : IsName schema.name.toList)
    (levels : schema.EveryLevel Named) (named : String → Option Char) :
    ∃ behind, ∀ config : Config,
      Form.submission? named (schema.toForm config).print = some (config.submitLabel, behind) ↔
        IsVerbatim named config.submitLabel.toList :=
  ⟨(schema.toForm {}).behindButton, fun config =>
    @FormModule.submission?_print_iff (schema.toForm config) isName
      (schema.keyedDefaults_toForm config levels) (schema.wellNamedControls_toForm config levels)
      named⟩

/-- Quotes and an ampersand that begins no reference are shown as they are. -/
theorem submission?_toForm_iff_words :
    let schema : Schema := ⟨"Task", [⟨"done", true, false, .boolean⟩], ""⟩
    let named (name : String) : Option Char := if name = "amp" then some '&' else none
    IsName schema.name.toList ∧ schema.EveryLevel Named ∧
      ∃ behind,
        Form.submission? named (schema.toForm ⟨"/api", "./schema", "Save \"it\" & go"⟩).print =
          some ("Save \"it\" & go", behind) := by
  intro schema named
  have isName : IsName schema.name.toList := by decide
  have levels : schema.EveryLevel Named := by decide
  obtain ⟨behind, shows⟩ := submission?_toForm_iff schema isName levels named
  have verbatim : IsVerbatim named "Save \"it\" & go".toList := by
    refine ⟨by decide, by simp [isLineEnd], ?_⟩
    have unfinished : reference named " go".toList = none := by rfl
    simpa [Unreferring, List.suffix_cons_iff] using unfinished
  exact ⟨isName, levels, behind, (shows ⟨"/api", "./schema", "Save \"it\" & go"⟩).2 verbatim⟩

/-- A label that is written like an element is not shown, whatever names of characters there are. -/
theorem submission?_ne_of_element :
    ∃ config, Config.ofToml "submit_label = \"<b>Save</b>\"" = .ok config ∧
      config.submitLabel = "<b>Save</b>" ∧
      ∀ (named : String → Option Char) (behind : List Char),
        Form.submission? named (Schema.toForm ⟨"A", [], ""⟩ config).print ≠
          some ("<b>Save</b>", behind) := by
  refine ⟨{ submitLabel := "<b>Save</b>" }, by decide +kernel, rfl, fun named behind => ?_⟩
  have levels : (⟨"A", [], ""⟩ : Schema).EveryLevel Named := by decide
  have element (rest : List Char) :
      children named "</button>" ("<b>Save</b>".toList ++ rest) = none := by
    have split : "<b>Save</b>".toList ++ rest = '<' :: 'b' :: (">Save</b>".toList ++ rest) := by
      simp
    rw [split]
    exact children_eq_none (by simp)
  have unread : Form.submission? named (Schema.toForm ⟨"A", [], ""⟩
      { submitLabel := "<b>Save</b>" }).print = none := by
    rw [FormModule.submission?_print (by decide) (Schema.keyedDefaults_toForm _ levels)
      (Schema.wellNamedControls_toForm _ levels)]
    exact Option.map_eq_none_iff.2 (element _)
  rw [unread]
  exact nofun

end InterfaceGen
