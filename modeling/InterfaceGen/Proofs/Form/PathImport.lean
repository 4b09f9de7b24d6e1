import InterfaceGen.Proofs.Form.Closure
import InterfaceGen.Schema.OfSource

/-!
# The import of the path type

A form module imports the type of paths if and only if its schema has an array of objects. It casts
paths to the type if and only if it shows an input in an entry of such an array. Of an array whose
entries show no input the type is imported and not used.
-/

namespace InterfaceGen

open Text TypeScript

/-! ## Inputs in entries -/

mutual

/-- Whether a single value of a shape is shown by inputs. An object is if one of its fields is. -/
def Shape.showsInput : Shape → Bool
  | .object fields => anyShowsInput fields
  | .string | .number | .boolean | .unknown => true

/-- Whether one of some fields is shown by inputs. An array is not: its entries are. -/
def anyShowsInput : List Field → Bool
  | [] => false
  | ⟨_, _, repeated, shape⟩ :: rest => (!repeated && shape.showsInput) || anyShowsInput rest

end

/-- Whether a field is an array of objects that are shown by inputs. -/
def Field.entersInput (field : Field) : Bool :=
  match field.item? with
  | some (.object fields) => anyShowsInput fields
  | _ => false

mutual

/-- The control for a field is an input in an entry, or holds one, if the field is in an entry and
shown by inputs, or if there are entries within it that are. -/
theorem Control.hasCast_ofShape (depth : Nat) (path place : Path) (name : String)
    (required repeated : Bool) : ∀ shape : Shape,
      (Control.ofShape depth path name repeated shape).hasCast =
        ((path.isCast && (!repeated && shape.showsInput)) ||
          ((place, (⟨name, required, repeated, shape⟩ : Field)) :: shape.walk place).any
            (·.2.entersInput))
  | .object fields => by
      cases repeated with
      | false =>
          have nested := anyCast_controlsOf depth path place fields
          simpa [Control.ofShape, Control.hasCast, Shape.showsInput, Shape.walk, Field.entersInput,
            Field.item?] using nested
      | true =>
          have nested := anyCast_controlsOf (depth + 1) (.under (entryVariable depth)) place fields
          simpa [Control.ofShape, Control.hasCast, Shape.walk, Field.entersInput, Field.item?,
            Path.under, Path.isCast] using nested
  | .string | .number | .boolean | .unknown => by
      cases repeated <;>
        simp [Control.ofShape, Control.hasCast, Shape.showsInput, Shape.walk, Field.entersInput,
          Field.item?]

/-- The controls for fields are inputs in entries, or hold some, if the fields are in an entry and
shown by inputs, or if there are entries within them that are. -/
theorem anyCast_controlsOf (depth : Nat) (parent place : Path) : ∀ fields : List Field,
    anyCast (controlsOf depth parent fields) =
      ((parent.isCast && anyShowsInput fields) ||
        (walkFields place fields).any (·.2.entersInput))
  | [] => by simp [controlsOf, anyCast, anyShowsInput, walkFields]
  | ⟨name, required, repeated, shape⟩ :: rest => by
      have child : (parent.child name).isCast = parent.isCast := rfl
      rw [controlsOf, anyCast, walkFields, ← List.cons_append, List.any_append, anyShowsInput,
        Control.hasCast_ofShape depth (parent.child name) (place.child name) name required repeated
          shape, anyCast_controlsOf depth parent place rest, child, Bool.and_or_distrib_left]
      simp only [Bool.or_assoc, Bool.or_left_comm]

end

/-! ## Calls that cast -/

namespace Form

/-- A text holds a call that registers something cast to the type of paths of a record. -/
def HoldsCast (record : String) (text : List Char) : Prop :=
  ∃ argument, ')' ∉ argument ∧
    "register(".toList ++ (argument ++ (" as Path<" ++ record ++ ">").toList) <:+: text

theorem HoldsCast.mono {record : String} {text whole : List Char} (holds : HoldsCast record text)
    (within : text <:+: whole) : HoldsCast record whole :=
  let ⟨argument, single, found⟩ := holds
  ⟨argument, single, found.trans within⟩

/-- A text that holds no cast holds none in a call. -/
theorem HoldsCast.not_uncast {record : String} {text : List Char} (holds : HoldsCast record text) :
    ¬ Uncast text := by
  obtain ⟨argument, -, found⟩ := holds
  refine not_not_intro (List.IsInfix.trans ?_ found)
  exact ⟨"register(".toList ++ argument ++ " as".toList, record.toList ++ ['>'], by simp⟩

end Form

/-- The expression for a path closes no call. -/
theorem Path.Bound.close_not_mem_expression {path : Path} (bound : path.Bound) :
    ')' ∉ path.expression.toList := fun member =>
  absurd (bound.forall_mem_expression ')' member) (by decide)

/-- An input in an entry is registered by a call with a cast. -/
theorem holdsCast_registration (record : String) {path : Path} (bound : path.Bound)
    (cast : path.isCast = true) (kind : InputKind) :
    Form.HoldsCast record (registration record path kind).toList := by
  refine ⟨path.expression.toList, bound.close_not_mem_expression, List.IsPrefix.isInfix ?_⟩
  cases kind with
  | number => exact ⟨", \x7b valueAsNumber: true \x7d)".toList, by simp [registration, cast]⟩
  | text | checkbox => exact ⟨")".toList, by simp [registration, cast]⟩

mutual

/-- A control that is an input in an entry, or holds one, has a line with a cast. -/
theorem Control.exists_holdsCast (record : String) : ∀ (control : Control) (level : Nat),
    control.WellNamed → control.hasCast = true →
      ∃ line ∈ control.lines record level, Form.HoldsCast record line.toList
  | .input path label kind, level, ⟨bound, _⟩, cast => by
      have holds := holdsCast_registration record bound cast kind
      refine ⟨_, List.mem_cons_of_mem _ (List.mem_cons_of_mem _ List.mem_cons_self), holds.mono ?_⟩
      exact ⟨(indent level ++ "  <input id=" ++ path.attributeValue ++ " type=\"" ++ kind.word ++
        "\" \x7b...").toList, "\x7d />".toList, by simp⟩
  | .group label controls, level, ⟨_, wellNamed⟩, cast => by
      obtain ⟨line, member, holds⟩ :=
        exists_holdsCast_controlLines record controls (level + 1) wellNamed cast
      exact ⟨line, by simp [Control.lines, member], holds⟩
  | .valueArray .., _, _, cast => by cases cast
  | .objectArray path label empty entry controls, level, ⟨_, _, _, _, wellNamed⟩, cast => by
      obtain ⟨line, member, holds⟩ :=
        exists_holdsCast_controlLines record controls (level + 3) wellNamed cast
      exact ⟨line, by simp [Control.lines, member], holds⟩

/-- Controls of which one is an input in an entry, or holds one, have a line with a cast. -/
theorem exists_holdsCast_controlLines (record : String) : ∀ (controls : List Control) (level : Nat),
    WellNamedControls controls → anyCast controls = true →
      ∃ line ∈ controlLines record level controls, Form.HoldsCast record line.toList
  | [], _, _, cast => by cases cast
  | control :: rest, level, wellNamed, cast => by
      rcases Bool.or_eq_true_iff.1 cast with here | later
      · obtain ⟨line, member, holds⟩ :=
          control.exists_holdsCast record level wellNamed.1 here
        exact ⟨line, List.mem_append_left _ member, holds⟩
      · obtain ⟨line, member, holds⟩ :=
          exists_holdsCast_controlLines record rest level wellNamed.2 later
        exact ⟨line, List.mem_append_right _ member, holds⟩

end

/-! ## The text of a form -/

namespace Form

/-- The text of the form in the text of a form module, behind its first line and up to the label of
its submit button. -/
def shownText? (text : String) : Option (List Char) :=
  (behindLine? opening.toList text.toList).bind fun body =>
    (titledControls body).map fun reading => body.take (body.length - reading.rest.length)

/-- The form in the text of a form module casts to the type of paths of a record. -/
def CastsTo (record text : String) : Prop :=
  ∃ shown, shownText? text = some shown ∧ HoldsCast record shown

/-- A form module imports the type of paths from the form library. -/
def ImportsPath (text : String) : Prop :=
  ∃ line, (importsOf text).find? (·.module = "react-hook-form") = some line ∧
    .type "Path" ∈ line.bindings

end Form

namespace FormModule

variable {form : FormModule}

theorem importsPath_print_iff (named : IsName form.record.toList) :
    Form.ImportsPath form.print ↔ form.usage.objects = true := by
  have found : (importsOf form.print).find? (·.module = "react-hook-form") =
      some ⟨.named (libraryNames form.usage), "react-hook-form"⟩ := by
    rw [importsOf_print named]
    simp [imports]
  rw [Form.ImportsPath, found, ← (mem_libraryNames_iff form.usage).2.1]
  simp [Import.bindings]

/-- The text of a form up to the label of its button: its title, its controls, and the button. -/
theorem shownText?_print (named : IsName form.record.toList)
    (keyed : KeyedDefaults form.defaults) (wellNamed : WellNamedControls form.controls) :
    Form.shownText? form.print = some (textOf (("      <h2>" ++ form.record ++ "</h2>") ::
      controlLines form.record 3 form.controls) ++ "      <button type=\"submit\">".toList) := by
  have titled := Form.reads_titledControls named wellNamed (textOf form.footer)
  have split : textOf form.body ++ textOf form.footer =
      (textOf (("      <h2>" ++ form.record ++ "</h2>") ::
        controlLines form.record 3 form.controls) ++ "      <button type=\"submit\">".toList) ++
          Form.behindControls form (textOf form.footer) := by
    unfold body submitLine Form.behindControls
    simp [textOf]
  rw [split] at titled
  rw [Form.shownText?, behindLine?_print named keyed, split, Option.bind_some, titled.eq,
    Option.map_some, List.length_append, Nat.add_sub_cancel_right, List.take_left]

theorem castsTo_print_iff (named : IsName form.record.toList)
    (keyed : KeyedDefaults form.defaults) (wellNamed : WellNamedControls form.controls) :
    Form.CastsTo form.record form.print ↔ anyCast form.controls = true := by
  rw [Form.CastsTo, shownText?_print named keyed wellNamed]
  constructor
  · rintro ⟨shown, same, holds⟩
    obtain rfl := Option.some.inj same
    by_contra single
    have button : Uncast "      <button type=\"submit\">".toList :=
      uncast_of_not_mem (by decide : 'P' ∈ _) (by decide)
    refine holds.not_uncast (Uncast.textOf_append ?_ button)
    have controls := uncast_controlLines form.record form.controls 3 wellNamed
      (Bool.eq_false_iff.2 single)
    exact List.forall_mem_cons.2 ⟨uncast_title named, controls⟩
  · intro cast
    obtain ⟨line, member, holds⟩ :=
      exists_holdsCast_controlLines form.record form.controls 3 wellNamed cast
    have shown := infix_textOf
      (List.mem_cons_of_mem ("      <h2>" ++ form.record ++ "</h2>") member)
    exact ⟨_, rfl, holds.mono (shown.trans (List.prefix_append _ _).isInfix)⟩

end FormModule

/-! ## The form of a schema -/

theorem importsPath_toForm_iff (schema : Schema) (config : Config)
    (named : IsName schema.name.toList) :
    Form.ImportsPath (schema.toForm config).print ↔
      ∃ entry ∈ schema.walk, entry.2.isObjectArray = true := by
  rw [FormModule.importsPath_print_iff named]
  exact List.any_eq_true

theorem castsTo_toForm_iff (schema : Schema) (config : Config) (named : IsName schema.name.toList)
    (levels : schema.EveryLevel Named) :
    Form.CastsTo schema.name (schema.toForm config).print ↔
      ∃ entry ∈ schema.walk, entry.2.entersInput = true := by
  have casts := @FormModule.castsTo_print_iff (schema.toForm config) named
    (schema.keyedDefaults_toForm config levels) (schema.wellNamedControls_toForm config levels)
  refine casts.trans ?_
  rw [← List.any_eq_true]
  change anyCast (controlsOf 0 .root schema.fields) = true ↔ _
  rw [anyCast_controlsOf 0 .root .root schema.fields]
  rfl

/-- The form of a schema imports the type of paths if and only if there is an array of objects, and
casts to it if and only if there is one whose entries are shown by inputs. -/
theorem path_imported_and_cast (schema : Schema) (config : Config)
    (named : IsName schema.name.toList) (levels : schema.EveryLevel Named) :
    (Form.ImportsPath (schema.toForm config).print ↔
      ∃ entry ∈ schema.walk, entry.2.isObjectArray = true) ∧
    (Form.CastsTo schema.name (schema.toForm config).print ↔
      ∃ entry ∈ schema.walk, entry.2.entersInput = true) :=
  ⟨importsPath_toForm_iff schema config named, castsTo_toForm_iff schema config named levels⟩

/-- An object in an entry is shown by an input whose path is cast. -/
theorem path_imported_and_cast_nested :
    let part : Field := ⟨"part", true, false, .object [⟨"sku", true, false, .string⟩]⟩
    let schema : Schema := ⟨"Order",
      [⟨"notes", true, true, .object []⟩, ⟨"lines", true, true, .object [part]⟩], ""⟩
    IsName schema.name.toList ∧ schema.EveryLevel Named ∧
      Form.ImportsPath (schema.toForm {}).print ∧
      Form.CastsTo "Order" (schema.toForm {}).print := by
  intro part schema
  have named : IsName schema.name.toList := by decide
  have levels : schema.EveryLevel Named := by decide
  obtain ⟨imported, cast⟩ := path_imported_and_cast schema {} named levels
  exact ⟨named, levels, imported.2 (by decide), cast.2 (by decide)⟩

/-- Of an array whose entries are empty the type is imported although no path is cast. -/
theorem path_imported_without_cast :
    ∃ schema, Schema.ofSource "interface A \x7b a: \x7b\x7d[] \x7d" = .ok schema ∧
      Form.ImportsPath (schema.toForm {}).print ∧
      ¬ Form.CastsTo schema.name (schema.toForm {}).print := by
  let schema : Schema := ⟨"A", [⟨"a", true, true, .object []⟩], "a: \x7b\x7d[]"⟩
  have named : IsName schema.name.toList := by decide
  have levels : schema.EveryLevel Named := by decide
  refine ⟨schema, by decide +kernel, (importsPath_toForm_iff schema {} named).2 (by decide), ?_⟩
  rw [castsTo_toForm_iff schema {} named levels]
  decide

end InterfaceGen
