import InterfaceGen.Client.Module
import InterfaceGen.Proofs.Form.Outline

/-!
# Closure of forms

What a form shows decides what its module defines and imports: the components of arrays and what they
need in turn are there if and only if the form shows arrays of the kind, at whatever depth. What the
modules of a schema import from its schema module is exported there.
-/

namespace InterfaceGen

open Text TypeScript

/-! ## What the text of a module shows -/

/-- The names that the imports of a module bind. -/
def importedNames (text : String) : List ImportedName :=
  (importsOf text).flatMap (·.bindings)

/-- The names that the text of a schema module exports. -/
def exports? (text : String) : Option (List String) :=
  (SchemaModule.read? text.toList).map (·.exports)

mutual

/-- The components of arrays that a control is made of, in order of appearance. -/
def Control.elements : Control → List String
  | .input .. => []
  | .group _ controls => elementsOf controls
  | .valueArray .. => ["PrimitiveArrayField"]
  | .objectArray _ _ _ _ controls => "ObjectArrayField" :: elementsOf controls

/-- The components of arrays that controls are made of, in order of appearance. -/
def elementsOf : List Control → List String
  | [] => []
  | control :: rest => control.elements ++ elementsOf rest

end

namespace Form

/-- The components of arrays that the form in the text of a form module is made of. -/
def elements? (text : String) : Option (List String) :=
  (shownControls? text).map elementsOf

/-- A path is cast to the type `Path` in the text of a form module, from its form on. -/
def Casts (text : String) : Prop :=
  ∃ behind, behindLine? opening.toList text.toList = some behind ∧
    " as Path<".toList <:+: behind

/-- The names of the components, of the hook and of the types that a form may need for arrays. -/
def arrayNames : List String :=
  ["PrimitiveArrayField", "ObjectArrayField", "useFieldArray", "Control", "Path",
    "UseFormRegister"]

/-- A text that holds none of these names. -/
def Foreign (text : String) : Prop :=
  ∀ name ∈ arrayNames, ¬ name.toList <:+: text.toList

theorem Foreign.ne {text name : String} (foreign : Foreign text) (known : name ∈ arrayNames) :
    text ≠ name := by
  rintro rfl
  exact foreign text known (List.infix_refl _)

/-- A form module that is closed over what its form needs for arrays, given the components of arrays
that the form is made of. -/
structure Closed (text : String) (elements : List String) : Prop where
  valueArray_defined : (definitions (surroundings text)).count "PrimitiveArrayField" =
    if "PrimitiveArrayField" ∈ elements then 1 else 0
  register_imported : .type "UseFormRegister" ∈ importedNames text ↔
    "PrimitiveArrayField" ∈ elements
  objectArray_defined : (definitions (surroundings text)).count "ObjectArrayField" =
    if "ObjectArrayField" ∈ elements then 1 else 0
  hook_imported : .value "useFieldArray" ∈ importedNames text ↔
    "PrimitiveArrayField" ∈ elements ∨ "ObjectArrayField" ∈ elements
  control_imported : .type "Control" ∈ importedNames text ↔
    "PrimitiveArrayField" ∈ elements ∨ "ObjectArrayField" ∈ elements
  control_taken : "control" ∈ taken text ↔
    "PrimitiveArrayField" ∈ elements ∨ "ObjectArrayField" ∈ elements
  arrayError_defined : (definitions (surroundings text)).count "arrayError" =
    if "PrimitiveArrayField" ∈ elements ∨ "ObjectArrayField" ∈ elements then 1 else 0
  path_imported : Casts text → .type "Path" ∈ importedNames text

end Form

/-! ## Elements of a form -/

/-- The component that a field is shown by, if it is an array. -/
def Field.element? (field : Field) : Option String :=
  if field.isObjectArray then some "ObjectArrayField"
  else if field.isValueArray then some "PrimitiveArrayField"
  else none

/-- The components that fields are shown by, given the fields with their places. -/
def arrayElements (fields : List (Path × Field)) : List String :=
  fields.filterMap (·.2.element?)

theorem arrayElements_append (left right : List (Path × Field)) :
    arrayElements (left ++ right) = arrayElements left ++ arrayElements right :=
  List.filterMap_append

mutual

/-- The control for a field is made of the components for the field and those nested in it. -/
theorem Control.elements_ofShape (depth : Nat) (path place : Path) (name : String)
    (required repeated : Bool) : ∀ shape : Shape,
      (Control.ofShape depth path name repeated shape).elements =
        arrayElements ((place, ⟨name, required, repeated, shape⟩) :: shape.walk place)
  | .object fields => by
      cases repeated with
      | false =>
          have nested := elementsOf_controlsOf depth path place fields
          simpa [Control.ofShape, Control.elements, arrayElements, Field.element?, Shape.walk,
            Field.isObjectArray, Field.isValueArray, Field.item?] using nested
      | true =>
          have nested := elementsOf_controlsOf (depth + 1) (.under (entryVariable depth)) place
            fields
          simp [Control.ofShape, Control.elements, nested, arrayElements, Field.element?,
            Shape.walk, Field.isObjectArray, Field.item?]
  | .string | .number | .boolean | .unknown => by
      cases repeated <;> rfl

/-- The controls for fields are made of the components for the fields and those nested in them. -/
theorem elementsOf_controlsOf (depth : Nat) (parent place : Path) : ∀ fields : List Field,
    elementsOf (controlsOf depth parent fields) = arrayElements (walkFields place fields)
  | [] => rfl
  | ⟨name, required, repeated, shape⟩ :: rest => by
      rw [controlsOf, elementsOf, walkFields, ← List.cons_append, arrayElements_append,
        Control.elements_ofShape depth (parent.child name) (place.child name) name required
          repeated shape, elementsOf_controlsOf depth parent place rest]

end

theorem Field.element?_eq_objectArray_iff {field : Field} :
    field.element? = some "ObjectArrayField" ↔ field.isObjectArray = true := by
  unfold element?
  split <;> simp_all

theorem Field.element?_eq_valueArray_iff {field : Field} :
    field.element? = some "PrimitiveArrayField" ↔ field.isValueArray = true := by
  obtain ⟨name, required, repeated, shape⟩ := field
  cases repeated <;> cases shape <;>
    simp [element?, isObjectArray, isValueArray, item?]

/-- The form of a schema shows arrays of single values if and only if the schema has some. -/
theorem valueArray_mem_iff (schema : Schema) :
    "PrimitiveArrayField" ∈ arrayElements schema.walk ↔ schema.arrayUsage.values = true := by
  simp only [arrayElements, List.mem_filterMap, Field.element?_eq_valueArray_iff,
    Schema.arrayUsage, List.any_eq_true]

/-- The form of a schema shows arrays of objects if and only if the schema has some. -/
theorem objectArray_mem_iff (schema : Schema) :
    "ObjectArrayField" ∈ arrayElements schema.walk ↔ schema.arrayUsage.objects = true := by
  simp only [arrayElements, List.mem_filterMap, Field.element?_eq_objectArray_iff,
    Schema.arrayUsage, List.any_eq_true]

/-! ## Names of a form module -/

namespace FormModule

/-- The imports of libraries. -/
def libraryImports (form : FormModule) : List Import :=
  [⟨.default "React", "react"⟩, ⟨.named (libraryNames form.usage), "react-hook-form"⟩,
    ⟨.named [.value "zodResolver"], "@hookform/resolvers/zod"⟩]

/-- The import of the schema and the record type. -/
def recordImport (form : FormModule) : Import :=
  ⟨.named [.value (schemaConstant form.record), .type form.record], form.schemaModule⟩

theorem imports_eq (form : FormModule) : form.imports = form.libraryImports ++ [form.recordImport] :=
  rfl

theorem importedNames_print {form : FormModule} (named : IsName form.record.toList) :
    importedNames form.print = .value "React" :: (libraryNames form.usage ++
      [.value "zodResolver", .value (schemaConstant form.record), .type form.record]) := by
  rw [importedNames, importsOf_print named]
  rfl

/-- A name that the form library provides is imported if and only if it is among those that the
usage of arrays asks for. -/
theorem mem_importedNames_iff {form : FormModule} (named : IsName form.record.toList)
    {name : ImportedName}
    (other : name ∉ [.value "React", .value "zodResolver", .value (schemaConstant form.record),
      .type form.record]) :
    name ∈ importedNames form.print ↔ name ∈ libraryNames form.usage := by
  simp only [List.mem_cons, List.not_mem_nil, or_false, not_or] at other
  simp [importedNames_print named, other]

/-- How often a name is defined by the blocks of a form module is how often it is defined at all, if
it is not that of the component. -/
theorem count_definitions {form : FormModule} (named : IsName form.record.toList)
    (keyed : KeyedDefaults form.defaults) {name : String}
    (other : ¬ "Form".toList <:+ name.toList) :
    (definitions (Form.surroundings form.print)).count name =
      (form.helpers.flatMap (·.names)).count name := by
  have different : form.component ≠ name := append_ne other
  rw [definitions_print named keyed, List.count_cons_of_ne different]

/-- What the usage of arrays makes a form module import from the form library. -/
theorem mem_libraryNames_iff (usage : ArrayUsage) :
    (.type "UseFormRegister" ∈ libraryNames usage ↔ usage.values = true) ∧
    (.type "Path" ∈ libraryNames usage ↔ usage.objects = true) ∧
    (.value "useFieldArray" ∈ libraryNames usage ↔ usage.any = true) ∧
    (.type "Control" ∈ libraryNames usage ↔ usage.any = true) := by
  obtain ⟨values, objects⟩ := usage
  cases values <;> cases objects <;> decide

/-- What the usage of arrays makes a form module define. -/
theorem count_helpers (form : FormModule) :
    (form.helpers.flatMap (·.names)).count "PrimitiveArrayField" =
      (if form.usage.values = true then 1 else 0) ∧
    (form.helpers.flatMap (·.names)).count "ObjectArrayField" =
      (if form.usage.objects = true then 1 else 0) ∧
    (form.helpers.flatMap (·.names)).count "arrayError" =
      (if form.usage.any = true then 1 else 0) := by
  rw [helpers]
  obtain ⟨values, objects⟩ := form.usage
  cases values <;> cases objects <;> decide

/-! ## Casts in a form module -/

/-- The line of a button holds no cast if its text does not name the type. -/
theorem uncast_submitLine {form : FormModule}
    (foreign : ¬ "Path".toList <:+: form.submitLabel.toList) :
    Uncast form.submitLine.toList := by
  have label : Uncast (form.submitLabel.toList ++ '<' :: "/button>".toList) := by
    intro within
    have part : "Path".toList <:+: [' ', 'P', 'a', 't', 'h', '<'] := ⟨[' '], ['<'], by simp⟩
    rcases infix_append_cons (by decide) (part.trans within) with inLabel | behind
    · exact foreign inLabel
    · have letter : 'P' ∈ "Path".toList := by decide
      exact absurd (behind.subset letter) (by decide)
  unfold submitLine
  simpa [uncast_cons, uncast_space_cons] using label

theorem uncast_title {form : FormModule} (named : IsName form.record.toList) :
    Uncast ("      <h2>" ++ form.record ++ "</h2>").toList := by
  simp [uncast_cons, uncast_space_cons, uncast_append (space_not_mem_of_isName named), uncast_nil]

/-- No path is cast in the text of a form module of which all controls are rooted. -/
theorem not_casts_print {form : FormModule} (named : IsName form.record.toList)
    (keyed : KeyedDefaults form.defaults) (wellNamed : WellNamedControls form.controls)
    (rooted : RootedControls form.controls)
    (foreign : ¬ "Path".toList <:+: form.submitLabel.toList) : ¬ Form.Casts form.print := by
  have ended : Uncast "    </form>".toList := by
    simp [uncast_cons, uncast_space_cons, uncast_nil]
  have body : ∀ line ∈ form.body, Uncast line.toList := by
    simp only [body, List.forall_mem_cons, List.forall_mem_append]
    have controls := uncast_controlLines form.record form.controls 3 wellNamed
      (anyCast_of_rooted _ rooted)
    exact ⟨uncast_title named, controls, uncast_submitLine foreign, ended, List.forall_mem_nil _⟩
  have footer : Uncast (textOf form.footer ++ []) :=
    Uncast.textOf_append (fun line member => (form.defines_footer.1 line member).uncast) uncast_nil
  rintro ⟨behind, found, within⟩
  rw [behindLine?_print named keyed, Option.some.injEq] at found
  have whole := Uncast.textOf_append body footer
  have cast : [' ', 'P', 'a', 't', 'h', '<'] <:+: " as Path<".toList :=
    ⟨[' ', 'a', 's'], [], by simp⟩
  rw [List.append_nil, found] at whole
  exact whole (cast.trans within)

/-! ## Closure -/

/-- A form module is closed over what its form needs for arrays if its usage of arrays is that of
its controls. -/
theorem closed_print {form : FormModule} (named : IsName form.record.toList)
    (keyed : KeyedDefaults form.defaults) (wellNamed : WellNamedControls form.controls)
    (foreign : Form.Foreign form.record) (foreignLabel : Form.Foreign form.submitLabel)
    {elements : List String}
    (values : "PrimitiveArrayField" ∈ elements ↔ form.usage.values = true)
    (objects : "ObjectArrayField" ∈ elements ↔ form.usage.objects = true)
    (rooted : form.usage.objects = false → RootedControls form.controls) :
    Form.Closed form.print elements := by
  have shown : "PrimitiveArrayField" ∈ elements ∨ "ObjectArrayField" ∈ elements ↔
      form.usage.any = true := by
    rw [values, objects, ArrayUsage.any, Bool.or_eq_true]
  obtain ⟨register, path, hook, control⟩ := mem_libraryNames_iff form.usage
  obtain ⟨valueArray, objectArray, arrayError⟩ := form.count_helpers
  have typed {name : String} (known : name ∈ Form.arrayNames) :
      .type name ∈ importedNames form.print ↔ .type name ∈ libraryNames form.usage :=
    mem_importedNames_iff named (by simpa using (foreign.ne known).symm)
  have hookImported : .value "useFieldArray" ∈ importedNames form.print ↔
      .value "useFieldArray" ∈ libraryNames form.usage := by
    have constant : schemaConstant form.record ≠ "useFieldArray" := append_ne (by decide)
    exact mem_importedNames_iff named (by simpa using constant.symm)
  constructor
  case valueArray_defined =>
    rw [count_definitions named keyed (by decide), valueArray]
    simp only [values]
  case objectArray_defined =>
    rw [count_definitions named keyed (by decide), objectArray]
    simp only [objects]
  case arrayError_defined =>
    rw [count_definitions named keyed (by decide), arrayError]
    simp only [shown]
  case register_imported => rw [typed (by decide), register, values]
  case control_imported => rw [typed (by decide), control, shown]
  case hook_imported => rw [hookImported, hook, shown]
  case control_taken =>
    rw [taken_print named keyed, shown]
    cases form.usage.any <;> decide
  case path_imported =>
    intro casts
    rw [typed (by decide), path]
    by_contra single
    have noEntries := rooted (Bool.eq_false_iff.2 single)
    have foreignPath := foreignLabel "Path" (by decide)
    exact not_casts_print named keyed wellNamed noEntries foreignPath casts

end FormModule

/-! ## Imports of the schema module -/

/-- An import from a module that exports every name it asks for. -/
def TypeScript.Import.IsProvided (line : Import) (source : String) (exports : List String) : Prop :=
  line.module = source ∧ ∀ name ∈ line.names, name ∈ exports

/-- The names that the text of the schema module of a schema exports. -/
theorem exports?_toModule (schema : Schema) (named : IsName schema.name.toList)
    (levels : schema.EveryLevel Named) :
    exports? schema.toModule.print = some [schemaConstant schema.name, schema.name] := by
  rw [exports?, schema.read?_toModule named levels]
  rfl

namespace ClientModule

/-- The remark that a client module begins with. -/
def remark (client : ClientModule) : String :=
  "// REST helpers for " ++ client.record ++ "."

theorem lines_eq (client : ClientModule) :
    client.lines = [client.remark, "", client.recordImport.text, "", client.baseLine] ++
      "" :: client.operations.flatMap (·.lines) :=
  rfl

theorem begins_remark {client : ClientModule} (named : IsName client.record.toList) :
    Begins ["// REST helpers for "] client.remark := by
  have restWhole : OneLine (client.record ++ ".") :=
    oneLine_append.2 ⟨oneLine_of_isName named, by decide⟩
  have begins : Begins ["// REST helpers for "] ("// REST helpers for " ++ (client.record ++ ".")) :=
    begins_append List.mem_cons_self (by decide) restWhole
  unfold remark
  simpa only [String.append_assoc] using begins

theorem begins_baseLine (client : ClientModule) : Begins ["const BASE = "] client.baseLine := by
  have restWhole : OneLine (quote client.base ++ ";") :=
    oneLine_append.2 ⟨Json.oneLine_quote client.base, by decide⟩
  have begins : Begins ["const BASE = "] ("const BASE = " ++ (quote client.base ++ ";")) :=
    begins_append List.mem_cons_self (by decide) restWhole
  unfold baseLine
  simpa only [String.append_assoc] using begins

/-- The functions of a client stand behind the line that holds the address. -/
theorem toList_print (client : ClientModule) : client.print.toList =
    textOf [client.remark, "", client.recordImport.text, ""] ++ (client.baseLine.toList ++
      '\n' :: (joinLines ("" :: client.operations.flatMap (·.lines))).toList) := by
  rw [print, lines_eq, toList_joinLines_append]
  simp [textOf]

theorem begins_recordImport {client : ClientModule} (named : IsName client.record.toList) :
    Begins ["import "] client.recordImport.text :=
  begins_import (by simpa [recordImport, Import.names] using oneLine_of_isName named)

/-- The text of a client module begins with the import of the record type alone. -/
theorem importsOf_print {client : ClientModule} (named : IsName client.record.toList) :
    importsOf client.print = [client.recordImport] := by
  have leads {word line : String} (begins : Begins [word] line) (nonempty : word.toList ≠ [])
      (leading : isLeading word.toList = true) : OneLine line ∧ isLeading line.toList = true := by
    obtain ⟨whole, front, known, begins⟩ := begins
    obtain rfl := List.mem_singleton.1 known
    exact ⟨whole, isLeading_of_start nonempty leading begins⟩
  have leading : ∀ line ∈ [client.remark, "", client.recordImport.text, ""],
      OneLine line ∧ isLeading line.toList = true := by
    simp only [List.forall_mem_cons]
    exact ⟨leads (begins_remark named) (by decide) (by decide), by decide,
      leads (begins_recordImport named) (by decide) (by decide), by decide, List.forall_mem_nil _⟩
  obtain ⟨whole, front, known, based⟩ := client.begins_baseLine
  obtain rfl := List.mem_singleton.1 known
  have ended : isLeading client.baseLine.toList = false :=
    isLeading_eq_false (by decide) (by decide) based
  have unread : Import.read? client.remark.toList = none := by
    obtain ⟨_, word, known, remarks⟩ := begins_remark named
    obtain rfl := List.mem_singleton.1 known
    exact Import.read?_eq_none (by decide) (by decide) remarks
  have read : Import.read? client.recordImport.text.toList = some client.recordImport :=
    Import.read?_text ⟨List.cons_ne_nil _ _, by simpa using named⟩
  have blank : Import.read? "".toList = none := by decide
  rw [importsOf_eq client.toList_print leading whole ended]
  simp only [List.map_cons, List.map_nil, List.filterMap_cons_none unread,
    List.filterMap_cons_none blank, List.filterMap_cons_some read, List.filterMap_nil]

end ClientModule

/-! ## The modules of a schema -/

/-- The form of a schema is closed over what it shows, and what the form and the client of the
schema import from the schema module is exported there. -/
theorem toForm_closed (schema : Schema) (config : Config) (named : IsName schema.name.toList)
    (levels : schema.EveryLevel Named) (foreign : Form.Foreign schema.name)
    (foreignLabel : Form.Foreign config.submitLabel) :
    (∃ elements, Form.elements? (schema.toForm config).print = some elements ∧
      Form.Closed (schema.toForm config).print elements) ∧
    ∃ exports, exports? schema.toModule.print = some exports ∧
      (∃ library own, importsOf (schema.toForm config).print = library ++ [own] ∧
        library.map (·.module) = ["react", "react-hook-form", "@hookform/resolvers/zod"] ∧
        own.IsProvided config.schemaModule exports) ∧
      ∃ own, importsOf (schema.toClient config).print = [own] ∧
        own.IsProvided config.schemaModule exports := by
  have keyed := schema.keyedDefaults_toForm config levels
  have wellNamed := schema.wellNamedControls_toForm config levels
  have elements : Form.elements? (schema.toForm config).print =
      some (arrayElements schema.walk) := by
    rw [Form.elements?, shownControls?_toForm schema config named levels, Option.map_some,
      elementsOf_controlsOf 0 .root .root schema.fields]
    rfl
  have rooted : (schema.toForm config).usage.objects = false →
      RootedControls (schema.toForm config).controls := by
    intro single
    refine rooted_controlsOf 0 rfl .root schema.fields fun entry member => ?_
    simpa using List.any_eq_false.1 single entry member
  have closed := FormModule.closed_print named keyed wellNamed foreign foreignLabel
    (valueArray_mem_iff schema) (objectArray_mem_iff schema) rooted
  refine ⟨⟨_, elements, closed⟩, _, exports?_toModule schema named levels,
    ⟨(schema.toForm config).libraryImports, (schema.toForm config).recordImport,
      (FormModule.importsOf_print named).trans (FormModule.imports_eq _), rfl, rfl, ?_⟩,
    _, ClientModule.importsOf_print named, rfl, ?_⟩
  · simp [FormModule.recordImport, Import.names, ImportedName.name, Schema.toForm]
  · simp [ClientModule.recordImport, Import.names, Schema.toClient]

/-- The modules of a record with an array of single values in an object in an entry. -/
theorem toForm_closed_nested :
    let schema : Schema := ⟨"Order",
      [⟨"note", false, false, .unknown⟩,
        ⟨"lines", true, true, .object
          [⟨"part", true, false, .object [⟨"tags", true, true, .string⟩]⟩]⟩], ""⟩
    let config : Config := ⟨"/api", "./schema", "Place the order"⟩
    IsName schema.name.toList ∧ schema.EveryLevel Named ∧ Form.Foreign schema.name ∧
      Form.Foreign config.submitLabel ∧
      (∃ elements, Form.elements? (schema.toForm config).print = some elements ∧
        Form.Closed (schema.toForm config).print elements) ∧
      ∃ exports, exports? schema.toModule.print = some exports ∧
        (∃ library own, importsOf (schema.toForm config).print = library ++ [own] ∧
          library.map (·.module) = ["react", "react-hook-form", "@hookform/resolvers/zod"] ∧
          own.IsProvided "./schema" exports) ∧
        ∃ own, importsOf (schema.toClient config).print = [own] ∧
          own.IsProvided "./schema" exports := by
  intro schema config
  have named : IsName schema.name.toList := by decide
  have levels : schema.EveryLevel Named := by decide
  have foreign : Form.Foreign schema.name := by
    simp [schema, Form.Foreign, Form.arrayNames, List.infix_cons_iff]
  have foreignLabel : Form.Foreign config.submitLabel := by
    simp [config, Form.Foreign, Form.arrayNames, List.infix_cons_iff]
  exact ⟨named, levels, foreign, foreignLabel,
    toForm_closed schema config named levels foreign foreignLabel⟩

end InterfaceGen
