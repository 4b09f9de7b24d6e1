import InterfaceGen.Config.Basic
import InterfaceGen.Form.Element
import InterfaceGen.Form.Helper
import InterfaceGen.Form.Usage
import InterfaceGen.TypeScript.Import
import InterfaceGen.Zod.Module

/-!
# The form module

A module with one form component for a record: its imports, the component, and the helpers that the
controls of the form need.
-/

namespace InterfaceGen

open Text TypeScript

/-- The module with the form for a record. -/
structure FormModule where
  /-- The name of the record type. -/
  record : String
  /-- The module that the record type and its schema are imported from. -/
  schemaModule : String
  /-- The text of the submit button. -/
  submitLabel : String
  /-- Which kinds of array the form has to show. -/
  usage : ArrayUsage
  /-- The values that the form begins with. -/
  defaults : List (String × Default)
  controls : List Control
  deriving Repr

/-- The form module of a schema. -/
def Schema.toForm (schema : Schema) (config : Config) : FormModule where
  record := schema.name
  schemaModule := config.schemaModule
  submitLabel := config.submitLabel
  usage := schema.arrayUsage
  defaults := Default.entriesOf schema.fields
  controls := controlsOf 0 .root schema.fields

namespace FormModule

/-- The name of the form component. -/
def component (form : FormModule) : String :=
  form.record ++ "Form"

/-- The names that the form library has to provide. -/
def libraryNames (usage : ArrayUsage) : List ImportedName :=
  [.value "useForm"] ++
    (if usage.any then [.value "useFieldArray", .type "Control"] else []) ++
    [.type "FieldErrors"] ++
    (if usage.objects then [.type "Path"] else []) ++
    (if usage.values then [.type "UseFormRegister"] else [])

/-- The imports of the module. -/
def imports (form : FormModule) : List Import :=
  [⟨.default "React", "react"⟩,
    ⟨.named (libraryNames form.usage), "react-hook-form"⟩,
    ⟨.named [.value "zodResolver"], "@hookform/resolvers/zod"⟩,
    ⟨.named [.value (schemaConstant form.record), .type form.record], form.schemaModule⟩]

/-- The helpers that the module defines. -/
def helpers (form : FormModule) : List FormHelper :=
  [.errorAt] ++
    (if form.usage.any then [.arrayError] else []) ++
    (if form.usage.values then [.valueArray] else []) ++
    (if form.usage.objects then [.objectArray] else [])

/-- The names bound at the top level of the module. -/
def names (form : FormModule) : List String :=
  form.imports.flatMap (·.names) ++ [form.component] ++ form.helpers.flatMap (·.names)

/-- The lines that give the default values. -/
def defaultLines : List (String × Default) → List String
  | [] => ["    defaultValues: \x7b\x7d,"]
  | entries =>
    ["    defaultValues: \x7b"] ++
      entries.map (fun (name, value) => "      " ++ objectKey name ++ ": " ++ value.print ++ ",") ++
      ["    \x7d,"]

/-- The line of the submit button. -/
def submitLine (form : FormModule) : String :=
  "      <button type=\"submit\">" ++ form.submitLabel ++ "</button>"

/-- The lines of the form component. -/
def componentLines (form : FormModule) : List String :=
  ["export function " ++ form.component ++ "(\x7b onSubmit \x7d: \x7b onSubmit: (data: " ++
      form.record ++ ") => void \x7d) \x7b",
    "  const \x7b",
    "    register,"] ++
    (if form.usage.any then ["    control,"] else []) ++
    ["    handleSubmit,",
    "    formState: \x7b errors \x7d,",
    "  \x7d = useForm<" ++ form.record ++ ">(\x7b",
    "    resolver: zodResolver(" ++ schemaConstant form.record ++ "),"] ++
    defaultLines form.defaults ++
    ["  \x7d);",
    "",
    "  return (",
    "    <form onSubmit=\x7bhandleSubmit(onSubmit)\x7d>",
    "      <h2>" ++ form.record ++ "</h2>"] ++
    controlLines form.record 3 form.controls ++
    [form.submitLine,
    "    </form>",
    "  );",
    "\x7d"]

/-- The lines of the module. -/
def lines (form : FormModule) : List String :=
  form.imports.map (·.text) ++ [""] ++ form.componentLines ++
    form.helpers.flatMap (fun helper => "" :: helper.lines) ++ [""]

/-- The text of the module. -/
def print (form : FormModule) : String :=
  joinLines form.lines

end FormModule

end InterfaceGen
