import InterfaceGen.Proofs.Form.Closure

/-!
# Names of form modules

The names bound at the top level of a form module. Those that its record gives it are kept apart from
one another by their endings, but nothing keeps the record from being called as something else that
the module binds.
-/

namespace InterfaceGen

open Text TypeScript

/-- The names bound at the top level in the text of a form module: those that it imports, and those
that it defines. -/
def Form.topLevelNames (text : String) : List String :=
  (importsOf text).flatMap (·.names) ++ definitions (surroundings text)

namespace FormModule

/-- The names bound at the top level read back from the text of a form module. -/
theorem topLevelNames_print {form : FormModule} (named : IsName form.record.toList)
    (keyed : KeyedDefaults form.defaults) : Form.topLevelNames form.print = form.names := by
  rw [Form.topLevelNames, importsOf_print named, definitions_print named keyed, names,
    List.append_assoc, List.singleton_append]

/-- The names that a form module binds whatever its record is called. -/
def fixedNames (usage : ArrayUsage) : List String :=
  ["React", "useForm", "FieldErrors", "zodResolver", "errorAt"] ++
    (if usage.any then ["useFieldArray", "Control", "arrayError"] else []) ++
    (if usage.values then ["UseFormRegister", "PrimitiveArrayFieldProps", "PrimitiveArrayField"]
      else []) ++
    (if usage.objects then ["Path", "ObjectArrayFieldProps", "ObjectArrayField"] else [])

/-- A form module binds three names that its record gives it, and the fixed ones. -/
theorem names_perm (form : FormModule) :
    form.names.Perm (schemaConstant form.record :: form.record :: form.component ::
      fixedNames form.usage) := by
  have fixed : ∀ usage : ArrayUsage,
      ((["React"] ++ (libraryNames usage).map (·.name) ++ ["zodResolver"]) ++
        ([.errorAt] ++ (if usage.any then [.arrayError] else []) ++
          (if usage.values then [.valueArray] else []) ++
          (if usage.objects then [.objectArray] else []) : List FormHelper).flatMap
            (·.names)).Perm (fixedNames usage) := by
    rintro ⟨values, objects⟩
    cases values <;> cases objects <;> decide
  have split : form.names = (["React"] ++ (libraryNames form.usage).map (·.name) ++
      ["zodResolver"]) ++ ([schemaConstant form.record, form.record, form.component] ++
        form.helpers.flatMap (·.names)) := by
    simp [names, imports, Import.names, ImportedName.name]
  rw [split]
  exact (List.perm_append_comm_assoc _ _ _).trans ((fixed form.usage).append_left _)

/-- How the fixed names end. -/
theorem fixedNames_endings (usage : ArrayUsage) :
    (fixedNames usage).Nodup ∧ ∀ name ∈ fixedNames usage,
      ¬ "Schema".toList <:+ name.toList ∧ ("Form".toList <:+ name.toList → name = "useForm") := by
  obtain ⟨values, objects⟩ := usage
  cases values <;> cases objects <;> decide

/-- The name of the component is a fixed one for one name of the record alone. -/
theorem component_mem_fixedNames_iff (form : FormModule) :
    form.component ∈ fixedNames form.usage ↔ form.record = "use" := by
  constructor
  · intro member
    have same := ((fixedNames_endings form.usage).2 _ member).2 (suffix_append form.record "Form")
    exact (String.append_left_inj _).1 (same : form.record ++ "Form" = "use" ++ "Form")
  · intro same
    have hook : form.component = "useForm" := by rw [component, same]; rfl
    rw [hook]
    simp [fixedNames]

/-- The names of a form module are distinct if and only if its record is not called as something else
that the module binds, and is not called so that its component is. -/
theorem nodup_names_iff (form : FormModule) :
    form.names.Nodup ↔ form.record ∉ fixedNames form.usage ∧ form.record ≠ "use" := by
  obtain ⟨fixed, endings⟩ := fixedNames_endings form.usage
  have constantFixed : schemaConstant form.record ∉ fixedNames form.usage := fun member =>
    (endings _ member).1 (suffix_append form.record "Schema")
  have longer {word : String} (visible : word ≠ "") : form.record ++ word ≠ form.record := by
    simpa using visible
  have constantRecord : schemaConstant form.record ≠ form.record := longer (by decide)
  have componentRecord : form.component ≠ form.record := longer (by decide)
  have constantComponent : schemaConstant form.record ≠ form.component := by
    intro same
    have word := (String.append_right_inj _).1
      (same : form.record ++ "Schema" = form.record ++ "Form")
    exact absurd word (by decide)
  rw [form.names_perm.nodup_iff]
  simp only [List.nodup_cons, List.mem_cons, not_or, constantRecord, constantComponent,
    constantFixed, componentRecord.symm, fixed, component_mem_fixedNames_iff]
  simp

end FormModule

/-! ## The form of a schema -/

/-- The names that the form of a schema binds at its top level are distinct if and only if the schema
is not called as something else that the form binds for its fields, and not `use`. The names read
back from the text if all names of the schema are names. -/
theorem nodup_names_toForm_iff (schema : Schema) (config : Config) :
    ((schema.toForm config).names.Nodup ↔
      schema.name ∉ FormModule.fixedNames schema.arrayUsage ∧ schema.name ≠ "use") ∧
    (IsName schema.name.toList → schema.EveryLevel Named →
      Form.topLevelNames (schema.toForm config).print = (schema.toForm config).names) :=
  ⟨FormModule.nodup_names_iff (schema.toForm config), fun named levels =>
    FormModule.topLevelNames_print named (schema.keyedDefaults_toForm config levels)⟩

/-- The names in the form of a record with arrays of both kinds. -/
theorem nodup_names_toForm_order :
    let schema : Schema := ⟨"Order",
      [⟨"tags", true, true, .string⟩,
        ⟨"lines", true, true, .object [⟨"price", true, false, .number⟩]⟩], ""⟩
    IsName schema.name.toList ∧ schema.EveryLevel Named ∧ (schema.toForm {}).names.Nodup ∧
      Form.topLevelNames (schema.toForm {}).print = (schema.toForm {}).names := by
  intro schema
  have named : IsName schema.name.toList := by decide
  have levels : schema.EveryLevel Named := by decide
  obtain ⟨distinct, read⟩ := nodup_names_toForm_iff schema {}
  exact ⟨named, levels, distinct.2 (by decide), read named levels⟩

/-- The form of a record with an array of objects, called as the type that paths are cast to, binds
this name twice. -/
theorem toForm_names_clash :
    let schema : Schema :=
      ⟨"Path", [⟨"points", true, true, .object [⟨"x", true, false, .number⟩]⟩],
        "points: \x7b x: number \x7d[]"⟩
    IsName schema.name.toList ∧ schema.EveryLevel Named ∧
      ¬ (Form.topLevelNames (schema.toForm {}).print).Nodup := by
  intro schema
  have named : IsName schema.name.toList := by decide
  have levels : schema.EveryLevel Named := by decide
  have read : Form.topLevelNames (schema.toForm {}).print = (schema.toForm {}).names :=
    FormModule.topLevelNames_print named (schema.keyedDefaults_toForm {} levels)
  rw [read]
  exact ⟨named, levels, by decide⟩

end InterfaceGen
