import InterfaceGen.Proofs.Form.Closure

/-!
# Configured text in literals

The module of the record type and the prefix of addresses may be any text. In the modules that are
generated they stand inside literals that read back as they are meant to. Every line of a client
but the two that hold these literals is the same whatever is configured.
-/

namespace InterfaceGen

open Text TypeScript

/-! ## Literals -/

/-- A literal on one line. Read from its opening quote, it ends where it is closed, and stands for a
text. -/
structure TypeScript.IsLiteral (literal text : String) : Prop where
  oneLine : OneLine literal
  reads : ∃ behind, literal.toList = '"' :: behind ∧
    Json.readQuoted? behind = some (text.toList, [])

/-- Every text has a literal. -/
theorem TypeScript.isLiteral_quote (text : String) : IsLiteral (quote text) text where
  oneLine := Json.oneLine_quote text
  reads := ⟨_, Json.toList_quote text, Json.readQuoted?_flatMap_append text.toList []⟩

/-! ## Prefixes of addresses -/

/-- A text is another one without the slashes at its end. -/
structure DropsSlashes (text kept : String) : Prop where
  dropped : ∃ count, text.toList = kept.toList ++ List.replicate count '/'
  ends : kept.toList.getLast? ≠ some '/'

theorem Config.toList_apiBase (config : Config) :
    config.apiBase.toList = config.apiPrefix.toList.rdropWhile (· == '/') :=
  String.toList_ofList

theorem Config.dropsSlashes_apiBase (config : Config) :
    DropsSlashes config.apiPrefix config.apiBase where
  dropped := by
    have slashes : config.apiPrefix.toList.rtakeWhile (· == '/') = List.replicate _ '/' :=
      List.eq_replicate_of_mem fun char member => by simpa using List.mem_rtakeWhile_imp member
    refine ⟨(config.apiPrefix.toList.rtakeWhile (· == '/')).length, ?_⟩
    rw [config.toList_apiBase, ← slashes, List.rdropWhile_append_rtakeWhile]
  ends := by
    rw [config.toList_apiBase]
    intro last
    obtain ⟨front, same⟩ := List.getLast?_eq_some_iff.1 last
    have visible := List.rdropWhile_last_not (· == '/') config.apiPrefix.toList (by simp [same])
    simp [same] at visible

/-! ## Modules of a schema -/

theorem ClientModule.text_recordImport (client : ClientModule) : client.recordImport.text =
    "import type \x7b " ++ client.record ++ " \x7d from " ++ quote client.schemaModule ++ ";" := by
  apply String.toList_inj.1
  simp [recordImport, Import.text, join]

theorem FormModule.text_recordImport (form : FormModule) : form.recordImport.text =
    "import \x7b " ++ schemaConstant form.record ++ ", type " ++ form.record ++ " \x7d from " ++
      quote form.schemaModule ++ ";" := by
  apply String.toList_inj.1
  simp [recordImport, Import.text, ImportedName.text, join]

/-- The lines of a client module. Those behind the address are the same for any client of the
record. -/
theorem ClientModule.linesOf_print {client : ClientModule} (named : IsName client.record.toList) :
    linesOf client.print.toList =
      [client.remark.toList, []] ++ client.recordImport.text.toList :: ([[]] ++
        client.baseLine.toList ::
          linesOf (joinLines ("" :: client.operations.flatMap (·.lines))).toList) := by
  have whole : ∀ line ∈ [client.remark, "", client.recordImport.text, ""], OneLine line := by
    simp only [List.forall_mem_cons]
    exact ⟨(begins_remark named).1, by decide, (begins_recordImport named).1, by decide, nofun⟩
  rw [toList_print, linesOf_textOf_append whole client.begins_baseLine.1]
  rfl

/-- The import of the schema module stands behind those of the libraries. -/
theorem FormModule.exists_linesOf_print {form : FormModule} (named : IsName form.record.toList) :
    ∃ behind, linesOf form.print.toList =
      form.libraryImports.map (·.text.toList) ++ form.recordImport.text.toList :: behind := by
  obtain ⟨behind, split⟩ := form.exists_toList_print
  have whole := begins_imports named
  rw [imports_eq, List.map_append, List.forall_mem_append] at whole
  obtain ⟨library, own⟩ := whole
  have front : textOf form.front = textOf (form.libraryImports.map (·.text)) ++
      (form.recordImport.text.toList ++
        '\n' :: textOf ("" :: form.signature :: form.hookLines)) := by
    rw [FormModule.front, imports_eq]
    simp [textOf]
  refine ⟨linesOf (textOf ("" :: form.signature :: form.hookLines) ++
    (textOf (defaultLines form.defaults) ++ behind)), ?_⟩
  rw [split, front, List.append_assoc, List.append_assoc, List.cons_append,
    linesOf_textOf_append (fun line member => (library line member).1)
      (own _ (List.mem_singleton_self _)).1, List.map_map]
  rfl

/-- Configured text does not leave its literals. -/
theorem configured_literals (schema : Schema) (named : IsName schema.name.toList) :
    ∃ above between below libraries : List (List Char), ∀ config : Config,
      (∃ specifier base kept : String,
        linesOf (schema.toClient config).print.toList =
          above ++
            ("import type \x7b " ++ schema.name ++ " \x7d from " ++ specifier ++ ";").toList ::
            (between ++ ("const BASE = " ++ base ++ ";").toList :: below) ∧
        IsLiteral specifier config.schemaModule ∧
        DropsSlashes config.apiPrefix kept ∧ IsLiteral base (kept ++ resourcePath schema.name)) ∧
      ∃ (specifier : String) (behind : List (List Char)),
        linesOf (schema.toForm config).print.toList =
          libraries ++ ("import \x7b " ++ schemaConstant schema.name ++ ", type " ++ schema.name ++
            " \x7d from " ++ specifier ++ ";").toList :: behind ∧
        IsLiteral specifier config.schemaModule := by
  have record (config : Config) : IsName (schema.toClient config).record.toList := named
  have form (config : Config) : IsName (schema.toForm config).record.toList := named
  let client := schema.toClient {}
  refine ⟨[client.remark.toList, []], [[]],
    linesOf (joinLines ("" :: client.operations.flatMap (·.lines))).toList,
    (schema.toForm {}).libraryImports.map (·.text.toList), fun config => ⟨?_, ?_⟩⟩
  · refine ⟨quote config.schemaModule, quote (config.apiBase ++ resourcePath schema.name),
      config.apiBase, ?_, isLiteral_quote _, config.dropsSlashes_apiBase, isLiteral_quote _⟩
    rw [ClientModule.linesOf_print (record config), ClientModule.text_recordImport]
    rfl
  · obtain ⟨behind, split⟩ := FormModule.exists_linesOf_print (form config)
    refine ⟨quote config.schemaModule, behind, ?_, isLiteral_quote _⟩
    rw [split, FormModule.text_recordImport]
    rfl

/-- Quotes, backslashes, line breaks and slashes in configured text. -/
theorem configured_literals_quotes :
    let schema : Schema := ⟨"User", [⟨"id", true, false, .number⟩], ""⟩
    let config : Config := ⟨"/a\"\n//", "\\\";\n", "Save"⟩
    IsName schema.name.toList ∧
      (schema.toClient config).baseLine = "const BASE = \"/a\\\"\\n/users\";" ∧
      ∃ (above between below : List (List Char)) (specifier base kept : String),
        linesOf (schema.toClient config).print.toList =
          above ++ ("import type \x7b User \x7d from " ++ specifier ++ ";").toList ::
            (between ++ ("const BASE = " ++ base ++ ";").toList :: below) ∧
        IsLiteral specifier "\\\";\n" ∧
        DropsSlashes "/a\"\n//" kept ∧ IsLiteral base (kept ++ resourcePath "User") := by
  intro schema config
  have named : IsName schema.name.toList := by decide
  obtain ⟨above, between, below, _, each⟩ := configured_literals schema named
  exact ⟨named, by decide +kernel, above, between, below, (each config).1⟩

end InterfaceGen
