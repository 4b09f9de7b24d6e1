import InterfaceGen.Proofs.Schema.Levels
import InterfaceGen.Proofs.Zod.ReadBack
import InterfaceGen.Schema.Walk

/-!
# Schemas recovered from schema modules

The text of a schema module reads back as the module, and its expression stands for the fields it
was made from. So the text determines the name and the fields of the schema.
-/

namespace InterfaceGen

open Text TypeScript

namespace Zod

/-! ## Fields and entries -/

/-- The expression of a shape is that of one value. -/
theorem ofShape_ne_array (shape : Shape) (item : Expr) : ofShape shape ≠ .array item := by
  cases shape <;> simp [ofShape]

mutual

/-- A shape is recovered from its expression. -/
theorem toShape?_ofShape : ∀ shape : Shape, toShape? (ofShape shape) = some shape
  | .string | .number | .boolean | .unknown => by simp [ofShape, toShape?]
  | .object fields => by simp [ofShape, toShape?, toFields?_ofFields fields]

/-- Fields are recovered from their entries. -/
theorem toFields?_ofFields : ∀ fields : List Field, toFields? (ofFields fields) = some fields
  | [] => by simp [ofFields, toFields?]
  | ⟨name, required, repeated, shape⟩ :: rest => by
      have item := toShape?_ofShape shape
      have others := toFields?_ofFields rest
      cases repeated with
      | true => simp [ofFields, toFields?, item, others]
      | false =>
          have single := toFields?.eq_3 name (ofShape shape) (!required) (ofFields rest)
            (ofShape_ne_array shape)
          simp [ofFields, single, item, others]

end

mutual

/-- The keys in the expression of a shape are the names of its fields. -/
theorem keyed_ofShape : ∀ shape : Shape, shape.EveryLevel Named → (ofShape shape).Keyed
  | .string, _ | .number, _ | .boolean, _ | .unknown, _ => trivial
  | .object fields, named => keyedEntries_ofFields fields named.1 named.2

/-- The keys of the entries of fields, and within them, are names of fields. -/
theorem keyedEntries_ofFields : ∀ fields : List Field, Named fields →
    EveryLevelBelow Named fields → KeyedEntries (ofFields fields)
  | [], _, _ => trivial
  | ⟨name, required, repeated, shape⟩ :: rest, named, below => by
      obtain ⟨here, later⟩ := named_cons.1 named
      have item := keyed_ofShape shape below.1
      refine ⟨here, ?_, keyedEntries_ofFields rest later below.2⟩
      cases repeated with
      | true => exact item
      | false => exact item

end

end Zod

/-! ## The module -/

theorem isName_schemaConstant {record : String} (named : IsName record.toList) :
    IsName (schemaConstant record).toList := by
  rw [schemaConstant, String.toList_append]
  exact isName_append named (by decide)

namespace Zod

/-- An expression that is exported reads back, with the name it is exported under. -/
theorem reads_constant {record : String} {expression : Expr} {before : List Char}
    (blanks : IsBlanks before) (named : IsName record.toList) (keyed : expression.Keyed)
    (rest : List Char) :
    Reads constant
      (before ++ ("export const".toList ++ (" ".toList ++ (record.toList ++ (" ".toList ++
        ("=".toList ++ (" ".toList ++ ((expression.print 0).toList ++ (";".toList ++ rest)))))))))
      (record, expression) rest := by
  have space : IsBlanks " ".toList := by decide
  refine reads_after (reads_token "export const" blanks _ (by decide)) ?_
  refine reads_after (reads_name " " space named _ (by decide)) ?_
  refine reads_after (reads_token "=" space _ (by decide)) ?_
  refine reads_after (reads_print expression keyed 0 space _) ?_
  exact reads_closing ";" _ isBlanks_nil rest (by decide)

/-- A type that is inferred reads back, with the name it is inferred from. -/
theorem reads_inferred {record source : String} {before : List Char} (blanks : IsBlanks before)
    (named : IsName record.toList) (sourceNamed : IsName source.toList) (rest : List Char) :
    Reads inferred
      (before ++ ("export type".toList ++ (" ".toList ++ (record.toList ++ (" ".toList ++
        ("= z.infer<typeof".toList ++ (" ".toList ++ (source.toList ++ (">;".toList ++ rest)))))))))
      (record, source) rest := by
  have space : IsBlanks " ".toList := by decide
  refine reads_after (reads_token "export type" blanks _ (by decide)) ?_
  refine reads_after (reads_name " " space named _ (by decide)) ?_
  refine reads_after (reads_token "= z.infer<typeof" space _ (by decide)) ?_
  refine reads_after (reads_name ">;" space sourceNamed rest (by decide)) ?_
  exact reads_closing ">;" _ isBlanks_nil rest (by decide)

end Zod

/-- The pieces of the text of a schema module. -/
theorem SchemaModule.toList_print (schemaModule : SchemaModule) :
    schemaModule.print.toList =
      "import \x7b z \x7d from \"zod\";".toList ++ ("\n\n".toList ++ ("export const".toList ++
        (" ".toList ++ ((schemaConstant schemaModule.record).toList ++ (" ".toList ++
        ("=".toList ++ (" ".toList ++ ((schemaModule.schema.print 0).toList ++ (";".toList ++
        ("\n\n".toList ++ ("export type".toList ++ (" ".toList ++ (schemaModule.record.toList ++
        (" ".toList ++ ("= z.infer<typeof".toList ++ (" ".toList ++
        ((schemaConstant schemaModule.record).toList ++ (">;".toList ++
        "\n".toList)))))))))))))))))) := by
  have library : library.text = "import \x7b z \x7d from \"zod\";" := by decide
  simp [print, library, joinLines, join]

/-- A schema module reads back from its text. -/
theorem SchemaModule.read?_print {schemaModule : SchemaModule}
    (named : IsName schemaModule.record.toList) (keyed : schemaModule.schema.Keyed) :
    read? schemaModule.print.toList = some schemaModule := by
  have exported := isName_schemaConstant named
  have gap : IsBlanks "\n\n".toList := by decide
  have finished : dropBlanks "\n".toList = [] := by decide
  rw [toList_print]
  simp only [read?,
    (reads_token_front "import \x7b z \x7d from \"zod\";" _ (by decide)).eq,
    (Zod.reads_constant gap exported keyed _).eq, (Zod.reads_inferred gap named exported _).eq,
    finished, and_self, if_true]

theorem Schema.read?_toModule (schema : Schema) (named : IsName schema.name.toList)
    (levels : schema.EveryLevel Named) :
    SchemaModule.read? schema.toModule.print.toList = some schema.toModule :=
  SchemaModule.read?_print named (Zod.keyed_ofShape (.object schema.fields) levels)

/-- The record is recovered from the text of its schema module. -/
theorem recordOf?_print (schema : Schema) (named : IsName schema.name.toList)
    (levels : schema.EveryLevel Named) :
    recordOf? schema.toModule.print = some (schema.name, schema.fields) := by
  rw [recordOf?, schema.read?_toModule named levels]
  simp [Schema.toModule, Zod.toFields?_ofFields]

end InterfaceGen
