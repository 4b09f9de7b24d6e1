import InterfaceGen.Proofs.Zod.Recovery

/-!
# The outline of a schema module

The lines of a schema module that open an entry list the fields of the schema as its walk does, each
indented by the depth of its path.
-/

namespace InterfaceGen

open Text TypeScript

/-! ## Lines of fields -/

/-- The expression of one value of a shape, as far as it stands on the line where it begins. -/
def Shape.opening : Shape → String
  | .string => "z.string()"
  | .number => "z.number()"
  | .boolean => "z.boolean()"
  | .object [] => "z.object(\x7b\x7d)"
  | .object (_ :: _) => "z.object(\x7b"
  | .unknown => "z.any()"

namespace Field

/-- What stands behind the expression of a field's value. -/
def ending (field : Field) : String :=
  (if field.repeated then ")" else "") ++ (if field.required then "" else ".optional()") ++ ","

/-- The line that opens a field at a depth. The fields of its objects, if there are any, stand on
the lines that follow. -/
def line (depth : Nat) (field : Field) : String :=
  indent depth ++ objectKey field.name ++ ": " ++ (if field.repeated then "z.array(" else "") ++
    field.shape.opening ++
      match field.shape with
      | .object (_ :: _) => ""
      | _ => field.ending

/-- The line that closes a field at a depth when others are nested in it. -/
def lastLine (depth : Nat) (field : Field) : String :=
  indent depth ++ "\x7d)" ++ field.ending

end Field

namespace Field

theorem oneLine_ending (field : Field) : OneLine field.ending := by
  rw [ending]
  cases field.repeated <;> cases field.required <;> decide

theorem oneLine_line {field : Field} (named : IsName field.name.toList) (depth : Nat) :
    OneLine (field.line depth) := by
  have key := oneLine_objectKey named
  have opening : OneLine field.shape.opening := by
    unfold Shape.opening
    split <;> decide
  have array : OneLine (if field.repeated then "z.array(" else "") := by
    cases field.repeated <;> decide
  have colon : OneLine ": " := by decide
  simp only [line, oneLine_append, oneLine_indent, key, colon, array, opening, true_and]
  split
  · decide
  · exact oneLine_ending field

theorem oneLine_lastLine (field : Field) (depth : Nat) : OneLine (field.lastLine depth) := by
  have brace : OneLine "\x7d)" := by decide
  simp only [lastLine, oneLine_append, oneLine_indent, brace, oneLine_ending, true_and]

/-- The line that opens a field opens an entry. -/
theorem opensEntry_line {field : Field} (named : IsName field.name.toList) (depth : Nat) :
    opensEntry (field.line depth).toList = true := by
  rw [line]
  generalize (match field.shape with
    | .object (_ :: _) => ""
    | _ => field.ending) = last
  have split : (indent depth ++ objectKey field.name ++ ": " ++
      (if field.repeated then "z.array(" else "") ++ field.shape.opening ++ last).toList =
      (indent depth).toList ++ ((objectKey field.name).toList ++ (":".toList ++
        (" ".toList ++ ((if field.repeated then "z.array(" else "") ++ field.shape.opening ++
          last).toList))) := by
    simp
  rw [split, opensEntry,
    (reads_key ":" (isBlanks_indent depth) named _ (by decide)).eq]
  rfl

/-- The line that closes a field opens none. -/
theorem opensEntry_lastLine (field : Field) (depth : Nat) :
    opensEntry (field.lastLine depth).toList = false := by
  have keyless :
      key ((indent depth).toList ++ ("\x7d)".toList ++ field.ending.toList)) = none :=
    key_eq_none (isBlanks_indent depth) _ (by decide) (by decide) (by decide)
  have split : (field.lastLine depth).toList =
      (indent depth).toList ++ ("\x7d)".toList ++ field.ending.toList) := by
    simp [lastLine]
  rw [split, opensEntry, keyless]

end Field

/-! ## Lines of a module -/

/-- The lines of a text that open an entry. -/
def entryLines (text : List Char) : List (List Char) :=
  (linesOf text).filter opensEntry

theorem entryLines_cons {line : String} (whole : OneLine line) (rest : List Char) :
    entryLines (line.toList ++ '\n' :: rest) =
      (if opensEntry line.toList then [line.toList] else []) ++ entryLines rest := by
  rw [entryLines, linesOf_cons whole, List.filter_cons]
  split <;> rfl

namespace Zod

/-- A field in which none are nested is printed on one line. -/
theorem toList_printEntries_leaf {name : String} {required repeated : Bool} {shape : Shape}
    (leaf : ∀ first others, shape ≠ .object (first :: others)) (level : Nat)
    (rest : List Field) :
    (printEntries level (ofFields (⟨name, required, repeated, shape⟩ :: rest))).toList =
      (Field.line level ⟨name, required, repeated, shape⟩).toList ++
        '\n' :: (printEntries level (ofFields rest)).toList := by
  rcases shape with _ | _ | _ | (_ | ⟨first, others⟩) | _
  case object.cons => exact absurd rfl (leaf first others)
  all_goals
    cases repeated <;> cases required <;>
      simp [ofFields, ofShape, printEntries, Expr.print, Field.line, Field.ending, Shape.opening]

/-- A field in which others are nested is printed on its line, theirs, and the line that closes
it. -/
theorem toList_printEntries_object {name : String} {required repeated : Bool} {first : Field}
    {others : List Field} (level : Nat) (rest : List Field) :
    (printEntries level
      (ofFields (⟨name, required, repeated, .object (first :: others)⟩ :: rest))).toList =
      (Field.line level ⟨name, required, repeated, .object (first :: others)⟩).toList ++
        '\n' :: ((printEntries (level + 1) (ofFields (first :: others))).toList ++
          ((Field.lastLine level ⟨name, required, repeated, .object (first :: others)⟩).toList ++
            '\n' :: (printEntries level (ofFields rest)).toList)) := by
  obtain ⟨firstName, firstRequired, firstRepeated, firstShape⟩ := first
  cases repeated <;> cases required <;>
    simp [ofFields, ofShape, printEntries, Expr.print, Field.line, Field.lastLine, Field.ending,
      Shape.opening]

/-- Before any other text, the lines of fields that open an entry are those of their walk. -/
theorem entryLines_printEntries : ∀ (fields : List Field), Named fields →
    EveryLevelBelow Named fields → ∀ (parent : Path) (rest : List Char),
      entryLines ((printEntries (parent.depth + 1) (ofFields fields)).toList ++ rest) =
        (walkFields parent fields).map (fun entry => (entry.2.line entry.1.depth).toList) ++
          entryLines rest
  | [], _, _, parent, rest => by simp [ofFields, printEntries, walkFields]
  | ⟨name, required, repeated, shape⟩ :: others, named, below, parent, rest => by
      obtain ⟨here, later⟩ := named_cons.1 named
      have deeper : (parent.child name).depth = parent.depth + 1 := by
        simp [Path.depth, Path.child]
      have following := entryLines_printEntries others later below.2 parent rest
      have opened := Field.opensEntry_line here (parent.depth + 1)
      by_cases leaf : ∀ first nested, shape ≠ .object (first :: nested)
      · have none : shape.walk (parent.child name) = [] := by
          rcases shape with _ | _ | _ | (_ | ⟨first, nested⟩) | _
          case object.cons => exact absurd rfl (leaf first nested)
          all_goals simp [Shape.walk, walkFields]
        rw [toList_printEntries_leaf leaf, List.append_assoc, List.cons_append,
          entryLines_cons (Field.oneLine_line here _), opened, if_pos rfl, following, walkFields,
          none]
        simp [deeper]
      · obtain ⟨first, nested, rfl⟩ : ∃ first nested, shape = .object (first :: nested) := by
          simpa using leaf
        have closed := Field.opensEntry_lastLine
          ⟨name, required, repeated, .object (first :: nested)⟩ (parent.depth + 1)
        have inner := entryLines_printEntries (first :: nested) below.1.1 below.1.2
          (parent.child name)
        rw [deeper] at inner
        rw [toList_printEntries_object, walkFields, Shape.walk]
        simp only [List.append_assoc, List.cons_append]
        rw [entryLines_cons (Field.oneLine_line here _), opened, if_pos rfl, inner,
          entryLines_cons (Field.oneLine_lastLine _ _), closed, following]
        simp [deeper]
termination_by fields => sizeOf fields

end Zod

/-- An export is no entry. -/
theorem opensEntry_export (rest : List Char) : opensEntry ("export ".toList ++ rest) = false := by
  have split : "export ".toList ++ rest =
      (objectKey "export").toList ++ (" ".toList ++ rest) := by
    simp [objectKey]
  have named : IsName "export".toList := by decide
  have read : Reads key ((objectKey "export").toList ++ (" ".toList ++ rest)) "export"
      (" ".toList ++ rest) :=
    reads_key " " isBlanks_nil named rest (by decide)
  rw [split, opensEntry, read.eq]
  rfl

/-- What stands on the lines below the expression of a module. -/
def SchemaModule.footer (record : String) : String :=
  "\nexport type " ++ record ++ " = z.infer<typeof " ++ schemaConstant record ++ ">;\n"

theorem SchemaModule.toList_footer (record : String) :
    (footer record).toList = "".toList ++ '\n' :: (("export type " ++ record ++
      " = z.infer<typeof " ++ schemaConstant record ++ ">;").toList ++ '\n' :: "".toList) := by
  unfold footer
  simp

/-- Below the expression of a module no line opens an entry. -/
theorem entryLines_footer {record : String} (named : IsName record.toList) :
    entryLines (SchemaModule.footer record).toList = [] := by
  have constant := oneLine_of_isName (isName_schemaConstant named)
  have exported : OneLine ("export type " ++ record ++ " = z.infer<typeof " ++
      schemaConstant record ++ ">;") := by
    simp only [oneLine_append, oneLine_of_isName named, constant]
    decide
  have closed : opensEntry ("export type " ++ record ++ " = z.infer<typeof " ++
      schemaConstant record ++ ">;").toList = false := by
    have front := opensEntry_export ("type " ++ record ++ " = z.infer<typeof " ++
      schemaConstant record ++ ">;").toList
    simpa using front
  have empty : OneLine "" := by decide
  have blank : opensEntry "".toList = false := by decide
  rw [SchemaModule.toList_footer, entryLines_cons empty, entryLines_cons exported, closed,
    entryLines, linesOf_eq_singleton empty, List.filter_cons, blank]
  rfl

/-- The expression of a schema, with the export before it and any lines behind it, opens an entry on
the lines of its fields. -/
theorem entryLines_export {fields : List Field} {constant : String}
    (levels : (Shape.object fields).EveryLevel Named) (whole : OneLine constant)
    (rest : List Char) :
    entryLines (("export const " ++ constant ++ " = " ++
        (Zod.Expr.object (Zod.ofFields fields)).print 0 ++ ";").toList ++ '\n' :: rest) =
      (walkFields .root fields).map (fun entry => (entry.2.line entry.1.depth).toList) ++
        entryLines rest := by
  cases fields with
  | nil =>
      have exported : OneLine ("export const " ++ constant ++ " = " ++
          (Zod.Expr.object (Zod.ofFields [])).print 0 ++ ";") := by
        simp only [oneLine_append, whole, Zod.ofFields, Zod.Expr.print]
        decide
      have closed : opensEntry ("export const " ++ constant ++ " = " ++
          (Zod.Expr.object (Zod.ofFields [])).print 0 ++ ";").toList = false := by
        have front := opensEntry_export ("const " ++ constant ++ " = " ++
          (Zod.Expr.object (Zod.ofFields [])).print 0 ++ ";").toList
        simpa using front
      rw [entryLines_cons exported, closed, walkFields]
      rfl
  | cons first others =>
      have exported : OneLine ("export const " ++ constant ++ " = z.object(\x7b") := by
        simp only [oneLine_append, whole]
        decide
      have closed : opensEntry ("export const " ++ constant ++ " = z.object(\x7b").toList =
          false := by
        have front := opensEntry_export ("const " ++ constant ++ " = z.object(\x7b").toList
        simpa using front
      have inner := Zod.entryLines_printEntries (first :: others) levels.1 levels.2 .root
        ("\x7d);".toList ++ '\n' :: rest)
      have last : OneLine "\x7d);" := by decide
      have ended : opensEntry "\x7d);".toList = false := by decide
      have split : ("export const " ++ constant ++ " = " ++
          (Zod.Expr.object (Zod.ofFields (first :: others))).print 0 ++ ";").toList ++
            '\n' :: rest =
          ("export const " ++ constant ++ " = z.object(\x7b").toList ++ '\n' ::
            ((Zod.printEntries (Path.root.depth + 1) (Zod.ofFields (first :: others))).toList ++
              ("\x7d);".toList ++ '\n' :: rest)) := by
        obtain ⟨name, required, repeated, shape⟩ := first
        simp [Zod.ofFields, Zod.Expr.print, Path.root, Path.depth, indent]
      rw [split, entryLines_cons exported, closed, inner, entryLines_cons last, ended]
      rfl

/-- The lines of a schema module that open an entry are those of the fields of its schema. -/
theorem entryLines_print (schema : Schema) (named : IsName schema.name.toList)
    (levels : schema.EveryLevel Named) :
    entryLines schema.toModule.print.toList =
      schema.walk.map fun (path, field) => (field.line path.depth).toList := by
  have constant := oneLine_of_isName (isName_schemaConstant named)
  have empty : OneLine "" := by decide
  have library : OneLine SchemaModule.library.text := by decide
  have imported : opensEntry SchemaModule.library.text.toList = false := by decide
  have blank : opensEntry "".toList = false := by decide
  have split : schema.toModule.print.toList = SchemaModule.library.text.toList ++ '\n' ::
      ("".toList ++ '\n' :: (("export const " ++ schemaConstant schema.name ++ " = " ++
        (Zod.Expr.object (Zod.ofFields schema.fields)).print 0 ++ ";").toList ++
        '\n' :: (SchemaModule.footer schema.name).toList)) := by
    simp [SchemaModule.print, SchemaModule.toList_footer, Schema.toModule, joinLines, join]
  rw [split, entryLines_cons library, entryLines_cons empty, imported, blank,
    entryLines_export levels constant, entryLines_footer named]
  simp [Schema.walk]

/-- A schema module loses nothing of its schema. The name and the fields are read back from its
text, so that schemas with one text have one name and the same fields. The lines that open an entry
are the fields in the order of their walk, each indented by the depth of its path. -/
theorem print_toModule_faithful (schema : Schema) (named : IsName schema.name.toList)
    (levels : schema.EveryLevel Named) :
    recordOf? schema.toModule.print = some (schema.name, schema.fields) ∧
    (∀ other : Schema, IsName other.name.toList → other.EveryLevel Named →
      other.toModule.print = schema.toModule.print →
        other.name = schema.name ∧ other.fields = schema.fields) ∧
    (linesOf schema.toModule.print.toList).filter opensEntry =
      schema.walk.map fun (path, field) => (field.line path.depth).toList := by
  refine ⟨recordOf?_print schema named levels, ?_, entryLines_print schema named levels⟩
  intro other otherNamed otherLevels same
  have read := recordOf?_print other otherNamed otherLevels
  rw [same, recordOf?_print schema named levels] at read
  simp only [Option.some.injEq, Prod.mk.injEq] at read
  exact ⟨read.1.symm, read.2.symm⟩

/-- The schema module of a record with an array of objects, a key that begins with a digit, and a
name that is declared twice. -/
theorem print_toModule_faithful_array :
    let schema : Schema := ⟨"Order",
      [⟨"items", false, true, .object [⟨"2nd", true, false, .unknown⟩]⟩,
        ⟨"note", true, false, .object []⟩, ⟨"note", false, false, .string⟩], ""⟩
    IsName schema.name.toList ∧ schema.EveryLevel Named ∧
      recordOf? schema.toModule.print = some (schema.name, schema.fields) ∧
      (∀ other : Schema, IsName other.name.toList → other.EveryLevel Named →
        other.toModule.print = schema.toModule.print →
          other.name = "Order" ∧ other.fields = schema.fields) ∧
      (linesOf schema.toModule.print.toList).filter opensEntry =
        ["  items: z.array(z.object(\x7b", "    \"2nd\": z.any(),", "  note: z.object(\x7b\x7d),",
          "  note: z.string().optional(),"].map (·.toList) := by
  intro schema
  have named : IsName schema.name.toList := by decide
  have levels : schema.EveryLevel Named := by decide
  obtain ⟨record, unique, lines⟩ := print_toModule_faithful schema named levels
  exact ⟨named, levels, record, unique, lines.trans (by decide)⟩

end InterfaceGen
