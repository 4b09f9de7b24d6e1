import InterfaceGen.Form.Usage
import InterfaceGen.Proofs.Form.Recovery
import InterfaceGen.Proofs.Zod.Acceptance
import Mathlib.Data.List.Forall2

/-!
# What forms begin with

The values that a form begins with, and those that a new entry of a list of objects begins with,
read back from the text of the form module. Validation finds nothing wrong with them.
-/

namespace InterfaceGen

open Text TypeScript

/-! ## Validation of default values -/

namespace Default

/-- The default for what a field holds. -/
def ofField (field : Field) : Default :=
  if field.repeated then .emptyArray else ofShape field.shape

theorem entriesOf_eq_map (fields : List Field) :
    entriesOf fields = fields.map fun field => (field.name, ofField field) := by
  induction fields with
  | nil => rfl
  | cons field rest inductionHypothesis =>
      obtain ⟨name, required, repeated, shape⟩ := field
      rw [entriesOf, inductionHypothesis]
      rfl

/-- A name that no entry has is no member. -/
theorem lookup?_membersToJson_eq_none {name : String} {entries : List (String × Default)}
    (absent : name ∉ entries.map (·.1)) : Json.lookup? name (membersToJson entries) = none := by
  induction entries with
  | nil => rfl
  | cons entry rest inductionHypothesis =>
      obtain ⟨key, value⟩ := entry
      simp only [List.map_cons, List.mem_cons, not_or] at absent
      have later := inductionHypothesis absent.2
      rw [membersToJson]
      split
      · exact later
      · rw [Json.lookup?, later]
        exact if_neg fun same => absent.1 same.symm

/-- The member of a name is the value of its entry, if no other entry has the name. -/
theorem lookup?_membersToJson {name : String} {value : Default}
    {entries : List (String × Default)} (ordinary : name ≠ "__proto__")
    (distinct : (entries.map (·.1)).Nodup) (member : (name, value) ∈ entries) :
    Json.lookup? name (membersToJson entries) = some value.toJson := by
  induction entries with
  | nil => exact absurd member List.not_mem_nil
  | cons entry rest inductionHypothesis =>
      obtain ⟨key, other⟩ := entry
      obtain ⟨once, distinctRest⟩ := List.nodup_cons.1 distinct
      rw [membersToJson]
      rcases List.mem_cons.1 member with same | later
      · cases same
        rw [if_neg ordinary, Json.lookup?, lookup?_membersToJson_eq_none once]
        exact if_pos rfl
      · have found := inductionHypothesis distinctRest later
        split
        · exact found
        · rw [Json.lookup?, found]

end Default

/-- Nothing is wrong with members in which each field finds nothing wrong. -/
theorem fieldIssues_eq_nil {fields : List Field} {parent : Path}
    {members : List (String × Json)}
    (clean : ∀ field ∈ fields,
      field.issues (parent.child field.name) (Json.lookup? field.name members) = []) :
    fieldIssues parent members fields = [] := by
  induction fields with
  | nil => rfl
  | cons field rest inductionHypothesis =>
      rw [List.forall_mem_cons] at clean
      rw [fieldIssues_cons, clean.1, inductionHypothesis clean.2]
      rfl

/-- A level in which no name is declared twice and none is that of the prototype. -/
def Plain (fields : List Field) : Prop :=
  Distinct fields ∧ Ordinary fields

mutual

/-- Nothing is wrong with the default for a shape. -/
theorem Default.issues_toJson_ofShape : ∀ shape : Shape, shape.EveryLevel Plain →
    ∀ path : Path, shape.issues path (Default.ofShape shape).toJson = []
  | .string, _, _ | .number, _, _ | .boolean, _, _ | .unknown, _, _ => rfl
  | .object fields, plain, path => by
      have fieldwise := issues_toJson_ofField fields plain.2
      have keys : (Default.entriesOf fields).map (·.1) = fields.map (·.name) := by
        simp [Default.entriesOf_eq_map]
      have distinct : ((Default.entriesOf fields).map (·.1)).Nodup := keys ▸ plain.1.1
      refine fieldIssues_eq_nil fun field member => ?_
      have entry : (field.name, Default.ofField field) ∈ Default.entriesOf fields := by
        rw [Default.entriesOf_eq_map]
        exact List.mem_map_of_mem member
      rw [Default.lookup?_membersToJson (plain.1.2 field member) distinct entry]
      exact fieldwise field member _

/-- Nothing is wrong with the defaults for what fields hold. -/
theorem Default.issues_toJson_ofField : ∀ fields : List Field, EveryLevelBelow Plain fields →
    ∀ field ∈ fields, ∀ path : Path,
      field.issues path (some (Default.ofField field).toJson) = []
  | [], _ => nofun
  | ⟨name, required, repeated, shape⟩ :: rest, plain => by
      have single := Default.issues_toJson_ofShape shape plain.1
      refine List.forall_mem_cons.2 ⟨fun path => ?_, issues_toJson_ofField rest plain.2⟩
      cases repeated with
      | true => rfl
      | false => exact single path

end

/-! ## Reading what a form begins with -/

namespace Form

/-- Reads an entry of the literal that a form begins with, and the comma behind it. -/
def initialEntry : Reader (String × Default) :=
  after key fun name => after (token ":") fun _ => after literal fun value =>
    closing "," (name, value)

/-- Reads the entries of the literal that a form begins with up to its end. -/
def initialEntries : Reader (List (String × Default)) := fun text =>
  match token "\x7d" text with
  | some ⟨_, rest, closed⟩ => some ⟨[], rest, closed⟩
  | none =>
    match initialEntry text with
    | none => none
    | some ⟨first, rest, read⟩ =>
      match initialEntries rest with
      | none => none
      | some ⟨others, rest, more⟩ => some ⟨first :: others, rest, by omega⟩
termination_by text => text.length

/-- Reads the literal that a form begins with. -/
def initial : Reader (List (String × Default)) :=
  after (token "defaultValues: \x7b") fun _ => initialEntries

/-- The literal that the form in the text of a form module begins with. -/
def defaults? (text : String) : Option Default :=
  (fromLine? "    defaultValues:".toList text.toList).bind fun text =>
    (initial text).map (.object ·.value)

/-- The line of an entry: its key and its value, and what follows them. -/
theorem defaultLine_append (name : String) (value : Default) (rest : List Char) :
    (FormModule.defaultLine (name, value)).toList ++ '\n' :: rest =
      "      ".toList ++ ((objectKey name).toList ++ (":".toList ++ (" ".toList ++
        (value.print.toList ++ (",".toList ++ '\n' :: rest))))) := by
  unfold FormModule.defaultLine
  simp

theorem reads_initialEntry {name : String} {value : Default} (named : IsName name.toList)
    (keyed : value.Keyed) {before : List Char} (blanks : IsBlanks before) (rest : List Char) :
    Reads initialEntry
      (before ++ ((FormModule.defaultLine (name, value)).toList ++ '\n' :: rest)) (name, value)
      ('\n' :: rest) := by
  have inset : IsBlanks (before ++ "      ".toList) := blanks.append_word "      " (by decide)
  rw [defaultLine_append, ← List.append_assoc before]
  refine reads_after (reads_key ":" inset named _ (by decide)) ?_
  refine reads_after (reads_token_front ":" _ (by decide)) ?_
  refine reads_after (reads_literal value keyed isBlanks_space_toList _) ?_
  exact reads_closing "," (name, value) isBlanks_nil ('\n' :: rest) (by decide)

/-- The literal does not end where an entry stands. -/
theorem token_defaultLine_eq_none {name : String} (value : Default) (named : IsName name.toList)
    {before : List Char} (blanks : IsBlanks before) (rest : List Char) :
    token "\x7d" (before ++ ((FormModule.defaultLine (name, value)).toList ++ '\n' :: rest)) =
      none := by
  have inset : IsBlanks (before ++ "      ".toList) := blanks.append_word "      " (by decide)
  rw [defaultLine_append, ← List.append_assoc before]
  exact token_key_eq_none inset named _ (by decide) (by decide)

/-- The lines of the entries of the literal that a form begins with read back up to its end. -/
theorem reads_initialEntries : ∀ {entries : List (String × Default)}, KeyedDefaults entries →
    ∀ {before gap : List Char}, IsBlanks before → IsBlanks gap → ∀ rest : List Char,
      Reads initialEntries (before ++ (textOf (entries.map FormModule.defaultLine) ++ (gap ++
        ("\x7d".toList ++ rest)))) entries rest
  | [], _, before, gap, blanks, trail, rest => by
      obtain ⟨shorter, closed⟩ :=
        reads_token "\x7d" (isBlanks_append.2 ⟨blanks, trail⟩) rest (by decide)
      have split : before ++ (textOf ([].map FormModule.defaultLine) ++ (gap ++
          ("\x7d".toList ++ rest))) = before ++ gap ++ ("\x7d".toList ++ rest) := by
        simp [textOf]
      rw [split]
      exact ⟨shorter, by rw [initialEntries, closed]⟩
  | (name, value) :: others, keyed, before, gap, blanks, trail, rest => by
      obtain ⟨named, valueKeyed, othersKeyed⟩ := keyed
      have split : before ++ (textOf (((name, value) :: others).map FormModule.defaultLine) ++
          (gap ++ ("\x7d".toList ++ rest))) =
          before ++ ((FormModule.defaultLine (name, value)).toList ++ '\n' ::
            (textOf (others.map FormModule.defaultLine) ++ (gap ++ ("\x7d".toList ++ rest)))) := by
        rw [List.map_cons, textOf_cons, List.append_assoc, List.cons_append]
      have unfinished := token_defaultLine_eq_none value named blanks
        (textOf (others.map FormModule.defaultLine) ++ (gap ++ ("\x7d".toList ++ rest)))
      obtain ⟨_, first⟩ := reads_initialEntry named valueKeyed blanks
        (textOf (others.map FormModule.defaultLine) ++ (gap ++ ("\x7d".toList ++ rest)))
      have more : Reads initialEntries ('\n' :: (textOf (others.map FormModule.defaultLine) ++
          (gap ++ ("\x7d".toList ++ rest)))) others rest :=
        reads_initialEntries othersKeyed isBlanks_newline trail rest
      obtain ⟨_, more⟩ := more
      rw [split]
      refine ⟨by omega, ?_⟩
      rw [initialEntries]
      simp only [unfinished, first, more]

/-- The literal that a form begins with reads back as its entries. -/
theorem reads_initial {entries : List (String × Default)} (keyed : KeyedDefaults entries)
    (rest : List Char) :
    Reads initial (textOf (FormModule.defaultLines entries) ++ rest) entries
      (",\n".toList ++ rest) := by
  have inset : IsBlanks "    ".toList := by decide
  cases entries with
  | nil =>
      have split : textOf (FormModule.defaultLines []) ++ rest =
          "    ".toList ++ ("defaultValues: \x7b".toList ++ ([] ++ (textOf ([].map
            FormModule.defaultLine) ++ ([] ++ ("\x7d".toList ++ (",\n".toList ++ rest)))))) := by
        simp [textOf, FormModule.defaultLines]
      rw [split]
      refine reads_after (reads_token "defaultValues: \x7b" inset _ (by decide)) ?_
      exact reads_initialEntries keyed isBlanks_nil isBlanks_nil _
  | cons entry others =>
      have split : textOf (FormModule.defaultLines (entry :: others)) ++ rest =
          "    ".toList ++ ("defaultValues: \x7b".toList ++ (['\n'] ++ (textOf ((entry ::
            others).map FormModule.defaultLine) ++ ("    ".toList ++ ("\x7d".toList ++
              (",\n".toList ++ rest)))))) := by
        rw [FormModule.defaultLines_cons, textOf_cons, textOf_append]
        simp [textOf]
      rw [split]
      refine reads_after (reads_token "defaultValues: \x7b" inset _ (by decide)) ?_
      exact reads_initialEntries keyed isBlanks_newline inset _

end Form

/-- The first of the lines of default values says what they are. -/
theorem FormModule.exists_defaultLines (entries : List (String × Default)) :
    ∃ line behind, defaultLines entries = line :: behind ∧ OneLine line ∧
      "    defaultValues:".toList <+: line.toList := by
  cases entries with
  | nil => exact ⟨_, _, rfl, by decide, by decide⟩
  | cons entry others => exact ⟨_, _, rfl, by decide, by decide⟩

/-- The values that a form begins with read back from the text of its module. -/
theorem FormModule.defaults?_print {form : FormModule} (named : IsName form.record.toList)
    (keyed : KeyedDefaults form.defaults) :
    Form.defaults? form.print = some (.object form.defaults) := by
  obtain ⟨line, behind, lines, whole, begins⟩ := exists_defaultLines form.defaults
  have passed := not_prefix_of_mem_front named (by decide : "    defaultValues:" ≠ "") (by decide)
  obtain ⟨rest, split⟩ := form.exists_toList_print
  have first : textOf (defaultLines form.defaults) ++ rest =
      line.toList ++ '\n' :: (textOf behind ++ rest) := by
    rw [lines, textOf_cons, List.append_assoc, List.cons_append]
  have read := Form.reads_initial keyed rest
  rw [Form.defaults?, split, first, fromLine?_textOf whole begins passed, Option.bind_some,
    ← first, read.eq]
  rfl

/-! ## What entries begin with -/

mutual

/-- What the entries of the lists of objects in a control begin with, each with the label of its
list, in order of appearance. -/
def Control.emptyItems : Control → List (String × Default)
  | .input .. | .valueArray .. => []
  | .group _ controls => emptyItemsOf controls
  | .objectArray _ label empty _ controls => (label, empty) :: emptyItemsOf controls

/-- What the entries of the lists of objects in controls begin with. -/
def emptyItemsOf : List Control → List (String × Default)
  | [] => []
  | control :: rest => control.emptyItems ++ emptyItemsOf rest

end

/-- What the entries of the lists of objects begin with in the text of a form module, each with the
label of its list, in order of appearance. -/
def Form.emptyItems? (text : String) : Option (List (String × Default)) :=
  (shownControls? text).map emptyItemsOf

/-- The fields that are arrays of objects, given fields with their places. -/
def objectArrays (fields : List (Path × Field)) : List Field :=
  (fields.map (·.2)).filter (·.isObjectArray)

theorem objectArrays_append (left right : List (Path × Field)) :
    objectArrays (left ++ right) = objectArrays left ++ objectArrays right := by
  simp [objectArrays]

/-- A value under a label is right for a new entry of an array of objects: the label is the name of
the array, and a schema of the fields of an entry finds nothing wrong with the value. -/
def IsEntryOf (item : String × Default) (field : Field) : Prop :=
  item.1 = field.name ∧ ∃ fields, field.item? = some (.object fields) ∧
    ∀ name raw : String, (⟨name, fields, raw⟩ : Schema).validate item.2.toJson = []

mutual

/-- New entries of the lists in the control for a field are right. -/
theorem Control.isEntryOf_ofShape (depth : Nat) (path place : Path) (name : String)
    (required repeated : Bool) : ∀ shape : Shape, shape.EveryLevel Plain →
      List.Forall₂ IsEntryOf (Control.ofShape depth path name repeated shape).emptyItems
        (objectArrays ((place, ⟨name, required, repeated, shape⟩) :: shape.walk place))
  | .object fields, plain => by
      cases repeated with
      | false => exact isEntryOf_controlsOf depth path place fields plain.2
      | true =>
          have clean := Default.issues_toJson_ofShape (.object fields) plain .root
          have here : IsEntryOf (name, Default.ofShape (.object fields))
              ⟨name, required, true, .object fields⟩ :=
            ⟨rfl, fields, rfl, fun _ _ => clean⟩
          exact .cons here (isEntryOf_controlsOf (depth + 1) (.under (entryVariable depth)) place
            fields plain.2)
  | .string, _ | .number, _ | .boolean, _ | .unknown, _ => by
      cases repeated <;> exact .nil

/-- New entries of the lists in the controls for fields are right. -/
theorem isEntryOf_controlsOf (depth : Nat) (parent place : Path) : ∀ fields : List Field,
    EveryLevelBelow Plain fields →
      List.Forall₂ IsEntryOf (emptyItemsOf (controlsOf depth parent fields))
        (objectArrays (walkFields place fields))
  | [], _ => .nil
  | ⟨name, required, repeated, shape⟩ :: rest, plain => by
      have first := Control.isEntryOf_ofShape depth (parent.child name) (place.child name) name
        required repeated shape plain.1
      have others := isEntryOf_controlsOf depth parent place rest plain.2
      rw [controlsOf, emptyItemsOf, walkFields, ← List.cons_append, objectArrays_append]
      exact List.rel_append first others

end

/-! ## The form of a schema -/

/-- The values that the form of a schema begins with read back from the text of the form. They are
those for the fields of the schema. -/
theorem defaults?_toForm (schema : Schema) (config : Config) (named : IsName schema.name.toList)
    (levels : schema.EveryLevel Named) :
    Form.defaults? (schema.toForm config).print =
      some (Default.ofShape (.object schema.fields)) :=
  FormModule.defaults?_print named (schema.keyedDefaults_toForm config levels)

/-- What the form of a schema begins with passes the schema: the values that the form begins with,
and for each array of objects at any depth those that a new entry of it begins with. -/
theorem toForm_begins_valid (schema : Schema) (config : Config)
    (named : IsName schema.name.toList) (levels : schema.EveryLevel Named)
    (distinct : schema.EveryLevel Distinct) (ordinary : schema.EveryLevel Ordinary) :
    (∃ initial, Form.defaults? (schema.toForm config).print = some initial ∧
      schema.validate initial.toJson = []) ∧
    ∃ items, Form.emptyItems? (schema.toForm config).print = some items ∧
      List.Forall₂ IsEntryOf items (objectArrays schema.walk) := by
  have plain : schema.EveryLevel Plain := Shape.EveryLevel.and _ distinct ordinary
  have clean := Default.issues_toJson_ofShape (.object schema.fields) plain .root
  have items : Form.emptyItems? (schema.toForm config).print =
      some (emptyItemsOf (controlsOf 0 .root schema.fields)) := by
    rw [Form.emptyItems?, shownControls?_toForm schema config named levels]
    rfl
  exact ⟨⟨_, defaults?_toForm schema config named levels, clean⟩, _, items,
    isEntryOf_controlsOf 0 .root .root schema.fields plain.2⟩

/-- The form of a record with an object in an entry and entries in that object. -/
theorem toForm_begins_valid_entries :
    let schema : Schema := ⟨"Order",
      [⟨"note", false, false, .unknown⟩,
        ⟨"lines", true, true, .object
          [⟨"price", true, false, .number⟩,
            ⟨"part", true, false, .object
              [⟨"tags", true, true, .string⟩,
                ⟨"checks", true, true, .object [⟨"2nd", true, false, .boolean⟩]⟩]⟩]⟩], ""⟩
    let config : Config := ⟨"/api", "./schema", "Place <the order>"⟩
    IsName schema.name.toList ∧ schema.EveryLevel Named ∧ schema.EveryLevel Distinct ∧
      schema.EveryLevel Ordinary ∧
      (∃ initial, Form.defaults? (schema.toForm config).print = some initial ∧
        schema.validate initial.toJson = []) ∧
      ∃ items, Form.emptyItems? (schema.toForm config).print = some items ∧
        List.Forall₂ IsEntryOf items
          [⟨"lines", true, true, .object
              [⟨"price", true, false, .number⟩,
                ⟨"part", true, false, .object
                  [⟨"tags", true, true, .string⟩,
                    ⟨"checks", true, true, .object [⟨"2nd", true, false, .boolean⟩]⟩]⟩]⟩,
            ⟨"checks", true, true, .object [⟨"2nd", true, false, .boolean⟩]⟩] := by
  intro schema config
  have named : IsName schema.name.toList := by decide
  have levels : schema.EveryLevel Named := by decide
  have distinct : schema.EveryLevel Distinct := by decide
  have ordinary : schema.EveryLevel Ordinary := by decide
  exact ⟨named, levels, distinct, ordinary,
    toForm_begins_valid schema config named levels distinct ordinary⟩

end InterfaceGen
