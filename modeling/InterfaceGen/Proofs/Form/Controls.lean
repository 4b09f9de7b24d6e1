import InterfaceGen.Proofs.Form.ReadBack

/-!
# Controls read back

The lines of controls read back as the controls, if all names in them are names.
-/

namespace InterfaceGen

open Text TypeScript

/-! ## Names in controls -/

mutual

/-- The paths, labels, keys and variables in a control are made of names, and the items of its
arrays are of a known type. -/
def Control.WellNamed : Control → Prop
  | .input path label _ => path.Bound ∧ IsName label.toList
  | .group label controls => IsName label.toList ∧ WellNamedControls controls
  | .valueArray path label item =>
    path.Bound ∧ IsName label.toList ∧ ("itemType=\"" ++ item ++ "\"", item) ∈ Form.itemTypes
  | .objectArray path label empty entry controls =>
    path.Bound ∧ IsName label.toList ∧ empty.Keyed ∧ IsName entry.toList ∧
      WellNamedControls controls

/-- Each of some controls is well named. -/
def WellNamedControls : List Control → Prop
  | [] => True
  | control :: rest => control.WellNamed ∧ WellNamedControls rest

end

/-- The word that the first line of a control begins with. -/
def Control.opener : Control → String
  | .input .. => "<div className=\"field\">"
  | .group .. => "<fieldset>"
  | .valueArray .. => "<PrimitiveArrayField name="
  | .objectArray .. => "<ObjectArrayField"

/-- The words that controls begin with. -/
def openers : List String :=
  ["<div className=\"field\">", "<fieldset>", "<PrimitiveArrayField name=",
    "<ObjectArrayField"]

theorem Control.opener_mem (control : Control) : control.opener ∈ openers := by
  cases control <;> simp [opener, openers]

/-- The first line of a control begins with its word. -/
theorem Control.exists_lines (control : Control) (record : String) (level : Nat) :
    ∃ tail, textOf (control.lines record level) =
      (indent level).toList ++ (control.opener.toList ++ tail) := by
  cases control <;>
    simp only [lines, opener, textOf, List.flatMap_cons, String.toList_append, List.append_assoc,
      List.cons_append] <;>
    exact ⟨_, rfl⟩

namespace Form

/-! ## Inputs -/

theorem isBlanks_space_toList : IsBlanks " ".toList :=
  isBlanks_space

/-- The end of a registration is read, and whether the value is a number. -/
theorem reads_registrationEnd (path : Path) {word : String} {number : Bool}
    (known : (word, number) ∈ registrationEnds) (rest : List Char) :
    Reads (mapped (path, ·) (oneOf registrationEnds)) (word.toList ++ rest) (path, number)
      rest := by
  have separable : Separable registrationEnds := by
    simp [Separable, registrationEnds, Visible, Apart, isBlank]
  exact reads_mapped _ (reads_oneOf separable known isBlanks_nil rest)

/-- What an input is registered under is read as its path, be it cast or not. -/
theorem reads_registered {path : Path} (bound : path.Bound) {record : String}
    (named : IsName record.toList) {word : String} {number : Bool}
    (known : (word, number) ∈ registrationEnds) (rest : List Char) :
    Reads registered (path.expression.toList ++
      ((if path.isCast then " as Path<" ++ record ++ ">" else "").toList ++
        (word.toList ++ rest))) (path, number) rest := by
  have ended := reads_registrationEnd path known rest
  refine reads_after (reads_path bound isBlanks_nil _) ?_
  cases path.isCast with
  | false =>
      have apart : ∀ entry ∈ registrationEnds, Visible entry.1 ∧ Apart "as Path<" entry.1 := by
        decide
      have uncast : token "as Path<" (word.toList ++ rest) = none :=
        token_eq_none_of_apart "as Path<" word isBlanks_nil rest (apart _ known).1 (apart _ known).2
      exact reads_either (after_eq_none uncast) ended
  | true =>
      have split : (" as Path<" ++ record ++ ">").toList ++ (word.toList ++ rest) =
          " ".toList ++ ("as Path<".toList ++ (record.toList ++ (">".toList ++
            (word.toList ++ rest)))) := by
        simp
      rw [if_pos rfl, split]
      refine reads_either_first ?_
      refine reads_after (reads_token "as Path<" isBlanks_space_toList _ (by decide)) ?_
      refine reads_after (reads_name ">" isBlanks_nil named _ (by decide)) ?_
      exact reads_after (reads_token_front ">" _ (by decide)) ended

/-- The line of a label reads back as the label and the path of its input. -/
theorem reads_label {path : Path} (bound : path.Bound) {caption : String}
    (captioned : IsName caption.toList) {before : List Char} (blanks : IsBlanks before)
    (rest : List Char) :
    Reads label (before ++ (("  <label htmlFor=" ++ path.attributeValue ++ ">" ++ caption ++
      "</label>").toList ++ rest)) (path, caption) rest := by
  have split : before ++ (("  <label htmlFor=" ++ path.attributeValue ++ ">" ++ caption ++
      "</label>").toList ++ rest) =
      before ++ "  ".toList ++ ("<label htmlFor=".toList ++ (path.attributeValue.toList ++
        (">".toList ++ (caption.toList ++ ("</label>".toList ++ rest))))) := by
    simp
  have inset : IsBlanks (before ++ "  ".toList) := blanks.append_word "  " (by decide)
  rw [split]
  refine reads_after (reads_token "<label htmlFor=" inset _ (by decide)) ?_
  refine reads_after (reads_attributePath bound isBlanks_nil _) ?_
  refine reads_after (reads_token_front ">" _ (by decide)) ?_
  refine reads_after (reads_name "</label>" isBlanks_nil captioned rest (by decide)) ?_
  exact reads_closing "</label>" _ isBlanks_nil rest (by decide)

/-- The type of an input is read as its kind. -/
theorem reads_inputType (kind : InputKind) (rest : List Char) :
    Reads (oneOf inputTypes) (" ".toList ++ (("type=\"" ++ kind.word ++ "\"").toList ++ rest))
      kind rest := by
  have known : ("type=\"" ++ kind.word ++ "\"", kind) ∈ inputTypes := by
    cases kind <;> simp [inputTypes, InputKind.word]
  have separable : Separable inputTypes := by
    simp [Separable, inputTypes, Visible, Apart, isBlank]
  exact reads_oneOf separable known isBlanks_space_toList rest

/-- A registration is that of a path, which may be cast, with one of the ends of registrations. -/
theorem exists_registrationEnd (record : String) (path : Path) (kind : InputKind) :
    ∃ word, (word, kind == .number) ∈ registrationEnds ∧
      registration record path kind ++ "\x7d />" = "register(" ++ path.expression ++
        (if path.isCast then " as Path<" ++ record ++ ">" else "") ++ word := by
  cases kind with
  | number =>
      refine ⟨", \x7b valueAsNumber: true \x7d)\x7d />", by simp [registrationEnds], ?_⟩
      cases cast : path.isCast <;> simp [registration, cast, String.append_assoc]
  | text | checkbox =>
      refine ⟨")\x7d />", by simp [registrationEnds], ?_⟩
      cases cast : path.isCast <;> simp [registration, cast, String.append_assoc]

/-- The line of an input element reads back as its kind, if it is the element of the path that it
is read for. -/
theorem reads_inputElement {path : Path} (bound : path.Bound) (kind : InputKind)
    {record : String} (named : IsName record.toList) {before : List Char}
    (blanks : IsBlanks before) (rest : List Char) :
    Reads (inputElement path) (before ++ (("  <input id=" ++ path.attributeValue ++ " type=\"" ++
      kind.word ++ "\" \x7b..." ++ registration record path kind ++ "\x7d />").toList ++ rest))
      kind rest := by
  obtain ⟨word, known, spelled⟩ := exists_registrationEnd record path kind
  have split : before ++ (("  <input id=" ++ path.attributeValue ++ " type=\"" ++ kind.word ++
      "\" \x7b..." ++ registration record path kind ++ "\x7d />").toList ++ rest) =
      before ++ "  ".toList ++ ("<input id=".toList ++ (path.attributeValue.toList ++
        (" ".toList ++ (("type=\"" ++ kind.word ++ "\"").toList ++ (" ".toList ++
          ("\x7b...register(".toList ++ (path.expression.toList ++
            ((if path.isCast then " as Path<" ++ record ++ ">" else "").toList ++
              (word.toList ++ rest))))))))) := by
    rw [String.append_assoc, spelled]
    simp
  have inset : IsBlanks (before ++ "  ".toList) := blanks.append_word "  " (by decide)
  rw [split]
  refine reads_after (reads_token "<input id=" inset _ (by decide)) ?_
  refine reads_after (reads_expecting (reads_attributePath bound isBlanks_nil _)) ?_
  refine reads_after (reads_inputType kind _) ?_
  refine reads_after (reads_token "\x7b...register(" isBlanks_space_toList _ (by decide)) ?_
  exact reads_mapped (fun _ => kind) (reads_expecting (reads_registered bound named known rest))

/-- The line that shows the error of a path reads back. -/
theorem reads_errorMessage {path : Path} (bound : path.Bound) {before : List Char}
    (blanks : IsBlanks before) (rest : List Char) :
    Reads (errorMessage path) (before ++ (("  \x7b" ++ ("errorAt(errors, " ++ path.expression ++
      ")") ++ " && <p className=\"error\">\x7b" ++ ("errorAt(errors, " ++ path.expression ++
      ")") ++ "\x7d</p>\x7d").toList ++ rest)) () rest := by
  have split : before ++ (("  \x7b" ++ ("errorAt(errors, " ++ path.expression ++ ")") ++
      " && <p className=\"error\">\x7b" ++ ("errorAt(errors, " ++ path.expression ++ ")") ++
      "\x7d</p>\x7d").toList ++ rest) =
      before ++ "  ".toList ++ ("\x7berrorAt(errors,".toList ++ (" ".toList ++
        (path.expression.toList ++ (") && <p className=\"error\">\x7berrorAt(errors,".toList ++
          (" ".toList ++ (path.expression.toList ++ (")\x7d</p>\x7d".toList ++ rest))))))) := by
    simp
  have inset : IsBlanks (before ++ "  ".toList) := blanks.append_word "  " (by decide)
  rw [split]
  refine reads_after (reads_token "\x7berrorAt(errors," inset _ (by decide)) ?_
  refine reads_after (reads_expecting (reads_path bound isBlanks_space_toList _)) ?_
  refine reads_after
    (reads_token_front ") && <p className=\"error\">\x7berrorAt(errors," _ (by decide)) ?_
  refine reads_after (reads_expecting (reads_path bound isBlanks_space_toList _)) ?_
  exact reads_token_front ")\x7d</p>\x7d" rest (by decide)

/-! ## Controls -/

/-- What stands between two lines at a level. -/
def lineBreak (level : Nat) : List Char :=
  '\n' :: (indent level).toList

theorem isBlanks_lineBreak (level : Nat) : IsBlanks (lineBreak level) :=
  isBlanks_append.2 ⟨isBlanks_newline, isBlanks_indent level⟩

/-- An input reads back from its lines. -/
theorem reads_input {path : Path} (bound : path.Bound) {caption : String}
    (captioned : IsName caption.toList) (kind : InputKind) {record : String}
    (named : IsName record.toList) (level : Nat) {before : List Char} (blanks : IsBlanks before)
    (rest : List Char) :
    Reads input (before ++ (textOf ((Control.input path caption kind).lines record level) ++ rest))
      (.input path caption kind) ('\n' :: rest) := by
  have split : before ++
      (textOf ((Control.input path caption kind).lines record level) ++ rest) =
      before ++ (indent level).toList ++ ("<div className=\"field\">".toList ++
        (lineBreak level ++ (("  <label htmlFor=" ++ path.attributeValue ++ ">" ++ caption ++
          "</label>").toList ++
        (lineBreak level ++ (("  <input id=" ++ path.attributeValue ++ " type=\"" ++ kind.word ++
          "\" \x7b..." ++ registration record path kind ++ "\x7d />").toList ++
        (lineBreak level ++ (("  \x7b" ++ ("errorAt(errors, " ++ path.expression ++ ")") ++
          " && <p className=\"error\">\x7b" ++ ("errorAt(errors, " ++ path.expression ++ ")") ++
          "\x7d</p>\x7d").toList ++
        (lineBreak level ++ ("</div>".toList ++ '\n' :: rest))))))))) := by
    simp only [textOf, Control.lines, lineBreak, List.flatMap_cons, List.flatMap_nil,
      String.toList_append, List.append_assoc, List.cons_append, List.nil_append]
  rw [split]
  refine reads_after
    (reads_token "<div className=\"field\">" (blanks.append_indent level) _ (by decide)) ?_
  refine reads_after (reads_label bound captioned (isBlanks_lineBreak level) _) ?_
  refine reads_after (reads_inputElement bound kind named (isBlanks_lineBreak level) _) ?_
  refine reads_after (reads_errorMessage bound (isBlanks_lineBreak level) _) ?_
  exact reads_closing "</div>" _ (isBlanks_lineBreak level) ('\n' :: rest) (by decide)

/-- The path and the label of an array read back, be they on one line or on two. -/
theorem reads_arrayName {path : Path} (bound : path.Bound) {caption : String}
    (captioned : IsName caption.toList) {before gap : List Char} (blanks : IsBlanks before)
    (between : IsBlanks gap) (rest : List Char) :
    Reads arrayName (before ++ ("name=".toList ++ (path.attributeValue.toList ++ (gap ++
      ("label=\"".toList ++ (caption.toList ++ ("\"".toList ++ rest))))))) (path, caption)
      rest := by
  refine reads_after (reads_token "name=" blanks _ (by decide)) ?_
  refine reads_after (reads_attributePath bound isBlanks_nil _) ?_
  refine reads_after (reads_token "label=\"" between _ (by decide)) ?_
  refine reads_after (reads_name "\"" isBlanks_nil captioned rest (by decide)) ?_
  exact reads_closing "\"" _ isBlanks_nil rest (by decide)

/-- A list of single values reads back from its line. -/
theorem reads_valueArray {path : Path} (bound : path.Bound) {caption item : String}
    (captioned : IsName caption.toList) (known : ("itemType=\"" ++ item ++ "\"", item) ∈ itemTypes)
    (record : String) (level : Nat) {before : List Char} (blanks : IsBlanks before)
    (rest : List Char) :
    Reads valueArray
      (before ++ (textOf ((Control.valueArray path caption item).lines record level) ++ rest))
      (.valueArray path caption item) ('\n' :: rest) := by
  have split : before ++
      (textOf ((Control.valueArray path caption item).lines record level) ++ rest) =
      before ++ (indent level).toList ++ ("<PrimitiveArrayField".toList ++ (" ".toList ++
        ("name=".toList ++ (path.attributeValue.toList ++ (" ".toList ++ ("label=\"".toList ++
        (caption.toList ++ ("\"".toList ++ (" ".toList ++
        (("itemType=\"" ++ item ++ "\"").toList ++ (" ".toList ++
        ("control=\x7bcontrol\x7d".toList ++ (" ".toList ++
        ("register=\x7bregister as UseFormRegister<any>\x7d".toList ++ (" ".toList ++
        ("errors=\x7berrors\x7d />".toList ++ '\n' :: rest)))))))))))))))) := by
    simp [textOf, Control.lines]
  have space := isBlanks_space_toList
  have separable : Separable itemTypes := by
    simp [Separable, itemTypes, Visible, Apart, isBlank]
  rw [split]
  refine reads_after
    (reads_token "<PrimitiveArrayField" (blanks.append_indent level) _ (by decide)) ?_
  refine reads_after (reads_arrayName bound captioned space space _) ?_
  refine reads_after (reads_oneOf separable known space _) ?_
  refine reads_after (reads_token "control=\x7bcontrol\x7d" space _ (by decide)) ?_
  refine reads_after
    (reads_token "register=\x7bregister as UseFormRegister<any>\x7d" space _ (by decide)) ?_
  exact reads_closing "errors=\x7berrors\x7d />" _ space ('\n' :: rest) (by decide)

/-- The lines that a list of objects begins with, up to the controls of an entry. -/
def ObjectArrayStart.lines (start : ObjectArrayStart) (level : Nat) : List String :=
  [indent level ++ "<ObjectArrayField",
    indent level ++ "  name=" ++ start.path.attributeValue,
    indent level ++ "  label=\"" ++ start.label ++ "\"",
    indent level ++ "  control=\x7bcontrol\x7d",
    indent level ++ "  errors=\x7berrors\x7d",
    indent level ++ "  emptyItem=\x7b" ++ start.empty.print ++ "\x7d",
    indent level ++ "  renderItem=\x7b(" ++ start.entry ++ ": string) => (",
    indent level ++ "    <>"]

/-- How a list of objects begins reads back from its lines. -/
theorem reads_objectArrayStart (start : ObjectArrayStart) (bound : start.path.Bound)
    (captioned : IsName start.label.toList) (entered : IsName start.entry.toList)
    (keyed : start.empty.Keyed) (level : Nat) {before : List Char} (blanks : IsBlanks before)
    (rest : List Char) :
    Reads objectArrayStart (before ++ (textOf (start.lines level) ++ rest)) start
      ('\n' :: rest) := by
  have inset : IsBlanks (lineBreak level ++ "  ".toList) :=
    (isBlanks_lineBreak level).append_word _ (by decide)
  have deeper : IsBlanks (lineBreak level ++ "    ".toList) :=
    (isBlanks_lineBreak level).append_word _ (by decide)
  have split : before ++ (textOf (start.lines level) ++ rest) =
      before ++ (indent level).toList ++ ("<ObjectArrayField".toList ++
        (lineBreak level ++ "  ".toList ++ ("name=".toList ++
          (start.path.attributeValue.toList ++
        (lineBreak level ++ "  ".toList ++ ("label=\"".toList ++ (start.label.toList ++
          ("\"".toList ++
        (lineBreak level ++ "  ".toList ++ ("control=\x7bcontrol\x7d".toList ++
        (lineBreak level ++ "  ".toList ++ ("errors=\x7berrors\x7d".toList ++
        (lineBreak level ++ "  ".toList ++ ("emptyItem=\x7b".toList ++
          (start.empty.print.toList ++ ("\x7d".toList ++
        (lineBreak level ++ "  ".toList ++ ("renderItem=\x7b(".toList ++ (start.entry.toList ++
          (": string) => (".toList ++
        (lineBreak level ++ "    ".toList ++
          ("<>".toList ++ '\n' :: rest)))))))))))))))))))))) := by
    unfold ObjectArrayStart.lines
    simp [textOf, lineBreak]
  rw [split]
  refine reads_after (reads_token "<ObjectArrayField" (blanks.append_indent level) _ (by decide)) ?_
  refine reads_after (reads_arrayName bound captioned inset inset _) ?_
  refine reads_after (reads_token "control=\x7bcontrol\x7d" inset _ (by decide)) ?_
  refine reads_after (reads_token "errors=\x7berrors\x7d" inset _ (by decide)) ?_
  refine reads_after (reads_token "emptyItem=\x7b" inset _ (by decide)) ?_
  refine reads_after (reads_literal start.empty keyed isBlanks_nil _) ?_
  refine reads_after (reads_token_front "\x7d" _ (by decide)) ?_
  refine reads_after (reads_token "renderItem=\x7b(" inset _ (by decide)) ?_
  refine reads_after (reads_name ": string) => (" isBlanks_nil entered _ (by decide)) ?_
  refine reads_after (reads_token_front ": string) => (" _ (by decide)) ?_
  exact reads_closing "<>" _ deeper ('\n' :: rest) (by decide)

/-- The lines that a list of objects ends with read back. -/
theorem reads_objectArrayEnd (level : Nat) {before : List Char} (blanks : IsBlanks before)
    (rest : List Char) :
    Reads objectArrayEnd
      (before ++ (textOf [indent level ++ "  )\x7d", indent level ++ "/>"] ++ rest)) ()
      ('\n' :: rest) := by
  have split : before ++ (textOf [indent level ++ "  )\x7d", indent level ++ "/>"] ++ rest) =
      before ++ ((indent level).toList ++ "  ".toList) ++ (")\x7d".toList ++ (lineBreak level ++
        ("/>".toList ++ '\n' :: rest))) := by
    simp [textOf, lineBreak]
  have inset : IsBlanks (before ++ ((indent level).toList ++ "  ".toList)) :=
    isBlanks_append.2 ⟨blanks, (isBlanks_indent level).append_word _ (by decide)⟩
  rw [split]
  refine reads_after (reads_token ")\x7d" inset _ (by decide)) ?_
  exact reads_token "/>" (isBlanks_lineBreak level) ('\n' :: rest) (by decide)

/-- The lines that a group begins with, up to its controls, read back. -/
theorem reads_groupStart {caption : String} (captioned : IsName caption.toList) (level : Nat)
    {before : List Char} (blanks : IsBlanks before) (rest : List Char) :
    Reads groupStart
      (before ++ (textOf [indent level ++ "<fieldset>",
        indent level ++ "  <legend>" ++ caption ++ "</legend>"] ++ rest)) caption
      ('\n' :: rest) := by
  have split : before ++ (textOf [indent level ++ "<fieldset>",
      indent level ++ "  <legend>" ++ caption ++ "</legend>"] ++ rest) =
      before ++ (indent level).toList ++ ("<fieldset>".toList ++ (lineBreak level ++ "  ".toList ++
        ("<legend>".toList ++ (caption.toList ++ ("</legend>".toList ++ '\n' :: rest))))) := by
    simp [textOf, lineBreak]
  have inset : IsBlanks (lineBreak level ++ "  ".toList) :=
    (isBlanks_lineBreak level).append_word _ (by decide)
  rw [split]
  refine reads_after (reads_token "<fieldset>" (blanks.append_indent level) _ (by decide)) ?_
  refine reads_after (reads_token "<legend>" inset _ (by decide)) ?_
  refine reads_after (reads_name "</legend>" isBlanks_nil captioned _ (by decide)) ?_
  exact reads_closing "</legend>" _ isBlanks_nil ('\n' :: rest) (by decide)

/-- A word is not read at a control if it is apart from the word that the control begins with. -/
theorem token_control_eq_none {word : String} (control : Control)
    (apart : Apart word control.opener) (record : String) (level : Nat) {before : List Char}
    (blanks : IsBlanks before) (rest : List Char) :
    token word (before ++ (textOf (control.lines record level) ++ rest)) = none := by
  obtain ⟨tail, spelled⟩ := control.exists_lines record level
  have split : before ++ (textOf (control.lines record level) ++ rest) =
      before ++ (indent level).toList ++ (control.opener.toList ++ (tail ++ rest)) := by
    simp [spelled]
  have visible : ∀ opener ∈ openers, Visible opener := by decide
  rw [split]
  exact token_eq_none_of_apart word control.opener (blanks.append_indent level) (tail ++ rest)
    (visible _ control.opener_mem) apart

/-- A group is read when its controls are. -/
theorem reads_control_group {text between rest : List Char} {label : String}
    {controls : List Control} (opened : Reads groupStart text label between)
    (read : Reads (controlsUpTo "</fieldset>") between controls rest) :
    Reads control text (.group label controls) rest := by
  obtain ⟨_, opened⟩ := opened
  obtain ⟨_, read⟩ := read
  refine ⟨by omega, ?_⟩
  rw [control]
  simp only [opened, read]

/-- A list of objects is read when the controls of an entry are. -/
theorem reads_control_objectArray {text between after rest : List Char} {start : ObjectArrayStart}
    {controls : List Control} (ungrouped : groupStart text = none)
    (opened : Reads objectArrayStart text start between)
    (read : Reads (controlsUpTo "</>") between controls after)
    (closed : Reads objectArrayEnd after () rest) :
    Reads control text (.objectArray start.path start.label start.empty start.entry controls)
      rest := by
  obtain ⟨_, opened⟩ := opened
  obtain ⟨_, read⟩ := read
  obtain ⟨_, closed⟩ := closed
  refine ⟨by omega, ?_⟩
  rw [control]
  simp only [ungrouped, opened, read, closed]

/-- A control without others in it is read as an input or a list of single values. -/
theorem reads_control_single {text rest : List Char} {single : Control}
    (ungrouped : groupStart text = none) (unlisted : objectArrayStart text = none)
    (read : Reads (either input valueArray) text single rest) :
    Reads control text single rest := by
  obtain ⟨shorter, read⟩ := read
  refine ⟨shorter, ?_⟩
  rw [control]
  simp only [ungrouped, unlisted, read]

/-- The word up to which controls are read ends them. -/
theorem reads_controlsUpTo_nil {close : String} {text rest : List Char}
    (closed : Reads (token close) text () rest) : Reads (controlsUpTo close) text [] rest := by
  obtain ⟨shorter, closed⟩ := closed
  exact ⟨shorter, by rw [controlsUpTo, closed]⟩

/-- A control is read before others. -/
theorem reads_controlsUpTo_cons {close : String} {text between rest : List Char}
    {first : Control} {others : List Control} (unfinished : token close text = none)
    (read : Reads control text first between)
    (more : Reads (controlsUpTo close) between others rest) :
    Reads (controlsUpTo close) text (first :: others) rest := by
  obtain ⟨_, read⟩ := read
  obtain ⟨_, more⟩ := more
  refine ⟨by omega, ?_⟩
  rw [controlsUpTo]
  simp only [unfinished, read, more]

/-- A word that may end controls, as no control begins with it. -/
def Closes (close : String) : Prop :=
  Visible close ∧ ∀ opener ∈ openers, Apart close opener

instance : DecidablePred Closes := fun close =>
  inferInstanceAs (Decidable (Visible close ∧ ∀ opener ∈ openers, Apart close opener))

mutual

/-- The lines of a control read back as the control, at every level of indentation. -/
theorem reads_control {record : String} (named : IsName record.toList) :
    ∀ control : Control, control.WellNamed → ∀ (level : Nat) {before : List Char},
      IsBlanks before → ∀ rest : List Char,
        Reads Form.control (before ++ (textOf (control.lines record level) ++ rest)) control
          ('\n' :: rest)
  | .input path label kind, wellNamed, level, before, blanks, rest => by
      have group : Apart "<fieldset>" "<div className=\"field\">" := by decide
      have list : Apart "<ObjectArrayField" "<div className=\"field\">" := by decide
      refine reads_control_single (after_eq_none ?_) (after_eq_none ?_) (reads_either_first ?_)
      · exact token_control_eq_none (.input path label kind) group record level blanks rest
      · exact token_control_eq_none (.input path label kind) list record level blanks rest
      · exact reads_input wellNamed.1 wellNamed.2 kind named level blanks rest
  | .group label controls, wellNamed, level, before, blanks, rest => by
      have split : before ++ (textOf ((Control.group label controls).lines record level) ++ rest) =
          before ++ (textOf [indent level ++ "<fieldset>",
            indent level ++ "  <legend>" ++ label ++ "</legend>"] ++
              (textOf (controlLines record (level + 1) controls) ++ ((indent level).toList ++
                ("</fieldset>".toList ++ '\n' :: rest)))) := by
        simp only [textOf, Control.lines, List.flatMap_append, List.flatMap_cons, List.flatMap_nil,
          String.toList_append, List.append_assoc, List.cons_append, List.nil_append]
      have inner := reads_controlsUpTo named controls wellNamed.2
        (by decide : Closes "</fieldset>") (level + 1) isBlanks_newline (isBlanks_indent level)
        ('\n' :: rest)
      rw [split]
      exact reads_control_group (reads_groupStart wellNamed.1 level blanks _) inner
  | .valueArray path label item, wellNamed, level, before, blanks, rest => by
      obtain ⟨bound, labelled, known⟩ := wellNamed
      have group : Apart "<fieldset>" "<PrimitiveArrayField name=" := by decide
      have list : Apart "<ObjectArrayField" "<PrimitiveArrayField name=" := by decide
      have single : Apart "<div className=\"field\">" "<PrimitiveArrayField name=" := by decide
      refine reads_control_single (after_eq_none ?_) (after_eq_none ?_) (reads_either
        (after_eq_none ?_) ?_)
      · exact token_control_eq_none (.valueArray path label item) group record level blanks rest
      · exact token_control_eq_none (.valueArray path label item) list record level blanks rest
      · exact token_control_eq_none (.valueArray path label item) single record level blanks rest
      · exact reads_valueArray bound labelled known record level blanks rest
  | .objectArray path label empty entry controls, wellNamed, level, before, blanks, rest => by
      obtain ⟨bound, labelled, keyed, entered, below⟩ := wellNamed
      have split : before ++
          (textOf ((Control.objectArray path label empty entry controls).lines record level) ++
            rest) =
          before ++ (textOf (ObjectArrayStart.lines ⟨path, label, empty, entry⟩ level) ++
            (textOf (controlLines record (level + 3) controls) ++
              ((indent level).toList ++ "    ".toList ++ ("</>".toList ++ '\n' ::
                (textOf [indent level ++ "  )\x7d", indent level ++ "/>"] ++ rest))))) := by
        unfold ObjectArrayStart.lines
        simp [textOf, Control.lines]
      have deeper : IsBlanks ((indent level).toList ++ "    ".toList) :=
        (isBlanks_indent level).append_word _ (by decide)
      have group : Apart "<fieldset>" "<ObjectArrayField" := by decide
      have ungrouped := token_control_eq_none (.objectArray path label empty entry controls) group
        record level blanks rest
      have inner := reads_controlsUpTo named controls below (by decide : Closes "</>") (level + 3)
        isBlanks_newline deeper
        ('\n' :: (textOf [indent level ++ "  )\x7d", indent level ++ "/>"] ++ rest))
      rw [split] at ungrouped ⊢
      exact reads_control_objectArray (after_eq_none ungrouped)
        (reads_objectArrayStart ⟨path, label, empty, entry⟩ bound labelled entered keyed level
          blanks _) inner
        (reads_objectArrayEnd level isBlanks_newline rest)

/-- The lines of controls read back as the controls, up to the word that ends them. -/
theorem reads_controlsUpTo {record : String} (named : IsName record.toList) :
    ∀ controls : List Control, WellNamedControls controls → ∀ {close : String}, Closes close →
      ∀ (level : Nat) {before gap : List Char}, IsBlanks before → IsBlanks gap →
        ∀ rest : List Char, Reads (controlsUpTo close)
          (before ++ (textOf (controlLines record level controls) ++ (gap ++
            (close.toList ++ rest)))) controls rest
  | [], _, close, closes, level, before, gap, blanks, trail, rest => by
      have closed := reads_token close (isBlanks_append.2 ⟨blanks, trail⟩) rest closes.1
      simpa [controlLines, textOf] using reads_controlsUpTo_nil closed
  | first :: others, wellNamed, close, closes, level, before, gap, blanks, trail, rest => by
      have split : textOf (controlLines record level (first :: others)) =
          textOf (first.lines record level) ++ textOf (controlLines record level others) := by
        simp [controlLines, textOf]
      have more := reads_controlsUpTo named others wellNamed.2 closes level isBlanks_newline trail
        rest
      rw [split, List.append_assoc]
      refine reads_controlsUpTo_cons ?_ (reads_control named first wellNamed.1 level blanks _) more
      exact token_control_eq_none first (closes.2 _ first.opener_mem) record level blanks _

end

end Form

end InterfaceGen
