import InterfaceGen.Form.Usage
import InterfaceGen.Proofs.Form.Recovery

/-!
# Casts of paths

The path of an input in an entry is cast when it is registered. Where there is no such input no path
is cast: the code of the controls does not name the type that paths are cast to.
-/

namespace InterfaceGen

open Text TypeScript

/-! ## Texts without casts -/

/-- A word that a character does not belong to stands on one side of the character. -/
theorem infix_append_cons {word front rest : List Char} {stop : Char} (outside : stop ∉ word)
    (within : word <:+: front ++ stop :: rest) : word <:+: front ∨ word <:+: rest := by
  obtain ⟨before, after, split⟩ := within
  rw [List.append_assoc, List.append_eq_append_iff] at split
  rcases split with ⟨middle, rfl, split⟩ | ⟨middle, rfl, split⟩
  · rw [List.append_eq_append_iff] at split
    rcases split with ⟨tail, rfl, _⟩ | ⟨tail, rfl, split⟩
    · exact .inl ⟨before, tail, by simp⟩
    · cases tail with
      | nil => exact .inl ⟨before, [], by simp⟩
      | cons char tail =>
          obtain rfl := (List.cons.inj split).1
          exact absurd (by simp) outside
  · cases middle with
    | cons char middle =>
        obtain ⟨rfl, rfl⟩ := List.cons.inj split
        exact .inr ⟨middle, after, by simp⟩
    | nil =>
        cases word with
        | nil => exact .inl List.nil_infix
        | cons char word =>
            obtain rfl := (List.cons.inj split).1
            exact absurd List.mem_cons_self outside

/-- A text in which no blank stands before `Path<`. -/
def Uncast (text : List Char) : Prop :=
  ¬ [' ', 'P', 'a', 't', 'h', '<'] <:+: text

-- The instance is named: of the two there are for infixes, this one can be evaluated on a long line.
instance : DecidablePred Uncast := fun text =>
  @instDecidableNot _ (List.instDecidableIsInfixOfDecidableEq [' ', 'P', 'a', 't', 'h', '<'] text)

theorem uncast_nil : Uncast [] := by
  decide

/-- A text that lacks a character of a cast holds none. -/
theorem uncast_of_not_mem {mark : Char} (part : mark ∈ [' ', 'P', 'a', 't', 'h', '<'])
    {text : List Char} (absent : mark ∉ text) : Uncast text := fun within =>
  absent (within.subset part)

theorem uncast_cons {char : Char} (visible : char ≠ ' ') (text : List Char) :
    Uncast (char :: text) ↔ Uncast text := by
  rw [Uncast, List.infix_cons_iff, List.cons_prefix_cons]
  simp [visible.symm, Uncast]

theorem uncast_space_cons {char : Char} (other : char ≠ 'P') (text : List Char) :
    Uncast (' ' :: char :: text) ↔ Uncast (char :: text) := by
  rw [Uncast, List.infix_cons_iff, List.cons_prefix_cons, List.cons_prefix_cons]
  simp [other.symm, Uncast]

/-- Text without blanks is passed over. -/
theorem uncast_append {front : List Char} (visible : ' ' ∉ front) (text : List Char) :
    Uncast (front ++ text) ↔ Uncast text := by
  induction front with
  | nil => rfl
  | cons char rest inductionHypothesis =>
      simp only [List.mem_cons, not_or] at visible
      rw [List.cons_append, uncast_cons (Ne.symm visible.1), inductionHypothesis visible.2]

/-- An indentation is passed over. -/
theorem uncast_indent_cons {char : Char} (other : char ≠ 'P') (level : Nat) (text : List Char) :
    Uncast ((indent level).toList ++ char :: text) ↔ Uncast (char :: text) := by
  induction level with
  | zero => rfl
  | succ level inductionHypothesis =>
      have spaces : ∃ first rest, (indent level).toList ++ char :: text = first :: rest ∧
          first ≠ 'P' := by
        cases level with
        | zero => exact ⟨char, text, rfl, other⟩
        | succ level => exact ⟨' ', ' ' :: (indent level).toList ++ char :: text, by simp [indent],
            by decide⟩
      obtain ⟨first, rest, spelled, different⟩ := spaces
      have split : (indent (level + 1)).toList ++ char :: text = ' ' :: ' ' :: first :: rest := by
        rw [indent, String.toList_append, List.append_assoc, spelled]
        rfl
      rw [split, uncast_space_cons (by decide), uncast_space_cons different, ← spelled,
        inductionHypothesis]

/-- What stands before a newline and what stands behind it may be told apart. -/
theorem Uncast.append_newline {front rest : List Char} (clean : Uncast front)
    (cleanRest : Uncast rest) : Uncast (front ++ '\n' :: rest) := fun within =>
  (infix_append_cons (by decide) within).elim clean cleanRest

theorem Uncast.textOf_append {lines : List String} (clean : ∀ line ∈ lines, Uncast line.toList)
    {rest : List Char} (cleanRest : Uncast rest) : Uncast (textOf lines ++ rest) := by
  induction lines with
  | nil => exact cleanRest
  | cons line others inductionHypothesis =>
      rw [List.forall_mem_cons] at clean
      rw [textOf_cons, List.append_assoc, List.cons_append]
      exact clean.1.append_newline (inductionHypothesis clean.2)

/-! ## Controls without entries -/

mutual

/-- A control that is not in an entry and holds no list of objects. -/
def Control.Rooted : Control → Prop
  | .input path _ _ => path.anchor = none
  | .group _ controls => RootedControls controls
  | .valueArray path _ _ => path.anchor = none
  | .objectArray .. => False

/-- Each of some controls is rooted. -/
def RootedControls : List Control → Prop
  | [] => True
  | control :: rest => control.Rooted ∧ RootedControls rest

end

/-- A name holds no blank. -/
theorem space_not_mem_of_isName {name : List Char} (named : IsName name) : ' ' ∉ name :=
  fun member => absurd (named.2 ' ' member) (by decide)

theorem Path.attributeValue_of_anchor {path : Path} (rooted : path.anchor = none) :
    path.attributeValue = path.expression := by
  simp [attributeValue, rooted]

theorem Path.isCast_of_anchor {path : Path} (rooted : path.anchor = none) :
    path.isCast = false := by
  simp [isCast, rooted]

/-- The dotted form of a path stands in a literal as it is. -/
theorem Path.Bound.toList_quote_dotted {path : Path} (bound : path.Bound) :
    (quote path.dotted).toList = '"' :: (path.dotted.toList ++ ['"']) := by
  refine Json.toList_quote_of_plain fun char member => ?_
  rcases Bool.or_eq_true_iff.1 (bound.isPathChar_dotted char member) with named | dot
  · exact Json.quoteChar_of_isNameChar char named
  · rw [beq_iff_eq.1 dot]
    rfl

/-- The characters of the expression for a path are those of the path and the marks around it. -/
theorem Path.Bound.forall_mem_expression {path : Path} (bound : path.Bound) :
    ∀ char ∈ path.expression.toList,
      Form.isPathChar char = true ∨ char ∈ ['"', '\x60', '$', '\x7b', '\x7d'] := by
  intro char member
  cases anchored : path.anchor with
  | none =>
      simp only [expression, anchored, bound.toList_quote_dotted, List.mem_cons, List.mem_append,
        List.not_mem_nil, or_false] at member
      rcases member with rfl | dotted | rfl
      · exact .inr (by decide)
      · exact .inl (bound.isPathChar_dotted char dotted)
      · exact .inr (by decide)
  | some anchor =>
      have isVariable := bound.anchored anchor anchored
      have dot : Form.isPathChar '.' = true := by decide
      have marked : ∀ char ∈ "`$\x7b".toList ++ ("\x7d.".toList ++ "`".toList),
          Form.isPathChar char = true ∨ char ∈ ['"', '\x60', '$', '\x7b', '\x7d'] := by
        simp [dot]
      simp only [expression, anchored, bound.nonempty, if_false, String.toList_append,
        List.mem_append] at member
      rcases member with (((front | inAnchor) | middle) | dotted) | last
      · exact marked char (List.mem_append_left _ front)
      · exact .inl (by simp [Form.isPathChar, isVariable.2 char inAnchor])
      · exact marked char (List.mem_append_right _ (List.mem_append_left _ middle))
      · exact .inl (bound.isPathChar_dotted char dotted)
      · exact marked char (List.mem_append_right _ (List.mem_append_right _ last))

/-- The expression for a path at the root is a literal, and holds no blank. -/
theorem Path.Bound.exists_expression {path : Path} (bound : path.Bound)
    (rooted : path.anchor = none) :
    ∃ literal, path.expression.toList = '"' :: literal ∧ ' ' ∉ literal := by
  refine ⟨path.dotted.toList ++ ['"'], ?_, fun member => ?_⟩
  · simp [expression, rooted, bound.toList_quote_dotted]
  · have inExpression : ' ' ∈ path.expression.toList := by
      simp only [expression, rooted, bound.toList_quote_dotted]
      exact List.mem_cons_of_mem _ member
    exact absurd (bound.forall_mem_expression ' ' inExpression) (by decide)

/-- The value of an attribute that holds a path holds no blank. -/
theorem Path.Bound.space_not_mem_attributeValue {path : Path} (bound : path.Bound) :
    ' ' ∉ path.attributeValue.toList := by
  have visible : ' ' ∉ path.expression.toList := fun member =>
    absurd (bound.forall_mem_expression ' ' member) (by decide)
  unfold attributeValue
  split
  · simpa using visible
  · exact visible

/-! ## Default values -/

/-- A key holds no mark of a type argument. -/
theorem angle_not_mem_objectKey {name : String} (named : IsName name.toList) :
    '<' ∉ (objectKey name).toList := by
  have plain : '<' ∉ name.toList := fun member => absurd (named.2 '<' member) (by decide)
  rcases objectKey_eq_or name with same | literal
  · rwa [same]
  · rw [literal, quote, Json.toList_quote_of_plain fun char member =>
      Json.quoteChar_of_isNameChar char (named.2 char member)]
    simpa using plain

mutual

/-- The literal of a default value holds no mark of a type argument. -/
theorem Default.angle_not_mem_print : ∀ value : Default, value.Keyed → '<' ∉ value.print.toList
  | .emptyText, _ | .zero, _ | .unchecked, _ | .emptyArray, _ | .object [], _ => by decide
  | .object ((name, value) :: rest), keyed => by
      have here := Default.angle_not_mem_print value keyed.2.1
      have others := angle_not_mem_printRest rest keyed.2.2
      simp [Default.print, angle_not_mem_objectKey keyed.1, here, others]

/-- The text of the entries of an object literal holds no mark of a type argument. -/
theorem Default.angle_not_mem_printRest : ∀ entries : List (String × Default),
    KeyedDefaults entries → '<' ∉ (Default.printRest entries).toList
  | [], _ => by decide
  | (name, value) :: rest, keyed => by
      have here := Default.angle_not_mem_print value keyed.2.1
      have others := angle_not_mem_printRest rest keyed.2.2
      simp [Default.printRest, angle_not_mem_objectKey keyed.1, here, others]

end

/-! ## Controls without casts -/

mutual

/-- Whether a control is an input in an entry, or holds one. -/
def Control.hasCast : Control → Bool
  | .input path _ _ => path.isCast
  | .group _ controls => anyCast controls
  | .valueArray .. => false
  | .objectArray _ _ _ _ controls => anyCast controls

/-- Whether one of some controls is an input in an entry, or holds one. -/
def anyCast : List Control → Bool
  | [] => false
  | control :: rest => control.hasCast || anyCast rest

end

mutual

theorem Control.hasCast_of_rooted : ∀ control : Control, control.Rooted → control.hasCast = false
  | .input .., rooted => Path.isCast_of_anchor rooted
  | .group _ controls, rooted => anyCast_of_rooted controls rooted
  | .valueArray .., _ => rfl
  | .objectArray .., rooted => absurd rooted id

theorem anyCast_of_rooted : ∀ controls : List Control, RootedControls controls →
    anyCast controls = false
  | [], _ => rfl
  | control :: rest, rooted => by
      rw [anyCast, control.hasCast_of_rooted rooted.1, anyCast_of_rooted rest rooted.2]
      rfl

end

mutual

/-- The lines of a control that is no input in an entry and holds none hold no casts. -/
theorem Control.uncast_lines (record : String) : ∀ (control : Control) (level : Nat),
    control.WellNamed → control.hasCast = false →
      ∀ line ∈ control.lines record level, Uncast line.toList
  | .input path label kind, level, ⟨bound, labelled⟩, uncast => by
      have rooted : path.anchor = none := by simpa [Control.hasCast, Path.isCast] using uncast
      obtain ⟨literal, expression, visible⟩ := bound.exists_expression rooted
      have bare := Path.attributeValue_of_anchor rooted
      have registered := Path.isCast_of_anchor rooted
      have named := space_not_mem_of_isName labelled
      rw [Control.lines]
      cases kind <;>
        simp [bare, registered, expression, registration, InputKind.word, uncast_indent_cons,
          uncast_cons, uncast_space_cons, uncast_append visible, uncast_append named, uncast_nil]
  | .group label controls, level, ⟨labelled, wellNamed⟩, uncast => by
      have named := space_not_mem_of_isName labelled
      have nested := uncast_controlLines record controls (level + 1) wellNamed uncast
      rw [Control.lines]
      simp only [List.forall_mem_append]
      refine ⟨⟨?_, nested⟩, ?_⟩ <;>
        simp [uncast_indent_cons, uncast_cons, uncast_space_cons, uncast_append named, uncast_nil]
  | .valueArray path label item, level, ⟨bound, labelled, known⟩, _ => by
      have placed := bound.space_not_mem_attributeValue
      have named := space_not_mem_of_isName labelled
      have types : ∀ entry ∈ Form.itemTypes, ' ' ∉ entry.2.toList := by decide
      have typed := types _ known
      rw [Control.lines]
      simp [uncast_indent_cons, uncast_cons, uncast_space_cons, uncast_append placed,
        uncast_append named, uncast_append typed, uncast_nil]
  | .objectArray path label empty entry controls, level, wellNamed, uncast => by
      obtain ⟨bound, labelled, keyed, entered, wellNamed⟩ := wellNamed
      have named := space_not_mem_of_isName labelled
      have anchorNamed := space_not_mem_of_isName entered
      have initial : Uncast (empty.print.toList ++ ['\x7d']) :=
        uncast_of_not_mem (by decide : '<' ∈ _) (by simpa using empty.angle_not_mem_print keyed)
      have placed : Uncast path.attributeValue.toList :=
        uncast_of_not_mem (by decide) bound.space_not_mem_attributeValue
      have nested := uncast_controlLines record controls (level + 3) wellNamed uncast
      rw [Control.lines]
      simp only [List.forall_mem_append]
      refine ⟨⟨?_, nested⟩, ?_⟩ <;>
        simp [uncast_indent_cons, uncast_cons, uncast_space_cons, uncast_append named,
          uncast_append anchorNamed, uncast_nil, initial, placed]

/-- The lines of controls that are no inputs in entries and hold none hold no casts. -/
theorem uncast_controlLines (record : String) : ∀ (controls : List Control) (level : Nat),
    WellNamedControls controls → anyCast controls = false →
      ∀ line ∈ controlLines record level controls, Uncast line.toList
  | [], _, _, _ => nofun
  | control :: rest, level, wellNamed, uncast => by
      obtain ⟨here, later⟩ := Bool.or_eq_false_iff.1 uncast
      rw [controlLines, List.forall_mem_append]
      exact ⟨control.uncast_lines record level wellNamed.1 here,
        uncast_controlLines record rest level wellNamed.2 later⟩

end

/-! ## Schemas without arrays of objects -/

mutual

/-- The control for a field is rooted if neither the field nor one nested in it is an array of
objects. -/
theorem Control.rooted_ofShape (depth : Nat) {path : Path} (rooted : path.anchor = none)
    (place : Path) (name : String) (required repeated : Bool) : ∀ shape : Shape,
      (∀ entry ∈ (place, (⟨name, required, repeated, shape⟩ : Field)) :: shape.walk place,
        entry.2.isObjectArray = false) →
        (Control.ofShape depth path name repeated shape).Rooted
  | .object fields, single => by
      rw [List.forall_mem_cons] at single
      cases repeated with
      | true => exact absurd single.1 (by simp [Field.isObjectArray, Field.item?])
      | false => exact rooted_controlsOf depth rooted place fields single.2
  | .string, _ | .number, _ | .boolean, _ | .unknown, _ => by
      cases repeated <;> exact rooted

/-- The controls for fields are rooted if none of the fields and of those nested in them is an array
of objects. -/
theorem rooted_controlsOf (depth : Nat) {parent : Path} (rooted : parent.anchor = none)
    (place : Path) : ∀ fields : List Field,
      (∀ entry ∈ walkFields place fields, entry.2.isObjectArray = false) →
        RootedControls (controlsOf depth parent fields)
  | [], _ => trivial
  | ⟨name, required, repeated, shape⟩ :: rest, single => by
      rw [walkFields, ← List.cons_append, List.forall_mem_append] at single
      have below : (parent.child name).anchor = none := rooted
      exact ⟨Control.rooted_ofShape depth below (place.child name) name required repeated shape
        single.1, rooted_controlsOf depth rooted place rest single.2⟩

end

end InterfaceGen
