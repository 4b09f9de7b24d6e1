import InterfaceGen.Proofs.Form.Recovery
import InterfaceGen.Schema.Walk

/-!
# What forms bind

The controls of a form bind places of a schema. A path that begins at the variable for an entry
leads on from the place of the list that the entry is in. For the form of a schema the places are
those of its fields, in the order of their walk.
-/

namespace InterfaceGen

open Text

/-! ## Places -/

/-- What a control lets a user enter. -/
inductive Binding where
  /-- One value. -/
  | input (kind : InputKind)
  /-- A list of single values, given the word for their type. -/
  | values (item : String)
  /-- A list of objects. -/
  | objects
  deriving DecidableEq, Repr

/-- The variables for entries and the places of the lists that they are in, the innermost first. -/
abbrev Scopes := List (String × Path)

namespace Scopes

/-- The place that a path leads to. A path at a variable has to lie right in the list that binds the
variable: the variables of the lists around that one are out of reach. -/
def place? (scopes : Scopes) (path : Path) : Option Path :=
  match path.anchor, scopes with
  | none, _ => some path
  | some anchor, (entry, list) :: _ =>
    if anchor = entry then some ⟨list.anchor, list.segments ++ path.segments⟩ else none
  | some _, [] => none

/-- Goes into a list at a place. The variable for its entries has to be a new one. -/
def enter? (scopes : Scopes) (entry : String) (list : Path) : Option Scopes :=
  if entry ∈ scopes.map (·.1) then none else some ((entry, list) :: scopes)

end Scopes

mutual

/-- The places that a control binds, in order of appearance. There are none if a variable is bound
twice or used where it is not bound. -/
def Control.bindings? (scopes : Scopes) : Control → Option (List (Path × Binding))
  | .input path _ kind => (scopes.place? path).map fun place => [(place, .input kind)]
  | .group _ controls => bindingsOf? scopes controls
  | .valueArray path _ item => (scopes.place? path).map fun place => [(place, .values item)]
  | .objectArray path _ _ entry controls =>
    match scopes.place? path with
    | none => none
    | some place =>
      match scopes.enter? entry place with
      | none => none
      | some inner => (bindingsOf? inner controls).map fun nested => (place, .objects) :: nested

/-- The places that controls bind, in order of appearance. -/
def bindingsOf? (scopes : Scopes) : List Control → Option (List (Path × Binding))
  | [] => some []
  | control :: rest =>
    match control.bindings? scopes, bindingsOf? scopes rest with
    | some first, some others => some (first ++ others)
    | _, _ => none

end

/-- The places that the form in the text of a form module binds, in order of appearance. -/
def Form.bindings? (text : String) : Option (List (Path × Binding)) :=
  (controls? text).bind (bindingsOf? [])

/-- What the control for a field lets a user enter. A field that holds one object has no control of
its own. -/
def Field.binding? (field : Field) : Option Binding :=
  match field.repeated, field.shape with
  | false, .string | false, .unknown => some (.input .text)
  | false, .number => some (.input .number)
  | false, .boolean => some (.input .checkbox)
  | false, .object _ => none
  | true, .object _ => some .objects
  | true, shape => some (.values shape.word)

/-- The places that fields are bound at, given the fields with their places. -/
def boundFields (fields : List (Path × Field)) : List (Path × Binding) :=
  fields.filterMap fun (place, field) => field.binding?.map (place, ·)

theorem boundFields_append (left right : List (Path × Field)) :
    boundFields (left ++ right) = boundFields left ++ boundFields right :=
  List.filterMap_append

/-! ## Variables -/

/-- Entries at different depths have different variables. -/
theorem entryVariable_inj {left right : Nat} (same : entryVariable left = entryVariable right) :
    left = right := by
  apply toString_inj
  simpa [entryVariable] using same

namespace Scopes

/-- All variables are those of entries that lie within fewer than `depth` others. -/
def Within (depth : Nat) (scopes : Scopes) : Prop :=
  ∀ scope ∈ scopes, ∃ outer < depth, scope.1 = entryVariable outer

/-- The variable for an entry at a depth is new among those of entries around it. -/
theorem Within.enter?_entryVariable {depth : Nat} {scopes : Scopes} (within : scopes.Within depth)
    (list : Path) : scopes.enter? (entryVariable depth) list =
      some ((entryVariable depth, list) :: scopes) := by
  refine if_neg ?_
  intro member
  obtain ⟨scope, inScopes, same⟩ := List.mem_map.1 member
  obtain ⟨outer, less, variableOf⟩ := within scope inScopes
  have equal := entryVariable_inj (variableOf.symm.trans same)
  omega

/-- With the variable for an entry the variables go one deeper. -/
theorem Within.cons {depth : Nat} {scopes : Scopes} (within : scopes.Within depth) (list : Path) :
    Within (depth + 1) ((entryVariable depth, list) :: scopes) := by
  refine List.forall_mem_cons.2 ⟨⟨depth, by omega, rfl⟩, ?_⟩
  intro scope member
  obtain ⟨outer, less, variableOf⟩ := within scope member
  exact ⟨outer, by omega, variableOf⟩

/-- One name further on a path is one name further from its place. -/
theorem place?_child {scopes : Scopes} {path place : Path}
    (placed : scopes.place? path = some place) (name : String) :
    scopes.place? (path.child name) = some (place.child name) := by
  obtain ⟨anchor, segments⟩ := path
  cases anchor with
  | none =>
      obtain rfl : (⟨none, segments⟩ : Path) = place := by simpa [place?] using placed
      rfl
  | some anchor =>
      cases scopes with
      | nil => simp [place?] at placed
      | cons scope outer =>
          obtain ⟨entry, list⟩ := scope
          simp only [place?, Path.child] at placed ⊢
          split at placed
          · next same =>
              obtain rfl := Option.some.inj placed
              rw [if_pos same, List.append_assoc]
          · contradiction

/-- The variable for an entry stands for the place of its list. -/
theorem place?_under (scopes : Scopes) (entry : String) (list : Path) :
    place? ((entry, list) :: scopes) (.under entry) = some list := by
  simp [place?, Path.under]

end Scopes

/-! ## Bindings of a schema -/

mutual

/-- The control for a field binds the place of the field and those of the fields nested in it. -/
theorem bindings?_ofShape (name : String) (required repeated : Bool) :
    ∀ (shape : Shape) {depth : Nat} {scopes : Scopes} {path place : Path}, scopes.Within depth →
      scopes.place? path = some place →
        (Control.ofShape depth path name repeated shape).bindings? scopes =
          some (boundFields ((place, ⟨name, required, repeated, shape⟩) :: shape.walk place))
  | .object fields, depth, scopes, path, place, within, placed => by
      cases repeated with
      | false =>
          have nested := bindingsOf?_controlsOf fields within placed
          simpa [Control.ofShape, Control.bindings?, Shape.walk, boundFields, Field.binding?]
            using nested
      | true =>
          have entered := within.enter?_entryVariable place
          have nested := bindingsOf?_controlsOf fields (within.cons place)
            (Scopes.place?_under scopes (entryVariable depth) place)
          simp [Control.ofShape, Control.bindings?, placed, entered, nested, Shape.walk,
            boundFields, Field.binding?]
  | .string, _, _, _, _, _, placed | .number, _, _, _, _, _, placed
  | .boolean, _, _, _, _, _, placed | .unknown, _, _, _, _, _, placed => by
      cases repeated <;>
        simp [Control.ofShape, Control.bindings?, placed, InputKind.ofShape, Shape.walk,
          boundFields, Field.binding?]

/-- The controls for fields bind the places of the fields and of those nested in them, in order. -/
theorem bindingsOf?_controlsOf : ∀ (fields : List Field) {depth : Nat} {scopes : Scopes}
    {parent place : Path}, scopes.Within depth → scopes.place? parent = some place →
      bindingsOf? scopes (controlsOf depth parent fields) =
        some (boundFields (walkFields place fields))
  | [], _, _, _, _, _, _ => rfl
  | ⟨name, required, repeated, shape⟩ :: rest, depth, scopes, parent, place, within, placed => by
      have first := bindings?_ofShape name required repeated shape within
        (Scopes.place?_child placed name)
      have others := bindingsOf?_controlsOf rest within placed
      simp only [controlsOf, bindingsOf?, first, others, walkFields, ← boundFields_append,
        List.cons_append]

end

/-- The form of a schema binds exactly the fields of the schema that are no single objects, at their
paths and in the order of their walk. The text of any submit label will do that holds no mark of an
element or of code. -/
theorem bindings?_toForm (schema : Schema) (config : Config) (named : IsName schema.name.toList)
    (levels : schema.EveryLevel Named) (plain : Form.IsText config.submitLabel.toList) :
    Form.bindings? (schema.toForm config).print =
      some (schema.walk.filterMap fun (path, field) => field.binding?.map (path, ·)) := by
  have within : Scopes.Within 0 [] := nofun
  rw [Form.bindings?, controls?_toForm schema config named levels plain, Option.bind_some,
    bindingsOf?_controlsOf schema.fields within rfl]
  rfl

/-- The form of a record with an object in an entry and entries in that object. -/
theorem bindings?_toForm_entries :
    let schema : Schema := ⟨"Order",
      [⟨"note", false, false, .unknown⟩,
        ⟨"lines", true, true, .object
          [⟨"price", true, false, .number⟩,
            ⟨"part", true, false, .object
              [⟨"tags", true, true, .string⟩,
                ⟨"checks", true, true, .object [⟨"2nd", true, false, .boolean⟩]⟩]⟩]⟩], ""⟩
    let config : Config := ⟨"/api", "./schema", "Place the order"⟩
    IsName schema.name.toList ∧ schema.EveryLevel Named ∧
      Form.IsText config.submitLabel.toList ∧
      Form.bindings? (schema.toForm config).print =
        some [(⟨none, ["note"]⟩, .input .text), (⟨none, ["lines"]⟩, .objects),
          (⟨none, ["lines", "price"]⟩, .input .number),
          (⟨none, ["lines", "part", "tags"]⟩, .values "string"),
          (⟨none, ["lines", "part", "checks"]⟩, .objects),
          (⟨none, ["lines", "part", "checks", "2nd"]⟩, .input .checkbox)] := by
  intro schema config
  have named : IsName schema.name.toList := by decide
  have levels : schema.EveryLevel Named := by decide
  have plain : Form.IsText config.submitLabel.toList := by decide
  exact ⟨named, levels, plain, (bindings?_toForm schema config named levels plain).trans
    (by decide)⟩

end InterfaceGen
