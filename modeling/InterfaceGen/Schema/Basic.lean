/-!
# Schemas

A schema is the named record type that one declaration describes: a tree of fields in the order
of their declaration. Nothing is checked about the names, which may repeat.
-/

namespace InterfaceGen

mutual

/-- What one value of a field looks like. -/
inductive Shape where
  | string
  | number
  | boolean
  /-- An object with the given fields. -/
  | object (fields : List Field)
  /-- A type that has no other description, of which any value is one. -/
  | unknown
  deriving Repr

/-- One declared property. -/
structure Field where
  name : String
  /-- Whether the property has to be there. -/
  required : Bool
  /-- Whether the property holds an array of values of its shape in place of one value. -/
  repeated : Bool
  shape : Shape
  deriving Repr

end

mutual

/-- Whether two shapes are the same. -/
def Shape.decEq : (left right : Shape) → Decidable (left = right)
  | .string, .string | .number, .number | .boolean, .boolean | .unknown, .unknown => isTrue rfl
  | .object left, .object right =>
    match Field.decEqList left right with
    | isTrue same => isTrue (congrArg Shape.object same)
    | isFalse differ => isFalse fun same => differ (Shape.object.inj same)
  | .string, .number | .string, .boolean | .string, .object _ | .string, .unknown
  | .number, .string | .number, .boolean | .number, .object _ | .number, .unknown
  | .boolean, .string | .boolean, .number | .boolean, .object _ | .boolean, .unknown
  | .object _, .string | .object _, .number | .object _, .boolean | .object _, .unknown
  | .unknown, .string | .unknown, .number | .unknown, .boolean | .unknown, .object _ =>
    isFalse nofun

/-- Whether two lists of fields are the same. -/
def Field.decEqList : (left right : List Field) → Decidable (left = right)
  | [], [] => isTrue rfl
  | [], _ :: _ | _ :: _, [] => isFalse nofun
  | ⟨name, required, repeated, shape⟩ :: rest, ⟨name', required', repeated', shape'⟩ :: rest' =>
    match Shape.decEq shape shape', Field.decEqList rest rest' with
    | isTrue sameShape, isTrue sameRest =>
      if sameHead : name = name' ∧ required = required' ∧ repeated = repeated' then
        isTrue (by rw [sameHead.1, sameHead.2.1, sameHead.2.2, sameShape, sameRest])
      else
        isFalse fun same =>
          have sameFields := Field.mk.inj (List.cons.inj same).1
          sameHead ⟨sameFields.1, sameFields.2.1, sameFields.2.2.1⟩
    | isFalse differ, _ =>
      isFalse fun same => differ (Field.mk.inj (List.cons.inj same).1).2.2.2
    | _, isFalse differ => isFalse fun same => differ (List.cons.inj same).2

end

instance : DecidableEq Shape := Shape.decEq

instance : DecidableEq Field := fun left right =>
  match Field.decEqList [left] [right] with
  | isTrue same => isTrue (List.cons.inj same).1
  | isFalse differ => isFalse fun same => differ (congrArg (· :: []) same)

/-- A named list of fields. -/
structure Schema where
  name : String
  fields : List Field
  /-- The declaration's text between its outer braces, kept for diagnostics alone. -/
  raw : String
  deriving DecidableEq, Repr

/-- The word for a shape. -/
def Shape.word : Shape → String
  | .string => "string"
  | .number => "number"
  | .boolean => "boolean"
  | .object _ => "object"
  | .unknown => "unknown"

namespace Field

/-- The word for what a field holds. -/
def word (field : Field) : String :=
  if field.repeated then "array" else field.shape.word

/-- The shape of the items of an array field. -/
def item? (field : Field) : Option Shape :=
  if field.repeated then some field.shape else none

/-- The fields of the objects that a field holds, be it one object or an array of them. -/
def nested? (field : Field) : Option (List Field) :=
  match field.shape with
  | .object fields => some fields
  | _ => none

/-- The fields of a field that holds one object. -/
def members? (field : Field) : Option (List Field) :=
  if field.repeated then none else field.nested?

end Field

end InterfaceGen
