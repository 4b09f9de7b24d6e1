import InterfaceGen.Schema.Walk

/-!
# Use of arrays

Which kinds of array a schema has at any depth decides what a form has to import and define.
-/

namespace InterfaceGen

/-- Which kinds of array a schema has. -/
structure ArrayUsage where
  /-- Arrays of single values. -/
  values : Bool
  /-- Arrays of objects. -/
  objects : Bool
  deriving DecidableEq, Repr

namespace ArrayUsage

/-- Whether there is an array at all. -/
def any (usage : ArrayUsage) : Bool :=
  usage.values || usage.objects

end ArrayUsage

namespace Field

/-- Whether a field is an array of objects. -/
def isObjectArray (field : Field) : Bool :=
  match field.item? with
  | some (.object _) => true
  | _ => false

/-- Whether a field is an array of single values. -/
def isValueArray (field : Field) : Bool :=
  match field.item? with
  | some (.object _) | none => false
  | _ => true

end Field

/-- Which kinds of array a schema has. -/
def Schema.arrayUsage (schema : Schema) : ArrayUsage where
  values := schema.walk.any (·.2.isValueArray)
  objects := schema.walk.any (·.2.isObjectArray)

end InterfaceGen
