import InterfaceGen.Json.Basic
import InterfaceGen.Schema.Basic
import InterfaceGen.Schema.Path

/-!
# Validation

Checks a JSON document against a schema. A required property has to be there, a property that is
there has to have the declared type, and nothing is said about properties that are not declared.
A property of unknown type may hold anything or be missing.
-/

namespace InterfaceGen

/-- What is wrong at a place of a document. -/
inductive Problem where
  /-- A required property is missing. -/
  | missing
  /-- A value has another type than the declared one. -/
  | mismatch (expected received : String)
  deriving DecidableEq, Repr

/-- The wording of a problem. -/
def Problem.message : Problem → String
  | missing => "Required"
  | mismatch expected received => "Expected " ++ expected ++ ", received " ++ received

/-- A problem and its place. On the way to an item of an array stands its index. -/
structure Issue where
  path : Path
  problem : Problem
  deriving DecidableEq, Repr

/-- The wording of an issue's problem. -/
def Issue.message (issue : Issue) : String :=
  issue.problem.message

/-- The issue of a value of the wrong type. -/
def mismatch (path : Path) (expected : String) (value : Json) : Issue :=
  ⟨path, .mismatch expected value.word⟩

/-- Checks the items of an array one by one, from an index on. -/
def checkItems (check : Path → Json → List Issue) (path : Path) (index : Nat) :
    List Json → List Issue
  | [] => []
  | item :: rest =>
    check (path.child (toString index)) item ++ checkItems check path (index + 1) rest

/-- Whether a property may be missing whatever its declaration says: one that holds a single value
of unknown type. -/
def acceptsAbsence (repeated : Bool) : Shape → Bool
  | .unknown => !repeated
  | _ => false

mutual

/-- The issues of one value against a shape. -/
def Shape.issues : Shape → Path → Json → List Issue
  | .unknown, _, _ => []
  | .object fields, path, .object members => fieldIssues path members fields
  | shape, path, value => if value.word = shape.word then [] else [mismatch path shape.word value]

/-- The issues of the members of an object against the fields declared for it, in the order of
declaration. -/
def fieldIssues (parent : Path) (members : List (String × Json)) : List Field → List Issue
  | [] => []
  | ⟨name, required, repeated, shape⟩ :: rest =>
    let path := parent.child name
    let here :=
      match Json.lookup? name members with
      | none => if required && !acceptsAbsence repeated shape then [⟨path, .missing⟩] else []
      | some value =>
        if repeated then
          match value with
          | .array items => checkItems (fun path item => shape.issues path item) path 0 items
          | other => [mismatch path "array" other]
        else shape.issues path value
    here ++ fieldIssues parent members rest

end

/-- Every issue of a document against a schema. -/
def Schema.validate (schema : Schema) (document : Json) : List Issue :=
  (Shape.object schema.fields).issues .root document

end InterfaceGen
