import InterfaceGen.Json.Printer
import InterfaceGen.Schema.Basic

/-!
# Schemas as JSON

The wire form of a schema: an object with `name`, `fields` and `raw`. A field has a `name`, a
`type` and `required`; an array has an `itemType`, and an object has `fields`. The item type of an
array of objects is an object that lists their fields as `object`.

In reading, a field is required unless it says otherwise, and `raw` may be left out. If several
things are wrong with a field, its type is blamed before the fields nested in it, and those before
its name.
-/

namespace InterfaceGen

mutual

/-- The item type of an array whose items have a shape. -/
def Shape.toItemType : Shape → Json
  | .object fields => .object [("object", .array (fieldsToJson fields))]
  | shape => .string shape.word

/-- The members that a single value of a shape adds to its field. -/
def Shape.toMembers : Shape → List (String × Json)
  | .object fields => [("type", .string "object"), ("fields", .array (fieldsToJson fields))]
  | shape => [("type", .string shape.word)]

/-- The wire form of fields. -/
def fieldsToJson : List Field → List Json
  | [] => []
  | ⟨name, required, repeated, shape⟩ :: rest =>
    let kind :=
      if repeated then [("type", .string "array"), ("itemType", shape.toItemType)]
      else shape.toMembers
    .object ([("name", .string name)] ++ kind ++ [("required", .bool required)]) ::
      fieldsToJson rest

end

/-- The wire form of a schema. -/
def Schema.toJson (schema : Schema) : Json :=
  .object [("name", .string schema.name), ("fields", .array (fieldsToJson schema.fields)),
    ("raw", .string schema.raw)]

/-- The wire form of a schema as text. -/
def Schema.dump (schema : Schema) : String :=
  schema.toJson.print 0

/-- Why a JSON value is not the wire form of a schema. -/
inductive WireError where
  /-- A member that has to be a string is not there or is none. -/
  | stringMember (name : String)
  /-- Fields are not listed in an array. -/
  | fieldList
  /-- A type is none of the known ones. -/
  | type
  /-- An item type is none of the known ones. -/
  | itemType
  deriving DecidableEq, Repr

/-- A member that is a string. -/
def stringMember (name : String) (json : Json) : Except WireError String :=
  match json.member? name with
  | some (.string value) => .ok value
  | _ => .error (.stringMember name)

/-- A member that lists fields, still in wire form. -/
def listMember (name : String) (json : Json) : Except WireError (List Json) :=
  match json.member? name with
  | some (.array items) => .ok items
  | _ => .error .fieldList

/-- What a field holds, with the fields nested in it still in wire form. -/
inductive WireKind where
  | leaf (repeated : Bool) (shape : Shape)
  | nested (repeated : Bool) (fields : List Json)

/-- The shape that a word stands for, if that is no object. -/
def leafShape? : String → Option Shape
  | "string" => some .string
  | "number" => some .number
  | "boolean" => some .boolean
  | "unknown" => some .unknown
  | _ => none

/-- What a field in wire form holds. An item type that is not a word is read as an object. -/
def WireKind.ofJson (json : Json) : Except WireError WireKind :=
  match stringMember "type" json with
  | .error cause => .error cause
  | .ok "object" => (listMember "fields" json).map (nested false)
  | .ok "array" =>
    match json.member? "itemType" with
    | none => .error .fieldList
    | some (.string word) =>
      match leafShape? word with
      | some shape => .ok (leaf true shape)
      | none => .error .itemType
    | some item => (listMember "object" item).map (nested true)
  | .ok word =>
    match leafShape? word with
    | some shape => .ok (leaf false shape)
    | none => .error .type

/-- Whether a field in wire form is required. -/
def wireRequired (json : Json) : Bool :=
  match json.member? "required" with
  | some (.bool required) => required
  | _ => true

theorem sizeOf_lt_of_lookup? {name : String} {members : List (String × Json)} {value : Json}
    (found : Json.lookup? name members = some value) : sizeOf value < sizeOf members := by
  induction members with
  | nil => simp [Json.lookup?] at found
  | cons member rest inductionHypothesis =>
      obtain ⟨key, held⟩ := member
      simp only [Json.lookup?] at found
      split at found
      · next later =>
          cases found
          have := inductionHypothesis later
          simp
          omega
      · split at found
        · cases found
          simp
          omega
        · cases found

theorem sizeOf_lt_of_member? {name : String} {json value : Json}
    (found : json.member? name = some value) : sizeOf value < sizeOf json := by
  cases json with
  | object members =>
      have := sizeOf_lt_of_lookup? found
      simp
      omega
  | _ => simp [Json.member?] at found

theorem sizeOf_lt_of_listMember {name : String} {json : Json} {items : List Json}
    (listed : listMember name json = .ok items) : sizeOf items < sizeOf json := by
  rw [listMember] at listed
  split at listed
  · next found =>
      cases listed
      have := sizeOf_lt_of_member? found
      simp at this
      omega
  · cases listed

theorem sizeOf_lt_of_map_nested {name : String} {json : Json} {given repeated : Bool}
    {fields : List Json}
    (kind : (listMember name json).map (WireKind.nested given) = .ok (.nested repeated fields)) :
    sizeOf fields < sizeOf json := by
  cases listed : listMember name json with
  | error cause => simp [listed, Except.map] at kind
  | ok items =>
      simp only [listed, Except.map, Except.ok.injEq, WireKind.nested.injEq] at kind
      rw [← kind.2]
      exact sizeOf_lt_of_listMember listed

theorem sizeOf_lt_of_nested {json : Json} {repeated : Bool} {fields : List Json}
    (kind : WireKind.ofJson json = .ok (.nested repeated fields)) :
    sizeOf fields < sizeOf json := by
  rw [WireKind.ofJson] at kind
  split at kind
  · cases kind
  · exact sizeOf_lt_of_map_nested kind
  · split at kind
    · cases kind
    · split at kind <;> cases kind
    · next item found =>
        exact Nat.lt_trans (sizeOf_lt_of_map_nested kind) (sizeOf_lt_of_member? found)
  · split at kind <;> cases kind

/-- Reads fields from their wire form. -/
def fieldsOfJson : List Json → Except WireError (List Field)
  | [] => .ok []
  | json :: rest =>
    match _ : WireKind.ofJson json with
    | .error cause => .error cause
    | .ok (.leaf repeated shape) => do
      let name ← stringMember "name" json
      return ⟨name, wireRequired json, repeated, shape⟩ :: (← fieldsOfJson rest)
    | .ok (.nested repeated fields) => do
      let fields ← fieldsOfJson fields
      let name ← stringMember "name" json
      return ⟨name, wireRequired json, repeated, .object fields⟩ :: (← fieldsOfJson rest)
termination_by fields => sizeOf fields
decreasing_by
  · simp only [List.cons.sizeOf_spec]
    omega
  · have := sizeOf_lt_of_nested (by assumption)
    simp only [List.cons.sizeOf_spec]
    omega
  · simp only [List.cons.sizeOf_spec]
    omega

/-- Reads a schema from its wire form. -/
def Schema.ofJson (json : Json) : Except WireError Schema := do
  let name ← stringMember "name" json
  let fields ← fieldsOfJson (← listMember "fields" json)
  let raw :=
    match json.member? "raw" with
    | some (.string raw) => raw
    | _ => ""
  return ⟨name, fields, raw⟩

end InterfaceGen
