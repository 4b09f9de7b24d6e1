import InterfaceGen.Proofs.Json.ReadBack
import InterfaceGen.Schema.Wire

/-!
# The wire format read back

The wire format says which documents stand for which fields, apart from the functions that write
and read them. What is written is in the format, and what is in the format reads back as the fields
it stands for, so the dump of a schema loses nothing.
-/

namespace InterfaceGen

/-! ## The wire format -/

/-- The words of the types that have no parts. -/
def leafTypes : List (String × Shape) :=
  [("string", .string), ("number", .number), ("boolean", .boolean), ("unknown", .unknown)]

/-- The object that stands for a field: its name, the members that describe its kind, and whether it
is required. -/
def fieldObject (name : String) (kind : List (String × Json)) (required : Bool) : Json :=
  .object (("name", .string name) :: (kind ++ [("required", .bool required)]))

/-- Documents stand for fields, one for each in their order. Only arrays have an item type and only
objects have fields. -/
inductive WireFields : List Json → List Field → Prop where
  | nil : WireFields [] []
  | leaf {name word : String} {required : Bool} {shape : Shape} {items : List Json}
      {fields : List Field} (type : (word, shape) ∈ leafTypes) (rest : WireFields items fields) :
      WireFields (fieldObject name [("type", .string word)] required :: items)
        (⟨name, required, false, shape⟩ :: fields)
  | object {name : String} {required : Bool} {inner items : List Json}
      {members fields : List Field} (nested : WireFields inner members)
      (rest : WireFields items fields) :
      WireFields
        (fieldObject name [("type", .string "object"), ("fields", .array inner)] required :: items)
        (⟨name, required, false, .object members⟩ :: fields)
  | leaves {name word : String} {required : Bool} {shape : Shape} {items : List Json}
      {fields : List Field} (type : (word, shape) ∈ leafTypes) (rest : WireFields items fields) :
      WireFields
        (fieldObject name [("type", .string "array"), ("itemType", .string word)] required :: items)
        (⟨name, required, true, shape⟩ :: fields)
  | objects {name : String} {required : Bool} {inner items : List Json}
      {members fields : List Field} (nested : WireFields inner members)
      (rest : WireFields items fields) :
      WireFields
        (fieldObject name
          [("type", .string "array"), ("itemType", .object [("object", .array inner)])] required ::
            items)
        (⟨name, required, true, .object members⟩ :: fields)

/-- A document stands for a schema. -/
inductive WireSchema : Json → Schema → Prop where
  | schema {name raw : String} {items : List Json} {fields : List Field}
      (listed : WireFields items fields) :
      WireSchema (.object [("name", .string name), ("fields", .array items), ("raw", .string raw)])
        ⟨name, fields, raw⟩

/-! ## What is written -/

/-- Fields are written in the wire format. -/
theorem wireFields_fieldsToJson : ∀ fields : List Field, WireFields (fieldsToJson fields) fields
  | [] => by
      rw [fieldsToJson]
      exact .nil
  | ⟨name, required, repeated, shape⟩ :: others => by
      have rest := wireFields_fieldsToJson others
      rw [fieldsToJson]
      cases shape with
      | object members =>
          have nested := wireFields_fieldsToJson members
          cases repeated with
          | false => exact .object nested rest
          | true => exact .objects nested rest
      | string | number | boolean | unknown =>
          cases repeated with
          | false => exact .leaf (by simp [leafTypes, Shape.word]) rest
          | true => exact .leaves (by simp [leafTypes, Shape.word]) rest
termination_by fields => sizeOf fields

/-- A schema is written in the wire format. -/
theorem Schema.wireSchema_toJson (schema : Schema) : WireSchema schema.toJson schema :=
  .schema (wireFields_fieldsToJson schema.fields)

/-! ## What is read -/

/-- The word of a type without parts is read as that type, be it of a field or of the items of an
array. -/
theorem WireKind.ofJson_of_leafTypes {word : String} {shape : Shape}
    (type : (word, shape) ∈ leafTypes) (name : String) (required : Bool) :
    WireKind.ofJson (fieldObject name [("type", .string word)] required) = .ok (.leaf false shape) ∧
      WireKind.ofJson
          (fieldObject name [("type", .string "array"), ("itemType", .string word)] required) =
        .ok (.leaf true shape) := by
  simp only [leafTypes, List.mem_cons, Prod.mk.injEq, List.not_mem_nil, or_false] at type
  obtain ⟨rfl, rfl⟩ | ⟨rfl, rfl⟩ | ⟨rfl, rfl⟩ | ⟨rfl, rfl⟩ := type <;> exact ⟨rfl, rfl⟩

/-- A field whose kind has no fields is read, and the others behind it. -/
theorem fieldsOfJson_leaf {json : Json} {items : List Json} {repeated : Bool} {shape : Shape}
    {name : String} {fields : List Field} (kind : WireKind.ofJson json = .ok (.leaf repeated shape))
    (named : stringMember "name" json = .ok name) (rest : fieldsOfJson items = .ok fields) :
    fieldsOfJson (json :: items) = .ok (⟨name, wireRequired json, repeated, shape⟩ :: fields) := by
  rw [fieldsOfJson]
  split
  · next cause failed => simp [kind] at failed
  · next found =>
      obtain ⟨rfl, rfl⟩ : repeated = _ ∧ shape = _ := by simpa [kind] using found
      simp only [named, rest, bind, Except.bind]
      rfl
  · next found => simp [kind] at found

/-- A field is read with the fields of its kind, and the others behind it. -/
theorem fieldsOfJson_nested {json : Json} {items inner : List Json} {repeated : Bool}
    {name : String} {members fields : List Field}
    (kind : WireKind.ofJson json = .ok (.nested repeated inner))
    (named : stringMember "name" json = .ok name) (nested : fieldsOfJson inner = .ok members)
    (rest : fieldsOfJson items = .ok fields) :
    fieldsOfJson (json :: items) =
      .ok (⟨name, wireRequired json, repeated, .object members⟩ :: fields) := by
  rw [fieldsOfJson]
  split
  · next cause failed => simp [kind] at failed
  · next found => simp [kind] at found
  · next found =>
      obtain ⟨rfl, rfl⟩ : repeated = _ ∧ inner = _ := by simpa [kind] using found
      simp only [named, nested, rest, bind, Except.bind]
      rfl

/-- Documents in the wire format read back as the fields they stand for. -/
theorem WireFields.fieldsOfJson {items : List Json} {fields : List Field}
    (wire : WireFields items fields) : fieldsOfJson items = .ok fields := by
  induction wire with
  | nil => rw [InterfaceGen.fieldsOfJson]
  | leaf type _ rest => exact fieldsOfJson_leaf (WireKind.ofJson_of_leafTypes type _ _).1 rfl rest
  | object _ _ members rest => exact fieldsOfJson_nested rfl rfl members rest
  | leaves type _ rest => exact fieldsOfJson_leaf (WireKind.ofJson_of_leafTypes type _ _).2 rfl rest
  | objects _ _ members rest => exact fieldsOfJson_nested rfl rfl members rest

/-- A document in the wire format reads back as the schema it stands for. -/
theorem WireSchema.ofJson {document : Json} {schema : Schema} (wire : WireSchema document schema) :
    Schema.ofJson document = .ok schema := by
  obtain @⟨name, raw, items, fields, listed⟩ := wire
  have named : stringMember "name" (.object [("name", .string name), ("fields", .array items),
      ("raw", .string raw)]) = .ok name := rfl
  have list : listMember "fields" (.object [("name", .string name), ("fields", .array items),
      ("raw", .string raw)]) = .ok items := rfl
  rw [Schema.ofJson, named, list]
  simp only [bind, Except.bind, listed.fieldsOfJson]
  rfl

/-! ## How deep documents nest -/

/-- A value before values that nest up to some depth may nest deeper than they do. -/
theorem exists_nests_cons {first : Json} {others : List Json} {depth : Nat}
    (nests : Json.Nests depth first) (rest : ∃ depth, ∀ other ∈ others, Json.Nests depth other) :
    ∃ depth, ∀ item ∈ first :: others, Json.Nests depth item := by
  obtain ⟨inner, rest⟩ := rest
  refine ⟨max depth inner, List.forall_mem_cons.2 ⟨nests.mono (Nat.le_max_left _ _), ?_⟩⟩
  exact fun other member => (rest other member).mono (Nat.le_max_right _ _)

/-- The object of a field nests one level deeper than what describes its kind. -/
theorem nests_fieldObject (depth : Nat) {kind : List (String × Json)}
    (each : ∀ member ∈ kind, Json.Nests depth member.2) (name : String) (required : Bool) :
    Json.Nests (depth + 1) (fieldObject name kind required) := by
  refine .object (List.forall_mem_cons.2 ⟨.string name, List.forall_mem_append.2 ⟨each, ?_⟩⟩)
  exact List.forall_mem_singleton.2 (.bool required)

/-- Documents in the wire format nest up to some depth and hold no numbers. -/
theorem WireFields.exists_nests {items : List Json} {fields : List Field}
    (wire : WireFields items fields) : ∃ depth, ∀ item ∈ items, Json.Nests depth item := by
  induction wire with
  | nil => exact ⟨0, nofun⟩
  | leaf type _ rest =>
      refine exists_nests_cons (nests_fieldObject 0 ?_ _ _) rest
      simp [Json.Nests.string]
  | object _ _ members rest =>
      obtain ⟨depth, members⟩ := members
      refine exists_nests_cons (nests_fieldObject (depth + 1) ?_ _ _) rest
      simpa [Json.Nests.string] using Json.Nests.array members
  | leaves type _ rest =>
      refine exists_nests_cons (nests_fieldObject 0 ?_ _ _) rest
      simp [Json.Nests.string]
  | objects _ _ members rest =>
      obtain ⟨depth, members⟩ := members
      refine exists_nests_cons (nests_fieldObject (depth + 2) ?_ _ _) rest
      have inner : Json.Nests (depth + 2) (.object [("object", .array _)]) :=
        .object (List.forall_mem_singleton.2 (.array members))
      simpa [Json.Nests.string] using inner

theorem WireSchema.exists_nests {document : Json} {schema : Schema}
    (wire : WireSchema document schema) : ∃ depth, Json.Nests depth document := by
  obtain ⟨listed⟩ := wire
  obtain ⟨depth, items⟩ := listed.exists_nests
  refine ⟨depth + 2, .object ?_⟩
  simpa [Json.Nests.string] using Json.Nests.array items

/-! ## The dump of a schema -/

/-- The dump of a schema is a document, which stands for the schema. -/
theorem Schema.exists_parse?_dump (schema : Schema) :
    ∃ limit, ∀ depth ≥ limit, Json.parse? depth schema.dump = some schema.toJson := by
  obtain ⟨limit, nests⟩ := schema.wireSchema_toJson.exists_nests
  exact ⟨limit, fun depth within => Json.parse?_print nests within 0⟩

/-- A document stands for one schema. -/
theorem WireSchema.unique {document : Json} {schema other : Schema}
    (wire : WireSchema document schema) (otherWire : WireSchema document other) :
    other = schema :=
  Except.ok.inj (otherWire.ofJson.symm.trans wire.ofJson)

/-- The dump of a schema loses nothing: it is a document in the wire format that stands for this
schema alone and reads back as it, and no other schema has the same dump. -/
theorem Schema.dump_lossless (schema : Schema) :
    ∃ document, (∃ limit, ∀ depth ≥ limit, Json.parse? depth schema.dump = some document) ∧
      WireSchema document schema ∧ (∀ other, WireSchema document other → other = schema) ∧
      Schema.ofJson document = .ok schema ∧
      ∀ other : Schema, other.dump = schema.dump → other = schema := by
  have wire := schema.wireSchema_toJson
  refine ⟨schema.toJson, schema.exists_parse?_dump, wire, fun _ => wire.unique, wire.ofJson, ?_⟩
  intro other same
  obtain ⟨limit, parsed⟩ := schema.exists_parse?_dump
  obtain ⟨otherLimit, otherParsed⟩ := other.exists_parse?_dump
  have parsed := parsed (max limit otherLimit) (Nat.le_max_left _ _)
  have otherParsed := otherParsed (max limit otherLimit) (Nat.le_max_right _ _)
  rw [same, parsed] at otherParsed
  have otherWire := other.wireSchema_toJson
  rw [← Option.some.inj otherParsed] at otherWire
  exact wire.unique otherWire

end InterfaceGen
