import InterfaceGen.Proofs.Text.Blanks
import InterfaceGen.Schema.Basic

/-!
# Levels of a schema

The fields of a schema, and those of each object nested in it, form a level. Laws about names are
laws about the levels.
-/

namespace InterfaceGen

open Text

mutual

/-- A law holds of every level within a shape. -/
def Shape.EveryLevel (law : List Field → Prop) : Shape → Prop
  | .object fields => law fields ∧ EveryLevelBelow law fields
  | .string | .number | .boolean | .unknown => True

/-- A law holds of every level nested in the fields of one level. -/
def EveryLevelBelow (law : List Field → Prop) : List Field → Prop
  | [] => True
  | ⟨_, _, _, shape⟩ :: rest => shape.EveryLevel law ∧ EveryLevelBelow law rest

end

/-- A law holds of every level of a schema. -/
def Schema.EveryLevel (law : List Field → Prop) (schema : Schema) : Prop :=
  (Shape.object schema.fields).EveryLevel law

mutual

/-- Two laws that hold of every level within a shape hold together there. -/
theorem Shape.EveryLevel.and {law other : List Field → Prop} : ∀ shape : Shape,
    shape.EveryLevel law → shape.EveryLevel other →
      shape.EveryLevel fun fields => law fields ∧ other fields
  | .object fields, holds, alsoHolds =>
      ⟨⟨holds.1, alsoHolds.1⟩, EveryLevelBelow.and fields holds.2 alsoHolds.2⟩
  | .string, _, _ | .number, _, _ | .boolean, _, _ | .unknown, _, _ => trivial

/-- Two laws that hold of every level nested in fields hold together there. -/
theorem EveryLevelBelow.and {law other : List Field → Prop} : ∀ fields : List Field,
    EveryLevelBelow law fields → EveryLevelBelow other fields →
      EveryLevelBelow (fun fields => law fields ∧ other fields) fields
  | [], _, _ => trivial
  | ⟨_, _, _, shape⟩ :: rest, holds, alsoHolds =>
      ⟨Shape.EveryLevel.and shape holds.1 alsoHolds.1,
        EveryLevelBelow.and rest holds.2 alsoHolds.2⟩

end

mutual

/-- What follows from a law holds of every level within a shape of which the law holds. -/
theorem Shape.EveryLevel.mono {law other : List Field → Prop}
    (follows : ∀ fields, law fields → other fields) : ∀ {shape : Shape},
      shape.EveryLevel law → shape.EveryLevel other
  | .object fields, holds => ⟨follows fields holds.1, EveryLevelBelow.mono follows holds.2⟩
  | .string, _ | .number, _ | .boolean, _ | .unknown, _ => trivial

/-- What follows from a law holds of every level nested in fields of which the law holds. -/
theorem EveryLevelBelow.mono {law other : List Field → Prop}
    (follows : ∀ fields, law fields → other fields) : ∀ {fields : List Field},
      EveryLevelBelow law fields → EveryLevelBelow other fields
  | [], _ => trivial
  | ⟨_, _, _, _⟩ :: _, holds =>
      ⟨Shape.EveryLevel.mono follows holds.1, EveryLevelBelow.mono follows holds.2⟩

end

/-- Every law holds of every level within a shape that has none. -/
theorem Shape.everyLevel_of_leaf {law : List Field → Prop} {shape : Shape}
    (leaf : ∀ members, shape ≠ .object members) : shape.EveryLevel law := by
  cases shape with
  | object members => exact absurd rfl (leaf members)
  | _ => trivial

/-- What holds of every level nested in fields holds of those in the shape of each. -/
theorem EveryLevelBelow.of_mem {law : List Field → Prop} {fields : List Field} {field : Field}
    (below : EveryLevelBelow law fields) (member : field ∈ fields) : field.shape.EveryLevel law := by
  induction fields with
  | nil => contradiction
  | cons first rest inductionHypothesis =>
      obtain ⟨name, required, repeated, shape⟩ := first
      rcases List.mem_cons.1 member with rfl | later
      · exact below.1
      · exact inductionHypothesis below.2 later

mutual

/-- A law that can be decided can be decided of every level within a shape. -/
def Shape.decEveryLevel (law : List Field → Prop) [DecidablePred law] :
    (shape : Shape) → Decidable (shape.EveryLevel law)
  | .object fields =>
    have := decEveryLevelBelow law fields
    inferInstanceAs (Decidable (law fields ∧ EveryLevelBelow law fields))
  | .string | .number | .boolean | .unknown => isTrue trivial

/-- A law that can be decided can be decided of every level nested in fields. -/
def decEveryLevelBelow (law : List Field → Prop) [DecidablePred law] :
    (fields : List Field) → Decidable (EveryLevelBelow law fields)
  | [] => isTrue trivial
  | ⟨_, _, _, shape⟩ :: rest =>
    have := shape.decEveryLevel law
    have := decEveryLevelBelow law rest
    inferInstanceAs (Decidable (shape.EveryLevel law ∧ EveryLevelBelow law rest))

end

instance (law : List Field → Prop) [DecidablePred law] (shape : Shape) :
    Decidable (shape.EveryLevel law) :=
  shape.decEveryLevel law

instance (law : List Field → Prop) [DecidablePred law] (schema : Schema) :
    Decidable (schema.EveryLevel law) :=
  inferInstanceAs (Decidable ((Shape.object schema.fields).EveryLevel law))

/-- Each field of a level has a name. -/
def Named (fields : List Field) : Prop :=
  ∀ field ∈ fields, IsName field.name.toList

theorem named_cons {field : Field} {fields : List Field} :
    Named (field :: fields) ↔ IsName field.name.toList ∧ Named fields :=
  List.forall_mem_cons

/-- No two fields of a level have one name. -/
def Distinct (fields : List Field) : Prop :=
  (fields.map (·.name)).Nodup

/-- No field of a level is an array of items of unknown type. -/
def Describable (fields : List Field) : Prop :=
  ∀ field ∈ fields, field.repeated = true → field.shape ≠ .unknown

instance : DecidablePred Named := fun fields =>
  inferInstanceAs (Decidable (∀ field ∈ fields, IsName field.name.toList))

instance : DecidablePred Distinct := fun fields =>
  inferInstanceAs (Decidable (fields.map (·.name)).Nodup)

instance : DecidablePred Describable := fun fields =>
  inferInstanceAs (Decidable (∀ field ∈ fields, field.repeated = true → field.shape ≠ .unknown))

end InterfaceGen
