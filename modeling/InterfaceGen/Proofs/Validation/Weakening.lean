import InterfaceGen.Proofs.Validation.Edits

/-!
# Weaker schemas

A schema becomes weaker when a field becomes optional, or when what is known of a value is given up.
Validation of any document against the weaker schema reports some of the issues it reports against
the other one, in their order, and no others. So reading a type that has no description as unknown
costs no document its validity.
-/

namespace InterfaceGen

/-! ## Weakening -/

/-- A field is weakened in one place. It is made optional, its type is given up for the unknown one,
the type of its items is, or this is done to a field nested in it. -/
inductive Field.Weakens : Field → Field → Prop where
  | optional (field : Field) : field.Weakens { field with required := false }
  | unknown (field : Field) :
      field.Weakens { field with repeated := false, shape := .unknown }
  | unknownItems {field : Field} (repeated : field.repeated = true) :
      field.Weakens { field with shape := .unknown }
  | nested {field next weaker : Field} (front back : List Field)
      (holds : field.shape = .object (front ++ next :: back)) (inner : next.Weakens weaker) :
      field.Weakens { field with shape := .object (front ++ weaker :: back) }

/-- A schema is weakened in any number of places. -/
def Schema.Weakens (schema weaker : Schema) : Prop :=
  Relation.ReflTransGen Field.Weakens schema.whole weaker.whole

/-! ## Fewer issues -/

theorem Field.Weakens.name_eq {field weaker : Field} (weakens : field.Weakens weaker) :
    weaker.name = field.name := by
  cases weakens <;> rfl

/-- The issues of fields that stand one behind the other. -/
theorem fieldIssues_append (parent : Path) (members : List (String × Json))
    (front back : List Field) :
    fieldIssues parent members (front ++ back) =
      fieldIssues parent members front ++ fieldIssues parent members back := by
  induction front with
  | nil => rw [fieldIssues, List.nil_append, List.nil_append]
  | cons first rest inductionHypothesis =>
      rw [List.cons_append, fieldIssues_cons, fieldIssues_cons, inductionHypothesis,
        List.append_assoc]

/-- A check that reports less of each item reports less of all items. -/
theorem checkItems_sublist {check weaker : Path → Json → List Issue}
    (less : ∀ path item, (weaker path item).Sublist (check path item)) (path : Path) (index : Nat)
    (items : List Json) :
    (checkItems weaker path index items).Sublist (checkItems check path index items) := by
  induction items generalizing index with
  | nil => exact .slnil
  | cons item rest inductionHypothesis =>
      rw [checkItems, checkItems]
      exact (less _ item).append (inductionHypothesis (index + 1))

/-- A level with a field of which less is reported reports less. -/
theorem fieldIssues_sublist {next weaker : Field} (same : weaker.name = next.name)
    (less : ∀ path value?, (weaker.issues path value?).Sublist (next.issues path value?))
    (parent : Path) (members : List (String × Json)) (front back : List Field) :
    (fieldIssues parent members (front ++ weaker :: back)).Sublist
      (fieldIssues parent members (front ++ next :: back)) := by
  rw [fieldIssues_append, fieldIssues_append, fieldIssues_cons, fieldIssues_cons, same]
  exact (List.Sublist.refl _).append ((less _ _).append (.refl _))

/-- An array may not be missing, whatever its items are. -/
theorem acceptsAbsence_repeated (shape : Shape) : acceptsAbsence true shape = false := by
  cases shape <;> rfl

/-- A field whose shape reports less reports less, if it has a type where it had one. -/
theorem Field.issues_sublist_of_shape {field : Field} {shape : Shape}
    (absence : acceptsAbsence field.repeated shape = acceptsAbsence field.repeated field.shape)
    (less : ∀ path value, (shape.issues path value).Sublist (field.shape.issues path value))
    (path : Path) (value? : Option Json) :
    (Field.issues { field with shape } path value?).Sublist (field.issues path value?) := by
  cases value? with
  | none => simp only [issues, absence, List.Sublist.refl]
  | some value =>
      cases repeated : field.repeated with
      | true =>
          cases value with
          | array items =>
              simp only [issues, repeated, if_true]
              exact checkItems_sublist less path 0 items
          | _ => simp only [issues, repeated, if_true, List.Sublist.refl]
      | false =>
          simp only [issues, repeated, Bool.false_eq_true, if_false]
          exact less path value

/-- An object one of whose fields reports less reports less. -/
theorem Shape.issues_object_sublist {next weaker : Field} (same : weaker.name = next.name)
    (less : ∀ path value?, (weaker.issues path value?).Sublist (next.issues path value?))
    (front back : List Field) (path : Path) (value : Json) :
    ((Shape.object (front ++ weaker :: back)).issues path value).Sublist
      ((Shape.object (front ++ next :: back)).issues path value) := by
  cases value with
  | object members =>
      rw [Shape.issues, Shape.issues]
      exact fieldIssues_sublist same less path members front back
  | _ => exact .refl _

/-- One weakening makes a field report less. -/
theorem Field.Weakens.issues_sublist {field weaker : Field} (weakens : field.Weakens weaker)
    (path : Path) (value? : Option Json) :
    (weaker.issues path value?).Sublist (field.issues path value?) := by
  induction weakens generalizing path value? with
  | optional field =>
      cases value? with
      | none => simp [Field.issues]
      | some value => exact .refl _
  | unknown field =>
      rw [Field.issues_of_not_typed (by simp [Field.Typed])]
      exact List.nil_sublist _
  | unknownItems repeated =>
      refine Field.issues_sublist_of_shape (by simp [repeated, acceptsAbsence_repeated]) ?_ path
        value?
      intro place value
      rw [Shape.issues]
      exact List.nil_sublist _
  | nested front back holds inner inductionHypothesis =>
      refine Field.issues_sublist_of_shape (by simp [holds, acceptsAbsence]) ?_ path value?
      intro place value
      rw [holds]
      exact Shape.issues_object_sublist inner.name_eq inductionHypothesis front back place value

/-- Validation against a weaker schema reports a part of the issues, in their order. In particular
it has nothing to report of a document of which there was nothing to report. -/
theorem validate_sublist_of_weakens {schema weaker : Schema} (weakens : schema.Weakens weaker)
    (document : Json) :
    (weaker.validate document).Sublist (schema.validate document) ∧
      (schema.validate document = [] → weaker.validate document = []) := by
  have less {field other : Field} (chain : Relation.ReflTransGen Field.Weakens field other) :
      (other.issues .root (some document)).Sublist (field.issues .root (some document)) := by
    induction chain with
    | refl => exact .refl _
    | tail _ weakens inductionHypothesis =>
        exact (weakens.issues_sublist .root (some document)).trans inductionHypothesis
  have sublist : (weaker.validate document).Sublist (schema.validate document) := less weakens
  refine ⟨sublist, fun valid => ?_⟩
  rw [valid] at sublist
  exact List.sublist_nil.1 sublist

/-- One field becomes optional, one of an item unknown, and so do the items of an array. Of the
issues of a document there stays that of the other field of the item. -/
theorem validate_sublist_of_weakens_items :
    let count : Field := ⟨"count", true, false, .number⟩
    let schema : Schema := ⟨"P",
      [⟨"name", true, false, .string⟩,
        ⟨"items", true, true, .object [⟨"sku", true, false, .string⟩, count]⟩,
        ⟨"scores", true, true, .number⟩], ""⟩
    let weaker : Schema := ⟨"P",
      [⟨"name", false, false, .string⟩,
        ⟨"items", true, true, .object [⟨"sku", true, false, .unknown⟩, count]⟩,
        ⟨"scores", true, true, .unknown⟩], ""⟩
    let document : Json := .object
      [("items", .array [.object [("count", .string "two")]]), ("scores", .array [.null])]
    let report (schema : Schema) := (schema.validate document).map fun issue =>
      (issue.path.text, issue.message)
    schema.Weakens weaker ∧ (weaker.validate document).Sublist (schema.validate document) ∧
      report schema = [("name", "Required"), ("items.0.sku", "Required"),
        ("items.0.count", "Expected number, received string"),
        ("scores.0", "Expected number, received null")] ∧
      report weaker = [("items.0.count", "Expected number, received string")] := by
  intro count schema weaker document report
  let whole (fields : List Field) : Field := ⟨"P", true, false, .object fields⟩
  let name (required : Bool) : Field := ⟨"name", required, false, .string⟩
  let items (sku : Shape) : Field :=
    ⟨"items", true, true, .object [⟨"sku", true, false, sku⟩, count]⟩
  let scores (score : Shape) : Field := ⟨"scores", true, true, score⟩
  have first : Field.Weakens (whole [name true, items .string, scores .number])
      (whole [name false, items .string, scores .number]) :=
    .nested [] [items .string, scores .number] rfl (.optional (name true))
  have second : Field.Weakens (whole [name false, items .string, scores .number])
      (whole [name false, items .unknown, scores .number]) := by
    have inner : (items .string).Weakens (items .unknown) :=
      .nested [] [count] rfl (.unknown ⟨"sku", true, false, .string⟩)
    exact .nested [name false] [scores .number] rfl inner
  have third : Field.Weakens (whole [name false, items .unknown, scores .number])
      (whole [name false, items .unknown, scores .unknown]) := by
    have inner : (scores .number).Weakens (scores .unknown) := .unknownItems rfl
    exact .nested [name false, items .unknown] [] rfl inner
  have weakens : schema.Weakens weaker :=
    ((Relation.ReflTransGen.single first).tail second).tail third
  exact ⟨weakens, (validate_sublist_of_weakens weakens document).1, by decide +kernel,
    by decide +kernel⟩

end InterfaceGen
