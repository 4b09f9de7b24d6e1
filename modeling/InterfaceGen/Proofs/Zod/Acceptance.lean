import InterfaceGen.Proofs.Zod.Recovery
import InterfaceGen.Validation

/-!
# What zod expressions accept

The values that an expression accepts when it runs. The expression in a schema module accepts every
document that validation finds nothing wrong with, and, unless a name is declared twice, no other.
-/

namespace InterfaceGen

open Text

namespace Zod

mutual

/-- Whether an expression accepts a value. Where a key is missing there is none. -/
def Expr.accepts : Expr → Option Json → Bool
  | .string, some (.string _) => true
  | .number, some (.number _) => true
  | .boolean, some (.bool _) => true
  | .any, _ => true
  | .array item, some (.array items) => items.all fun value => item.accepts (some value)
  | .object entries, some (.object members) => entriesAccept members entries
  | _, _ => false

/-- Whether the entries of an object expression accept the members of an object. Other members do
not matter. Of entries with one key the last counts, and `__proto__` is no key but gives the literal
its prototype. -/
def entriesAccept (members : List (String × Json)) : List Entry → Bool
  | [] => true
  | ⟨key, value, optional⟩ :: rest =>
    (key == "__proto__" || rest.any (·.key == key) ||
      (value.accepts (Json.lookup? key members) ||
        optional && (Json.lookup? key members).isNone)) && entriesAccept members rest

end

/-- The expression that the text of a schema module exports. -/
def expressionOf? (text : String) : Option Expr :=
  (SchemaModule.read? text.toList).map (·.schema)

end Zod

/-- No field of a level is named like the prototype of an object. -/
def Ordinary (fields : List Field) : Prop :=
  ∀ field ∈ fields, field.name ≠ "__proto__"

instance : DecidablePred Ordinary := fun fields =>
  inferInstanceAs (Decidable (∀ field ∈ fields, field.name ≠ "__proto__"))

/-! ## Issues of one field -/

/-- The issues of a field, given the value of its name if there is one. -/
def Field.issues (field : Field) (path : Path) : Option Json → List Issue
  | none =>
    if field.required && !acceptsAbsence field.repeated field.shape then [⟨path, .missing⟩] else []
  | some value =>
    if field.repeated then
      match value with
      | .array items => checkItems (fun path item => field.shape.issues path item) path 0 items
      | other => [mismatch path "array" other]
    else field.shape.issues path value

theorem fieldIssues_cons (parent : Path) (members : List (String × Json)) (field : Field)
    (rest : List Field) :
    fieldIssues parent members (field :: rest) =
      field.issues (parent.child field.name) (Json.lookup? field.name members) ++
        fieldIssues parent members rest := by
  obtain ⟨name, required, repeated, shape⟩ := field
  rw [fieldIssues]
  cases Json.lookup? name members <;> rfl

/-- Nothing is wrong with items when nothing is wrong with each, wherever it stands. -/
theorem checkItems_eq_nil {check : Path → Json → List Issue} {items : List Json}
    (clean : ∀ item ∈ items, ∀ place, check place item = []) (path : Path) (index : Nat) :
    checkItems check path index items = [] := by
  induction items generalizing index with
  | nil => rfl
  | cons item rest inductionHypothesis =>
      rw [checkItems, clean item List.mem_cons_self,
        inductionHypothesis fun other member => clean other (List.mem_cons_of_mem _ member)]
      rfl

/-- When nothing is wrong with items, nothing is wrong with any of them where it stands. -/
theorem exists_check_eq_nil {check : Path → Json → List Issue} {items : List Json} {path : Path}
    {index : Nat} (clean : checkItems check path index items = []) :
    ∀ item ∈ items, ∃ place, check place item = [] := by
  induction items generalizing index with
  | nil => exact nofun
  | cons first rest inductionHypothesis =>
      rw [checkItems, List.append_eq_nil_iff] at clean
      intro item member
      rcases List.mem_cons.1 member with rfl | later
      · exact ⟨_, clean.1⟩
      · exact inductionHypothesis clean.2 item later

/-! ## Acceptance of one field -/

namespace Field

/-- The expression of what a field holds. -/
def expression (field : Field) : Zod.Expr :=
  if field.repeated then .array (Zod.ofShape field.shape) else Zod.ofShape field.shape

/-- Whether the entry of a field accepts a value, or that there is none. -/
def admits (field : Field) (value? : Option Json) : Bool :=
  field.expression.accepts value? || !field.required && value?.isNone

/-- Only an expression for values of any kind accepts that there is none. -/
theorem accepts_none (field : Field) :
    field.expression.accepts none = acceptsAbsence field.repeated field.shape := by
  obtain ⟨name, required, repeated, shape⟩ := field
  cases repeated <;> cases shape <;> rfl

/-- A field with no issues is accepted, if this holds of single values of its shape. -/
theorem admits_of_issues_eq_nil {field : Field}
    (sound : ∀ path value, field.shape.issues path value = [] →
      (Zod.ofShape field.shape).accepts (some value) = true)
    {path : Path} {value? : Option Json} (clean : field.issues path value? = []) :
    field.admits value? = true := by
  cases value? with
  | none =>
      rw [admits, accepts_none]
      cases absent : acceptsAbsence field.repeated field.shape with
      | true => rfl
      | false => simpa [issues, absent] using clean
  | some value =>
      rw [admits, expression]
      cases repeated : field.repeated with
      | false =>
          have single : field.shape.issues path value = [] := by
            simpa [issues, repeated] using clean
          simp [sound path value single]
      | true =>
          cases value with
          | array items =>
              have each : checkItems (fun path item => field.shape.issues path item) path 0 items =
                  [] := by
                simpa [issues, repeated] using clean
              have all : ∀ item ∈ items,
                  (Zod.ofShape field.shape).accepts (some item) = true := by
                intro item member
                obtain ⟨place, nothing⟩ := exists_check_eq_nil each item member
                exact sound place item nothing
              simpa [Zod.Expr.accepts] using all
          | _ => simp [issues, repeated] at clean

/-- A field that is accepted has no issues, if this holds of single values of its shape. -/
theorem issues_eq_nil_of_admits {field : Field}
    (complete : ∀ path value, (Zod.ofShape field.shape).accepts (some value) = true →
      field.shape.issues path value = [])
    {value? : Option Json} (accepted : field.admits value? = true) (path : Path) :
    field.issues path value? = [] := by
  cases value? with
  | none =>
      rw [admits, accepts_none] at accepted
      cases absent : acceptsAbsence field.repeated field.shape with
      | true => simp [issues, absent]
      | false => simpa [issues, absent] using accepted
  | some value =>
      rw [admits, expression] at accepted
      cases repeated : field.repeated with
      | false =>
          have single : (Zod.ofShape field.shape).accepts (some value) = true := by
            simpa [repeated] using accepted
          simpa [issues, repeated] using complete path value single
      | true =>
          cases value with
          | array items =>
              have all : ∀ item ∈ items,
                  (Zod.ofShape field.shape).accepts (some item) = true := by
                simpa [repeated, Zod.Expr.accepts] using accepted
              have each := checkItems_eq_nil
                (fun item member place => complete place item (all item member)) path 0
              simpa [issues, repeated] using each
          | _ => simp [repeated, Zod.Expr.accepts] at accepted

end Field

/-! ## Acceptance of values -/

namespace Zod

theorem ofFields_cons (field : Field) (rest : List Field) :
    ofFields (field :: rest) =
      ⟨field.name, field.expression, !field.required⟩ :: ofFields rest := by
  obtain ⟨name, required, repeated, shape⟩ := field
  rfl

/-- The keys of the entries of fields are the names of the fields. -/
theorem keys_ofFields (fields : List Field) :
    (ofFields fields).map (·.key) = fields.map (·.name) := by
  induction fields with
  | nil => rfl
  | cons field rest inductionHypothesis =>
      rw [ofFields_cons, List.map_cons, List.map_cons, inductionHypothesis]

/-- The entry of a field counts unless its key is that of the prototype or is written again. -/
theorem entriesAccept_cons (members : List (String × Json)) (field : Field) (rest : List Field) :
    entriesAccept members (ofFields (field :: rest)) =
      ((field.name == "__proto__" || (rest.map (·.name)).contains field.name ||
        field.admits (Json.lookup? field.name members)) &&
          entriesAccept members (ofFields rest)) := by
  have again : (ofFields rest).any (·.key == field.name) =
      (rest.map (·.name)).contains field.name := by
    rw [← keys_ofFields, Bool.eq_iff_iff]
    simp
  rw [ofFields_cons, entriesAccept, again, Field.admits]

mutual

/-- A value that nothing is wrong with is accepted. -/
theorem accepts_of_issues_eq_nil : ∀ (shape : Shape) (path : Path) (value : Json),
    shape.issues path value = [] → (ofShape shape).accepts (some value) = true
  | .string, path, value, clean | .number, path, value, clean | .boolean, path, value, clean => by
      cases value <;> first
        | rfl
        | simp [Shape.issues, Json.word, Shape.word] at clean
  | .unknown, _, _, _ => rfl
  | .object fields, path, value, clean => by
      cases value with
      | object members =>
          exact entriesAccept_of_fieldIssues_eq_nil fields path members clean
      | _ => simp [Shape.issues, Json.word, Shape.word] at clean

/-- The entries of fields accept members that nothing is wrong with. -/
theorem entriesAccept_of_fieldIssues_eq_nil : ∀ (fields : List Field) (parent : Path)
    (members : List (String × Json)), fieldIssues parent members fields = [] →
      entriesAccept members (ofFields fields) = true
  | [], _, _, _ => rfl
  | ⟨name, required, repeated, shape⟩ :: rest, parent, members, clean => by
      rw [fieldIssues_cons, List.append_eq_nil_iff] at clean
      have here := Field.admits_of_issues_eq_nil (accepts_of_issues_eq_nil shape) clean.1
      have others := entriesAccept_of_fieldIssues_eq_nil rest parent members clean.2
      rw [entriesAccept_cons, here, others]
      simp

end

mutual

/-- Nothing is wrong with a value that is accepted, if no level declares a name twice. -/
theorem issues_eq_nil_of_accepts : ∀ (shape : Shape), shape.EveryLevel Distinct →
    shape.EveryLevel Ordinary → ∀ (path : Path) (value : Json),
      (ofShape shape).accepts (some value) = true → shape.issues path value = []
  | .string, _, _, path, value, accepted | .number, _, _, path, value, accepted
  | .boolean, _, _, path, value, accepted => by
      cases value <;> first
        | rfl
        | simp [ofShape, Expr.accepts] at accepted
  | .unknown, _, _, _, _, _ => rfl
  | .object fields, distinct, ordinary, path, value, accepted => by
      cases value with
      | object members =>
          exact fieldIssues_eq_nil_of_entriesAccept fields distinct.1 distinct.2 ordinary.1
            ordinary.2 path members accepted
      | _ => simp [ofShape, Expr.accepts] at accepted

/-- Nothing is wrong with members that the entries of fields accept, if no level declares a name
twice. -/
theorem fieldIssues_eq_nil_of_entriesAccept : ∀ (fields : List Field), Distinct fields →
    EveryLevelBelow Distinct fields → Ordinary fields → EveryLevelBelow Ordinary fields →
      ∀ (parent : Path) (members : List (String × Json)),
        entriesAccept members (ofFields fields) = true → fieldIssues parent members fields = []
  | [], _, _, _, _, _, _, _ => rfl
  | ⟨name, required, repeated, shape⟩ :: rest, distinct, distinctBelow, ordinary, ordinaryBelow,
      parent, members, accepted => by
      obtain ⟨once, distinctRest⟩ := List.nodup_cons.1 distinct
      have named : name ≠ "__proto__" := ordinary _ List.mem_cons_self
      have ordinaryRest : Ordinary rest :=
        fun field member => ordinary field (List.mem_cons_of_mem _ member)
      -- The entry counts: its key is neither that of the prototype nor written again.
      rw [entriesAccept_cons, Bool.and_eq_true] at accepted
      have here : Field.admits ⟨name, required, repeated, shape⟩ (Json.lookup? name members) =
          true := by
        simpa [named, once] using accepted.1
      have clean := Field.issues_eq_nil_of_admits
        (issues_eq_nil_of_accepts shape distinctBelow.1 ordinaryBelow.1) here (parent.child name)
      have others := fieldIssues_eq_nil_of_entriesAccept rest distinctRest distinctBelow.2
        ordinaryRest ordinaryBelow.2 parent members accepted.2
      rw [fieldIssues_cons, clean, others]
      rfl

end

end Zod

/-! ## Validation and the schema module -/

/-- Validation and the schema module agree. The text of the module holds an expression that accepts
every document validation finds nothing wrong with. If no level declares a name twice, validation
finds nothing wrong with every document that the expression accepts. -/
theorem exists_expression_agrees (schema : Schema) (named : IsName schema.name.toList)
    (levels : schema.EveryLevel Named) (ordinary : schema.EveryLevel Ordinary) :
    ∃ expression, Zod.expressionOf? schema.toModule.print = some expression ∧
      (∀ document, schema.validate document = [] → expression.accepts (some document) = true) ∧
      (schema.EveryLevel Distinct →
        ∀ document, expression.accepts (some document) = true → schema.validate document = []) := by
  have keyed := Zod.keyed_ofShape (.object schema.fields) levels
  have read : SchemaModule.read? schema.toModule.print.toList = some schema.toModule :=
    SchemaModule.read?_print named keyed
  refine ⟨schema.toModule.schema, by rw [Zod.expressionOf?, read]; rfl, ?_, ?_⟩
  · intro document clean
    exact Zod.accepts_of_issues_eq_nil (.object schema.fields) .root document clean
  · intro distinct document accepted
    exact Zod.issues_eq_nil_of_accepts (.object schema.fields) distinct ordinary .root document
      accepted

/-- The schema module of a record with an array of objects accepts a document that leaves out what
may be anything, and it does not accept `null`. -/
theorem exists_expression_agrees_array :
    let schema : Schema := ⟨"Order",
      [⟨"items", false, true, .object [⟨"2nd", true, false, .unknown⟩]⟩,
        ⟨"note", true, false, .string⟩], ""⟩
    let document : Json := .object [("note", .string ""), ("items", .array [.object []])]
    IsName schema.name.toList ∧ schema.EveryLevel Named ∧ schema.EveryLevel Ordinary ∧
      schema.EveryLevel Distinct ∧
      ∃ expression, Zod.expressionOf? schema.toModule.print = some expression ∧
        expression.accepts (some document) = true ∧ expression.accepts (some .null) = false := by
  intro schema document
  have named : IsName schema.name.toList := by decide
  have levels : schema.EveryLevel Named := by decide
  have ordinary : schema.EveryLevel Ordinary := by decide
  have distinct : schema.EveryLevel Distinct := by decide
  obtain ⟨expression, read, sound, complete⟩ :=
    exists_expression_agrees schema named levels ordinary
  refine ⟨named, levels, ordinary, distinct, expression, read, sound document (by decide), ?_⟩
  rw [Bool.eq_false_iff]
  intro accepted
  exact absurd (complete distinct .null accepted) (by decide)

end InterfaceGen
