import InterfaceGen.Proofs.Validation.Places
import InterfaceGen.Proofs.Zod.Acceptance
import Mathlib.Data.List.Nodup
import Mathlib.Logic.Relation

/-!
# Edits that validation does not see

Validation looks at a document through the fields that have a type. An edit elsewhere, of keys that
no field of their level declares or of values of unknown type, leaves the list of issues as it is,
however deep in the document it is made. One edit is a relation between two values of a field;
documents that can be turned into each other are those that a chain of edits, forward or backward,
connects.
-/

namespace InterfaceGen

/-! ## Edits -/

/-- The fields declared for the members of an object in the place of a field. Where no object is
declared these are none. -/
def Field.declared (field : Field) : List Field :=
  field.members?.getD []

/-- A name is open at a level if no field declares it, or one that holds a single value of unknown
type does. -/
inductive OpenName (fields : List Field) (name : String) : Prop where
  | undeclared (other : ∀ field ∈ fields, field.name ≠ name)
  | unknown {field : Field} (listed : field ∈ fields) (called : field.name = name)
      (untyped : ¬ field.Typed)

/-- Two lists of members give each name the same value, some names apart. -/
def AgreeOutside (apart : String → Prop) (left right : List (String × Json)) : Prop :=
  ∀ name, ¬ apart name → Json.lookup? name left = Json.lookup? name right

/-- One edit of the value of a field. It changes a value of unknown type, or the members of an
object under open names, be it by adding, removing or replacing some, or it edits the value of a
declared field or an item. Objects and arrays in the place of other values have no declared fields,
and the items of such an array are like the value that belongs there. -/
inductive Edit : Field → Json → Json → Prop where
  | unknown {field : Field} {old new : Json} (untyped : ¬ field.Typed) : Edit field old new
  | members {field : Field} {old new : List (String × Json)}
      (agree : AgreeOutside (OpenName field.declared) old new) :
      Edit field (.object old) (.object new)
  | member {field next : Field} {old new : List (String × Json)} {before after : Json}
      (listed : next ∈ field.declared) (had : Json.lookup? next.name old = some before)
      (has : Json.lookup? next.name new = some after) (agree : AgreeOutside (· = next.name) old new)
      (inner : Edit next before after) : Edit field (.object old) (.object new)
  | item {field : Field} {before after : Json} (front back : List Json)
      (inner : Edit field.entry before after) :
      Edit field (.array (front ++ before :: back)) (.array (front ++ after :: back))

/-- Documents that edits turn into each other. -/
def Schema.Interchangeable (schema : Schema) : Json → Json → Prop :=
  Relation.EqvGen (Edit schema.whole)

/-! ## Members in the order of a text -/

/-- A name that is written behind another member, or before one that is not called so, has the value
that it has without it. -/
theorem Json.lookup?_insert_of_ne {name key : String} (other : key ≠ name) (value : Json)
    (front back : List (String × Json)) :
    lookup? name (front ++ (key, value) :: back) = lookup? name (front ++ back) := by
  induction front with
  | nil =>
      rw [List.nil_append, List.nil_append, lookup?, if_neg other]
      cases lookup? name back <;> rfl
  | cons member rest inductionHypothesis =>
      rw [List.cons_append, List.cons_append, lookup?, lookup?, inductionHypothesis]

/-- A name that stands last has the value it is written with. -/
theorem Json.lookup?_insert_self {name : String} {back : List (String × Json)}
    (last : lookup? name back = none) (value : Json) (front : List (String × Json)) :
    lookup? name (front ++ (name, value) :: back) = some value := by
  induction front with
  | nil => rw [List.nil_append, lookup?, last, if_pos rfl]
  | cons member rest inductionHypothesis => rw [List.cons_append, lookup?, inductionHypothesis]

/-- A member may be added wherever its name does not matter. -/
theorem agreeOutside_insert {apart : String → Prop} {key : String} (aside : apart key)
    (value : Json) (front back : List (String × Json)) :
    AgreeOutside apart (front ++ back) (front ++ (key, value) :: back) := by
  intro name kept
  have other : key ≠ name := fun same => kept (same ▸ aside)
  exact (Json.lookup?_insert_of_ne other value front back).symm

/-- A member whose name does not matter may have another value. -/
theorem agreeOutside_replace {apart : String → Prop} {key : String} (aside : apart key)
    (before after : Json) (front back : List (String × Json)) :
    AgreeOutside apart (front ++ (key, before) :: back) (front ++ (key, after) :: back) := by
  intro name kept
  rw [← agreeOutside_insert aside before front back name kept]
  exact agreeOutside_insert aside after front back name kept

/-- A member under an open name may be added anywhere in an object. -/
theorem Edit.insert {field : Field} {key : String} (free : OpenName field.declared key)
    (value : Json) (front back : List (String × Json)) :
    Edit field (.object (front ++ back)) (.object (front ++ (key, value) :: back)) :=
  .members (agreeOutside_insert free value front back)

/-- The value of a declared field may be edited where it stands. -/
theorem Edit.within {field next : Field} {before after : Json} {back : List (String × Json)}
    (listed : next ∈ field.declared) (last : Json.lookup? next.name back = none)
    (inner : Edit next before after) (front : List (String × Json)) :
    Edit field (.object (front ++ (next.name, before) :: back))
      (.object (front ++ (next.name, after) :: back)) := by
  have agree : AgreeOutside (· = next.name) (front ++ (next.name, before) :: back)
      (front ++ (next.name, after) :: back) := by
    apply agreeOutside_replace
    rfl
  exact .member listed (Json.lookup?_insert_self last before front)
    (Json.lookup?_insert_self last after front) agree inner

/-! ## What issues depend on -/

/-- Nothing is wrong with a field that has no type. -/
theorem Field.issues_of_not_typed {field : Field} (untyped : ¬ field.Typed) (path : Path)
    (value? : Option Json) : field.issues path value? = [] := by
  obtain ⟨name, required, repeated, shape⟩ := field
  rw [Typed, not_or, not_not, Bool.not_eq_true] at untyped
  obtain ⟨rfl, rfl⟩ := untyped
  cases value? <;> simp [issues, acceptsAbsence, Shape.issues]

/-- All that is wrong with a value of another type than the declared one is its type. -/
theorem Field.issues_of_word_ne {field : Field} {value : Json} (typed : field.Typed)
    (differs : value.word ≠ field.word) (path : Path) :
    field.issues path (some value) = [mismatch path field.word value] := by
  obtain ⟨name, required, repeated, shape⟩ := field
  cases repeated with
  | true => cases value <;> simp_all [issues, word, Json.word]
  | false =>
      cases shape with
      | object fields =>
          cases value <;> simp_all [issues, word, Shape.word, Shape.issues, Json.word]
      | unknown => simp [Typed] at typed
      | _ => simp_all [issues, word, Shape.issues]

/-- Values of one type that is not the declared one have the same issues. -/
theorem Field.issues_congr_of_word_ne {field : Field} {left right : Json}
    (same : left.word = right.word) (differs : left.word ≠ field.word) (path : Path) :
    field.issues path (some left) = field.issues path (some right) := by
  by_cases typed : field.Typed
  · rw [issues_of_word_ne typed differs, issues_of_word_ne typed (same ▸ differs), mismatch,
      mismatch, same]
  · rw [issues_of_not_typed typed, issues_of_not_typed typed]

/-- The issues of an object are those of its members, and of other values where no object is
declared. -/
theorem Field.issues_object {field : Field} {fields : List Field}
    (declared : field.members? = some fields) (path : Path) (members : List (String × Json)) :
    field.issues path (some (.object members)) = fieldIssues path members fields := by
  obtain ⟨single, object⟩ := members?_eq_some_iff.1 declared
  simp [issues, single, object, Shape.issues]

theorem Field.word_ne_of_members?_eq_none {field : Field} (leaf : field.members? = none) :
    "object" ≠ field.word := by
  obtain ⟨name, required, repeated, shape⟩ := field
  cases repeated <;> cases shape <;> simp_all [members?, nested?, word, Shape.word]

/-- Objects have the same issues if the declared fields have the same issues with their members. -/
theorem Field.issues_object_congr {field : Field} {left right : List (String × Json)} {path : Path}
    (same : ∀ next ∈ field.declared, ∀ place,
      next.issues place (Json.lookup? next.name left) =
        next.issues place (Json.lookup? next.name right)) :
    field.issues path (some (.object left)) = field.issues path (some (.object right)) := by
  cases declared : field.members? with
  | none =>
      have differs : (Json.object left).word ≠ field.word := word_ne_of_members?_eq_none declared
      refine issues_congr_of_word_ne ?_ differs path
      rfl
  | some fields =>
      rw [Field.declared, declared, Option.getD_some] at same
      rw [issues_object declared, issues_object declared]
      clear declared
      induction fields with
      | nil => rfl
      | cons first rest inductionHypothesis =>
          obtain ⟨here, later⟩ := List.forall_mem_cons.1 same
          rw [fieldIssues_cons, fieldIssues_cons, here, inductionHypothesis later]

/-- Arrays have the same issues if they differ in an item of which this is true. -/
theorem Field.issues_array_congr {field : Field} {front back : List Json} {before after : Json}
    {path : Path} (same : ∀ place,
      field.entry.issues place (some before) = field.entry.issues place (some after)) :
    field.issues path (some (.array (front ++ before :: back))) =
      field.issues path (some (.array (front ++ after :: back))) := by
  obtain ⟨name, required, repeated, shape⟩ := field
  cases repeated with
  | true =>
      let check (place : Path) (item : Json) : List Issue := shape.issues place item
      have items (index : Nat) :
          checkItems check path index (front ++ before :: back) =
            checkItems check path index (front ++ after :: back) := by
        induction front generalizing index with
        | nil =>
            have here : check (path.child (toString index)) before =
                check (path.child (toString index)) after := by
              simpa [issues, entry] using same (path.child (toString index))
            rw [List.nil_append, List.nil_append, checkItems, checkItems, here]
        | cons item rest inductionHypothesis =>
            rw [List.cons_append, List.cons_append, checkItems, checkItems, inductionHypothesis]
      simpa [issues] using items 0
  | false =>
      have differs : (Json.array (front ++ before :: back)).word ≠
          Field.word ⟨name, required, false, shape⟩ := by
        cases shape <;> simp [word, Shape.word, Json.word]
      refine issues_congr_of_word_ne ?_ differs path
      rfl

/-! ## What edits leave alone -/

/-- Where no name is declared twice, fields with an open name have no type. -/
theorem OpenName.not_typed {fields : List Field} {field : Field} (distinct : Distinct fields)
    (listed : field ∈ fields) (free : OpenName fields field.name) : ¬ field.Typed := by
  cases free with
  | undeclared other => exact absurd rfl (other field listed)
  | unknown alsoListed called untyped =>
      rwa [List.inj_on_of_nodup_map distinct listed alsoListed called.symm]

/-- A law of every level within a field holds of the level declared for its members, and of those
within each of them. -/
theorem Field.everyLevel_declared {law : List Field → Prop} {field next : Field}
    (levels : field.shape.EveryLevel law) (listed : next ∈ field.declared) :
    law field.declared ∧ next.shape.EveryLevel law := by
  rw [Field.declared] at listed ⊢
  cases declared : field.members? with
  | none => simp [declared] at listed
  | some fields =>
      rw [declared, Option.getD_some] at listed
      obtain ⟨index, _, rfl⟩ := List.getElem_of_mem listed
      exact levels.of_members? declared (List.getElem?_eq_getElem _)

/-- One edit leaves the issues of a value as they are. -/
theorem Edit.issues_eq {field : Field} {old new : Json} (edit : Edit field old new)
    (distinct : field.shape.EveryLevel Distinct) (path : Path) :
    field.issues path (some old) = field.issues path (some new) := by
  induction edit generalizing path with
  | unknown untyped => rw [Field.issues_of_not_typed untyped, Field.issues_of_not_typed untyped]
  | @members field _ _ agree =>
      apply Field.issues_object_congr
      intro next listed place
      by_cases free : OpenName field.declared next.name
      · have untyped := free.not_typed (Field.everyLevel_declared distinct listed).1 listed
        rw [Field.issues_of_not_typed untyped, Field.issues_of_not_typed untyped]
      · rw [agree next.name free]
  | @member field next _ _ _ _ listed had has agree inner inductionHypothesis =>
      obtain ⟨distinctHere, distinctWithin⟩ := Field.everyLevel_declared distinct listed
      apply Field.issues_object_congr
      intro other alsoListed place
      by_cases called : other.name = next.name
      · obtain rfl := List.inj_on_of_nodup_map distinctHere alsoListed listed called
        rw [had, has]
        exact inductionHypothesis distinctWithin place
      · rw [agree other.name called]
  | item front back inner inductionHypothesis =>
      apply Field.issues_array_congr
      intro place
      exact inductionHypothesis distinct place

/-- Documents that can be turned into each other by edits of keys that are not declared and of
values of unknown type have the same issues, if no level declares a name twice. -/
theorem validate_eq_of_interchangeable {schema : Schema} {left right : Json}
    (distinct : schema.EveryLevel Distinct) (edits : schema.Interchangeable left right) :
    schema.validate left = schema.validate right := by
  induction edits with
  | rel _ _ edit => exact edit.issues_eq distinct .root
  | refl => rfl
  | symm _ _ _ inductionHypothesis => exact inductionHypothesis.symm
  | trans _ _ _ _ _ first second => exact first.trans second

/-- A key that is not declared leaves the root, another one comes to an item, and an unknown value
to the root. What is wrong with the items and with a missing field stays. -/
theorem validate_eq_of_interchangeable_items :
    let item : Field := ⟨"sku", true, false, .string⟩
    let schema : Schema := ⟨"P",
      [⟨"items", true, true, .object [item]⟩, ⟨"name", true, false, .string⟩,
        ⟨"meta", true, false, .unknown⟩], ""⟩
    let left : Json := .object
      [("items", .array [.object [("sku", .null)], .null]), ("extra", .bool true)]
    let right : Json := .object
      [("items", .array [.object [("sku", .null), ("note", .string "n")], .null]),
        ("meta", .array [])]
    schema.EveryLevel Distinct ∧ schema.Interchangeable left right ∧
      schema.validate left = schema.validate right ∧
      (schema.validate right).map (fun issue => (issue.path.text, issue.message)) =
        [("items.0.sku", "Expected string, received null"),
          ("items.1", "Expected object, received null"), ("name", "Required")] := by
  intro item schema left right
  have distinct : schema.EveryLevel Distinct := by decide
  let items (members : List (String × Json)) : Json := .array [.object members, .null]
  let bare : Json := .object [("items", items [("sku", .null)])]
  let noted : Json := .object [("items", items [("sku", .null), ("note", .string "n")])]
  have extra : Edit schema.whole bare left :=
    .insert (.undeclared (by decide)) (.bool true) [("items", items [("sku", .null)])] []
  have note : Edit schema.whole bare noted := by
    let field : Field := ⟨"items", true, true, .object [item]⟩
    have inner : Edit field.entry (.object [("sku", .null)])
        (.object [("sku", .null), ("note", .string "n")]) :=
      .insert (.undeclared (by decide)) (.string "n") [("sku", .null)] []
    have inItems : Edit field (items [("sku", .null)])
        (items [("sku", .null), ("note", .string "n")]) := .item [] [.null] inner
    have listed : field ∈ schema.whole.declared := by decide
    exact .within listed rfl inItems []
  have unknown : Edit schema.whole noted right := by
    have listed : (⟨"meta", true, false, .unknown⟩ : Field) ∈ schema.whole.declared := by decide
    exact .insert (.unknown listed rfl (by simp [Field.Typed])) (.array [])
      [("items", items [("sku", .null), ("note", .string "n")])] []
  have edits : schema.Interchangeable left right :=
    (Relation.EqvGen.rel _ _ extra).symm.trans _ _ _
      ((Relation.EqvGen.rel _ _ note).trans _ _ _ (.rel _ _ unknown))
  exact ⟨distinct, edits, validate_eq_of_interchangeable distinct edits, by decide +kernel⟩

end InterfaceGen
