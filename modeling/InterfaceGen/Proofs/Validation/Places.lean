import InterfaceGen.Proofs.Schema.Chains
import InterfaceGen.Validation

/-!
# Places in a document

The steps that lead from a document to its values, along what a schema declares: to the fields of
an object and to the items of an array. What is wrong at a place is said here without the check that
reports it. Where names do not repeat, the text of the path to a place tells which place it is.
-/

namespace InterfaceGen

open Text

/-! ## Steps -/

/-- A step from a value to one within it. Its index is that of a field among those declared, or that
of an item among those that are there. -/
inductive Step where
  | field (index : Nat) (name : String)
  | item (index : Nat)
  deriving DecidableEq, Repr

namespace Step

def index : Step → Nat
  | field index _ | item index => index

/-- How a path names a step. -/
def text : Step → String
  | field _ name => name
  | item index => toString index

/-- The name of the field that a step leads to. A step to an item leads to none. -/
def name? : Step → Option String
  | field _ name => some name
  | item _ => none

end Step

/-- The items of an array field, declared like a field with one such value. -/
def Field.entry (field : Field) : Field :=
  { field with repeated := false }

theorem Field.entry_eq_self {field : Field} (single : field.repeated = false) :
    field.entry = field := by
  obtain ⟨name, required, repeated, shape⟩ := field
  subst single
  rfl

/-- A whole document, declared like a field. -/
def Schema.whole (schema : Schema) : Field :=
  ⟨schema.name, true, false, .object schema.fields⟩

/-- Steps lead from the value of a field, if there is one, to that of a field within it. All values
on the way are objects and arrays where such are declared. -/
inductive Reaches : Field → Option Json → List Step → Field → Option Json → Prop where
  | here {field : Field} {value? : Option Json} : Reaches field value? [] field value?
  | field {holder next target : Field} {fields : List Field} {members : List (String × Json)}
      {index : Nat} {steps : List Step} {value? : Option Json}
      (declared : holder.members? = some fields) (listed : fields[index]? = some next)
      (onward : Reaches next (Json.lookup? next.name members) steps target value?) :
      Reaches holder (some (.object members)) (.field index next.name :: steps) target value?
  | item {holder target : Field} {items : List Json} {item : Json} {index : Nat}
      {steps : List Step} {value? : Option Json}
      (declared : holder.repeated = true) (listed : items[index]? = some item)
      (onward : Reaches holder.entry (some item) steps target value?) :
      Reaches holder (some (.array items)) (.item index :: steps) target value?

/-! ## Defects -/

/-- A field has a type unless it holds a single value of unknown type. -/
def Field.Typed (field : Field) : Prop :=
  field.repeated = true ∨ field.shape ≠ .unknown

/-- What is wrong with the value of a field that has a type, or with there being none. -/
inductive Field.Violates (field : Field) : Option Json → String → Prop where
  | missing (required : field.required = true) (typed : field.Typed) :
      field.Violates none "Required"
  | mismatch {value : Json} (typed : field.Typed) (differs : value.word ≠ field.word) :
      field.Violates (some value) ("Expected " ++ field.word ++ ", received " ++ value.word)

/-- A message about the place that steps lead to. -/
structure Defect where
  steps : List Step
  message : String
  deriving DecidableEq, Repr

/-- A defect at the end of steps, seen from one step before them. -/
def Defect.behind (step : Step) (defect : Defect) : Defect :=
  ⟨step :: defect.steps, defect.message⟩

/-- A defect is in the value of a field, if there is one, or somewhere within it. -/
def Field.HasDefect (field : Field) (value? : Option Json) (defect : Defect) : Prop :=
  ∃ target found?, Reaches field value? defect.steps target found? ∧
    target.Violates found? defect.message

/-! ## Where defects are -/

theorem Field.members?_eq_some_iff {field : Field} {fields : List Field} :
    field.members? = some fields ↔ field.repeated = false ∧ field.shape = .object fields := by
  obtain ⟨name, required, repeated, shape⟩ := field
  cases repeated <;> cases shape <;> simp [members?, nested?]

/-- A field that holds one object is declared to. -/
theorem Field.word_of_members? {field : Field} {fields : List Field}
    (declared : field.members? = some fields) : field.word = "object" := by
  obtain ⟨single, object⟩ := members?_eq_some_iff.1 declared
  simp [word, single, object, Shape.word]

theorem Field.word_of_repeated {field : Field} (declared : field.repeated = true) :
    field.word = "array" := by
  simp [word, declared]

/-- No step leads into a value that is not of the declared type. -/
theorem Reaches.eq_nil_of_word_ne {field target : Field} {value : Json} {steps : List Step}
    {found? : Option Json} (leads : Reaches field (some value) steps target found?)
    (differs : value.word ≠ field.word) : steps = [] := by
  cases leads with
  | here => rfl
  | field declared => exact absurd (Field.word_of_members? declared).symm differs
  | item declared => exact absurd (Field.word_of_repeated declared).symm differs

/-- A value that is missing where it must not be is all that is wrong there. -/
theorem Field.hasDefect_none_iff {field : Field} {defect : Defect} :
    field.HasDefect none defect ↔
      field.required = true ∧ field.Typed ∧ defect = ⟨[], "Required"⟩ := by
  obtain ⟨steps, message⟩ := defect
  constructor
  · rintro ⟨target, found?, leads, violates⟩
    cases leads
    cases violates with
    | missing required typed => exact ⟨required, typed, rfl⟩
  · rintro ⟨required, typed, same⟩
    obtain ⟨rfl, rfl⟩ := Defect.mk.inj same
    exact ⟨field, none, .here, .missing required typed⟩

/-- Another type than the declared one is all that is wrong with a value. -/
theorem Field.hasDefect_iff_of_word_ne {field : Field} {value : Json} {defect : Defect}
    (typed : field.Typed) (differs : value.word ≠ field.word) :
    field.HasDefect (some value) defect ↔
      defect = ⟨[], "Expected " ++ field.word ++ ", received " ++ value.word⟩ := by
  obtain ⟨steps, message⟩ := defect
  constructor
  · rintro ⟨target, found?, leads, violates⟩
    obtain rfl := leads.eq_nil_of_word_ne differs
    cases leads
    cases violates
    rfl
  · intro same
    obtain ⟨rfl, rfl⟩ := Defect.mk.inj same
    exact ⟨field, some value, .here, .mismatch typed differs⟩

/-- In a value of the declared type that has no parts, nothing is wrong. -/
theorem Field.not_hasDefect_of_word_eq {field : Field} {value : Json} {defect : Defect}
    (same : value.word = field.word) (single : field.repeated = false)
    (leaf : ∀ fields, field.shape ≠ .object fields) : ¬ field.HasDefect (some value) defect := by
  rintro ⟨target, found?, leads, violates⟩
  generalize defect.steps = steps at leads
  cases leads with
  | here =>
      generalize defect.message = message at violates
      cases violates with
      | mismatch _ differs => exact differs same
  | field declared => exact leaf _ (members?_eq_some_iff.1 declared).2
  | item declared => simp [single] at declared

/-- A single value of unknown type has no defect. -/
theorem Field.not_hasDefect_of_not_typed {field : Field} {value? : Option Json} {defect : Defect}
    (untyped : ¬ field.Typed) : ¬ field.HasDefect value? defect := by
  rintro ⟨target, found?, leads, violates⟩
  generalize defect.steps = steps at leads
  cases leads with
  | here =>
      generalize defect.message = message at violates
      cases violates <;> contradiction
  | field declared =>
      have object := (members?_eq_some_iff.1 declared).2
      exact untyped (.inr (by simp [object]))
  | item declared => exact untyped (.inl declared)

/-- What is wrong with an object is wrong with one of its declared fields. -/
theorem Field.hasDefect_object_iff {field : Field} {fields : List Field}
    {members : List (String × Json)} {defect : Defect} (declared : field.members? = some fields) :
    field.HasDefect (some (.object members)) defect ↔
      ∃ index next later, fields[index]? = some next ∧
        defect = Defect.behind (.field index next.name) later ∧
          next.HasDefect (Json.lookup? next.name members) later := by
  obtain ⟨steps, message⟩ := defect
  constructor
  · rintro ⟨target, found?, leads, violates⟩
    cases leads with
    | here =>
        cases violates with
        | mismatch _ differs => exact absurd (word_of_members? declared).symm differs
    | @field _ next _ _ _ index others _ alsoDeclared listed onward =>
        obtain rfl := Option.some.inj (declared.symm.trans alsoDeclared)
        exact ⟨index, next, ⟨others, message⟩, listed, rfl, target, found?, onward, violates⟩
  · rintro ⟨index, next, later, listed, same, target, found?, onward, violates⟩
    obtain ⟨rfl, rfl⟩ := Defect.mk.inj same
    exact ⟨target, found?, .field declared listed onward, violates⟩

/-- What is wrong with an array is wrong with one of its items. -/
theorem Field.hasDefect_array_iff {field : Field} {items : List Json} {defect : Defect}
    (declared : field.repeated = true) :
    field.HasDefect (some (.array items)) defect ↔
      ∃ index item later, items[index]? = some item ∧ defect = Defect.behind (.item index) later ∧
        field.entry.HasDefect (some item) later := by
  obtain ⟨steps, message⟩ := defect
  constructor
  · rintro ⟨target, found?, leads, violates⟩
    cases leads with
    | here =>
        cases violates with
        | mismatch _ differs => exact absurd (word_of_repeated declared).symm differs
    | @item _ _ _ item index others _ _ listed onward =>
        exact ⟨index, item, ⟨others, message⟩, listed, rfl, target, found?, onward, violates⟩
  · rintro ⟨index, item, later, listed, same, target, found?, onward, violates⟩
    obtain ⟨rfl, rfl⟩ := Defect.mk.inj same
    exact ⟨target, found?, .item declared listed onward, violates⟩

/-! ## Which place a path leads to -/

/-- A law of every level within the shape of a field holds of those within a field that it holds. -/
theorem Shape.EveryLevel.of_members? {law : List Field → Prop} {holder next : Field}
    {fields : List Field} {index : Nat} (levels : holder.shape.EveryLevel law)
    (declared : holder.members? = some fields) (listed : fields[index]? = some next) :
    law fields ∧ next.shape.EveryLevel law := by
  rw [(Field.members?_eq_some_iff.1 declared).2] at levels
  exact ⟨levels.1, levels.2.of_mem (List.mem_of_getElem? listed)⟩

namespace Reaches

variable {field target : Field} {value? found? : Option Json} {steps : List Step}

/-- If the fields have names, a path names each step by a name. -/
theorem named (leads : Reaches field value? steps target found?)
    (levels : field.shape.EveryLevel Named) : ∀ step ∈ steps, IsName step.text.toList := by
  induction leads with
  | here => exact nofun
  | field declared listed _ inductionHypothesis =>
      obtain ⟨names, inner⟩ := levels.of_members? declared listed
      have first := names _ (List.mem_of_getElem? listed)
      exact List.forall_mem_cons.2 ⟨first, inductionHypothesis inner⟩
  | item _ _ _ inductionHypothesis =>
      exact List.forall_mem_cons.2 ⟨isName_toString _, inductionHypothesis levels⟩

/-- If no level declares a name twice, no two ways into a value have the same names. -/
theorem steps_eq {others : List Step} {next : Field} {other? : Option Json}
    (leads : Reaches field value? steps target found?)
    (alsoLeads : Reaches field value? others next other?)
    (distinct : field.shape.EveryLevel Distinct)
    (same : steps.map Step.text = others.map Step.text) : steps = others := by
  induction leads generalizing others with
  | here => exact (List.map_eq_nil_iff.1 same.symm).symm
  | @field holder first _ fields _ index _ _ declared listed _ inductionHypothesis =>
      obtain ⟨names, inner⟩ := distinct.of_members? declared listed
      cases alsoLeads with
      | here => contradiction
      | @field _ second _ _ _ index' _ _ alsoDeclared alsoListed onward =>
          obtain rfl := Option.some.inj (declared.symm.trans alsoDeclared)
          obtain ⟨sameName, sameOthers⟩ := List.cons.inj same
          have sameIndex : index = index' := by
            have within : index < (fields.map (·.name)).length := by
              simpa using (List.getElem?_eq_some_iff.1 listed).1
            refine (List.getElem?_inj within names).1 ?_
            simpa [listed, alsoListed, Step.text] using sameName
          subst sameIndex
          obtain rfl := Option.some.inj (listed.symm.trans alsoListed)
          rw [inductionHypothesis onward inner sameOthers]
  | item declared listed _ inductionHypothesis =>
      cases alsoLeads with
      | here => contradiction
      | item _ alsoListed onward =>
          obtain ⟨sameIndex, sameOthers⟩ := List.cons.inj same
          obtain rfl := toString_inj sameIndex
          obtain rfl := Option.some.inj (listed.symm.trans alsoListed)
          rw [inductionHypothesis onward distinct sameOthers]

/-- The names of fields on the way into a value form a chain within the declared fields. -/
theorem leadsTo (leads : Reaches field value? steps target found?) :
    steps.filterMap Step.name? = [] ∨
      ∃ fields last, field.shape = .object fields ∧
        LeadsTo fields (steps.filterMap Step.name?) last := by
  induction leads with
  | here => exact .inl rfl
  | @field _ next _ fields _ _ _ _ declared listed _ inductionHypothesis =>
      have object := (Field.members?_eq_some_iff.1 declared).2
      have member := List.mem_of_getElem? listed
      refine .inr ⟨fields, ?_⟩
      obtain none | ⟨inner, last, holds, onward⟩ := inductionHypothesis
      · refine ⟨next, object, ?_⟩
        simpa [Step.name?, none] using LeadsTo.here member
      · exact ⟨last, object, .nested member holds onward⟩
  | item _ _ _ inductionHypothesis => exact inductionHypothesis

end Reaches

end InterfaceGen
