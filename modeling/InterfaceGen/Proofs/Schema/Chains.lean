import InterfaceGen.Proofs.Form.ReadBack
import InterfaceGen.Proofs.Schema.Fronts
import InterfaceGen.Proofs.Schema.NormalForm
import InterfaceGen.Proofs.Schema.ReadBack
import InterfaceGen.Schema.Walk

/-!
# Chains of names

The names on the way from a level of a schema to a field within it. What a body declares is written
with names and with types that have a notation, on every level, so that the dots in the path of a
field stand between such names and nowhere else.
-/

namespace InterfaceGen

open Text Source

/-! ## Chains -/

/-- A chain of names leads from the fields of a level to one of them, or on to a field nested in one
of them. -/
inductive LeadsTo : List Field → List String → Field → Prop where
  | here {fields : List Field} {field : Field} (member : field ∈ fields) :
      LeadsTo fields [field.name] field
  | nested {fields members : List Field} {parent field : Field} {names : List String}
      (member : parent ∈ fields) (holds : parent.shape = .object members)
      (onward : LeadsTo members names field) : LeadsTo fields (parent.name :: names) field

/-- The path several names further. -/
def Path.descend (path : Path) (names : List String) : Path :=
  ⟨path.anchor, path.segments ++ names⟩

@[simp] theorem Path.descend_nil (path : Path) : path.descend [] = path := by
  simp [descend]

@[simp] theorem Path.descend_cons (path : Path) (name : String) (names : List String) :
    path.descend (name :: names) = (path.child name).descend names := by
  simp [descend, child]

/-- A chain goes through the first field of a level, or leads on from the others. -/
theorem leadsTo_cons_iff {first field : Field} {rest : List Field} {names : List String} :
    LeadsTo (first :: rest) names field ↔
      (names = [first.name] ∧ field = first) ∨
        (∃ members others, first.shape = .object members ∧ names = first.name :: others ∧
          LeadsTo members others field) ∨
        LeadsTo rest names field := by
  constructor
  · intro leads
    cases leads with
    | here member =>
        rcases List.mem_cons.1 member with rfl | later
        · exact .inl ⟨rfl, rfl⟩
        · exact .inr (.inr (.here later))
    | nested member holds onward =>
        rcases List.mem_cons.1 member with rfl | later
        · exact .inr (.inl ⟨_, _, holds, rfl, onward⟩)
        · exact .inr (.inr (.nested later holds onward))
  · rintro (⟨rfl, rfl⟩ | ⟨members, others, holds, rfl, onward⟩ | leads)
    · exact .here List.mem_cons_self
    · exact .nested List.mem_cons_self holds onward
    · cases leads with
      | here member => exact .here (List.mem_cons_of_mem _ member)
      | nested member holds onward => exact .nested (List.mem_cons_of_mem _ member) holds onward

/-- The walk of fields lists those that a chain leads to, each under the path of the chain. -/
theorem mem_walkFields_iff : ∀ (fields : List Field) (parent path : Path) (field : Field),
    (path, field) ∈ walkFields parent fields ↔
      ∃ names, LeadsTo fields names field ∧ path = parent.descend names
  | [], parent, path, field => by
      constructor
      · intro listed
        simp [walkFields] at listed
      · rintro ⟨names, leads, -⟩
        cases leads <;> contradiction
  | ⟨name, required, repeated, shape⟩ :: rest, parent, path, field => by
      have within : (path, field) ∈ shape.walk (parent.child name) ↔
          ∃ members others, shape = .object members ∧ LeadsTo members others field ∧
            path = (parent.child name).descend others := by
        cases shape with
        | object members =>
            have inner := mem_walkFields_iff members (parent.child name) path field
            simpa [Shape.walk] using inner
        | _ => simp [Shape.walk]
      rw [walkFields, List.mem_cons, List.mem_append, within,
        mem_walkFields_iff rest parent path field]
      simp only [leadsTo_cons_iff]
      constructor
      · rintro (same | ⟨members, others, holds, leads, rfl⟩ | ⟨names, leads, rfl⟩)
        · obtain ⟨rfl, rfl⟩ := Prod.mk.inj same
          exact ⟨[name], .inl ⟨rfl, rfl⟩, by simp⟩
        · exact ⟨name :: others, .inr (.inl ⟨members, others, holds, rfl, leads⟩), by simp⟩
        · exact ⟨names, .inr (.inr leads), rfl⟩
      · rintro ⟨names, ⟨rfl, rfl⟩ | ⟨members, others, holds, rfl, leads⟩ | leads, rfl⟩
        · exact .inl (by simp)
        · exact .inr (.inl ⟨members, others, holds, leads, by simp⟩)
        · exact .inr (.inr ⟨names, leads, rfl⟩)
termination_by fields => sizeOf fields

theorem LeadsTo.ne_nil {fields : List Field} {names : List String} {field : Field}
    (leads : LeadsTo fields names field) : names ≠ [] := by
  cases leads <;> simp

/-- On every level with names a chain is made of such. -/
theorem LeadsTo.named {fields : List Field} {names : List String} {field : Field}
    (leads : LeadsTo fields names field) (levels : (Shape.object fields).EveryLevel Named) :
    ∀ name ∈ names, IsName name.toList := by
  induction leads with
  | here member => simpa using levels.1 _ member
  | nested member holds _ inductionHypothesis =>
      have inner := levels.2.of_mem member
      rw [holds] at inner
      exact List.forall_mem_cons.2 ⟨levels.1 _ member, inductionHypothesis inner⟩

/-- A path from the root along names leads to a field. -/
theorem bound_descend {names : List String} (nonempty : names ≠ [])
    (named : ∀ name ∈ names, IsName name.toList) : (Path.root.descend names).Bound where
  named := by simpa [Path.descend, Path.root] using named
  anchored := by simp [Path.descend, Path.root]
  nonempty := by simpa [Path.descend, Path.root] using nonempty

/-- The text of a path from the root along names splits at its dots into these names. -/
theorem segments_text_descend {names : List String} (nonempty : names ≠ [])
    (named : ∀ name ∈ names, IsName name.toList) :
    Form.segments (Path.root.descend names).text.toList = names := by
  have split := (bound_descend nonempty named).segments_dotted
  simpa [Path.text, Path.descend, Path.root] using split

/-- Paths from the root along different names have different texts. -/
theorem descend_inj_of_text_eq {names others : List String}
    (named : ∀ name ∈ names, IsName name.toList) (alsoNamed : ∀ name ∈ others, IsName name.toList)
    (same : (Path.root.descend names).text = (Path.root.descend others).text) :
    names = others := by
  -- The text of the root is empty. It splits into one part, which is no name.
  have empty : ¬ IsName "".toList := by decide
  have root : Form.segments (Path.root.descend []).text.toList = [""] := by decide
  by_cases first : names = [] <;> by_cases second : others = []
  · rw [first, second]
  · have split := segments_text_descend second alsoNamed
    rw [← same, first, root] at split
    exact absurd (alsoNamed "" (by simp [← split])) empty
  · have split := segments_text_descend first named
    rw [same, second, root] at split
    exact absurd (named "" (by simp [← split])) empty
  · rw [← segments_text_descend first named, same, segments_text_descend second alsoNamed]

/-! ## What a body declares -/

/-- A level of fields that can be written stays so when one more such field stands before it. -/
theorem everyLevel_writable_cons {field : Field} {rest : List Field}
    (named : IsName field.name.toList) (described : field.repeated = true → field.shape ≠ .unknown)
    (inner : field.shape.EveryLevel Writable) (others : (Shape.object rest).EveryLevel Writable) :
    (Shape.object (field :: rest)).EveryLevel Writable := by
  obtain ⟨name, required, repeated, shape⟩ := field
  refine ⟨⟨?_, ?_⟩, inner, others.2⟩
  · exact List.forall_mem_cons.2 ⟨named, others.1.1⟩
  · exact List.forall_mem_cons.2 ⟨described, others.1.2⟩

/-- On every level of what a body declares, balanced or not, fields have names, and their types
notations. -/
theorem parseBody_writable (text : List Char) :
    (Shape.object (Field.parseBody text)).EveryLevel Writable := by
  -- The induction is on the length, since a body is read both in its objects and behind them.
  induction length : text.length using Nat.strong_induction_on generalizing text with
  | _ length inductionHypothesis =>
    subst length
    cases read : Piece.read? text with
    | none =>
        rw [Field.parseBody_eq, read]
        exact ⟨⟨nofun, nofun⟩, trivial⟩
    | some piece =>
        have shorter := Piece.length_rest_lt_of_read? read
        have others := inductionHypothesis _ shorter piece.rest rfl
        have taken := Piece.takenFrom_of_read? read
        rw [Field.parseBody_of_read? read]
        cases taken with
        | skipped => exact others
        | leaf _ start =>
            obtain ⟨leaf, described⟩ := classify_cases (trim _)
            exact everyLevel_writable_cons (start.isName_declare _ _) described
              (Shape.everyLevel_of_leaf leaf) others
        | lastLeaf _ start =>
            obtain ⟨leaf, described⟩ := classify_cases (trim _)
            exact everyLevel_writable_cons (start.isName_declare _ _) described
              (Shape.everyLevel_of_leaf leaf) others
        | object _ start =>
            have inner := inductionHypothesis _ (Piece.length_body_lt_of_read? read) _ rfl
            exact everyLevel_writable_cons (start.isName_declare _ _) nofun inner others
        | openObject _ start =>
            have inner := inductionHypothesis _ (Piece.length_body_lt_of_read? read) _ rfl
            exact everyLevel_writable_cons (start.isName_declare _ _) nofun inner others

/-- Whatever a body holds, the fields it declares have names on every level, and none is an array of
items of unknown type. The same holds of the schema of a text, which has such a name itself, so that
the path of each field splits at its dots into the chain of names that leads to the field. -/
theorem ofSource_wellNamed :
    (∀ body : List Char, (Shape.object (Field.parseBody body)).EveryLevel Writable) ∧
      ∀ (text : String) (schema : Schema), Schema.ofSource text = .ok schema →
        IsName schema.name.toList ∧ schema.EveryLevel Writable ∧
          ∀ path field, (path, field) ∈ schema.walk →
            LeadsTo schema.fields (Form.segments path.text.toList) field := by
  refine ⟨parseBody_writable, fun text schema read => ?_⟩
  obtain ⟨⟨_, found⟩, fields⟩ := Schema.ofSource_eq_ok_iff.1 read
  have writable : schema.EveryLevel Writable := by
    rw [Schema.EveryLevel, fields]
    exact parseBody_writable schema.raw.toList
  refine ⟨(isNormal_of_first found).named, writable, fun path field listed => ?_⟩
  obtain ⟨names, leads, rfl⟩ := (mem_walkFields_iff schema.fields .root path field).1 listed
  have named := leads.named (Shape.EveryLevel.mono (fun _ level => level.1) writable)
  rw [segments_text_descend leads.ne_nil named]
  exact leads

/-- A name that is used twice, once for an array of objects, between lines that declare nothing. -/
theorem ofSource_wellNamed_nested :
    let field : Field := ⟨"b_1", false, false, .unknown⟩
    let schema : Schema := ⟨"A", [⟨"a", true, true, .object [field]⟩, ⟨"a", true, false, .string⟩],
      "é\na: \x7bb_1 ?: é[] \x7d []\n- a.b: c\na: string"⟩
    let path : Path := ⟨none, ["a", "b_1"]⟩
    Schema.ofSource "type A = \x7bé\na: \x7bb_1 ?: é[] \x7d []\n- a.b: c\na: string\x7d" =
        .ok schema ∧
      IsName schema.name.toList ∧ schema.EveryLevel Writable ∧ (path, field) ∈ schema.walk ∧
        path.text = "a.b_1" ∧ LeadsTo schema.fields (Form.segments path.text.toList) field := by
  intro field schema path
  have read : Schema.ofSource
      "type A = \x7bé\na: \x7bb_1 ?: é[] \x7d []\n- a.b: c\na: string\x7d" = .ok schema := by
    decide +kernel
  have listed : (path, field) ∈ schema.walk := by decide
  obtain ⟨named, writable, leads⟩ := ofSource_wellNamed.2 _ schema read
  exact ⟨read, named, writable, listed, by decide, leads path field listed⟩

end InterfaceGen
