import InterfaceGen.Proofs.Schema.Chains
import Mathlib.Data.List.Forall2
import Mathlib.Data.List.Infix
import Mathlib.Data.List.TakeWhile

/-!
# The order of a walk

A walk goes through a tree of fields in preorder: it lists each field once, before the fields nested
in it, and one field with all that is nested in it before the next one. So the depths of the listed
fields tell which of them are nested in which, and the tree can be put together again from what the
walk tells of each field on its own. Where names do not repeat, no two listed paths have one text.
-/

namespace InterfaceGen

open Text

/-! ## Nested fields -/

/-- The fields nested in a field, of which there may be none. -/
def Field.nested (field : Field) : List Field :=
  field.nested?.getD []

theorem Field.nested?_eq_some_iff {field : Field} {members : List Field} :
    field.nested? = some members ↔ field.shape = .object members := by
  obtain ⟨name, required, repeated, shape⟩ := field
  cases shape <;> simp [nested?]

/-- What holds of no fields, and of a field before others if it holds of those nested in it and of
those others, holds of all fields of a tree. -/
theorem Field.levelInduction {motive : List Field → Prop} (nil : motive [])
    (cons : ∀ first rest, motive first.nested → motive rest → motive (first :: rest)) :
    ∀ fields, motive fields
  | [] => nil
  | ⟨name, required, repeated, shape⟩ :: rest => by
      refine cons _ rest ?_ (levelInduction nil cons rest)
      cases shape with
      | object members => exact levelInduction nil cons members
      | _ => exact nil
termination_by fields => sizeOf fields

/-- A walk lists a field, then those nested in it, then the fields behind it. -/
theorem walkFields_cons (parent : Path) (first : Field) (rest : List Field) :
    walkFields parent (first :: rest) =
      (parent.child first.name, first) ::
        (walkFields (parent.child first.name) first.nested ++ walkFields parent rest) := by
  obtain ⟨name, required, repeated, shape⟩ := first
  cases shape <;> simp [walkFields, Shape.walk, Field.nested, Field.nested?]

/-! ## Addresses -/

/-- A field stands at an address of a tree, with the names of the fields on the way. The address has
the index of each of these fields among those of its level. -/
inductive StandsAt : List Field → List Nat → List String → Field → Prop where
  | here {fields : List Field} {field : Field} {index : Nat}
      (listed : fields[index]? = some field) : StandsAt fields [index] [field.name] field
  | nested {fields members : List Field} {parent field : Field} {index : Nat} {address : List Nat}
      {names : List String} (listed : fields[index]? = some parent)
      (holds : parent.nested? = some members) (onward : StandsAt members address names field) :
      StandsAt fields (index :: address) (parent.name :: names) field

namespace StandsAt

variable {fields : List Field} {address : List Nat} {names : List String} {field : Field}

theorem exists_cons (stands : StandsAt fields address names field) :
    ∃ index others, address = index :: others := by
  cases stands <;> exact ⟨_, _, rfl⟩

theorem leadsTo (stands : StandsAt fields address names field) : LeadsTo fields names field := by
  induction stands with
  | here listed => exact .here (List.mem_of_getElem? listed)
  | nested listed holds _ inductionHypothesis =>
      exact .nested (List.mem_of_getElem? listed) (Field.nested?_eq_some_iff.1 holds)
        inductionHypothesis

/-- If no level declares a name twice, the names on the way to an address tell the address. -/
theorem address_eq {other : List Nat} {found : Field} (stands : StandsAt fields address names field)
    (alsoStands : StandsAt fields other names found)
    (distinct : (Shape.object fields).EveryLevel Distinct) : address = other := by
  -- Fields of one level with one name are the same one.
  have index_eq {fields : List Field} {left right : Nat} {first second : Field}
      (different : Distinct fields) (listed : fields[left]? = some first)
      (alsoListed : fields[right]? = some second) (same : first.name = second.name) :
      left = right := by
    have within : left < (fields.map (·.name)).length := by
      simpa using (List.getElem?_eq_some_iff.1 listed).1
    exact (List.getElem?_inj within different).1 (by simp [listed, alsoListed, same])
  induction stands generalizing other found with
  | here listed =>
      generalize names : [Field.name _] = chain at alsoStands
      cases alsoStands with
      | here alsoListed =>
          rw [index_eq distinct.1 listed alsoListed (List.cons.inj names).1]
      | nested _ _ onward => exact absurd (List.cons.inj names).2.symm onward.leadsTo.ne_nil
  | nested listed holds onward inductionHypothesis =>
      generalize names : Field.name _ :: _ = chain at alsoStands
      cases alsoStands with
      | here => exact absurd (List.cons.inj names).2 onward.leadsTo.ne_nil
      | nested alsoListed alsoHolds alsoOnward =>
          obtain ⟨sameName, rfl⟩ := List.cons.inj names
          obtain rfl := index_eq distinct.1 listed alsoListed sameName
          obtain rfl := Option.some.inj (listed.symm.trans alsoListed)
          obtain rfl := Option.some.inj (holds.symm.trans alsoHolds)
          have inner := distinct.2.of_mem (List.mem_of_getElem? listed)
          rw [Field.nested?_eq_some_iff.1 holds] at inner
          rw [inductionHypothesis alsoOnward inner]

end StandsAt

/-- A field stands in front of others, nested in the one in front, or among the others. -/
theorem standsAt_cons_iff {first field : Field} {rest : List Field} {address : List Nat}
    {names : List String} :
    StandsAt (first :: rest) address names field ↔
      (address = [0] ∧ names = [first.name] ∧ field = first) ∨
        (∃ inner others, address = 0 :: inner ∧ names = first.name :: others ∧
          StandsAt first.nested inner others field) ∨
        ∃ index others, address = (index + 1) :: others ∧
          StandsAt rest (index :: others) names field := by
  constructor
  · intro stands
    cases stands with
    | @here _ _ index listed =>
        cases index with
        | zero =>
            obtain rfl : first = field := by simpa using listed
            exact .inl ⟨rfl, rfl, rfl⟩
        | succ index => exact .inr (.inr ⟨index, [], rfl, .here (by simpa using listed)⟩)
    | @nested _ members parent _ index inner others listed holds onward =>
        cases index with
        | zero =>
            obtain rfl : first = parent := by simpa using listed
            have same : first.nested = members := by rw [Field.nested, holds]; rfl
            exact .inr (.inl ⟨inner, others, rfl, rfl, same ▸ onward⟩)
        | succ index =>
            exact .inr (.inr ⟨index, inner, rfl, .nested (by simpa using listed) holds onward⟩)
  · rintro (⟨rfl, rfl, rfl⟩ | ⟨inner, others, rfl, rfl, onward⟩ | ⟨index, others, rfl, behind⟩)
    · exact .here rfl
    · cases holds : first.nested? with
      | none =>
          rw [Field.nested, holds] at onward
          cases onward <;> contradiction
      | some members =>
          rw [Field.nested, holds] at onward
          exact .nested rfl holds onward
    · cases behind with
      | here listed => exact .here (by simpa using listed)
      | nested listed holds onward => exact .nested (by simpa using listed) holds onward

/-! ## Preorder -/

/-- Entries list the fields of a tree below a path, each under the names on the way to it. Their
addresses are in lexicographic order: a field is listed before those nested in it, and these before
the next field of its level. Each address at which a field stands is listed. -/
structure InPreorder (fields : List Field) (parent : Path) (entries : List (Path × Field))
    (addresses : List (List Nat)) : Prop where
  stands : List.Forall₂ (fun entry address =>
    ∃ names, StandsAt fields address names entry.2 ∧ entry.1 = parent.descend names)
      entries addresses
  ordered : addresses.Pairwise (· < ·)
  complete : ∀ address names field, StandsAt fields address names field → address ∈ addresses

namespace InPreorder

theorem nil (parent : Path) : InPreorder [] parent [] [] where
  stands := .nil
  ordered := .nil
  complete _ _ _ stands := by cases stands <;> contradiction

/-- Listed addresses lead somewhere. -/
theorem exists_cons {fields : List Field} {parent : Path} {entries : List (Path × Field)}
    {addresses : List (List Nat)} (lists : InPreorder fields parent entries addresses) :
    ∀ address ∈ addresses, ∃ index others, address = index :: others := by
  intro address member
  obtain ⟨position, within, rfl⟩ := List.getElem_of_mem member
  have listed := lists.stands.length_eq.symm ▸ within
  obtain ⟨names, stands, -⟩ := lists.stands.get listed within
  exact stands.exists_cons

/-- The address of a field when one more field stands before those of its level. -/
def next : List Nat → List Nat :=
  List.modifyHead (· + 1)

/-- A field is listed before those nested in it, and these before the others of its level. -/
theorem cons {first : Field} {rest : List Field} {parent : Path}
    {inside behind : List (Path × Field)} {inner later : List (List Nat)}
    (nested : InPreorder first.nested (parent.child first.name) inside inner)
    (others : InPreorder rest parent behind later) :
    InPreorder (first :: rest) parent ((parent.child first.name, first) :: (inside ++ behind))
      ([0] :: (inner.map (0 :: ·) ++ later.map next)) where
  stands := by
    refine .cons ⟨[first.name], .here rfl, by simp⟩ (List.rel_append ?_ ?_)
    · refine List.forall₂_map_right_iff.2 (nested.stands.imp ?_)
      rintro ⟨path, field⟩ address ⟨names, stands, rfl⟩
      exact ⟨first.name :: names, standsAt_cons_iff.2 (.inr (.inl ⟨_, _, rfl, rfl, stands⟩)),
        by simp⟩
    · refine List.forall₂_map_right_iff.2 (others.stands.imp ?_)
      rintro ⟨path, field⟩ address ⟨names, stands, rfl⟩
      obtain ⟨index, more, rfl⟩ := stands.exists_cons
      exact ⟨names, standsAt_cons_iff.2 (.inr (.inr ⟨index, more, rfl, stands⟩)), rfl⟩
  ordered := by
    have front : ∀ address ∈ later.map next, ∀ tail : List Nat, (0 :: tail) < address := by
      intro address member tail
      obtain ⟨source, listed, rfl⟩ := List.mem_map.1 member
      obtain ⟨index, more, rfl⟩ := others.exists_cons source listed
      exact List.cons_lt_cons_iff.2 (.inl (Nat.succ_pos index))
    refine List.pairwise_cons.2 ⟨?_, List.pairwise_append.2 ⟨?_, ?_, ?_⟩⟩
    · intro address member
      rcases List.mem_append.1 member with within | behind
      · obtain ⟨source, listed, rfl⟩ := List.mem_map.1 within
        obtain ⟨index, more, rfl⟩ := nested.exists_cons source listed
        exact List.cons_lt_cons_iff.2 (.inr ⟨rfl, List.nil_lt_cons _ _⟩)
      · exact front address behind []
    · refine List.pairwise_map.2 (nested.ordered.imp fun less => ?_)
      exact List.cons_lt_cons_iff.2 (.inr ⟨rfl, less⟩)
    · refine List.pairwise_map.2 (others.ordered.imp_of_mem ?_)
      intro left right inLeft inRight less
      obtain ⟨index, more, rfl⟩ := others.exists_cons left inLeft
      obtain ⟨index', more', rfl⟩ := others.exists_cons right inRight
      rcases List.cons_lt_cons_iff.1 less with lower | ⟨rfl, behind⟩
      · exact List.cons_lt_cons_iff.2 (.inl (Nat.succ_lt_succ lower))
      · exact List.cons_lt_cons_iff.2 (.inr ⟨rfl, behind⟩)
    · intro address within other behind
      obtain ⟨source, -, rfl⟩ := List.mem_map.1 within
      exact front other behind source
  complete := by
    intro address names field stands
    obtain ⟨rfl, -, -⟩ | ⟨inner, others, rfl, -, onward⟩ | ⟨index, more, rfl, behind⟩ :=
      standsAt_cons_iff.1 stands
    · exact List.mem_cons_self
    · exact List.mem_cons_of_mem _ (List.mem_append_left _
        (List.mem_map_of_mem (nested.complete _ _ _ onward)))
    · exact List.mem_cons_of_mem _ (List.mem_append_right _
        (List.mem_map.2 ⟨_, others.complete _ _ _ behind, rfl⟩))

end InPreorder

/-- A walk lists the fields of a tree in preorder. -/
theorem exists_inPreorder (fields : List Field) (parent : Path) :
    ∃ addresses, InPreorder fields parent (walkFields parent fields) addresses := by
  induction fields using Field.levelInduction generalizing parent with
  | nil => exact ⟨[], .nil parent⟩
  | cons first rest inside behind =>
      obtain ⟨inner, nested⟩ := inside (parent.child first.name)
      obtain ⟨later, others⟩ := behind parent
      rw [walkFields_cons]
      exact ⟨_, nested.cons others⟩

/-! ## Nested fields stand together -/

/-- In lexicographic order, what stands between two extensions of an address extends it too. -/
theorem isPrefix_of_between {address left middle right : List Nat} (before : left < middle)
    (after : middle < right) (first : address <+: left) (last : address <+: right) :
    address <+: middle := by
  induction address generalizing left middle right with
  | nil => exact List.nil_prefix
  | cons index others inductionHypothesis =>
      obtain ⟨more, rfl⟩ := first
      obtain ⟨more', rfl⟩ := last
      cases middle with
      | nil => exact absurd before (List.not_lt_nil _)
      | cons index' middle =>
          rw [List.cons_append, List.cons_lt_cons_iff] at before after
          obtain ⟨rfl, less⟩ := before.resolve_left (by omega)
          obtain ⟨-, less'⟩ := after.resolve_left (Nat.lt_irrefl index)
          exact (List.prefix_cons_inj index).2 (inductionHypothesis less less'
            (List.prefix_append _ _) (List.prefix_append _ _))

section Between

variable {α : Type} {order : α → α → Prop} {kind : α → Bool} {items : List α}

/-- Behind an item of a kind, the others of the kind are a front of an ordered list if all that
stands between two of them is of the kind. -/
theorem filter_prefix_of_between
    (between : ∀ left middle right, order left middle → order middle right →
      kind left = true → kind right = true → kind middle = true)
    {first : α} (holds : kind first = true) (later : ∀ item ∈ items, order first item)
    (ordered : items.Pairwise order) : items.filter kind <+: items := by
  induction items with
  | nil => exact List.prefix_refl []
  | cons second others inductionHypothesis =>
      obtain ⟨before, behind⟩ := List.forall_mem_cons.1 later
      obtain ⟨after, rest⟩ := List.pairwise_cons.1 ordered
      cases also : kind second with
      | true =>
          rw [List.filter_cons_of_pos also]
          exact (List.prefix_cons_inj second).2 (inductionHypothesis behind rest)
      | false =>
          have none : others.filter kind = [] := by
            refine List.filter_eq_nil_iff.2 fun other member isKind => ?_
            have same := between first second other before (after other member) holds isKind
            exact absurd same (by simp [also])
          rw [List.filter_cons_of_neg (by simp [also]), none]
          exact List.nil_prefix

/-- In an ordered list, items of a kind stand together if all that stands between two of them is of
the kind. -/
theorem filter_infix_of_between
    (between : ∀ left middle right, order left middle → order middle right →
      kind left = true → kind right = true → kind middle = true)
    (ordered : items.Pairwise order) : items.filter kind <:+: items := by
  induction items with
  | nil => exact List.infix_refl []
  | cons first rest inductionHypothesis =>
      obtain ⟨later, behind⟩ := List.pairwise_cons.1 ordered
      cases holds : kind first with
      | true =>
          have front := filter_prefix_of_between between holds later behind
          rw [List.filter_cons_of_pos holds]
          exact ((List.prefix_cons_inj first).2 front).isInfix
      | false =>
          rw [List.filter_cons_of_neg (by simp [holds])]
          exact (inductionHypothesis behind).trans (List.suffix_cons first rest).isInfix

end Between

/-- A field and all that is nested in it are listed together. -/
theorem InPreorder.filter_infix {fields : List Field} {parent : Path}
    {entries : List (Path × Field)} {addresses : List (List Nat)}
    (lists : InPreorder fields parent entries addresses) (address : List Nat) :
    addresses.filter (address <+: ·) <:+: addresses := by
  refine filter_infix_of_between (fun left middle right before after first last => ?_) lists.ordered
  simp only [decide_eq_true_eq] at first last ⊢
  exact isPrefix_of_between before after first last

/-! ## Putting a tree together -/

/-- What a walk tells of a field on its own: how deep it stands, its name, whether it is required,
and the words for what it holds and for the items of an array. -/
structure Row where
  depth : Nat
  name : String
  required : Bool
  word : String
  item? : Option String
  deriving DecidableEq, Repr

namespace Row

/-- The row of an entry of a walk. -/
def ofEntry (entry : Path × Field) : Row :=
  ⟨entry.1.depth, entry.2.name, entry.2.required, entry.2.word, entry.2.item?.map Shape.word⟩

/-- The shape that a word stands for, given the fields of an object. -/
def shape (word : String) (members : List Field) : Shape :=
  if word = "string" then .string
  else if word = "number" then .number
  else if word = "boolean" then .boolean
  else if word = "object" then .object members
  else .unknown

/-- The field that a row tells of, given the fields nested in it. -/
def field (row : Row) (members : List Field) : Field :=
  match row.item? with
  | some word => ⟨row.name, row.required, true, shape word members⟩
  | none => ⟨row.name, row.required, false, shape row.word members⟩

theorem shape_word (shape : Shape) (members : List Field)
    (holds : ∀ others, shape = .object others → members = others) :
    Row.shape shape.word members = shape := by
  cases shape with
  | object others => rw [holds others rfl]; rfl
  | _ => rfl

/-- A row tells all of a field but what is nested in it. -/
theorem field_ofEntry (path : Path) (field : Field) :
    (ofEntry (path, field)).field field.nested = field := by
  have shape := shape_word field.shape field.nested fun others holds => by
    rw [Field.nested, Field.nested?_eq_some_iff.2 holds]
    rfl
  obtain ⟨name, required, repeated, _⟩ := field
  cases repeated <;> simpa [Row.field, ofEntry, Field.item?, Field.word] using shape

end Row

/-- The fields of a level from the rows of a walk. The rows deeper than one that follow it are those
of the fields nested in its field. -/
def rebuild : List Row → List Field
  | [] => []
  | row :: rest =>
    row.field (rebuild (rest.takeWhile (row.depth < ·.depth))) ::
      rebuild (rest.dropWhile (row.depth < ·.depth))
termination_by rows => rows.length
decreasing_by
  · exact Nat.lt_succ_of_le (List.takeWhile_sublist _).length_le
  · exact Nat.lt_succ_of_le (List.dropWhile_sublist _).length_le

/-- All fields of a walk stand deeper than the path they are listed under. -/
theorem depth_lt_of_mem_walkFields {fields : List Field} {parent : Path} {entry : Path × Field}
    (listed : entry ∈ walkFields parent fields) : parent.depth < entry.1.depth := by
  obtain ⟨path, field⟩ := entry
  obtain ⟨names, leads, rfl⟩ := (mem_walkFields_iff fields parent path field).1 listed
  have := List.length_pos_of_ne_nil leads.ne_nil
  simp only [Path.depth, Path.descend, List.length_append]
  omega

/-- Rows that are deeper come before the fields of a level, none of which is. -/
theorem span_rows {parent : Path} {name : String} (fields : List Field) {inside : List Row}
    (deeper : ∀ row ∈ inside, (parent.child name).depth < row.depth) :
    let rows := inside ++ (walkFields parent fields).map Row.ofEntry
    rows.takeWhile ((parent.child name).depth < ·.depth) = inside ∧
      rows.dropWhile ((parent.child name).depth < ·.depth) =
        (walkFields parent fields).map Row.ofEntry := by
  intro rows
  have within : ∀ row ∈ inside, decide ((parent.child name).depth < row.depth) = true :=
    fun row member => decide_eq_true (deeper row member)
  have stop : ((walkFields parent fields).map Row.ofEntry).takeWhile
        ((parent.child name).depth < ·.depth) = [] ∧
      ((walkFields parent fields).map Row.ofEntry).dropWhile
        ((parent.child name).depth < ·.depth) = (walkFields parent fields).map Row.ofEntry := by
    cases fields with
    | nil => exact ⟨rfl, rfl⟩
    | cons first rest => simp [walkFields_cons, Row.ofEntry, Path.depth, Path.child]
  constructor
  · rw [List.takeWhile_append_of_pos within, stop.1, List.append_nil]
  · rw [List.dropWhile_append_of_pos within, stop.2]

/-- The tree that a walk goes through is put together again from its rows. -/
theorem rebuild_walkFields (fields : List Field) (parent : Path) :
    rebuild ((walkFields parent fields).map Row.ofEntry) = fields := by
  induction fields using Field.levelInduction generalizing parent with
  | nil => rw [walkFields, List.map_nil, rebuild]
  | cons first rest inside behind =>
      have deeper : ∀ row ∈ (walkFields (parent.child first.name) first.nested).map Row.ofEntry,
          (parent.child first.name).depth < row.depth := by
        intro row member
        obtain ⟨entry, listed, rfl⟩ := List.mem_map.1 member
        exact depth_lt_of_mem_walkFields listed
      obtain ⟨taken, left⟩ := span_rows rest deeper
      have depth : (Row.ofEntry (parent.child first.name, first)).depth =
          (parent.child first.name).depth := rfl
      rw [walkFields_cons, List.map_cons, List.map_append, rebuild, depth, taken, left, inside,
        behind, Row.field_ofEntry]

/-! ## Walks -/

/-- Where the fields of each level have different names, the listed paths have different texts. -/
theorem InPreorder.nodup_texts {fields : List Field} {entries : List (Path × Field)}
    {addresses : List (List Nat)} (lists : InPreorder fields .root entries addresses)
    (named : (Shape.object fields).EveryLevel Named)
    (distinct : (Shape.object fields).EveryLevel Distinct) :
    (entries.map (·.1.text)).Nodup := by
  rw [List.Nodup, List.pairwise_map, List.pairwise_iff_getElem]
  intro left right inLeft inRight before same
  have length := lists.stands.length_eq
  obtain ⟨names, stands, path⟩ := lists.stands.get inLeft (length ▸ inLeft)
  obtain ⟨others, alsoStands, alsoPath⟩ := lists.stands.get inRight (length ▸ inRight)
  simp only [List.get_eq_getElem] at stands path alsoStands alsoPath
  rw [path, alsoPath] at same
  obtain rfl := descend_inj_of_text_eq (stands.leadsTo.named named)
    (alsoStands.leadsTo.named named) same
  have less := List.pairwise_iff_getElem.1 lists.ordered left right (length ▸ inLeft)
    (length ▸ inRight) before
  rw [stands.address_eq alsoStands distinct] at less
  exact List.lt_irrefl _ less

/-- A walk lists each field of a schema once and in preorder, under the names on the way to it, and
what is nested in a field right behind it. The tree is put together again from the rows of the walk,
so that no other tree has the same ones. If the fields of each level have different names, the
listed paths have different texts. -/
theorem walk_inPreorder (schema : Schema) :
    (∃ addresses, InPreorder schema.fields .root schema.walk addresses ∧
        ∀ address, addresses.filter (address <+: ·) <:+: addresses) ∧
      rebuild (schema.walk.map Row.ofEntry) = schema.fields ∧
      (∀ other : Schema, other.walk.map Row.ofEntry = schema.walk.map Row.ofEntry →
        other.fields = schema.fields) ∧
      (schema.EveryLevel Named → schema.EveryLevel Distinct →
        (schema.walk.map (·.1.text)).Nodup) := by
  obtain ⟨addresses, lists⟩ := exists_inPreorder schema.fields .root
  have rebuilt (schema : Schema) : rebuild (schema.walk.map Row.ofEntry) = schema.fields :=
    rebuild_walkFields schema.fields .root
  refine ⟨⟨addresses, lists, lists.filter_infix⟩, rebuilt schema, fun other same => ?_,
    lists.nodup_texts⟩
  rw [← rebuilt other, same, rebuilt schema]

/-- Names that are used on several levels, below an array of objects and below an object, and an
array of objects that has no fields. -/
theorem walk_inPreorder_nested :
    let inner : List Field := [⟨"a", true, true, .object []⟩, ⟨"b", false, false, .unknown⟩]
    let schema : Schema := ⟨"S",
      [⟨"a", true, true, .object inner⟩, ⟨"b", true, false, .object inner⟩], ""⟩
    schema.EveryLevel Named ∧ schema.EveryLevel Distinct ∧
      schema.walk.map (·.1.text) = ["a", "a.a", "a.b", "b", "b.a", "b.b"] ∧
      (schema.walk.map (·.1.text)).Nodup ∧
      rebuild (schema.walk.map Row.ofEntry) = schema.fields := by
  intro inner schema
  have named : schema.EveryLevel Named := by decide
  have distinct : schema.EveryLevel Distinct := by decide
  obtain ⟨-, rebuilt, -, nodup⟩ := walk_inPreorder schema
  exact ⟨named, distinct, by decide, nodup named distinct, rebuilt⟩

end InterfaceGen
