import InterfaceGen.Proofs.Validation.Places
import InterfaceGen.Proofs.Zod.Acceptance

/-!
# What validation reports

The issues of a document are its defects: one issue for each of them, in the order of the steps that
lead to them. Where names do not repeat, no two issues have one path.
-/

namespace InterfaceGen

open Text

/-! ## Reports -/

/-- Issues report defects below a path, one after the other in the order of the steps to them, and
these are the defects there are. -/
structure Reports (isDefect : Defect → Prop) (path : Path) (issues : List Issue)
    (defects : List Defect) : Prop where
  worded : issues.map (fun issue => (issue.path, issue.message)) =
    defects.map fun defect => (path.descend (defect.steps.map Step.text), defect.message)
  ordered : (defects.map fun defect => defect.steps.map Step.index).Pairwise (· < ·)
  mem_iff : ∀ defect, defect ∈ defects ↔ isDefect defect

theorem Reports.congr {isDefect alsoDefect : Defect → Prop} {path : Path} {issues : List Issue}
    {defects : List Defect} (reports : Reports isDefect path issues defects)
    (same : ∀ defect, alsoDefect defect ↔ isDefect defect) :
    Reports alsoDefect path issues defects where
  worded := reports.worded
  ordered := reports.ordered
  mem_iff defect := (reports.mem_iff defect).trans (same defect).symm

/-- Where there are no defects, no issues are a report. -/
theorem Reports.nil {isDefect : Defect → Prop} (clean : ∀ defect, ¬ isDefect defect) (path : Path) :
    Reports isDefect path [] [] where
  worded := rfl
  ordered := .nil
  mem_iff defect := by simp [clean defect]

/-- The issue of the only defect is a report. -/
theorem Reports.single {isDefect : Defect → Prop} {issue : Issue}
    (only : ∀ defect, isDefect defect ↔ defect = ⟨[], issue.message⟩) :
    Reports isDefect issue.path [issue] [⟨[], issue.message⟩] where
  worded := by simp
  ordered := List.pairwise_singleton _ _
  mem_iff defect := by simp [only defect]

/-- What is reported one step further is reported here, behind the step. -/
theorem Reports.behind {isDefect : Defect → Prop} {path : Path} {step : Step} {issues : List Issue}
    {defects : List Defect} (reports : Reports isDefect (path.child step.text) issues defects) :
    Reports (fun defect => ∃ later, isDefect later ∧ Defect.behind step later = defect) path issues
      (defects.map (Defect.behind step)) where
  worded := by
    rw [reports.worded, List.map_map]
    simp [Function.comp_def, Defect.behind]
  ordered := by
    have ordered := List.pairwise_map.1 reports.ordered
    simp only [List.map_map, List.pairwise_map, Function.comp_apply]
    exact ordered.imp fun less => List.cons_lt_cons_iff.2 (.inr ⟨rfl, less⟩)
  mem_iff defect := by simp only [List.mem_map, reports.mem_iff]

/-- Two reports are together a report if the steps to what the first one reports come first. -/
theorem Reports.append {isDefect alsoDefect : Defect → Prop} {path : Path}
    {issues moreIssues : List Issue} {defects moreDefects : List Defect}
    (reports : Reports isDefect path issues defects)
    (others : Reports alsoDefect path moreIssues moreDefects)
    (less : ∀ defect other, isDefect defect → alsoDefect other →
      defect.steps.map Step.index < other.steps.map Step.index) :
    Reports (fun defect => isDefect defect ∨ alsoDefect defect) path (issues ++ moreIssues)
      (defects ++ moreDefects) where
  worded := by rw [List.map_append, List.map_append, reports.worded, others.worded]
  ordered := by
    rw [List.map_append, List.pairwise_append]
    refine ⟨reports.ordered, others.ordered, List.forall_mem_map.2 fun defect member => ?_⟩
    refine List.forall_mem_map.2 fun other behind => ?_
    exact less defect other ((reports.mem_iff defect).1 member) ((others.mem_iff other).1 behind)
  mem_iff defect := by rw [List.mem_append, reports.mem_iff, others.mem_iff]

/-- Reports on things one step further, each behind its own step, are together a report. -/
theorem exists_reports_flatMap {α : Type} (step : Nat → α → Step)
    (indexed : ∀ index thing, (step index thing).index = index) {isDefect : α → Defect → Prop}
    {check : Path → α → List Issue} {things : List α}
    (each : ∀ thing ∈ things, ∀ place, ∃ defects,
      Reports (isDefect thing) place (check place thing) defects) (path : Path) (first : Nat) :
    ∃ defects, Reports
      (fun defect => ∃ index thing later, things[index]? = some thing ∧
        defect = Defect.behind (step (first + index) thing) later ∧ isDefect thing later)
      path
      ((things.zipIdx first).flatMap fun entry =>
        check (path.child (step entry.2 entry.1).text) entry.1)
      defects := by
  induction things generalizing first with
  | nil => exact ⟨[], .nil (by simp) path⟩
  | cons thing rest inductionHypothesis =>
      obtain ⟨here, reports⟩ := each thing List.mem_cons_self (path.child (step first thing).text)
      obtain ⟨behind, others⟩ := inductionHypothesis
        (fun other member => each other (List.mem_cons_of_mem _ member)) (first + 1)
      rw [List.zipIdx_cons, List.flatMap_cons]
      refine ⟨_, (reports.behind.append others ?_).congr ?_⟩
      · -- What is behind the first thing begins with a greater index.
        rintro _ _ ⟨later, -, rfl⟩ ⟨index, other, further, -, rfl, -⟩
        refine List.cons_lt_cons_iff.2 (.inl ?_)
        rw [indexed, indexed]
        omega
      · intro defect
        constructor
        · rintro ⟨index, other, later, listed, same, isLater⟩
          cases index with
          | zero =>
              obtain rfl := Option.some.inj listed
              exact .inl ⟨later, isLater, same.symm⟩
          | succ index =>
              refine .inr ⟨index, other, later, listed, ?_, isLater⟩
              rw [same, Nat.add_assoc, Nat.add_comm 1]
        · rintro (⟨later, isLater, rfl⟩ | ⟨index, other, later, listed, same, isLater⟩)
          · exact ⟨0, thing, later, rfl, rfl, isLater⟩
          · refine ⟨index + 1, other, later, listed, ?_, isLater⟩
            rw [same, Nat.add_assoc, Nat.add_comm 1]

/-! ## Items and members -/

theorem checkItems_eq_flatMap (check : Path → Json → List Issue) (path : Path) (first : Nat)
    (items : List Json) :
    checkItems check path first items =
      (items.zipIdx first).flatMap fun entry =>
        check (path.child (Step.item entry.2).text) entry.1 := by
  induction items generalizing first with
  | nil => rfl
  | cons item rest inductionHypothesis =>
      rw [checkItems, inductionHypothesis]
      rfl

theorem fieldIssues_eq_flatMap (parent : Path) (members : List (String × Json)) (first : Nat)
    (fields : List Field) :
    fieldIssues parent members fields =
      (fields.zipIdx first).flatMap fun entry =>
        entry.1.issues (parent.child (Step.field entry.2 entry.1.name).text)
          (Json.lookup? entry.1.name members) := by
  induction fields generalizing first with
  | nil => rfl
  | cons field rest inductionHypothesis =>
      rw [fieldIssues_cons, inductionHypothesis (first + 1)]
      rfl

/-! ## Values -/

/-- A value that is not of the declared type is reported as such. -/
theorem exists_reports_mismatch {field : Field} {value : Json} (typed : field.Typed)
    (differs : value.word ≠ field.word) (path : Path) :
    ∃ defects,
      Reports (field.HasDefect (some value)) path [mismatch path field.word value] defects := by
  have report : Reports (field.HasDefect (some value)) (mismatch path field.word value).path
      [mismatch path field.word value] _ :=
    .single fun _ => Field.hasDefect_iff_of_word_ne typed differs
  exact ⟨_, report⟩

/-- A value of a type without parts is reported if it is of another type. -/
theorem exists_reports_leaf {field : Field} (single : field.repeated = false)
    (leaf : ∀ fields, field.shape ≠ .object fields) (typed : field.shape ≠ .unknown) (path : Path)
    (value : Json) :
    ∃ defects, Reports (field.HasDefect (some value)) path
      (if value.word = field.word then [] else [mismatch path field.word value]) defects := by
  split
  next same => exact ⟨[], .nil (fun _ => Field.not_hasDefect_of_word_eq same single leaf) path⟩
  next differs => exact exists_reports_mismatch (.inr typed) differs path

/-- What is missing is reported if it is required. -/
theorem exists_reports_none (field : Field) (path : Path) :
    ∃ defects, Reports (field.HasDefect none) path (field.issues path none) defects := by
  have typed_iff : field.Typed ↔ acceptsAbsence field.repeated field.shape = false := by
    rw [Field.Typed]
    cases field.shape <;> simp [acceptsAbsence]
  rw [Field.issues]
  split
  next reported =>
    simp only [Bool.and_eq_true, Bool.not_eq_true', ← typed_iff] at reported
    have only : ∀ defect, field.HasDefect none defect ↔ defect = ⟨[], "Required"⟩ := by
      intro defect
      simp [Field.hasDefect_none_iff, reported]
    have report : Reports (field.HasDefect none) (Issue.mk path .missing).path
      [⟨path, .missing⟩] _ := .single only
    exact ⟨_, report⟩
  next accepted =>
    simp only [Bool.and_eq_true, Bool.not_eq_true', ← typed_iff] at accepted
    refine ⟨[], .nil (fun defect => ?_) path⟩
    rw [Field.hasDefect_none_iff]
    rintro ⟨required, typed, -⟩
    exact accepted ⟨required, typed⟩

/-- The value of a field is reported on, if single values of its shape are. -/
theorem Field.exists_reports {field : Field}
    (single : ∀ path value, ∃ defects,
      Reports (field.entry.HasDefect (some value)) path (field.shape.issues path value) defects)
    (path : Path) (value? : Option Json) :
    ∃ defects, Reports (field.HasDefect value?) path (field.issues path value?) defects := by
  cases value? with
  | none => exact exists_reports_none field path
  | some value =>
      cases repeated : field.repeated with
      | false =>
          have issues_eq : field.issues path (some value) = field.shape.issues path value := by
            simp [issues, repeated]
          rw [entry_eq_self repeated] at single
          rw [issues_eq]
          exact single path value
      | true =>
          have array := word_of_repeated repeated
          cases value with
          | array items =>
              obtain ⟨defects, reports⟩ := exists_reports_flatMap (fun index _ => .item index)
                (fun _ _ => rfl) (fun item (_ : item ∈ items) place => single place item) path 0
              have issues_eq : field.issues path (some (.array items)) =
                  (items.zipIdx 0).flatMap fun entry =>
                    field.shape.issues (path.child (Step.item entry.2).text) entry.1 := by
                simp [issues, repeated, checkItems_eq_flatMap]
              refine ⟨defects, ?_⟩
              rw [issues_eq]
              refine reports.congr fun defect => ?_
              simpa only [Nat.zero_add] using hasDefect_array_iff repeated
          | _ =>
              simp only [issues, repeated, if_true, ← array]
              exact exists_reports_mismatch (.inl repeated) (by simp [array, Json.word]) path

mutual

/-- A single value is reported on. -/
theorem Shape.exists_reports : ∀ (shape : Shape) (name : String) (required : Bool) (path : Path)
    (value : Json), ∃ defects,
      Reports (Field.HasDefect ⟨name, required, false, shape⟩ (some value)) path
        (shape.issues path value) defects
  | .string, _, _, path, value | .number, _, _, path, value | .boolean, _, _, path, value =>
      exists_reports_leaf rfl (by simp) (by simp) path value
  | .unknown, _, _, path, _ =>
      ⟨[], .nil (fun _ => Field.not_hasDefect_of_not_typed (by simp [Field.Typed])) path⟩
  | .object fields, name, required, path, value => by
      cases value with
      | object members =>
          obtain ⟨defects, reports⟩ := exists_reports_flatMap
            (fun index field => .field index field.name) (fun _ _ => rfl)
            (fun field member place =>
              exists_reports_fields fields field member place (Json.lookup? field.name members))
            path 0
          refine ⟨defects, ?_⟩
          rw [Shape.issues, fieldIssues_eq_flatMap path members 0]
          refine reports.congr fun defect => ?_
          simpa only [Nat.zero_add] using Field.hasDefect_object_iff rfl
      | _ =>
          exact exists_reports_mismatch (.inr (by simp))
            (by simp [Json.word, Field.word, Shape.word]) path

/-- The value of each field is reported on. -/
theorem exists_reports_fields : ∀ fields : List Field, ∀ field ∈ fields, ∀ (path : Path)
    (value? : Option Json), ∃ defects,
      Reports (field.HasDefect value?) path (field.issues path value?) defects
  | [], _, member => absurd member List.not_mem_nil
  | ⟨name, required, repeated, shape⟩ :: rest, field, member => by
      rcases List.mem_cons.1 member with rfl | later
      · exact Field.exists_reports (Shape.exists_reports shape name required)
      · exact exists_reports_fields rest field later

end

/-! ## Documents -/

/-- On levels without double names, the defects of a report have paths with different texts. -/
theorem Reports.nodup_texts {field : Field} {value? : Option Json} {issues : List Issue}
    {defects : List Defect} (reports : Reports (field.HasDefect value?) .root issues defects)
    (named : field.shape.EveryLevel Named) (distinct : field.shape.EveryLevel Distinct) :
    (issues.map (·.path.text)).Nodup := by
  have texts : issues.map (·.path.text) =
      defects.map fun defect => (Path.root.descend (defect.steps.map Step.text)).text := by
    have worded := congrArg (List.map fun entry => entry.1.text) reports.worded
    simpa [Function.comp_def] using worded
  have ordered := List.pairwise_map.1 reports.ordered
  rw [texts, List.Nodup, List.pairwise_map]
  refine ordered.imp_of_mem ?_
  intro left right inLeft inRight less same
  obtain ⟨_, _, leads, -⟩ := (reports.mem_iff left).1 inLeft
  obtain ⟨_, _, alsoLeads, -⟩ := (reports.mem_iff right).1 inRight
  have sameNames := descend_inj_of_text_eq (List.forall_mem_map.2 (leads.named named))
    (List.forall_mem_map.2 (alsoLeads.named named)) same
  rw [leads.steps_eq alsoLeads distinct sameNames] at less
  exact List.lt_irrefl _ less

/-- Validation reports the defects of a document, each once and in the order of the steps to them.
The names of fields on the way to a defect are none or lead to a path of the walk. If the fields of
each level have different names, the issues have different paths. -/
theorem validate_reports (schema : Schema) (document : Json) (named : schema.EveryLevel Named) :
    ∃ defects,
      Reports (schema.whole.HasDefect (some document)) .root (schema.validate document) defects ∧
        (∀ defect ∈ defects, defect.steps.filterMap Step.name? = [] ∨
          ∃ field, (Path.root.descend (defect.steps.filterMap Step.name?), field) ∈ schema.walk) ∧
        (schema.EveryLevel Distinct → ((schema.validate document).map (·.path.text)).Nodup) := by
  obtain ⟨defects, reports⟩ :=
    Shape.exists_reports (.object schema.fields) schema.name true .root document
  refine ⟨defects, reports, ?_, reports.nodup_texts named⟩
  intro defect member
  obtain ⟨target, found?, leads, -⟩ := (reports.mem_iff defect).1 member
  obtain none | ⟨fields, last, holds, chain⟩ := leads.leadsTo
  · exact .inl none
  · obtain rfl := Shape.object.inj holds
    exact .inr ⟨last, (mem_walkFields_iff _ _ _ _).2 ⟨_, chain, rfl⟩⟩

/-- A value that is missing in an item, and items of other types, are reported once each. -/
theorem validate_reports_items :
    let item : Field := ⟨"sku", true, false, .string⟩
    let schema : Schema := ⟨"P",
      [⟨"scores", true, true, .number⟩, ⟨"items", true, true, .object [item]⟩,
        ⟨"meta", true, false, .unknown⟩], ""⟩
    let document : Json := .object
      [("items", .array [.object [("sku", .string "a")], .object [], .null]),
        ("scores", .array [.number ⟨1, 0⟩, .string "two"])]
    let report := (schema.validate document).map fun issue => (issue.path.text, issue.message)
    schema.EveryLevel Named ∧ schema.EveryLevel Distinct ∧
      report = [("scores.1", "Expected number, received string"), ("items.1.sku", "Required"),
        ("items.2", "Expected object, received null")] ∧
      ((schema.validate document).map (·.path.text)).Nodup ∧
      ∃ defects, Reports (schema.whole.HasDefect (some document)) .root
        (schema.validate document) defects := by
  intro item schema document report
  have named : schema.EveryLevel Named := by decide
  have distinct : schema.EveryLevel Distinct := by decide
  obtain ⟨defects, reports, -, nodup⟩ := validate_reports schema document named
  exact ⟨named, distinct, by decide +kernel, nodup distinct, defects, reports⟩

end InterfaceGen
