import InterfaceGen.Proofs.Command.Run
import InterfaceGen.Proofs.Validation.Reports

/-!
# What checks print

A check that finds no issue ends well. Any other prints one line for each issue, in their order, and
ends in an error that counts them. The issues read back from the lines: what stands in a line before
its first colon is a path, and what stands behind it is a message. Only the document itself has the
empty path, for which the line names the root.
-/

namespace InterfaceGen

open Text TypeScript

/-! ## Paths and messages of issues -/

theorem Json.oneLine_word (value : Json) : OneLine value.word := by
  cases value <;> simp [word, OneLine]

theorem Field.oneLine_word (field : Field) : OneLine field.word := by
  rw [word]
  cases field.repeated <;> cases field.shape <;> simp [Shape.word, OneLine]

/-- What is said of a defect stays on its line. -/
theorem Field.Violates.oneLine {field : Field} {value? : Option Json} {message : String}
    (violates : field.Violates value? message) : OneLine message := by
  cases violates with
  | missing => decide
  | mismatch =>
      simp only [oneLine_append, Field.oneLine_word, Json.oneLine_word]
      decide

/-- The text of a path from the root is made of the characters of names and of dots. -/
theorem isPathChar_text_descend {names : List String} (named : ∀ name ∈ names, IsName name.toList) :
    ∀ char ∈ (Path.root.descend names).text.toList, Form.isPathChar char = true := by
  by_cases empty : names = []
  · subst empty
    exact nofun
  · exact (bound_descend empty named).isPathChar_dotted

/-- An issue of a document: its path leads along names from the root, and its message stays on its
line. No name is on the way only if the document itself is no object. -/
structure Issue.Told (issue : Issue) (document : Json) (names : List String) : Prop where
  leads : issue.path = Path.root.descend names
  named : ∀ name ∈ names, IsName name.toList
  root_iff : names = [] ↔ document.word ≠ "object"
  oneLine : OneLine issue.message

/-- The issues that validation reports are told along the names of fields and indices. -/
theorem exists_told_of_mem_validate {schema : Schema} (levels : schema.EveryLevel Named)
    {document : Json} {issue : Issue} (member : issue ∈ schema.validate document) :
    ∃ names, issue.Told document names := by
  obtain ⟨defects, reports⟩ :=
    Shape.exists_reports (.object schema.fields) schema.name true .root document
  have listed : (issue.path, issue.message) ∈
      (schema.validate document).map fun issue => (issue.path, issue.message) :=
    List.mem_map_of_mem member
  rw [Schema.validate, reports.worded] at listed
  obtain ⟨⟨steps, message⟩, inDefects, same⟩ := List.mem_map.1 listed
  obtain ⟨samePath, sameMessage⟩ := Prod.mk.inj same
  obtain ⟨target, found?, leads, violates⟩ := (reports.mem_iff _).1 inDefects
  refine ⟨steps.map Step.text, samePath.symm, ?_, ?_, sameMessage ▸ violates.oneLine⟩
  · exact List.forall_mem_map.2 (leads.named levels)
  · rw [List.map_eq_nil_iff]
    constructor
    · rintro rfl
      cases leads with
      | here =>
          cases violates with
          | mismatch _ differs => exact differs
    · exact leads.eq_nil_of_word_ne

namespace Command

/-! ## Lines of a check -/

/-- The path and the message in a line that tells an issue. The root stands for the empty path. -/
def issueOf (line : List Char) : String × String :=
  let path := String.ofList (line.takeWhile (· ≠ ':'))
  let message := String.ofList ((line.dropWhile (· ≠ ':')).drop 2)
  (if path = "<root>" then "" else path, message)

/-- The paths and the messages of the issues that the lines of a text tell, in order. -/
def issuesOf (output : String) : List (String × String) :=
  (linesOf output.toList).dropLast.map issueOf

variable {issue : Issue} {document : Json} {names : List String}

/-- Only a document that is no object has an issue with the empty path. -/
theorem text_eq_empty_iff (told : issue.Told document names) :
    issue.path.text = "" ↔ document.word ≠ "object" := by
  rw [← told.root_iff, told.leads]
  constructor
  · exact fun empty => descend_inj_of_text_eq told.named nofun empty
  · rintro rfl
    rfl

/-- No issue has the path that the root is printed as. -/
theorem text_ne_root (told : issue.Told document names) : issue.path.text ≠ "<root>" := by
  intro same
  have inPath := isPathChar_text_descend told.named '<' (by rw [← told.leads, same]; decide)
  exact absurd inPath (by decide)

/-- A line begins with the root if, and only if, the document is no object. -/
theorem issueLine_eq (told : issue.Told document names) :
    issueLine issue = (if document.word = "object" then issue.path.text else "<root>") ++ ": " ++
      issue.message := by
  simp only [issueLine, text_eq_empty_iff told, ne_eq, ite_not]

/-- What stands before the colon of a line holds neither a colon nor a line break. -/
theorem apart_of_mem_front (told : issue.Told document names) :
    ∀ char ∈ (if document.word = "object" then issue.path.text else "<root>").toList,
      char ≠ ':' ∧ char ≠ '\n' := by
  split
  · intro char member
    have inPath := isPathChar_text_descend told.named char (told.leads ▸ member)
    constructor <;>
    · rintro rfl
      exact absurd inPath (by decide)
  · simp

theorem oneLine_issueLine (told : issue.Told document names) : OneLine (issueLine issue) := by
  rw [issueLine_eq told, oneLine_append, oneLine_append]
  exact ⟨⟨fun member => (apart_of_mem_front told _ member).2 rfl, by decide⟩, told.oneLine⟩

/-- An issue reads back from its line. -/
theorem issueOf_issueLine (told : issue.Told document names) :
    issueOf (issueLine issue).toList = (issue.path.text, issue.message) := by
  have split : (issueLine issue).toList =
      (if document.word = "object" then issue.path.text else "<root>").toList ++
        ':' :: ' ' :: issue.message.toList := by
    rw [issueLine_eq told]
    simp
  have inside : ∀ char ∈ (if document.word = "object" then issue.path.text else "<root>").toList,
      decide (char ≠ ':') = true := fun char member =>
    decide_eq_true (apart_of_mem_front told char member).1
  have outside : decide (':' ≠ ':') = false := by decide
  obtain ⟨taken, dropped⟩ := run_append_stop inside outside (' ' :: issue.message.toList)
  rw [issueOf, split, taken, dropped, String.ofList_toList]
  by_cases object : document.word = "object"
  · simp [object, text_ne_root told]
  · simp [object, (text_eq_empty_iff told).2 object]

/-! ## Runs of `check` -/

/-- What `check` has when it looks for issues: the schema of its input, and a document. Else there
is the error of loading, reading or compiling. -/
def checked (read : String → Option String) (config : Option String) (input data : String) :
    Except Error (Schema × Json) := do
  let _ ← loadConfig read config
  let text ← readFile read input
  let schema ← Schema.ofSource text
  let text ← readFile read data
  let document ← loadDocument text
  return (schema, document)

variable {before : Workspace} {config : Option String} {input data : String} {schema : Schema}

theorem run_check_of_checked
    (good : checked before.readText? config input data = .ok (schema, document)) :
    Invocation.run ⟨config, .check input data⟩ before =
      (checkPlan data schema (schema.validate document)).run before := by
  obtain ⟨settings, loaded, good⟩ := exists_of_bind_eq_ok good
  obtain ⟨text, inputRead, good⟩ := exists_of_bind_eq_ok good
  obtain ⟨_, compiled, good⟩ := exists_of_bind_eq_ok good
  obtain ⟨dataText, dataRead, good⟩ := exists_of_bind_eq_ok good
  obtain ⟨_, parsed, good⟩ := exists_of_bind_eq_ok good
  cases good
  simp [Invocation.run, Invocation.plan, Task.plan, bind, Except.bind, loaded, inputRead, compiled,
    dataRead, parsed, pure, Except.pure]

/-- The levels of a schema that is checked against have names. -/
theorem named_of_checked
    (good : checked before.readText? config input data = .ok (schema, document)) :
    schema.EveryLevel Named := by
  obtain ⟨_, -, good⟩ := exists_of_bind_eq_ok good
  obtain ⟨text, -, good⟩ := exists_of_bind_eq_ok good
  obtain ⟨_, compiled, good⟩ := exists_of_bind_eq_ok good
  obtain ⟨_, -, good⟩ := exists_of_bind_eq_ok good
  obtain ⟨_, -, good⟩ := exists_of_bind_eq_ok good
  cases good
  obtain ⟨-, fields⟩ := Schema.ofSource_eq_ok_iff.1 compiled
  rw [Schema.EveryLevel, fields]
  exact (parseBody_writable schema.raw.toList).mono fun _ writable => writable.1

/-- Lines that are printed one after the other make up a text. -/
theorem toList_join_lines (lines : List String) :
    (String.join (lines.map (· ++ "\n"))).toList = textOf lines := by
  induction lines with
  | nil => rfl
  | cons line rest inductionHypothesis =>
      rw [List.map_cons, String.join_cons, String.toList_append, inductionHypothesis, textOf_cons]
      simp

/-- The issues of a document are printed one a line, and counted in the error. -/
theorem run_checkPlan_of_ne_nil {issues : List Issue} (found : issues ≠ []) (data : String)
    (schema : Schema) (before : Workspace) : (checkPlan data schema issues).run before =
      ⟨1, String.join ((issues.map issueLine).map (· ++ "\n")), before,
        some (.invalid issues.length)⟩ := by
  have prints : ∀ action ∈ issues.map fun issue => printLine (issueLine issue),
      action.text?.isSome := List.forall_mem_map.2 fun _ _ => rfl
  have printed : (issues.map fun issue => printLine (issueLine issue)).filterMap Action.text? =
      (issues.map issueLine).map (· ++ "\n") := by
    rw [List.filterMap_map, List.map_map, ← List.filterMap_eq_map]
    rfl
  rw [checkPlan, if_neg found, Plan.run, perform_of_prints prints, printed]
  simp [exitCode]

/-- How a run of `check` ends, by the issues of the document. -/
structure Checks (schema : Schema) (document : Json) (report : Report) : Prop where
  succeeds_iff : report.exit = 0 ↔ schema.validate document = []
  counts : schema.validate document ≠ [] →
    ∃ count, 1 ≤ count ∧ report.error = some (.invalid count) ∧
      (schema.validate document).length = count ∧ (issuesOf report.output).length = count
  lines : schema.validate document ≠ [] →
    linesOf report.output.toList = (schema.validate document).map (fun issue =>
      ((if document.word = "object" then issue.path.text else "<root>") ++ ": " ++
        issue.message).toList) ++ [[]]
  rooted : ∀ issue ∈ schema.validate document,
    (issue.path.text = "" ↔ document.word ≠ "object") ∧ issue.path.text ≠ "<root>"
  recovers : schema.validate document ≠ [] →
    issuesOf report.output =
      (schema.validate document).map fun issue => (issue.path.text, issue.message)

theorem checks_checkPlan (levels : schema.EveryLevel Named) (document : Json) (data : String)
    (before : Workspace) :
    Checks schema document ((checkPlan data schema (schema.validate document)).run before) := by
  have told (issue : Issue) (member : issue ∈ schema.validate document) :=
    exists_told_of_mem_validate levels member
  have rooted : ∀ issue ∈ schema.validate document,
      (issue.path.text = "" ↔ document.word ≠ "object") ∧ issue.path.text ≠ "<root>" := by
    intro issue member
    obtain ⟨names, told⟩ := told issue member
    exact ⟨text_eq_empty_iff told, text_ne_root told⟩
  by_cases none : schema.validate document = []
  · have ends : ((checkPlan data schema (schema.validate document)).run before).exit = 0 := by
      rw [none]
      rfl
    exact ⟨iff_of_true ends none, absurd none, absurd none, rooted, absurd none⟩
  · rw [run_checkPlan_of_ne_nil none]
    have split : linesOf (String.join
        (((schema.validate document).map issueLine).map (· ++ "\n"))).toList =
          (schema.validate document).map (fun issue => (issueLine issue).toList) ++ [[]] := by
      rw [toList_join_lines, linesOf_textOf, List.map_map]
      · rfl
      · refine List.forall_mem_map.2 fun issue member => ?_
        obtain ⟨names, told⟩ := told issue member
        exact oneLine_issueLine told
    have recovers : issuesOf (String.join
        (((schema.validate document).map issueLine).map (· ++ "\n"))) =
          (schema.validate document).map fun issue => (issue.path.text, issue.message) := by
      rw [issuesOf, split, List.dropLast_concat, List.map_map]
      refine List.map_congr_left fun issue member => ?_
      obtain ⟨names, told⟩ := told issue member
      exact issueOf_issueLine told
    refine ⟨iff_of_false (by simp) none, fun _ => ?_, fun _ => ?_, rooted, fun _ => recovers⟩
    · exact ⟨_, List.length_pos_iff.2 none, rfl, rfl, by rw [recovers, List.length_map]⟩
    · rw [split]
      congr 1
      refine List.map_congr_left fun issue member => ?_
      obtain ⟨names, told⟩ := told issue member
      rw [issueLine_eq told]

/-- A run of `check` on a schema and a document succeeds if and only if the document has no issues.
Any other prints the issues one a line, so that they read back from what it prints, and counts
them. -/
theorem run_check {arguments : List String}
    (asked : Request.ofArguments arguments = .run ⟨config, .check input data⟩)
    (good : checked before.readText? config input data = .ok (schema, document)) :
    Checks schema document (run arguments before) := by
  rw [run, asked]
  change Checks schema document (Invocation.run _ before)
  rw [run_check_of_checked good]
  exact checks_checkPlan (named_of_checked good) document data before

/-- A document that lacks a field and has an item of another type in an array within an object is
told with one line for each of the two. -/
theorem run_check_nested :
    let before : Workspace :=
      ⟨[(["a.ts"], some "interface A \x7b b: string; c: \x7b d: number[] \x7d \x7d"),
        (["b.json"], some "\x7b\"c\": \x7b\"d\": [0, \"x\"]\x7d\x7d")], []⟩
    let arguments := ["check", "-i", "a.ts", "-d", "b.json"]
    (run arguments before).output = "b: Required\nc.d.1: Expected number, received string\n" ∧
      ∃ schema document, checked before.readText? none "a.ts" "b.json" = .ok (schema, document) ∧
        Checks schema document (run arguments before) := by
  intro before arguments
  have asked : Request.ofArguments arguments = .run ⟨none, .check "a.ts" "b.json"⟩ := by decide
  have isOk : (checked before.readText? none "a.ts" "b.json").isOk = true := by decide +kernel
  refine ⟨by decide +kernel, ?_⟩
  cases good : checked before.readText? none "a.ts" "b.json" with
  | error error => simp [good, Except.isOk, Except.toBool] at isOk
  | ok found =>
      obtain ⟨schema, document⟩ := found
      exact ⟨schema, document, rfl, run_check asked good⟩

end Command

end InterfaceGen
