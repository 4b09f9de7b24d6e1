import InterfaceGen.Command.Run
import InterfaceGen.Proofs.Command.Workspace
import Mathlib.Data.List.Nodup

/-!
# What runs print and write

A run reads everything before it does anything. What is wrong with its input ends it before it
prints or writes, and a run that writes changes no files but those it is asked for. They hold what
is printed where there is no directory to write into, and an artifact that is asked for alone is the
one that stands among all.
-/

namespace InterfaceGen

/-! ## The files that are asked for -/

theorem Artifact.fileName_injective : Function.Injective fileName := by
  intro first second same
  cases first <;> cases second <;> first | rfl | exact absurd same (by decide)

/-- The artifacts that are asked for, in the order in which they are written: all, or only one. -/
def Artifact.selected : Option Artifact → List Artifact
  | none => all
  | some artifact => [artifact]

theorem Artifact.mem_all (artifact : Artifact) : artifact ∈ all := by
  cases artifact <;> decide

theorem Artifact.nodup_selected (only : Option Artifact) : (selected only).Nodup := by
  cases only with
  | none => decide
  | some artifact => exact List.nodup_singleton artifact

theorem Artifact.filter_all (artifact : Artifact) :
    all.filter (artifact.fileName = ·.fileName) = [artifact] := by
  simp only [fileName_injective.eq_iff]
  cases artifact <;> rfl

/-- The files that are asked for: those of every artifact, or the file of only one. -/
def Schema.selected (schema : Schema) (config : Config) (only : Option Artifact) :
    List GeneratedFile :=
  (Artifact.selected only).map (·.file schema config)

/-- Of all files, those are asked for that have the name of the artifact, if there is only one. -/
theorem Schema.filter_files (schema : Schema) (config : Config) (only : Option Artifact) :
    (schema.files config).filter (fun file => only.all (·.fileName = file.name)) =
      schema.selected config only := by
  cases only with
  | none => exact List.filter_eq_self.2 fun _ _ => rfl
  | some artifact =>
      rw [files, List.filter_map]
      exact congrArg (List.map _) artifact.filter_all

namespace Command

open Workspace

theorem isFileName_fileName (artifact : Artifact) : IsFileName artifact.fileName := by
  cases artifact <;> exact ⟨by decide, by decide, by decide, by decide⟩

/-- Files that can stand beside each other in a directory. -/
structure Beside (files : List GeneratedFile) : Prop where
  named : ∀ file ∈ files, IsFileName file.name
  distinct : (files.map (·.name)).Nodup

theorem Beside.of_cons {file : GeneratedFile} {rest : List GeneratedFile}
    (beside : Beside (file :: rest)) :
    IsFileName file.name ∧ Beside rest ∧ ∀ other ∈ rest, other.name ≠ file.name := by
  obtain ⟨named, distinct⟩ := beside
  rw [List.forall_mem_cons] at named
  rw [List.map_cons, List.nodup_cons] at distinct
  exact ⟨named.1, ⟨named.2, distinct.2⟩, fun other found same =>
    distinct.1 (List.mem_map.2 ⟨other, found, same⟩)⟩

theorem beside_selected (schema : Schema) (config : Config) (only : Option Artifact) :
    Beside (schema.selected config only) where
  named := List.forall_mem_map.2 fun artifact _ => isFileName_fileName artifact
  distinct := by
    rw [Schema.selected, List.map_map]
    exact (Artifact.nodup_selected only).map Artifact.fileName_injective

/-! ## Plans that only print -/

/-- The text that an action prints. -/
def Action.text? : Action → Option String
  | .print text => some text
  | .makeDirectory _ | .write .. => none

/-- Actions that only print leave the workspace as it is, and print one after the other. -/
theorem perform_of_prints {actions : List Action} (prints : ∀ action ∈ actions, action.text?.isSome)
    (error : Option Error) (printed : String) (workspace : Workspace) :
    perform error printed workspace actions = ⟨exitCode error,
      printed ++ String.join (actions.filterMap Action.text?), workspace, error⟩ := by
  induction actions generalizing printed with
  | nil => simp [perform]
  | cons action rest inductionHypothesis =>
      rw [List.forall_mem_cons] at prints
      cases action with
      | print text =>
          simp [perform, inductionHypothesis prints.2, Action.text?, String.append_assoc]
      | makeDirectory | write => cases prints.1

/-- What is printed of files: each below a line with its name, and with a line break behind it. -/
def listing (files : List GeneratedFile) : String :=
  String.join (files.map fun file => "// ---- " ++ file.name ++ " ----\n" ++ file.contents ++ "\n")

theorem text?_of_mem_printActions (files : List GeneratedFile) :
    ∀ action ∈ printActions files, action.text?.isSome := by
  intro action found
  obtain ⟨file, -, found⟩ := List.mem_flatMap.1 found
  obtain rfl | rfl : action = _ ∨ action = _ := by simpa using found
  all_goals rfl

theorem join_printActions (files : List GeneratedFile) :
    String.join ((printActions files).filterMap Action.text?) = listing files := by
  induction files with
  | nil => rfl
  | cons file rest inductionHypothesis =>
      have banner : " ----" ++ "\n" = " ----\n" := rfl
      simp only [printActions, listing, printLine, List.flatMap_cons, List.cons_append,
        List.nil_append, Action.text?, List.filterMap_cons, List.map_cons, String.join_cons,
        String.append_assoc, banner] at inductionHypothesis ⊢
      rw [inductionHypothesis]

/-- The directory that a task writes into. -/
def Task.output? : Task → Option String
  | .generate _ output _ => output
  | .parse _ | .check .. | .samples _ => none

/-- What two steps give together, the second gives with what the first gave. -/
theorem exists_of_bind_eq_ok {α β : Type} {first : Except Error α} {next : α → Except Error β}
    {result : β} (bound : (first >>= next) = .ok result) :
    ∃ value, first = .ok value ∧ next value = .ok result := by
  cases first with
  | error => cases bound
  | ok value => exact ⟨value, rfl, bound⟩

/-- The plan of a task that writes nowhere only prints. -/
theorem Task.text?_of_plan {read : String → Option String} {config : Config} {task : Task}
    {plan : Plan} (planned : task.plan read config = .ok plan) (silent : task.output? = none) :
    ∀ action ∈ plan.actions, action.text?.isSome := by
  cases task with
  | parse input =>
      obtain ⟨text, -, planned⟩ := exists_of_bind_eq_ok planned
      obtain ⟨schema, -, planned⟩ := exists_of_bind_eq_ok planned
      cases planned
      simp [Plan.done, printLine, Action.text?]
  | generate input output only =>
      obtain rfl : output = none := silent
      obtain ⟨text, -, planned⟩ := exists_of_bind_eq_ok planned
      obtain ⟨⟨schema, files⟩, -, planned⟩ := exists_of_bind_eq_ok planned
      cases planned
      exact text?_of_mem_printActions _
  | check input data =>
      obtain ⟨text, -, planned⟩ := exists_of_bind_eq_ok planned
      obtain ⟨schema, -, planned⟩ := exists_of_bind_eq_ok planned
      obtain ⟨text, -, planned⟩ := exists_of_bind_eq_ok planned
      obtain ⟨document, -, planned⟩ := exists_of_bind_eq_ok planned
      cases planned
      unfold checkPlan
      split <;> simp [Plan.done, printLine, Action.text?]
  | samples name =>
      cases name with
      | none =>
          cases planned
          simp [Plan.done, printLine, Action.text?]
      | some name =>
          cases planned
          unfold samplePlan
          split <;> simp [Plan.done, Plan.failed, Action.text?]

/-- A run that writes nowhere leaves the workspace as it is. -/
theorem Invocation.workspace_run {invocation : Invocation}
    (silent : invocation.task.output? = none) (workspace : Workspace) :
    (invocation.run workspace).workspace = workspace := by
  have prints : ∀ action ∈ (invocation.plan workspace.readText?).actions, action.text?.isSome := by
    unfold plan
    split
    case h_1 plan planned =>
      obtain ⟨config, -, planned⟩ := exists_of_bind_eq_ok planned
      exact Task.text?_of_plan planned silent
    case h_2 => simp [Plan.failed]
  rw [run, Plan.run, perform_of_prints prints]

/-! ## Plans that write -/

variable {workspace : Workspace} {directory : String} {here : Place} {files : List GeneratedFile}

/-- What is printed when a file has been written. -/
def wroteLine (directory : String) (file : GeneratedFile) : String :=
  "Wrote " ++ joinPath directory file.name ++ "\n"

/-- What is done for each file once its directory is there. -/
def writing (directory : String) (file : GeneratedFile) : List Action :=
  [.write (joinPath directory file.name) file.contents, .print (wroteLine directory file)]

theorem run_writeActions (directory : String) (files : List GeneratedFile)
    (workspace : Workspace) : (Plan.done (writeActions directory files)).run workspace =
      perform none "" workspace
        (.makeDirectory directory :: files.flatMap (writing directory)) :=
  rfl

/-- What is written first does not change which of the other files the directory takes. -/
theorem takes_put_cons_iff {file : GeneratedFile} {rest : List GeneratedFile}
    (beside : Beside (file :: rest))
    (leads : workspace.walk? [] (pathParts directory) = some here) :
    (∀ other ∈ rest, (workspace.put (here ++ [file.name]) file.contents).Takes
        directory here other.name) ↔
      ∀ other ∈ rest, workspace.Takes directory here other.name := by
  obtain ⟨-, beside, apart⟩ := beside.of_cons
  exact forall₂_congr fun other found =>
    takes_put_iff (beside.named other found) (apart other found) leads

/-- Files that the directory takes are written one after the other. -/
theorem perform_writing (beside : Beside files)
    (leads : workspace.walk? [] (pathParts directory) = some here)
    (takes : ∀ file ∈ files, workspace.Takes directory here file.name) (printed : String) :
    perform none printed workspace (files.flatMap (writing directory)) =
      ⟨0, printed ++ String.join (files.map (wroteLine directory)),
        workspace.putAll here files, none⟩ := by
  induction files generalizing workspace printed with
  | nil => simp [perform, exitCode, putAll]
  | cons file rest inductionHypothesis =>
      rw [List.forall_mem_cons] at takes
      have next := inductionHypothesis beside.of_cons.2.1
        ((directoriesStay_put workspace _ file.contents).walk? leads)
        ((takes_put_cons_iff beside leads).2 takes.2)
      simp [writing, perform, takes.1.writeText?, next, putAll, String.append_assoc]

/-- What has been written to its end, the directory could take from the beginning. -/
theorem takes_of_perform_writing (beside : Beside files)
    (leads : workspace.walk? [] (pathParts directory) = some here) {printed : String}
    (ends : (perform none printed workspace (files.flatMap (writing directory))).error = none) :
    ∀ file ∈ files, workspace.Takes directory here file.name := by
  induction files generalizing workspace printed with
  | nil => simp
  | cons file rest inductionHypothesis =>
      obtain ⟨named, besideRest, -⟩ := beside.of_cons
      cases written : workspace.writeText? (joinPath directory file.name) file.contents with
      | none => simp [writing, perform, written, perform.stopped] at ends
      | some next =>
          have takes := takes_of_writeText? named leads written
          obtain rfl : workspace.put (here ++ [file.name]) file.contents = next :=
            Option.some.inj ((takes.writeText? file.contents).symm.trans written)
          refine List.forall_mem_cons.2 ⟨takes, (takes_put_cons_iff beside leads).1 ?_⟩
          exact inductionHypothesis besideRest
            ((directoriesStay_put workspace _ file.contents).walk? leads)
            (by simpa [writing, perform, written] using ends)

/-- A directory that has been made, with a place for each of some files. -/
structure Ready (before made : Workspace) (directory : String) (here : Place)
    (files : List GeneratedFile) : Prop where
  makes : before.makeDirectory? directory = some made
  leads : made.walk? [] (pathParts directory) = some here
  takes : ∀ file ∈ files, made.Takes directory here file.name

variable {made : Workspace}

/-- A run writes its files into a directory that takes all of them. -/
theorem Ready.run_eq (ready : Ready workspace made directory here files)
    (beside : Beside files) : (Plan.done (writeActions directory files)).run workspace =
      ⟨0, String.join (files.map (wroteLine directory)), made.putAll here files, none⟩ := by
  rw [run_writeActions, perform, ready.makes]
  simpa using perform_writing beside ready.leads ready.takes ""

/-- A run writes its files to the end if, and only if, a directory can be made that takes them. -/
theorem run_writeActions_error_iff (workspace : Workspace) (directory : String)
    (beside : Beside files) :
    ((Plan.done (writeActions directory files)).run workspace).error = none ↔
      ∃ made here, Ready workspace made directory here files := by
  constructor
  · intro ends
    rw [run_writeActions] at ends
    cases makes : workspace.makeDirectory? directory with
    | none => simp [perform, makes, perform.stopped] at ends
    | some made =>
        obtain ⟨-, here, leads⟩ := makesDirectories_of_makeDirectory? makes
        exact ⟨made, here, makes, leads,
          takes_of_perform_writing beside leads (by simpa [perform, makes] using ends)⟩
  · rintro ⟨made, here, ready⟩
    rw [ready.run_eq beside]

/-- A workspace after files have been written into a directory of it. Every other file is as it was,
and no directory has been made but those that the path leads through. -/
structure Receives (before after : Workspace) (directory : String) (here : Place)
    (files : List GeneratedFile) : Prop where
  leads : after.walk? [] (pathParts directory) = some here
  holds : ∀ file ∈ files, after.file? (here ++ [file.name]) = some (some file.contents)
  reads : ∀ file ∈ files, after.readText? (joinPath directory file.name) = some file.contents
  others : ∀ place, (∀ file ∈ files, place ≠ here ++ [file.name]) →
    after.file? place = before.file? place
  kept : before.directories ⊆ after.directories
  made : after.directories ⊆ before.directories ++ way [] (pathParts directory)

theorem Ready.receives (ready : Ready workspace made directory here files)
    (beside : Beside files) :
    Receives workspace (made.putAll here files) directory here files := by
  have makes := (makesDirectories_of_makeDirectory? ready.makes).1
  have leads := (directoriesStay_putAll made here files).walk? ready.leads
  have holds : ∀ file ∈ files,
      (made.putAll here files).file? (here ++ [file.name]) = some (some file.contents) :=
    fun _ => file?_putAll made beside.distinct
  refine ⟨leads, holds, fun file found => ?_, fun place apart => ?_, ?_, ?_⟩
  · have place : (made.putAll here files).filePlace? (joinPath directory file.name) =
        some (here ++ [file.name]) := by
      rw [← (ready.takes file found).place]
      apply filePlace?_eq_of_walk?
      rw [pathParts_joinPath directory (beside.named file found), List.dropLast_concat, leads,
        ready.leads]
    simp [readText?_eq, place, holds file found]
  · rw [file?_putAll_of_ne made apart, makes.file?_eq]
  · exact directories_putAll made here files ▸ makes.kept
  · exact directories_putAll made here files ▸ makes.made

/-! ## Runs of `generate` -/

/-- What `generate` has when it begins to print or write: a configuration and the schema of its
input. Else there is the error of loading, reading or compiling. -/
def compiled (read : String → Option String) (config : Option String) (input : String) :
    Except Error (Config × Schema) := do
  let config ← loadConfig read config
  let text ← readFile read input
  let schema ← Schema.ofSource text
  return (config, schema)

variable {read : String → Option String} {config : Option String} {input : String}
  {output : Option String} {only : Option Artifact}

/-- Everything that can be wrong with the input is found before the first action. -/
theorem plan_generate (read : String → Option String) (config : Option String) (input : String)
    (output : Option String) (only : Option Artifact) :
    Invocation.plan read ⟨config, .generate input output only⟩ =
      match compiled read config input with
      | .error error => .failed error
      | .ok (config, schema) =>
        match output with
        | some directory => .done (writeActions directory (schema.selected config only))
        | none => .done (printActions (schema.selected config only)) := by
  simp only [Invocation.plan, compiled, Task.plan, bind, Except.bind]
  cases loadConfig read config with
  | error error => rfl
  | ok config =>
      simp only
      cases readFile read input with
      | error error => rfl
      | ok text =>
          simp only [generate]
          cases Schema.ofSource text with
          | error error => rfl
          | ok schema =>
              simp only [schema.filter_files]
              cases output <;> rfl

variable {before : Workspace} {settings : Config} {schema : Schema}

theorem run_generate_of_error {error : Error}
    (bad : compiled before.readText? config input = .error error) :
    Invocation.run ⟨config, .generate input output only⟩ before = ⟨1, "", before, some error⟩ := by
  rw [Invocation.run, plan_generate, bad]
  rfl

theorem run_generate_printing
    (good : compiled before.readText? config input = .ok (settings, schema)) :
    Invocation.run ⟨config, .generate input none only⟩ before =
      ⟨0, listing (schema.selected settings only), before, none⟩ := by
  rw [Invocation.run, plan_generate, good]
  change perform none "" before (printActions _) = _
  rw [perform_of_prints (text?_of_mem_printActions _), join_printActions]
  simp [exitCode]

theorem run_generate_writing
    (good : compiled before.readText? config input = .ok (settings, schema)) :
    Invocation.run ⟨config, .generate input (some directory) only⟩ before =
      (Plan.done (writeActions directory (schema.selected settings only))).run before := by
  rw [Invocation.run, plan_generate, good]

/-- What a run does, by what it is asked for. -/
structure Invocation.Does (invocation : Invocation) (before : Workspace) (report : Report) :
    Prop where
  /-- Only `generate` with a directory to write into changes anything. -/
  keeps : invocation.task.output? = none → report.workspace = before
  /-- What is wrong with its input ends `generate` before it prints or writes. -/
  refuses : ∀ input output only error, invocation.task = .generate input output only →
    compiled before.readText? invocation.config input = .error error →
      report = ⟨1, "", before, some error⟩
  prints : ∀ input only config schema, invocation.task = .generate input none only →
    compiled before.readText? invocation.config input = .ok (config, schema) →
      report = ⟨0, listing (schema.selected config only), before, none⟩
  writes : ∀ input directory only config schema,
    invocation.task = .generate input (some directory) only →
    compiled before.readText? invocation.config input = .ok (config, schema) →
    report.error = none →
      ∃ here, Receives before report.workspace directory here (schema.selected config only)

theorem Invocation.does_run (invocation : Invocation) (before : Workspace) :
    invocation.Does before (invocation.run before) := by
  obtain ⟨file, task⟩ := invocation
  refine ⟨fun silent => workspace_run silent before, ?_, ?_, ?_⟩
  · rintro input output only error rfl bad
    exact run_generate_of_error bad
  · rintro input only config schema rfl good
    exact run_generate_printing good
  · rintro input directory only config schema rfl good ends
    have beside := beside_selected schema config only
    rw [run_generate_writing good] at ends ⊢
    obtain ⟨made, here, ready⟩ :=
      (run_writeActions_error_iff before directory beside).1 ends
    rw [ready.run_eq beside]
    exact ⟨here, ready.receives beside⟩

/-! ## One artifact and all of them -/

/-- Of two directories that have been made by the same path, one is the other. -/
theorem Ready.unique {others : List GeneratedFile} {otherMade : Workspace} {otherHere : Place}
    (ready : Ready workspace made directory here files)
    (other : Ready workspace otherMade directory otherHere others) :
    made = otherMade ∧ here = otherHere := by
  obtain rfl : made = otherMade := Option.some.inj (ready.makes.symm.trans other.makes)
  exact ⟨rfl, Option.some.inj (ready.leads.symm.trans other.leads)⟩

/-- A directory that takes all artifacts takes each of them alone. -/
theorem Ready.single (ready : Ready workspace made directory here (schema.selected settings none))
    (artifact : Artifact) :
    Ready workspace made directory here (schema.selected settings (some artifact)) :=
  ⟨ready.makes, ready.leads, List.forall_mem_singleton.2 <|
    ready.takes _ (List.mem_map_of_mem artifact.mem_all)⟩

/-- Of the files for all artifacts, a run for one artifact writes that one as it is, and no other. -/
theorem Ready.file?_putAll_single
    (ready : Ready workspace made directory here (schema.selected settings none))
    (artifact : Artifact) (place : Place) :
    (made.putAll here (schema.selected settings (some artifact))).file? place =
      if place = here ++ [artifact.fileName] then
        (made.putAll here (schema.selected settings none)).file? place
      else workspace.file? place := by
  have all := ready.receives (beside_selected schema settings none)
  have one := (ready.single artifact).receives (beside_selected schema settings (some artifact))
  split
  case isTrue same =>
    subst same
    exact (one.holds _ (List.mem_singleton_self _)).trans
      (all.holds _ (List.mem_map_of_mem artifact.mem_all)).symm
  case isFalse apart => exact one.others place (List.forall_mem_singleton.2 apart)

/-- A directory takes all artifacts if, and only if, it takes each of them alone. -/
theorem exists_ready_none_iff :
    (∃ made here, Ready workspace made directory here (schema.selected settings none)) ↔
      ∀ artifact, ∃ made here,
        Ready workspace made directory here (schema.selected settings (some artifact)) := by
  constructor
  · exact fun ⟨made, here, ready⟩ artifact => ⟨made, here, ready.single artifact⟩
  · intro each
    obtain ⟨made, here, first⟩ := each .schema
    refine ⟨made, here, first.makes, first.leads, List.forall_mem_map.2 fun artifact _ => ?_⟩
    obtain ⟨_, _, ready⟩ := each artifact
    obtain ⟨rfl, rfl⟩ := first.unique ready
    exact ready.takes _ (List.mem_singleton_self _)

/-- How the runs of `generate` for single artifacts stand to the run for all of them. -/
structure Selects (before : Workspace) (output : Option String) (whole : Report)
    (single : Artifact → Report) : Prop where
  succeeds : whole.error = none ↔ ∀ artifact, (single artifact).error = none
  prints : output = none →
    whole.output = String.join (Artifact.all.map fun artifact => (single artifact).output)
  writes : ∀ directory, output = some directory → whole.error = none →
    ∃ here, whole.workspace.walk? [] (pathParts directory) = some here ∧
      ∀ artifact place, (single artifact).workspace.file? place =
        if place = here ++ [artifact.fileName] then whole.workspace.file? place
        else before.file? place

theorem selects_run (config : Option String) (input : String) (output : Option String)
    (before : Workspace) :
    Selects before output (Invocation.run ⟨config, .generate input output none⟩ before)
      fun artifact => Invocation.run ⟨config, .generate input output (some artifact)⟩ before := by
  cases got : compiled before.readText? config input with
  | error error =>
      simp only [run_generate_of_error got]
      exact ⟨iff_of_false nofun fun each => (nomatch each .schema), fun _ => rfl, nofun⟩
  | ok good =>
      obtain ⟨settings, schema⟩ := good
      cases output with
      | none =>
          simp only [run_generate_printing got]
          refine ⟨iff_of_true rfl fun _ => rfl, fun _ => ?_, nofun⟩
          simp [listing, Schema.selected, Artifact.selected, Artifact.all]
      | some directory =>
          simp only [run_generate_writing got]
          have beside only := beside_selected schema settings only
          have succeeds only := run_writeActions_error_iff before directory (beside only)
          refine ⟨?_, nofun, ?_⟩
          · simp only [succeeds, exists_ready_none_iff]
          · rintro _ ⟨⟩ ends
            obtain ⟨made, here, ready⟩ := (succeeds none).1 ends
            rw [ready.run_eq (beside none)]
            refine ⟨here, (ready.receives (beside none)).leads, fun artifact place => ?_⟩
            rw [(ready.single artifact).run_eq (beside (some artifact))]
            exact ready.file?_putAll_single artifact place

/-- Runs print and write all that they are asked for, or nothing if their input is bad. -/
theorem run_all_or_nothing {arguments : List String} {invocation : Invocation}
    (asked : Request.ofArguments arguments = .run invocation) (before : Workspace) :
    invocation.Does before (run arguments before) ∧
      ∀ (input : String) (output : Option String) (single : Artifact → List String),
        invocation.task = .generate input output none →
        (∀ artifact, Request.ofArguments (single artifact) =
          .run ⟨invocation.config, .generate input output (some artifact)⟩) →
        Selects before output (run arguments before) fun artifact =>
          run (single artifact) before := by
  have whole : run arguments before = invocation.run before := by rw [run, asked]
  rw [whole]
  refine ⟨invocation.does_run before, fun input output single task askedSingle => ?_⟩
  have each : (fun artifact => run (single artifact) before) = fun artifact =>
      Invocation.run ⟨invocation.config, .generate input output (some artifact)⟩ before := by
    funext artifact
    rw [run, askedSingle]
  obtain ⟨config, _⟩ := invocation
  subst task
  rw [each]
  exact selects_run config input output before

/-- A run into a directory that holds an old file, and the runs for each single artifact, with the
artifact behind the option, after an equals sign and among other options. -/
theorem run_all_or_nothing_out :
    let before : Workspace :=
      ⟨[(["a.ts"], some "interface A \x7b b: string \x7d"), (["out", "old.txt"], some "")], []⟩
    let arguments := ["generate", "-i", "a.ts", "-o", "out"]
    let single : Artifact → List String
      | .schema => arguments ++ ["--only", "schema"]
      | .form => arguments ++ ["--only=form"]
      | .client => "-v" :: arguments ++ ["--only", "api"]
    (∃ (here : Place) (config : Config) (schema : Schema),
        Receives before (run arguments before).workspace "out" here
          (schema.selected config none)) ∧
      Selects before (some "out") (run arguments before) fun artifact =>
        run (single artifact) before := by
  intro before arguments single
  have asked : Request.ofArguments arguments =
      .run ⟨none, .generate "a.ts" (some "out") none⟩ := by decide
  obtain ⟨does, selects⟩ := run_all_or_nothing asked before
  constructor
  · have isOk : (compiled before.readText? none "a.ts").isOk = true := by decide +kernel
    have ends : (run arguments before).error = none := by decide +kernel
    cases good : compiled before.readText? none "a.ts" with
    | error error => simp [good, Except.isOk, Except.toBool] at isOk
    | ok good' =>
        obtain ⟨config, schema⟩ := good'
        obtain ⟨here, receives⟩ := does.writes "a.ts" "out" none config schema rfl good ends
        exact ⟨here, config, schema, receives⟩
  · exact selects "a.ts" (some "out") single rfl fun artifact => by cases artifact <;> decide

end Command

end InterfaceGen
