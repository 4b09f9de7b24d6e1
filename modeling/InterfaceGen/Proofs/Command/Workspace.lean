import InterfaceGen.Artifact
import InterfaceGen.Command.Workspace

/-!
# What changes in a workspace

Putting a text into a file leaves every other file as it is, and making a directory leaves all of
them. A directory that is there stays, so a path that leads somewhere keeps leading there.
-/

namespace InterfaceGen.Command

/-! ## Paths -/

/-- A text that a file can have as its name in a directory. -/
structure IsFileName (name : String) : Prop where
  visible : name ≠ ""
  whole : '/' ∉ name.toList
  notHere : name ≠ "."
  notAbove : name ≠ ".."

/-- A slash ends one part of a path, and another may begin behind it. -/
theorem pathParts_ofList_append (front back : List Char) :
    pathParts (String.ofList (front ++ '/' :: back)) =
      pathParts (String.ofList front) ++ pathParts (String.ofList back) := by
  simp only [pathParts, String.toList_ofList, List.splitOn_append_cons_self, List.filter_append,
    List.map_append]

/-- A name is a path with one part. -/
theorem IsFileName.pathParts {name : String} (named : IsFileName name) :
    pathParts name = [name] := by
  have visible : name.toList ≠ [] := mt String.toList_eq_nil_iff.1 named.visible
  simp [Command.pathParts, List.splitOn_eq_singleton named.whole, visible]

/-- The path of a file in a directory leads to the directory, and by one more part to the file. -/
theorem pathParts_joinPath (directory : String) {file : String} (named : IsFileName file) :
    pathParts (joinPath directory file) = pathParts directory ++ [file] := by
  unfold joinPath
  split
  case isTrue ends =>
    obtain ⟨front, split⟩ := List.getLast?_eq_some_iff.1 (beq_iff_eq.1 ends)
    obtain rfl : directory = String.ofList (front ++ ['/']) := by simp [← split]
    have joined : String.ofList (front ++ ['/']) ++ file =
        String.ofList (front ++ '/' :: file.toList) := by
      simp [← String.toList_inj]
    have nothing : pathParts (String.ofList []) = [] := rfl
    rw [joined, pathParts_ofList_append, pathParts_ofList_append, nothing]
    simp [named.pathParts]
  case isFalse =>
    have joined : directory ++ "/" ++ file =
        String.ofList (directory.toList ++ '/' :: file.toList) := by
      simp [← String.toList_inj]
    rw [joined, pathParts_ofList_append]
    simp [named.pathParts]

namespace Workspace

variable {workspace before after : Workspace} {place other here : Place} {names : List String}
  {path text : String}

/-! ## Files -/

/-- What the file at a place holds, if there is one. -/
def file? (workspace : Workspace) (place : Place) : Option (Option String) :=
  (workspace.files.find? (·.1 == place)).map (·.2)

/-- A path is read by finding its place and what the file there holds. -/
theorem readText?_eq (workspace : Workspace) (path : String) :
    workspace.readText? path =
      (workspace.filePlace? path).bind fun place => (workspace.file? place).join := by
  unfold readText?
  cases workspace.filePlace? path <;> rfl

@[simp] theorem file?_put_self (workspace : Workspace) (place : Place) (text : String) :
    (workspace.put place text).file? place = some (some text) := by
  have removed : (workspace.files.filter (·.1 != place)).find? (·.1 == place) = none := by
    simp [List.find?_eq_none]
  simp [file?, put, List.find?_append, removed]

theorem file?_put_of_ne (workspace : Workspace) (text : String) (apart : other ≠ place) :
    (workspace.put place text).file? other = workspace.file? other := by
  have kept : (workspace.files.filter (·.1 != place)).find? (·.1 == other) =
      workspace.files.find? (·.1 == other) := by
    rw [List.find?_filter]
    congr 1
    funext file
    by_cases found : file.1 = other <;> simp [found, apart]
  simp [file?, put, List.find?_append, kept, apart.symm]

/-! ## Directories -/

theorem isDirectory_iff :
    workspace.isDirectory place = true ↔ place = [] ∨ place ∈ workspace.directories ∨
      ∃ file ∈ workspace.files, place <+: file.1 ∧ file.1 ≠ place := by
  simp [isDirectory, or_assoc]

/-- A file that is put into a workspace makes directories of the places above it, and no others. -/
theorem isDirectory_put :
    (workspace.put place text).isDirectory other = true ↔
      workspace.isDirectory other = true ∨ (other <+: place ∧ place ≠ other) := by
  simp only [isDirectory_iff, put, List.mem_append, List.mem_filter, List.mem_singleton]
  constructor
  · rintro (root | listed | ⟨file, ⟨found, -⟩ | rfl, above⟩)
    · exact .inl (.inl root)
    · exact .inl (.inr (.inl listed))
    · exact .inl (.inr (.inr ⟨file, found, above⟩))
    · exact .inr above
  · rintro ((root | listed | ⟨file, found, above⟩) | above)
    · exact .inl root
    · exact .inr (.inl listed)
    · by_cases replaced : file.1 = place
      · exact .inr (.inr ⟨(place, some text), .inr rfl, replaced ▸ above⟩)
      · exact .inr (.inr ⟨file, .inl ⟨found, by simpa using replaced⟩, above⟩)
    · exact .inr (.inr ⟨(place, some text), .inr rfl, above⟩)

/-- A file beside a place makes no directory of it. -/
theorem isDirectory_put_beside {name neighbour : String} (apart : name ≠ neighbour) :
    (workspace.put (here ++ [neighbour]) text).isDirectory (here ++ [name]) =
      workspace.isDirectory (here ++ [name]) := by
  rw [Bool.eq_iff_iff, isDirectory_put, or_iff_left_of_imp]
  rintro ⟨starts, -⟩
  have same : here ++ [name] = here ++ [neighbour] := starts.eq_of_length (by simp)
  simp [apart] at same

/-- Every directory of a workspace is one of another. -/
def DirectoriesStay (before after : Workspace) : Prop :=
  ∀ place, before.isDirectory place = true → after.isDirectory place = true

theorem directoriesStay_put (workspace : Workspace) (place : Place) (text : String) :
    DirectoriesStay workspace (workspace.put place text) :=
  fun _ found => isDirectory_put.2 (.inl found)

/-- Where directories stay, a way that leads somewhere keeps leading there. -/
theorem DirectoriesStay.walk? (stay : DirectoriesStay before after)
    (leads : before.walk? here names = some place) : after.walk? here names = some place := by
  fun_induction Workspace.walk? before here names with
  | case1 => exact leads
  | case2 here rest inductionHypothesis => exact inductionHypothesis leads
  | case3 | case6 => cases leads
  | case4 here rest below inductionHypothesis =>
      simpa [Workspace.walk?, below] using inductionHypothesis leads
  | case5 here name rest notHere notAbove found inductionHypothesis =>
      simpa [Workspace.walk?, notHere, notAbove, stay _ found] using inductionHypothesis leads

/-! ## Making directories -/

/-- The places that names lead through from a place, whether anything is there or not. -/
def way (here : Place) : List String → List Place
  | [] => []
  | "." :: rest => way here rest
  | ".." :: rest => way here.dropLast rest
  | name :: rest => (here ++ [name]) :: way (here ++ [name]) rest

/-- A way leads through every place that a part of it leads through. -/
theorem way_subset_of_isPrefix {front : List String} (starts : front <+: names) :
    way here front ⊆ way here names := by
  obtain ⟨back, rfl⟩ := starts
  fun_induction way here front with
  | case1 => simp
  | case2 here rest inductionHypothesis => exact inductionHypothesis
  | case3 here rest inductionHypothesis => exact inductionHypothesis
  | case4 here name rest notHere notAbove inductionHypothesis =>
      simpa [way, notHere, notAbove] using List.subset_cons_of_subset _ inductionHypothesis

/-- Staying in place is no step. -/
theorem way_filter (here : Place) (names : List String) :
    way here (names.filter (· != ".")) = way here names := by
  fun_induction way here names with
  | case1 => rfl
  | case2 here rest inductionHypothesis => simpa using inductionHypothesis
  | case3 here rest inductionHypothesis => simpa [way] using inductionHypothesis
  | case4 here name rest notHere notAbove inductionHypothesis =>
      rw [List.filter_cons_of_pos (by simpa using notHere), way, inductionHypothesis]
      · exact notHere
      · exact notAbove

/-- A workspace that has another's files, and its directories with some more. -/
structure MakesDirectories (before after : Workspace) (places : List Place) : Prop where
  files : after.files = before.files
  kept : before.directories ⊆ after.directories
  made : after.directories ⊆ before.directories ++ places

namespace MakesDirectories

variable {between : Workspace} {places more : List Place}

theorem refl (workspace : Workspace) : MakesDirectories workspace workspace [] :=
  ⟨rfl, List.Subset.refl _, List.subset_append_left ..⟩

/-- One directory more. -/
theorem single (workspace : Workspace) (place : Place) :
    MakesDirectories workspace
      { workspace with directories := workspace.directories ++ [place] } [place] :=
  ⟨rfl, List.subset_append_left .., List.Subset.refl _⟩

theorem mono (makes : MakesDirectories before after places) (subset : places ⊆ more) :
    MakesDirectories before after more :=
  ⟨makes.files, makes.kept, List.Subset.trans makes.made <|
    List.append_subset.2 ⟨List.subset_append_left .., List.subset_append_of_subset_right _ subset⟩⟩

theorem trans (first : MakesDirectories before between places)
    (second : MakesDirectories between after more) :
    MakesDirectories before after (places ++ more) where
  files := second.files.trans first.files
  kept := List.Subset.trans first.kept second.kept
  made := by
    rw [← List.append_assoc]
    exact List.Subset.trans second.made <| List.append_subset.2
      ⟨List.subset_append_of_subset_left _ first.made, List.subset_append_right ..⟩

theorem stay (makes : MakesDirectories before after places) : DirectoriesStay before after := by
  intro place found
  rw [isDirectory_iff] at found ⊢
  exact found.imp_right (.imp (@makes.kept _) (by rw [makes.files]; exact id))

theorem file?_eq (makes : MakesDirectories before after places) (place : Place) :
    after.file? place = before.file? place := by
  rw [file?, file?, makes.files]

end MakesDirectories

/-- Making a way makes no directories but those that it leads through. -/
theorem makesDirectories_of_makeWay? (made : before.makeWay? here names = some after) :
    MakesDirectories before after (way here names) := by
  fun_induction before.makeWay? here names with
  | case1 =>
      obtain rfl := Option.some.inj made
      exact .refl _
  | case2 before here rest inductionHypothesis => exact inductionHypothesis made
  | case3 | case6 => cases made
  | case4 before here rest below inductionHypothesis => exact inductionHypothesis made
  | case5 before here name rest notHere notAbove place found inductionHypothesis =>
      rw [way.eq_4 _ _ _ notHere notAbove]
      exact (inductionHypothesis made).mono (List.subset_cons_self ..)
  | case7 before here name rest notHere notAbove place missing free inductionHypothesis =>
      rw [way.eq_4 _ _ _ notHere notAbove]
      exact (MakesDirectories.single before place).trans (inductionHypothesis made)

/-- A way that has been made leads somewhere. -/
theorem exists_walk?_of_makeWay? (made : before.makeWay? here names = some after) :
    ∃ place, after.walk? here names = some place := by
  fun_induction before.makeWay? here names with
  | case1 before here => exact ⟨here, rfl⟩
  | case2 before here rest inductionHypothesis => exact inductionHypothesis made
  | case3 | case6 => cases made
  | case4 before here rest below inductionHypothesis =>
      simpa [walk?, below] using inductionHypothesis made
  | case5 before here name rest notHere notAbove place found inductionHypothesis =>
      have there := (makesDirectories_of_makeWay? made).stay _ found
      simpa [walk?, notHere, notAbove, place, there] using inductionHypothesis made
  | case7 before here name rest notHere notAbove place missing free inductionHypothesis =>
      have there := (makesDirectories_of_makeWay? made).stay place (by simp [isDirectory_iff])
      simpa [walk?, notHere, notAbove, place, there] using inductionHypothesis made

/-- Making a directory makes only it and those on the way, and then its path leads to it. -/
theorem makesDirectories_of_makeDirectory? (made : before.makeDirectory? path = some after) :
    MakesDirectories before after (way [] (pathParts path)) ∧
      ∃ here, after.walk? [] (pathParts path) = some here := by
  unfold makeDirectory? at made
  simp only at made
  split at made
  case isTrue => cases made
  case isFalse =>
    split at made
    case isFalse =>
      exact ⟨makesDirectories_of_makeWay? made, exists_walk?_of_makeWay? made⟩
    case isTrue =>
      split at made
      case h_2 => cases made
      case h_1 workspace half =>
        obtain ⟨here, leads, rfl⟩ := Option.map_eq_some_iff.1 made
        refine ⟨(makesDirectories_of_makeWay? half).mono ?_, here, leads⟩
        calc way [] ((pathParts path).filter (· != ".")).dropLast
            ⊆ way [] ((pathParts path).filter (· != ".")) :=
              way_subset_of_isPrefix (List.dropLast_prefix _)
          _ = way [] (pathParts path) := way_filter [] (pathParts path)

/-! ## Writing into a directory -/

theorem filePlace?_eq_of_walk? (same : after.walk? [] (pathParts path).dropLast =
    before.walk? [] (pathParts path).dropLast) : after.filePlace? path = before.filePlace? path := by
  simp only [filePlace?, same]

/-- A file is at the place of the directory it is in, with its name behind. -/
theorem exists_walk?_of_filePlace? (found : workspace.filePlace? path = some place) :
    ∃ here name, (pathParts path).getLast? = some name ∧
      workspace.walk? [] (pathParts path).dropLast = some here ∧ place = here ++ [name] := by
  unfold filePlace? at found
  simp only at found
  split at found
  case h_1 => cases found
  case h_2 name last =>
    split at found
    case isTrue => cases found
    case isFalse =>
      obtain ⟨here, leads, rfl⟩ := Option.map_eq_some_iff.1 found
      exact ⟨here, name, last, leads, rfl⟩

theorem writeText?_eq_some_iff : workspace.writeText? path text = some after ↔
    ∃ place, workspace.filePlace? path = some place ∧ workspace.isDirectory place = false ∧
      workspace.put place text = after := by
  unfold writeText?
  cases workspace.filePlace? path with
  | none => simp
  | some place => cases found : workspace.isDirectory place <;> simp [found]

/-- Whether a file with a name can be written in a directory that is at a place. -/
structure Takes (workspace : Workspace) (directory : String) (here : Place) (name : String) :
    Prop where
  place : workspace.filePlace? (joinPath directory name) = some (here ++ [name])
  free : workspace.isDirectory (here ++ [name]) = false

variable {directory name neighbour : String}

theorem Takes.writeText? (takes : workspace.Takes directory here name) (text : String) :
    workspace.writeText? (joinPath directory name) text =
      some (workspace.put (here ++ [name]) text) :=
  writeText?_eq_some_iff.2 ⟨_, takes.place, takes.free, rfl⟩

/-- What has been written in a directory could be written there. -/
theorem takes_of_writeText? (named : IsFileName name)
    (leads : workspace.walk? [] (pathParts directory) = some here)
    (written : workspace.writeText? (joinPath directory name) text = some after) :
    workspace.Takes directory here name := by
  obtain ⟨place, found, free, -⟩ := writeText?_eq_some_iff.1 written
  obtain ⟨there, last, isLast, way, rfl⟩ := exists_walk?_of_filePlace? found
  rw [pathParts_joinPath directory named, List.getLast?_concat] at isLast
  rw [pathParts_joinPath directory named, List.dropLast_concat, leads] at way
  obtain rfl := Option.some.inj isLast
  obtain rfl := Option.some.inj way
  exact ⟨found, free⟩

/-- Whether a file can be written does not depend on what else is written in its directory. -/
theorem takes_put_iff (named : IsFileName name) (apart : name ≠ neighbour)
    (leads : workspace.walk? [] (pathParts directory) = some here) :
    (workspace.put (here ++ [neighbour]) text).Takes directory here name ↔
      workspace.Takes directory here name := by
  have same : (workspace.put (here ++ [neighbour]) text).filePlace? (joinPath directory name) =
      workspace.filePlace? (joinPath directory name) := by
    apply filePlace?_eq_of_walk?
    rw [pathParts_joinPath directory named, List.dropLast_concat, leads]
    exact (directoriesStay_put workspace _ text).walk? leads
  constructor
  · exact fun takes => ⟨same ▸ takes.place, isDirectory_put_beside apart ▸ takes.free⟩
  · exact fun takes => ⟨same.trans takes.place, (isDirectory_put_beside apart).trans takes.free⟩

/-- The workspace with files put into the directory at a place. -/
def putAll (workspace : Workspace) (here : Place) (files : List GeneratedFile) : Workspace :=
  files.foldl (fun workspace file => workspace.put (here ++ [file.name]) file.contents) workspace

variable {files : List GeneratedFile}

theorem directories_putAll (workspace : Workspace) (here : Place) (files : List GeneratedFile) :
    (workspace.putAll here files).directories = workspace.directories := by
  induction files generalizing workspace with
  | nil => rfl
  | cons file rest inductionHypothesis => exact inductionHypothesis _

theorem directoriesStay_putAll (workspace : Workspace) (here : Place)
    (files : List GeneratedFile) : DirectoriesStay workspace (workspace.putAll here files) := by
  induction files generalizing workspace with
  | nil => exact fun _ => id
  | cons file rest inductionHypothesis =>
      exact fun place found =>
        inductionHypothesis _ place (directoriesStay_put workspace _ file.contents place found)

theorem file?_putAll_of_ne (workspace : Workspace)
    (apart : ∀ file ∈ files, place ≠ here ++ [file.name]) :
    (workspace.putAll here files).file? place = workspace.file? place := by
  induction files generalizing workspace with
  | nil => rfl
  | cons file rest inductionHypothesis =>
      rw [List.forall_mem_cons] at apart
      exact (inductionHypothesis _ apart.2).trans (file?_put_of_ne workspace file.contents apart.1)

theorem file?_putAll (workspace : Workspace) (distinct : (files.map (·.name)).Nodup)
    {file : GeneratedFile} (among : file ∈ files) :
    (workspace.putAll here files).file? (here ++ [file.name]) = some (some file.contents) := by
  induction files generalizing workspace with
  | nil => cases among
  | cons first rest inductionHypothesis =>
      rw [List.map_cons, List.nodup_cons] at distinct
      obtain rfl | among := List.mem_cons.1 among
      · have apart : ∀ other ∈ rest, here ++ [file.name] ≠ here ++ [other.name] := by
          intro other found same
          have same : other.name = file.name := by simpa using same.symm
          exact distinct.1 (same ▸ List.mem_map_of_mem found)
        exact (file?_putAll_of_ne _ apart).trans (file?_put_self workspace ..)
      · exact inductionHypothesis _ distinct.2 among

end Workspace

end InterfaceGen.Command
