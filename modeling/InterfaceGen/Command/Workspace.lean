/-!
# Workspaces

The directory that the program runs in, as far as the program can tell: its files and directories,
each at a place given by the names on the way down to it. What lies outside it is not there.
-/

namespace InterfaceGen.Command

/-- The names on the way down to a file or a directory. -/
abbrev Place := List String

/-- The files and directories below the directory that the program runs in. -/
structure Workspace where
  /-- The files with their text, or none if what they hold is no text. -/
  files : List (Place × Option String)
  /-- Directories that are there whether they hold a file or not. -/
  directories : List Place
  deriving DecidableEq, Repr

/-- The parts of a path between its slashes. -/
def pathParts (path : String) : List String :=
  ((path.toList.splitOn '/').filter (!·.isEmpty)).map String.ofList

/-- Whether a path begins at the root of the file system. -/
def isAbsolute (path : String) : Bool :=
  path.toList.head? == some '/'

/-- Whether a path can only be that of a directory. -/
def endsInSlash (path : String) : Bool :=
  path.toList.getLast? == some '/'

/-- Whether a path is not too long to lead anywhere: it has at most 4095 bytes. -/
def isPathSize (path : String) : Bool :=
  path.utf8ByteSize ≤ 4095

/-- Whether a name is not too long to be given: it has at most 255 bytes. -/
def isNameSize (name : String) : Bool :=
  name.utf8ByteSize ≤ 255

/-- The path of a file in a directory. -/
def joinPath (directory file : String) : String :=
  if endsInSlash directory then directory ++ file else directory ++ "/" ++ file

namespace Workspace

/-- Whether there is a file at a place. -/
def isFile (workspace : Workspace) (place : Place) : Bool :=
  workspace.files.any (·.1 == place)

/-- Whether there is a directory at a place. A file makes a directory of every place above it. -/
def isDirectory (workspace : Workspace) (place : Place) : Bool :=
  place.isEmpty || workspace.directories.contains place ||
    workspace.files.any fun file => place.isPrefixOf file.1 && file.1 != place

/-- The place that a path leads to from a directory by way of directories. -/
def walk? (workspace : Workspace) (here : Place) : List String → Option Place
  | [] => some here
  | "." :: rest => workspace.walk? here rest
  | ".." :: rest => if here.isEmpty then none else workspace.walk? here.dropLast rest
  | name :: rest =>
    if workspace.isDirectory (here ++ [name]) then workspace.walk? (here ++ [name]) rest else none

/-- The place of the file that a path names, whether it is there or not. The directories on the way
have to be there. -/
def filePlace? (workspace : Workspace) (path : String) : Option Place :=
  let parts := pathParts path
  match parts.getLast? with
  | none => none
  | some name =>
    if isAbsolute path || endsInSlash path || name == "." || name == ".." || !isPathSize path ||
        !isNameSize name then none
    else (workspace.walk? [] parts.dropLast).map (· ++ [name])

/-- The text of the file that a path names. -/
def readText? (workspace : Workspace) (path : String) : Option String :=
  match workspace.filePlace? path with
  | none => none
  | some place => ((workspace.files.find? (·.1 == place)).map (·.2)).join

/-- The workspace with a text in the file at a place. -/
def put (workspace : Workspace) (place : Place) (text : String) : Workspace :=
  { workspace with files := workspace.files.filter (·.1 != place) ++ [(place, some text)] }

/-- Writes a text to the file that a path names. -/
def writeText? (workspace : Workspace) (path text : String) : Option Workspace :=
  match workspace.filePlace? path with
  | none => none
  | some place => if workspace.isDirectory place then none else some (workspace.put place text)

/-- Walks like `walk?`, but makes the directories that are missing. -/
def makeWay? (workspace : Workspace) (here : Place) : List String → Option Workspace
  | [] => some workspace
  | "." :: rest => workspace.makeWay? here rest
  | ".." :: rest => if here.isEmpty then none else workspace.makeWay? here.dropLast rest
  | name :: rest =>
    let place := here ++ [name]
    if workspace.isDirectory place then workspace.makeWay? place rest
    else if workspace.isFile place || !isNameSize name then none
    else { workspace with directories := workspace.directories ++ [place] }.makeWay? place rest

/-- Makes the directory that a path names, with those on the way. If the path ends in a dot, only
those on the way are made, and the directory has to be there then. -/
def makeDirectory? (workspace : Workspace) (path : String) : Option Workspace :=
  let parts := pathParts path
  if isAbsolute path || !isPathSize path then none
  else if parts.getLast? = some "." then
    match workspace.makeWay? [] (parts.filter (· != ".")).dropLast with
    | some workspace => (workspace.walk? [] parts).map fun _ => workspace
    | none => none
  else workspace.makeWay? [] parts

/-- The files of a workspace that another one does not have or has with another text. -/
def changesFrom (before workspace : Workspace) : List (Place × Option String) :=
  workspace.files.filter fun file => !before.files.contains file

end Workspace

end InterfaceGen.Command
