import OpenApiJava.Disk.Basic
import OpenApiJava.Text.Quoted

/-!
# Workspaces

A workspace is a disk with a working folder, from which paths lead. Every operation takes a path and
either succeeds or says why not. Only the making of nested folders can leave a trace when it fails:
the folders that it made first.
-/

namespace OpenApiJava

/-- A disk with the location of the working folder. -/
structure Workspace where
  disk : Disk
  home : Location
deriving Inhabited

/-- Why an operation at a path fails. -/
inductive DiskFault where
  | refused (problem : DiskProblem) (path : FilePath)
  /-- No name can hold the null character. -/
  | nullInName
deriving DecidableEq, Repr

/-- What is said about a problem at a path. -/
def DiskProblem.message (problem : DiskProblem) (path : FilePath) : String :=
  "[Errno " ++ toString problem.number ++ "] " ++ problem.words ++ ": " ++
    Text.quotedString path.text

/-- The length that the text of a path stays below, in bytes. -/
def longestPath : Nat := 4096

/-- Some name of the path holds the null character. -/
def FilePath.hasNull (path : FilePath) : Bool :=
  path.names.any fun name => name.toList.contains '\x00'

namespace Workspace

/-- A workspace with nothing in its working folder. -/
def empty : Workspace :=
  ⟨(Disk.empty.put ["tmp"] .folder).put ["tmp", "work"] .folder, ["tmp", "work"]⟩

/-- The location that a path leads to. -/
def locate (workspace : Workspace) (path : FilePath) : Except DiskFault Location :=
  if path.hasNull then .error .nullInName
  else if longestPath ≤ path.text.utf8ByteSize then .error (.refused .nameTooLong path)
  else
    let start := if path.absolute then [] else workspace.home
    match workspace.disk.reach start path.names with
    | .ok location => .ok location
    | .error problem => .error (.refused problem path)

/-- What a path leads to, if anything. -/
def find? (workspace : Workspace) (path : FilePath) : Except DiskFault (Option Entry) :=
  (workspace.locate path).map workspace.disk.find?

/-- Something stands at the path. Only a name that is too long keeps this from being known. -/
def has (workspace : Workspace) (path : FilePath) : Except DiskFault Bool :=
  match workspace.find? path with
  | .ok found => .ok found.isSome
  | .error (.refused .nameTooLong place) => .error (.refused .nameTooLong place)
  | .error _ => .ok false

/-- A folder stands at the path. -/
def hasFolder (workspace : Workspace) (path : FilePath) : Bool :=
  match workspace.find? path with
  | .ok (some .folder) => true
  | _ => false

def fileContent (workspace : Workspace) (path : FilePath) : Except DiskFault ByteArray := do
  match ← workspace.find? path with
  | none => .error (.refused .missing path)
  | some .folder => .error (.refused .isFolder path)
  | some (.file content) => .ok content

/-- The workspace with another entry at a location. -/
def put (workspace : Workspace) (location : Location) (entry : Entry) : Workspace :=
  { workspace with disk := workspace.disk.put location entry }

/-- The workspace with a file at a path, whatever the file held before. -/
def withFile (workspace : Workspace) (path : FilePath) (content : ByteArray) :
    Except DiskFault Workspace := do
  let location ← workspace.locate path
  if workspace.disk.find? location = some .folder then .error (.refused .isFolder path)
  else return workspace.put location (.file content)

def withoutFile (workspace : Workspace) (path : FilePath) : Except DiskFault Workspace := do
  let location ← workspace.locate path
  match workspace.disk.find? location with
  | none => .error (.refused .missing path)
  | some .folder => .error (.refused .isFolder path)
  | some (.file _) => return { workspace with disk := workspace.disk.remove location }

def withNewFolder (workspace : Workspace) (path : FilePath) : Except DiskFault Workspace := do
  let location ← workspace.locate path
  if (workspace.disk.find? location).isSome then .error (.refused .occupied path)
  else return workspace.put location .folder

/-- The workspace with a folder at a path, new or not. -/
def withFolder (workspace : Workspace) (path : FilePath) : Except DiskFault Workspace :=
  match workspace.withNewFolder path with
  | .ok changed => .ok changed
  | .error fault => if workspace.hasFolder path then .ok workspace else .error fault

end Workspace

/-- What changes a workspace, even if it fails later on. -/
abbrev DiskAction (α : Type) : Type := EStateM DiskFault Workspace α

namespace DiskAction

/-- A change that is made in full or not at all. -/
def ofChange (change : Workspace → Except DiskFault Workspace) : DiskAction Unit :=
  fun workspace =>
    match change workspace with
    | .ok changed => .ok () changed
    | .error fault => .error fault workspace

/-- Sees to it that a folder stands at a path. Up to the given number of folders around it are made
as well where they are missing. -/
def ensureWithin : Nat → FilePath → DiskAction Unit
  | 0, path => ofChange (·.withFolder path)
  | depth + 1, path => fun workspace =>
      match workspace.withNewFolder path with
      | .error (.refused .missing _) =>
          (do
            ensureWithin depth path.parent
            ofChange (·.withFolder path) : DiskAction Unit) workspace
      | _ => ofChange (·.withFolder path) workspace

/-- Sees to it that a folder stands at a path. -/
def ensureFolder (path : FilePath) : DiskAction Unit :=
  ensureWithin path.names.length path

/-- Puts a file at a path, in folders that are made where they are missing. -/
def store (path : FilePath) (content : ByteArray) : DiskAction Unit := do
  ensureFolder path.parent
  ofChange (·.withFile path content)

end DiskAction

namespace Workspace

/-- The names that lead from the working folder to a location, if they do. -/
def namesFromHome? (workspace : Workspace) (location : Location) : Option (List String) :=
  if workspace.home.isPrefixOf location then some (location.drop workspace.home.length) else none

/-- The files below the working folder by the texts of their paths, in the order of these texts. -/
def files (workspace : Workspace) : List (String × ByteArray) :=
  let found := workspace.disk.entries.filterMap fun entry =>
    match entry with
    | (location, .file content) =>
        (workspace.namesFromHome? location).map fun names =>
          (FilePath.text ⟨false, names⟩, content)
    | (_, .folder) => none
  found.mergeSort fun first second => !decide (second.1 < first.1)

/-- The files that are new or hold something else than in an earlier workspace. -/
def changesSince (workspace earlier : Workspace) : List (String × ByteArray) :=
  let before := earlier.files
  workspace.files.filter fun file => before.lookup file.1 != some file.2

end Workspace

end OpenApiJava
