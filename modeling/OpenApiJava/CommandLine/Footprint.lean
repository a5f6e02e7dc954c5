import OpenApiJava.CommandLine.Command

/-!
# What the command looks at

The command looks at few places of a disk: those that lead to its specification, to its output
folder and to the files that it is going to write. A workspace that agrees with a disk on these
places is enough to know what the command does there.
-/

namespace OpenApiJava

/-- The locations that names lead through from a place, the place itself included, on a disk where
every name stands for itself. -/
def Location.trail (place : Location) : List String → List Location
  | [] => [place]
  | name :: rest =>
      let next := if name == ".." then place.dropLast else place ++ [name]
      place :: Location.trail next rest

/-- The locations that a path leads through. -/
def Workspace.trail (workspace : Workspace) (path : FilePath) : List Location :=
  Location.trail (if path.absolute then [] else workspace.home) path.names

/-- What stands on a disk where another one has something else, the folders before what they hold.
-/
def Disk.changesSince (disk earlier : Disk) : List (Location × Entry) :=
  let changed := disk.entries.filter fun entry => earlier.find? entry.1 != some entry.2
  changed.mergeSort fun first second => first.1.length ≤ second.1.length

namespace CommandLine

/-- The paths that the arguments name. -/
def namedPaths (environment : Environment) (arguments : Arguments) : List FilePath :=
  let source := valueOr environment .spec arguments.spec defaultSpec
  let output := valueOr environment .output arguments.output defaultOutput
  if Specification.isRemote source then [.ofString output]
  else [.ofString source, .ofString output]

/-- The paths of the files that are to be written. -/
def plannedPaths (environment : Environment) (pages : Web.Pages) (workspace : Workspace)
    (arguments : Arguments) : List FilePath :=
  let source := valueOr environment .spec arguments.spec defaultSpec
  let output := valueOr environment .output arguments.output defaultOutput
  let basePackage := valueOr environment .basePackage arguments.basePackage defaultBasePackage
  match Document.ofReading (Specification.load workspace pages true source).result with
  | .error _ => []
  | .ok document =>
      (Batch.plan document ⟨.ofString output, basePackage⟩).flatMap fun batch =>
        match batch.artifacts with
        | .ok artifacts => artifacts.map (·.path)
        | .error _ => []

end CommandLine

end OpenApiJava
