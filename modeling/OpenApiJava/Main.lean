import OpenApiJava.CommandLine.Footprint

/-!
# The program

The program looks at the places of the disk that the command needs, asks the command what it does,
and does that. It has no way to the web.
-/

namespace OpenApiJava.Main

def locationText (location : Location) : String :=
  FilePath.text ⟨true, location⟩

/-- What stands at a location whose surrounding folder is there. -/
def inspect (location : Location) : IO (Option Entry) := do
  try
    return some (.file (← IO.FS.readBinFile (locationText location)))
  catch fault =>
    match fault with
    | .noFileOrDirectory _ _ _ => return none
    | .inappropriateType _ _ _ => return some .folder
    | other => throw other

/-- Nothing can stand at a location, since a name in it holds the null character or is too long. -/
def isImpossible (location : Location) : Bool :=
  FilePath.hasNull ⟨true, location⟩ || location.any fun name => longestName < name.utf8ByteSize

/-- The workspace with what stands on the disk along a trail. -/
def follow (workspace : Workspace) : List Location → IO Workspace
  | [] => return workspace
  | location :: rest => do
      if isImpossible location then return workspace
      match ← inspect location with
      | none => return workspace
      | some .folder => follow (workspace.put location .folder) rest
      | some entry => return workspace.put location entry

/-- The workspace with what stands on the disk along the trails of paths. -/
def followAll (workspace : Workspace) : List FilePath → IO Workspace
  | [] => return workspace
  | path :: rest => do
      let seen ← follow workspace (workspace.trail path)
      followAll seen rest

/-- Puts entries on the disk. -/
def place : List (Location × Entry) → IO Unit
  | [] => return ()
  | (location, .folder) :: rest => do
      IO.FS.createDir (locationText location)
      place rest
  | (location, .file content) :: rest => do
      IO.FS.writeBinFile (locationText location) content
      place rest

/-- The variables of the environment that the command asks for. -/
def environment : List CommandLine.Flag → IO CommandLine.Environment
  | [] => return []
  | flag :: rest => do
      let others ← environment rest
      match flag.variable? with
      | none => return others
      | some name =>
          match ← IO.getEnv name with
          | some value => return (name, value) :: others
          | none => return others

/-- The workspace as far as the command needs it. -/
def survey (values : CommandLine.Environment) (list : List String) : IO Workspace := do
  let home := (FilePath.ofString (toString (← IO.currentDir))).names
  let start : Workspace := ⟨Disk.empty, home⟩
  match CommandLine.Arguments.read list with
  | .error _ => return start
  | .ok arguments =>
      let named ← followAll start (CommandLine.namedPaths values arguments)
      followAll named (CommandLine.plannedPaths values [] named arguments)

/-- Does what the command does and returns its exit code. -/
def perform (list : List String) : IO UInt32 := do
  let values ← environment CommandLine.Flag.all
  let workspace ← survey values list
  let outcome := CommandLine.run values [] workspace list
  place (outcome.workspace.disk.changesSince workspace.disk)
  IO.eprint outcome.log
  IO.print outcome.output
  return outcome.ending.exitCode.toUInt32

end OpenApiJava.Main

def main (list : List String) : IO UInt32 :=
  OpenApiJava.Main.perform list
