import OpenApiJava.FilePath

/-!
# Settings

Where a run writes, and the packages that its classes live in.
-/

namespace OpenApiJava

/-- The settings of a run. -/
structure Settings where
  output : FilePath
  basePackage : String
deriving DecidableEq, Repr, Inhabited

/-- The base package if none is given. -/
def defaultBasePackage : String := "com.example"

/-- Where the sources of all packages start, below the output folder. -/
def sourceRoot : FilePath := .ofString "src/main/java"

namespace Settings

def requestPackage (settings : Settings) : String :=
  settings.basePackage ++ ".dto.RequestDTO"

def responsePackage (settings : Settings) : String :=
  settings.basePackage ++ ".dto.ResponseDTO"

def servicePackage (settings : Settings) : String :=
  settings.basePackage ++ ".service"

def constantsPackage (settings : Settings) : String :=
  settings.basePackage ++ ".constants"

/-- The path of a package: one folder for each of its names. -/
def packagePath (package : String) : FilePath :=
  ((Text.pieces '.' package.toList).map String.ofList).foldl FilePath.child FilePath.here

/-- The folder that holds the sources of a package. -/
def packageFolder (settings : Settings) (package : String) : FilePath :=
  settings.output ++ sourceRoot ++ packagePath package

def classFile (settings : Settings) (package className : String) : FilePath :=
  (settings.packageFolder package).child (className ++ ".java")

end Settings

end OpenApiJava
