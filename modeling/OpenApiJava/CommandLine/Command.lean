import OpenApiJava.CommandLine.Arguments
import OpenApiJava.Generation
import OpenApiJava.Loading
import OpenApiJava.Text.Terminal

/-!
# The command

The command loads a document and generates its sources. What an argument does not say, the
environment says, and failing that a default. The command changes nothing unless a document is
loaded.
-/

namespace OpenApiJava.CommandLine

/-- The source of the specification if none is given. -/
def defaultSpec : String := "src/main/resources/java/swagger.yaml"

/-- The output folder if none is given. -/
def defaultOutput : String := "."

/-- The variable of the environment that stands in for an option. -/
def Flag.variable? : Flag → Option String
  | spec => some "DTOGEN_SPEC"
  | output => some "DTOGEN_OUTPUT"
  | basePackage => some "DTOGEN_BASE_PACKAGE"
  | _ => none

/-- The variables of the environment with their values. -/
abbrev Environment := List (String × String)

/-- The value of an option: the one given, or else the one in the environment unless it is empty, or
else the default. -/
def valueOr (environment : Environment) (flag : Flag) (given : Option String)
    (usual : String) : String :=
  match given with
  | some value => value
  | none =>
      match flag.variable?.bind (environment.lookup ·) with
      | some value => if value.isEmpty then usual else value
      | none => usual

/-- The explanation of the command. -/
def helpText : String :=
  String.join ([
    "Usage: main [OPTIONS]",
    "",
    "  Generate Java DTOs, services and URL constants from an OpenAPI spec.",
    "",
    "Options:",
    "  --spec TEXT             OpenAPI spec file (JSON or YAML) or http(s) URL.",
    "                          [default: " ++ defaultSpec ++ "]",
    "  -o, --output DIRECTORY  Project root; sources go under src/main/java.",
    "                          [default: " ++ defaultOutput ++ "]",
    "  --base-package TEXT     Java package the generated classes live under.",
    "                          [default: " ++ defaultBasePackage ++ "]",
    "  -v, --verbose           Log skipped methods and fallbacks.",
    "  --help                  Show this message and exit."].map (· ++ "\n"))

/-- How the command ends. -/
inductive Ending where
  | done
  | usage (fault : UsageFault)
  | failed (message : String)
  | crashed (crash : Crash)
deriving DecidableEq, Repr

def Ending.exitCode : Ending → Nat
  | done => 0
  | usage _ => 2
  | failed _ => 1
  | crashed _ => 1

/-- What the command leaves: how it ends, what it prints, what it tells, and the workspace. -/
structure Outcome where
  ending : Ending
  output : String
  notices : List Notice
  workspace : Workspace

namespace Outcome

/-- What is printed about the end. -/
def lastWords (outcome : Outcome) : String :=
  match outcome.ending with
  | .usage fault =>
      "Usage: main [OPTIONS]\nTry 'main --help' for help.\n\n" ++
        Text.withoutCodes ("Error: " ++ fault.message) ++ "\n"
  | .failed message => Text.withoutCodes ("Error: " ++ message) ++ "\n"
  | _ => ""

/-- The log, with what is printed about the end. -/
def log (outcome : Outcome) : String :=
  String.join (outcome.notices.map fun notice => notice.line ++ "\n") ++ outcome.lastWords

end Outcome

/-- The text names a file that is there. A slash or a dot at its end asks for a folder. -/
def namesFile (workspace : Workspace) (text : String) : Bool :=
  let last := (Text.pieces '/' text.toList).getLast?
  let asksForFolder := last == some [] || last == some ['.']
  match workspace.find? (.ofString text) with
  | .ok (some (.file _)) => !asksForFolder
  | _ => false

/-- The notices that are told: all of them or only those that matter more. -/
def told (verbose : Bool) (notices : List Notice) : List Notice :=
  notices.filter fun notice => verbose || notice.level == .info

/-- What is printed after a document is generated. -/
def summary (settings : Settings) (report : Report) : String :=
  Text.withoutCodes ("Generated " ++ report.summary ++ " in " ++ settings.output.text ++ " (" ++
    toString report.created.length ++ " new files)") ++ "\n"

/-- Loads the document at a source and generates its sources. -/
def loadAndGenerate (pages : Web.Pages) (workspace : Workspace) (source : String)
    (settings : Settings) (verbose : Bool) : Outcome :=
  let reading := Specification.load workspace pages true source
  match Document.ofReading reading.result with
  | .error fault =>
      let ending :=
        match fault.report with
        | .ok message => .failed message
        | .error crash => .crashed crash
      ⟨ending, "", told verbose reading.notices, workspace⟩
  | .ok document =>
      match generate document settings workspace with
      | .ok _ run =>
          ⟨.done, summary settings run.report, told verbose (reading.notices ++ run.notices),
            run.workspace⟩
      | .error fault run =>
          ⟨.failed fault.message, "", told verbose (reading.notices ++ run.notices),
            run.workspace⟩

/-- What the command does that the arguments ask for. -/
def perform (environment : Environment) (pages : Web.Pages) (workspace : Workspace)
    (arguments : Arguments) : Outcome :=
  let stop (ending : Ending) (output : String) : Outcome := ⟨ending, output, [], workspace⟩
  let output := valueOr environment .output arguments.output defaultOutput
  if arguments.help then stop .done helpText
  else if (FilePath.ofString output).hasNull then stop (.crashed .nullInName) ""
  else if namesFile workspace output then stop (.usage (.outputIsFile output)) ""
  else if !arguments.extras.isEmpty then stop (.usage (.extraArguments arguments.extras)) ""
  else
    let source := valueOr environment .spec arguments.spec defaultSpec
    let basePackage :=
      valueOr environment .basePackage arguments.basePackage defaultBasePackage
    loadAndGenerate pages workspace source ⟨.ofString output, basePackage⟩ arguments.verbose

/-- What the command does with a list of arguments. -/
def run (environment : Environment) (pages : Web.Pages) (workspace : Workspace)
    (list : List String) : Outcome :=
  match Arguments.read list with
  | .error fault => ⟨.usage fault, "", [], workspace⟩
  | .ok arguments => perform environment pages workspace arguments

end OpenApiJava.CommandLine
