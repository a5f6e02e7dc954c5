import OpenApiJava.Disk.Artifact
import OpenApiJava.Report
import OpenApiJava.Source.ConstantsClass
import OpenApiJava.Source.DataClass
import OpenApiJava.Source.ServiceClass

/-!
# Generation

What a document becomes is planned first, category by category, from the document and the settings
alone. A run then writes the plan to a workspace in order and stops at the first fault.
-/

namespace OpenApiJava

/-- What is to be written in a category, and what is told before. -/
structure Batch where
  category : Category
  notices : List Notice
  artifacts : Except NoServers (List Artifact)

/-- The file of a data class. -/
def Dto.artifact (settings : Settings) (dto : Dto) : Artifact :=
  ⟨settings.classFile dto.packageName dto.className, dto.source⟩

/-- The file of a service. -/
def Service.artifact (settings : Settings) (service : Service) : Artifact :=
  ⟨settings.classFile settings.servicePackage service.className, service.source settings⟩

namespace Batch

/-- The data classes of a document. -/
def dtos (document : Document) (settings : Settings) : Batch :=
  { category := .dtos
    notices := Dto.allNotices document.schemas
    artifacts := .ok ((Dto.ofSchemas document.schemas settings).map (Dto.artifact settings)) }

def basePaths (document : Document) (settings : Settings) : Batch :=
  { category := .basePaths
    notices := []
    artifacts := .ok [
      ⟨settings.classFile settings.constantsPackage basePathsClass,
        basePathsSource document settings⟩] }

def services (document : Document) (settings : Settings) : Batch :=
  { category := .services
    notices := Endpoint.pathsNotices document.paths
    artifacts := (Service.ofDocument document).map (·.map (Service.artifact settings)) }

def relativeUrls (document : Document) (settings : Settings) : Batch :=
  { category := .relativeUrls
    notices := []
    artifacts := .ok [
      ⟨settings.classFile settings.constantsPackage relativeUrlsClass,
        relativeUrlsSource document settings⟩] }

/-- Everything that a document becomes. -/
def plan (document : Document) (settings : Settings) : List Batch := [
  dtos document settings,
  basePaths document settings,
  services document settings,
  relativeUrls document settings]

end Batch

/-- Why the writing of a category stops. -/
inductive GenerationCause where
  | noServers (fault : NoServers)
  | disk (fault : DiskFault)
deriving DecidableEq, Repr

/-- The category whose writing stops, and why. -/
structure GenerationFault where
  category : Category
  cause : GenerationCause
deriving DecidableEq, Repr

/-- What is said about a category whose writing stops for a reason without words. -/
def Category.failure (category : Category) : String :=
  "failed while generating " ++ category.name

namespace GenerationFault

/-- What is said about a fault. -/
def message (fault : GenerationFault) : String :=
  match fault.cause with
  | .noServers cause => fault.category.failure ++ ": " ++ cause.message
  | .disk (.refused problem path) => fault.category.failure ++ ": " ++ problem.message path
  | .disk .nullInName => fault.category.failure

end GenerationFault

/-- How far a run has come. -/
structure Run where
  workspace : Workspace
  notices : List Notice
  report : Report

/-- A step of a run, which keeps what it did when it fails. -/
abbrev RunStep : Type := EStateM GenerationFault Run Unit

namespace Run

/-- A run that has done nothing yet. -/
def start (workspace : Workspace) : Run :=
  ⟨workspace, [], .empty⟩

/-- The run with more notices. -/
def tell (run : Run) (notices : List Notice) : Run :=
  { run with notices := run.notices ++ notices }

/-- Writes an artifact of a category and reports it. -/
def write (category : Category) (artifact : Artifact) : RunStep := fun run =>
  let attempt := artifact.write run.workspace
  let told := run.tell attempt.notices
  match attempt.result with
  | .ok isNew workspace =>
      let report := run.report.record category.name artifact.path isNew
      .ok () { told with workspace := workspace, report := report }
  | .error fault workspace =>
      .error ⟨category, .disk fault⟩ { told with workspace := workspace }

/-- Writes artifacts of a category in order. -/
def writeAll (category : Category) : List Artifact → RunStep
  | [] => pure ()
  | artifact :: rest => do
      write category artifact
      writeAll category rest

/-- Writes a category. -/
def perform (batch : Batch) : RunStep := fun run =>
  let told := run.tell (.generating batch.category.name :: batch.notices)
  match batch.artifacts with
  | .ok artifacts => writeAll batch.category artifacts told
  | .error fault => .error ⟨batch.category, .noServers fault⟩ told

/-- Writes categories in order. -/
def performAll : List Batch → RunStep
  | [] => pure ()
  | batch :: rest => do
      perform batch
      performAll rest

end Run

/-- Writes everything that a document becomes to a workspace. -/
def generate (document : Document) (settings : Settings) (workspace : Workspace) :
    EStateM.Result GenerationFault Run Unit :=
  Run.performAll (Batch.plan document settings) (Run.start workspace)

end OpenApiJava
