import OpenApiJava.Generation
import OpenApiJava.Source.Context

/-!
# Generation from templates

The files of a run are rendered one by one, each from its template and its named values right before
it is written. A template that finds a value missing or of the wrong kind stops the run.
-/

namespace OpenApiJava

open OpenApiJava.Source

/-- A file that is still to be rendered. -/
structure Sheet where
  path : FilePath
  template : Template
  context : Tree

def Sheet.artifact (sheet : Sheet) : Except ContextFault Artifact := do
  return ⟨sheet.path, ← sheet.template.render sheet.context⟩

def Dto.sheet (settings : Settings) (dto : Dto) : Sheet :=
  ⟨settings.classFile dto.packageName dto.className, .dataClass, dto.context⟩

def Service.sheet (settings : Settings) (service : Service) : Sheet :=
  ⟨settings.classFile settings.servicePackage service.className, .serviceClass,
    service.context settings⟩

def basePathsTable (document : Document) (settings : Settings) : ConstantsClass :=
  ⟨settings.constantsPackage, basePathsClass, UrlConstant.ofServers document.servers⟩

def relativeUrlsTable (document : Document) (settings : Settings) : ConstantsClass :=
  ⟨settings.constantsPackage, relativeUrlsClass, UrlConstant.ofPaths document.paths⟩

namespace Category

/-- What is told before the files of a category are written. -/
def notices (document : Document) : Category → List Notice
  | dtos => Dto.allNotices document.schemas
  | basePaths => []
  | services => Endpoint.pathsNotices document.paths
  | relativeUrls => []

/-- The files of a category before they are rendered. -/
def sheets (document : Document) (settings : Settings) :
    Category → Except NoServers (List Sheet)
  | dtos => .ok ((Dto.ofSchemas document.schemas settings).map (Dto.sheet settings))
  | basePaths => .ok [
      ⟨settings.classFile settings.constantsPackage basePathsClass, .basePaths,
        (basePathsTable document settings).context "servers"⟩]
  | services => (Service.ofDocument document).map (·.map (Service.sheet settings))
  | relativeUrls => .ok [
      ⟨settings.classFile settings.constantsPackage relativeUrlsClass, .relativeUrls,
        (relativeUrlsTable document settings).context "paths"⟩]

end Category

/-- Why a run from templates stops. -/
inductive RenderingFault where
  | template (category : Category) (fault : ContextFault)
  | generation (fault : GenerationFault)
deriving DecidableEq, Repr

namespace RenderingFault

/-- What a step leaves, its faults among those of a run from templates. -/
def ofResult :
    EStateM.Result GenerationFault Run Unit → EStateM.Result RenderingFault Run Unit
  | .ok _ run => .ok () run
  | .error fault run => .error (.generation fault) run

end RenderingFault

/-- A step of a run from templates, which keeps what it did when it fails. -/
abbrev RenderingStep : Type := EStateM RenderingFault Run Unit

namespace Run

/-- Renders a file of a category, writes it and reports it. -/
def render (category : Category) (sheet : Sheet) : RenderingStep := fun run =>
  match sheet.artifact with
  | .ok artifact => RenderingFault.ofResult (write category artifact run)
  | .error fault => .error (.template category fault) run

/-- Renders and writes files of a category in order. -/
def renderAll (category : Category) : List Sheet → RenderingStep
  | [] => pure ()
  | sheet :: rest => do
      render category sheet
      renderAll category rest

/-- Renders and writes a category. -/
def renderCategory (document : Document) (settings : Settings) (category : Category) :
    RenderingStep := fun run =>
  let told := run.tell (.generating category.name :: category.notices document)
  match category.sheets document settings with
  | .ok sheets => renderAll category sheets told
  | .error fault => .error (.generation ⟨category, .noServers fault⟩) told

/-- Renders and writes categories in order. -/
def renderCategories (document : Document) (settings : Settings) : List Category → RenderingStep
  | [] => pure ()
  | category :: rest => do
      renderCategory document settings category
      renderCategories document settings rest

end Run

/-- Renders everything that a document becomes and writes it to a workspace. -/
def generateFromTemplates (document : Document) (settings : Settings) (workspace : Workspace) :
    EStateM.Result RenderingFault Run Unit :=
  Run.renderCategories document settings Category.all (Run.start workspace)

end OpenApiJava
