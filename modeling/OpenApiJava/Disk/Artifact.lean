import OpenApiJava.Disk.Workspace
import OpenApiJava.Notice

/-!
# Artifacts

An artifact is a text that is meant for a path. Before it is written, a notice tells whether it is
new.
-/

namespace OpenApiJava

/-- A text and the path of the file that is to hold it. -/
structure Artifact where
  path : FilePath
  content : String
deriving DecidableEq, Repr, Inhabited

/-- What comes of writing an artifact: the notices, and the workspace with either the fault or the
answer whether the file is new. -/
structure Attempt where
  notices : List Notice
  result : EStateM.Result DiskFault Workspace Bool

namespace Artifact

/-- What is told before an artifact is written. -/
def notice (artifact : Artifact) (isNew : Bool) : Notice :=
  if isNew then .creating artifact.path.text else .updating artifact.path.text

/-- Writes an artifact, over whatever file stands at its path. -/
def write (artifact : Artifact) (workspace : Workspace) : Attempt :=
  match workspace.has artifact.path with
  | .error fault => ⟨[], .error fault workspace⟩
  | .ok found =>
      let isNew := !found
      ⟨[artifact.notice isNew],
        match DiskAction.store artifact.path artifact.content.toUTF8 workspace with
        | .ok _ changed => .ok isNew changed
        | .error fault changed => .error fault changed⟩

end Artifact

end OpenApiJava
