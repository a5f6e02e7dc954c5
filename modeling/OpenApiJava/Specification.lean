import OpenApiJava.Disk.Workspace
import OpenApiJava.Document.Reading
import OpenApiJava.Json.Reader
import OpenApiJava.Text.Newline
import OpenApiJava.Web.Page
import OpenApiJava.Yaml.Reader

/-!
# Specifications

A specification is a mapping that is read from a file or from the web, as JSON or as YAML. Only in
YAML can a part of it stand in several places.
-/

namespace OpenApiJava

/-- A specification: its entries, or a graph with a mapping at the top. -/
inductive Specification where
  | plain (entries : Entries)
  | shared (graph : Graph)

/-- Why there is no specification at a source. -/
inductive SpecificationFault where
  | unreadable (source : String) (problem : DiskProblem) (path : FilePath)
  | unparsable (source : String)
  | unfetched (source : String)
  | notMapping (source : String)
  /-- The source, or where a page sends its reader, spells no address. -/
  | invalidAddress
  /-- A page names a way to pack bytes, or to change letters, as its charset. -/
  | packingCharset
  | letteringCharset
  /-- A scalar has no value of the kind that its tag asks for. -/
  | value (fault : Yaml.ValueFault)
deriving DecidableEq, Repr

/-- What comes of reading something: the notices, and either the fault or what was read. -/
structure Reading (α : Type) where
  notices : List Notice
  result : Except SpecificationFault α

namespace Specification

/-- How a source on the web starts. -/
def isRemote (source : String) : Bool :=
  Text.startsWith "http://" source || Text.startsWith "https://" source

/-- The address without its query ends as the address of JSON does. -/
def hasJsonAddress (address : String) : Bool :=
  let path := String.ofList (address.toList.takeWhile (· != '?'))
  Text.endsWith ".json" path

def tree : Specification → Tree
  | plain entries => .mapping entries
  | shared graph => graph.tree

/-- The specification that JSON spells. -/
def ofJson (source text : String) : Except SpecificationFault Specification :=
  match Json.read? text with
  | some (.mapping entries) => .ok (.plain entries)
  | some _ => .error (.notMapping source)
  | none => .error (.unparsable source)

/-- The specification that YAML spells. -/
def ofYaml (source text : String) : Except SpecificationFault Specification :=
  match Yaml.read text with
  | .ok graph =>
      if (graph.entries? graph.root).isSome then .ok (.shared graph)
      else .error (.notMapping source)
  | .error .malformed => .error (.unparsable source)
  | .error (.value fault) => .error (.value fault)

/-- The specification that a text spells. -/
def ofText (source text : String) (isJson : Bool) : Except SpecificationFault Specification :=
  if isJson then ofJson source text else ofYaml source text

/-- The text of the file at a path, with a line feed at the end of each line. -/
def fileText (workspace : Workspace) (source : String) (path : FilePath) :
    Except SpecificationFault String :=
  match workspace.fileContent path with
  | .error (.refused problem place) => .error (.unreadable source problem place)
  | .error .nullInName => .error (.unparsable source)
  | .ok content =>
      match String.fromUTF8? content with
      | none => .error (.unparsable source)
      | some text => .ok (Text.onString Text.withLineFeeds text)

def ofFile (workspace : Workspace) (source : String) :
    Except SpecificationFault Specification := do
  let path := FilePath.ofString source
  let text ← fileText workspace source path
  ofText source text (path.suffix == ".json")

def load (workspace : Workspace) (pages : Web.Pages) (goesOn : Bool) (source : String) :
    Reading Specification :=
  if isRemote source then
    let visit := Web.visit pages goesOn source
    let result :=
      match visit.body with
      | .ok text => ofText source text (hasJsonAddress source)
      | .error .unfetched => .error (.unfetched source)
      | .error .unreadable => .error (.unparsable source)
      | .error (.undecoded .refused) => .error (.unparsable source)
      | .error (.undecoded .isPacking) => .error .packingCharset
      | .error (.undecoded .isLettering) => .error .letteringCharset
      | .error .invalidAddress => .error .invalidAddress
    ⟨visit.notices, result⟩
  else ⟨[], ofFile workspace source⟩

end Specification

end OpenApiJava
