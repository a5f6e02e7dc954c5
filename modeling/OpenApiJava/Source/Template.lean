import OpenApiJava.Source.DataClass
import OpenApiJava.Source.ServiceClass
import OpenApiJava.Tree.Display

/-!
# Templates

The four kinds of source files, written from a tree of named values. Only the values that a source
file uses have to be there, and they are looked for in the order in which it uses them.
-/

namespace OpenApiJava.Source

/-- A kind of source file. -/
inductive Template where
  | dataClass
  | serviceClass
  | basePaths
  | relativeUrls
deriving DecidableEq, Repr

namespace Template

def all : List Template := [dataClass, serviceClass, basePaths, relativeUrls]

/-- The file that a template is kept in. -/
def fileName : Template → String
  | dataClass => "model.java.j2"
  | serviceClass => "service.java.j2"
  | basePaths => "basepathurls.java.j2"
  | relativeUrls => "relativeurls.java.j2"

/-- The template that a path names. Empty pieces and dots of the path do not count. -/
def ofPath? (path : String) : Option Template :=
  let pieces := (Text.pieces '/' path.toList).filter fun piece => piece != [] && piece != ['.']
  all.find? fun template => pieces == [template.fileName.toList]

end Template

/-- Why a source file cannot be written from a tree. -/
inductive ContextFault where
  /-- The tree is no mapping, or it has a name that is taken. -/
  | notContext
  /-- A value that is used is not there. -/
  | undefined
  /-- A value that is escaped is no text. -/
  | notText
  /-- A value that becomes an identifier is no text or is not there. -/
  | notName
  /-- A value that is gone through has no items. -/
  | notList
deriving DecidableEq, Repr

namespace Context

/-- The value under a name. -/
def need (context : Tree) (name : String) : Except ContextFault Tree :=
  match context.get? name with
  | some value => .ok value
  | none => .error .undefined

/-- A value as it is printed. -/
def shown (context : Tree) (name : String) : Except ContextFault String :=
  return (← need context name).display

/-- The value counts as true. -/
def holds (context : Tree) (name : String) : Except ContextFault Bool :=
  return (← need context name).isTruthy

/-- A value that is escaped. It has to be a text. -/
def escapedText (context : Tree) (name : String) : Except ContextFault String := do
  match ← need context name with
  | .text value => return value
  | _ => .error .notText

/-- A value that becomes an identifier. It has to be a text. -/
def nameText (context : Tree) (name : String) : Except ContextFault String :=
  match context.get? name with
  | some (.text value) => .ok value
  | _ => .error .notName

/-- A text that is escaped, or the empty text if the value counts as false. -/
def optionalText (context : Tree) (name : String) : Except ContextFault String := do
  if ← holds context name then escapedText context name else return ""

/-- The items of a value: those of a list, the keys of a mapping, the characters of a text. -/
def items (context : Tree) (name : String) : Except ContextFault (List Tree) := do
  match ← need context name with
  | .list values => return values
  | .mapping entries => return entries.map (·.1)
  | .text value => return value.toList.map fun character => .text (String.ofList [character])
  | _ => .error .notList

end Context

open Context

/-- The member that a tree describes. -/
def Member.ofContext (context : Tree) : Except ContextFault Member := do
  let description ← optionalText context "description"
  let baseName ← escapedText context "base_name"
  let typeName ← shown (← need context "resolved_type") "type_name"
  let name ← nameText context "name"
  return { name, baseName, description, typeName }

/-- The data class that a tree describes. -/
def DataClass.ofContext (context : Tree) : Except ContextFault DataClass := do
  let packageName ← shown context "package_name"
  let imports := (← items context "imports").map Tree.display
  let isResponse ← holds context "is_response_variant"
  let description ← optionalText context "description"
  let className ←
    if description.isEmpty then escapedText context "class_name"
    else shown context "class_name"
  let members ← (← items context "fields").mapM Member.ofContext
  return { packageName, className, description, isResponse, imports, members }

/-- The constant that a tree describes; the fault is what a name that is no text amounts to. -/
def constantOfContext (nameOf : Tree → Except ContextFault String) (context : Tree) :
    Except ContextFault UrlConstant := do
  let description ← escapedText context "description"
  let name ← nameOf context
  let value ← escapedText context "value"
  return { name, value, description }

/-- The class of constants that a tree describes. -/
def ConstantsClass.ofContext (listName : String)
    (nameOf : Tree → Except ContextFault String) (context : Tree) :
    Except ContextFault ConstantsClass := do
  let packageName ← shown context "package_name"
  let className ← shown context "class_name"
  let constants ← (← items context listName).mapM (constantOfContext nameOf)
  return { packageName, className, constants }

/-- The query parameter that a tree describes. -/
def Query.ofContext (context : Tree) : Except ContextFault Query := do
  let name ← shown context "name"
  let required ← holds context "required"
  let description ← optionalText context "description"
  return { name, description, required }

/-- What a comment says of the body that a tree describes. -/
def bodyOfContext (context : Tree) : Except ContextFault (Option String) := do
  if ← holds context "has_request_body" then
    if ← holds context "is_array_request_body" then
      return some ("List<" ++ (← shown context "request_body_type_name") ++ ">")
    else if ← holds context "request_body_type_name" then
      return some (← shown context "request_body_type_name")
    else return some "unresolved"
  else return none

/-- The name of the path parameter that a tree describes. -/
def parameterName (context : Tree) : Except ContextFault String :=
  nameText context "name"

/-- The path parameter that a tree describes. -/
def parameterOfContext (context : Tree) : Except ContextFault PathParameter := do
  let token ← escapedText context "placeholder_token"
  let name ← parameterName context
  return { name, token }

/-- The call that a tree describes. -/
def Call.ofContext (context : Tree) : Except ContextFault Call := do
  let operationId ←
    if ← holds context "operation_id" then nameText context "operation_id" else pure ""
  if operationId.isEmpty then
    let _ ← need context "http_method"
    let _ ← escapedText context "path_constant_name"
  let method ← shown context "http_method"
  let summary ← optionalText context "summary"
  let path ← shown context "path"
  let body ← bodyOfContext context
  let queries ← (← items context "query_params").mapM Query.ofContext
  let parameters ← items context "path_params"
  let _ ← parameters.mapM parameterName
  let constantName ← nameText context "path_constant_name"
  let parameters ← parameters.mapM parameterOfContext
  return { operationId, summary, path, method, constantName, parameters, queries, body }

/-- The service class that a tree describes. -/
def ServiceClass.ofContext (context : Tree) : Except ContextFault ServiceClass := do
  let packageName ← shown context "package_name"
  let constantsPackage ← shown context "constants_package"
  let relativeUrlsClass ← shown context "relative_urls_class"
  let baseName ← shown context "base_name"
  let className ← shown context "class_name"
  let host ← escapedText context "host"
  let basePath ← escapedText context "base_path"
  let calls ← (← items context "operations").mapM Call.ofContext
  return ⟨packageName, constantsPackage, relativeUrlsClass, className, baseName, host, basePath,
    calls⟩

/-- The source file of a kind, from named values. -/
def Template.source (template : Template) (context : Tree) : Except ContextFault String := do
  match template with
  | .dataClass => return (← DataClass.ofContext context).source
  | .serviceClass => return (← ServiceClass.ofContext context).source
  | .basePaths =>
      let table ← ConstantsClass.ofContext "servers" (shown · "constant_name") context
      return table.basePathSource
  | .relativeUrls =>
      let table ← ConstantsClass.ofContext "paths" (nameText · "constant_name") context
      return table.relativeUrlSource

/-- The name that no value can have. -/
def reservedName : String := "self"

/-- The source file of a kind that a tree describes. -/
def Template.render (template : Template) (context : Tree) : Except ContextFault String :=
  match context with
  | .mapping entries =>
      if Entries.has entries reservedName then .error .notContext else template.source context
  | _ => .error .notContext

end OpenApiJava.Source
