import OpenApiJava.Document.PathItem
import OpenApiJava.Endpoint.PathParameter
import OpenApiJava.Java.Naming
import OpenApiJava.JavaType

/-!
# Endpoints

One method of one path, as the generated services describe it.
-/

namespace OpenApiJava

structure QueryParameter where
  name : String
  description : Option String
  required : Bool
deriving DecidableEq, Repr, Inhabited

/-- What is known of the type of a request body. -/
inductive BodyType where
  | unresolved
  | single (typeName : String)
  | listOf (typeName : String)
deriving DecidableEq, Repr, Inhabited

/-- A call that a service offers. -/
structure Endpoint where
  operationId : Option String
  summary : Option String
  path : String
  method : String
  constantName : String
  pathParameters : List PathParameter
  queryParameters : List QueryParameter
  body : Option BodyType
  tag : String
deriving DecidableEq, Repr, Inhabited

namespace BodyType

/-- The name of the type, if it is known. -/
def typeName? : BodyType → Option String
  | unresolved => none
  | single typeName => some typeName
  | listOf typeName => some typeName

/-- The body is a list of values of the type. -/
def isList : BodyType → Bool
  | listOf _ => true
  | _ => false

/-- The reference that the type of a body is taken from, and whether the body is a list of it. -/
def reference? (schema : Schema) : Option (String × Bool) :=
  if schema.type == some "array" then
    match schema.items with
    | some items => items.reference.map fun reference => (reference, true)
    | none => none
  else schema.reference.map fun reference => (reference, false)

/-- The type of a body with this schema. -/
def ofSchema (schema : Schema) : BodyType :=
  match reference? schema with
  | some (reference, true) => listOf (referenceTypeName reference)
  | some (reference, false) => single (referenceTypeName reference)
  | none => unresolved

/-- What is told when the type of a body is looked for. -/
def notices (schema : Schema) : List Notice :=
  match reference? schema with
  | some (reference, _) => referenceNotices reference
  | none => [.unresolvedBody]

end BodyType

/-- The media type whose schema counts. -/
def jsonMediaType : String := "application/json"

/-- The schema of the JSON form of a request body. -/
def RequestBody.jsonSchema? (body : RequestBody) : Option Schema :=
  (body.content.find? fun entry => entry.1 == jsonMediaType).bind fun entry => entry.2.schema

def RequestBody.type (body : RequestBody) : BodyType :=
  match body.jsonSchema? with
  | some schema => BodyType.ofSchema schema
  | none => .unresolved

/-- What is told when a request body is described. -/
def RequestBody.notices (body : RequestBody) : List Notice :=
  match body.jsonSchema? with
  | some schema => BodyType.notices schema
  | none => []

namespace Endpoint

/-- The tag of an operation without tags. -/
def defaultTag : String := "Api"

def queryParametersOf (operation : Operation) : List QueryParameter :=
  (operation.parameters.filter fun parameter => parameter.location == some "query").map
    fun parameter => ⟨parameter.name, parameter.description, parameter.required⟩

def ofOperation (operation : Operation) (path method : String) : Endpoint :=
  { operationId := operation.operationId
    summary := operation.summary
    path := path
    method := Text.onString Text.upper method
    constantName := Java.constantName path
    pathParameters := PathParameter.ofPath path
    queryParameters := queryParametersOf operation
    body := operation.requestBody.map RequestBody.type
    tag := operation.tags.head?.getD defaultTag }

/-- What is told when an operation is described. -/
def notices (operation : Operation) : List Notice :=
  match operation.requestBody with
  | some body => body.notices
  | none => []

/-- The endpoints of a path: its operations in the order of the methods. -/
def ofPathItem (path : String) (item : PathItem) : List Endpoint :=
  item.operations.map fun entry => ofOperation entry.2 path entry.1.name

/-- What is told when a path is described: the methods that are skipped, then its operations. -/
def pathItemNotices (path : String) (item : PathItem) : List Notice :=
  (item.unsupportedMethods.map fun method => .skippedMethod method path) ++
    item.operations.flatMap fun entry => notices entry.2

/-- The endpoints of all paths, in the order of the paths. -/
def ofPaths (paths : List (String × PathItem)) : List Endpoint :=
  paths.flatMap fun entry => ofPathItem entry.1 entry.2

/-- What is told when all paths are described. -/
def pathsNotices (paths : List (String × PathItem)) : List Notice :=
  paths.flatMap fun entry => pathItemNotices entry.1 entry.2

end Endpoint

end OpenApiJava
