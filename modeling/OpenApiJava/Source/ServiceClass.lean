import OpenApiJava.Java.Comment
import OpenApiJava.Java.Identifier
import OpenApiJava.Java.Literal
import OpenApiJava.Service
import OpenApiJava.Settings
import OpenApiJava.Source.Lines
import OpenApiJava.Source.ConstantsClass

/-!
# The source of a service class

A service class holds the host and the base path of its server, and for each of its calls the method
and a function that builds the URL.
-/

namespace OpenApiJava.Source

open OpenApiJava.Java

/-- A parameter of the query of a call. One without a description has an empty one. -/
structure Query where
  name : String
  description : String
  required : Bool
deriving DecidableEq, Repr, Inhabited

/-- A call. One without an identifier or a summary has an empty one; the body is what a comment says
of it. -/
structure Call where
  operationId : String
  summary : String
  path : String
  method : String
  constantName : String
  parameters : List PathParameter
  queries : List Query
  body : Option String
deriving DecidableEq, Repr, Inhabited

/-- What the source of a service class is written from. -/
structure ServiceClass where
  packageName : String
  constantsPackage : String
  relativeUrlsClass : String
  className : String
  baseName : String
  host : String
  basePath : String
  calls : List Call
deriving DecidableEq, Repr, Inhabited

namespace Query

/-- What a comment says of a query parameter. -/
def line (query : Query) : String :=
  "     * Query parameter " ++ query.name ++ (if query.required then " (required)" else "") ++
    (if query.description.isEmpty then "" else ": " ++ commentText query.description)

end Query

namespace Call

/-- The name that the functions of a call start with: its identifier if it has one, and otherwise
its method and the name of its constant. -/
def methodName (call : Call) : String :=
  if call.operationId.isEmpty then
    Text.onString Text.lower call.method ++ pascal call.constantName
  else Text.onString Text.lowerFirst (identifier call.operationId)

/-- Method and path of a call. -/
def requestLine (call : Call) : String :=
  call.method ++ " " ++ call.path

/-- The text that describes the call. -/
def headline (call : Call) : String :=
  if call.summary.isEmpty then call.requestLine else call.summary

/-- The parameters of the function that builds the URL. -/
def signature (call : Call) : String :=
  String.ofList (Text.joined [',', ' '] (call.parameters.map fun parameter =>
    ("Object " ++ identifier parameter.name).toList))

/-- The line that puts a value in place of a path parameter. -/
def replacementLine (parameter : PathParameter) : String :=
  "        path = path.replace(\"" ++ literalBody parameter.token ++ "\", String.valueOf(" ++
    identifier parameter.name ++ "));"

/-- The lines of a call in a class, with a blank line before each part. -/
def lines (relativeUrlsClass : String) (call : Call) : List String :=
  ["",
    "    public static final String " ++ Text.onString Text.upper call.methodName ++
      "_METHOD = \"" ++ call.method ++ "\";",
    "",
    "    /**",
    "     * " ++ commentText call.headline,
    "     * <p>",
    "     * " ++ call.requestLine] ++
    (match call.body with
      | some body => ["     * Request body: " ++ body]
      | none => []) ++
    (call.queries.map Query.line) ++
    ["     */",
      "    public String " ++ call.methodName ++ "Url(" ++ call.signature ++ ") \x7b",
      "        String path = " ++ relativeUrlsClass ++ "." ++ identifier call.constantName ++
        ";"] ++
    (call.parameters.map replacementLine) ++
    ["        return HOST + BASE_PATH + path;",
      "    \x7d"]

end Call

namespace ServiceClass

def lines (service : ServiceClass) : List String :=
  ["package " ++ service.packageName ++ ";",
    "",
    "import " ++ service.constantsPackage ++ "." ++ service.relativeUrlsClass ++ ";",
    "",
    "/**",
    " * Request metadata for the " ++ service.baseName ++ " endpoints.",
    " */",
    "public class " ++ service.className ++ " \x7b",
    "",
    "    public static final String HOST = \"" ++ literalBody service.host ++ "\";",
    "    public static final String BASE_PATH = \"" ++ literalBody service.basePath ++ "\";"] ++
    service.calls.flatMap (Call.lines service.relativeUrlsClass) ++
    ["\x7d"]

def source (service : ServiceClass) : String :=
  ofLines service.lines

end ServiceClass

end OpenApiJava.Source

namespace OpenApiJava

/-- What a comment says of the type of a body. -/
def BodyType.text : BodyType → String
  | unresolved => "unresolved"
  | single typeName => if typeName.isEmpty then "unresolved" else typeName
  | listOf typeName => "List<" ++ typeName ++ ">"

/-- The call that an endpoint becomes. -/
def Endpoint.toCall (endpoint : Endpoint) : Source.Call :=
  { operationId := endpoint.operationId.getD ""
    summary := endpoint.summary.getD ""
    path := endpoint.path
    method := endpoint.method
    constantName := endpoint.constantName
    parameters := endpoint.pathParameters
    queries := endpoint.queryParameters.map fun query =>
      ⟨query.name, query.description.getD "", query.required⟩
    body := endpoint.body.map BodyType.text }

/-- What the source of a service is written from. -/
def Service.toServiceClass (service : Service) (settings : Settings) : Source.ServiceClass :=
  { packageName := settings.servicePackage
    constantsPackage := settings.constantsPackage
    relativeUrlsClass := relativeUrlsClass
    className := service.className
    baseName := service.baseName
    host := service.host
    basePath := service.basePath
    calls := service.endpoints.map Endpoint.toCall }

def Service.source (service : Service) (settings : Settings) : String :=
  (service.toServiceClass settings).source

end OpenApiJava
