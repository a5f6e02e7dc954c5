import OpenApiJava.JavaType
import OpenApiJava.Settings

/-!
# Data classes

A schema of a document becomes data classes with one field for each property: a response class if
the name of the schema says so, and otherwise a request class and a response class that differ only
in their package and in what they ignore.
-/

namespace OpenApiJava

/-- A field of a data class. -/
structure DtoField where
  name : String
  baseName : String
  description : Option String
  type : JavaType
deriving DecidableEq, Repr, Inhabited

/-- A data class. -/
structure Dto where
  packageName : String
  className : String
  description : Option String
  isResponse : Bool
  fields : List DtoField
  imports : List Import
deriving DecidableEq, Repr, Inhabited

/-- What the name of a schema ends in that only has a response class. -/
def responseSuffix : String := "ResponseDTO"

/-- The schema has only a response class. -/
def isResponseName (name : String) : Bool :=
  Text.endsWith responseSuffix name

namespace Dto

def field (property : String × Schema) : DtoField :=
  { name := property.1
    baseName := property.1
    description := property.2.description
    type := JavaType.ofSchema property.2 }

/-- The imports that some field needs, each once and in the order of their names. -/
def importsOf (fields : List DtoField) : List Import :=
  Import.all.filter fun needed => fields.any fun field => field.type.imports.contains needed

/-- The class of a schema. A response class is built if the name asks for one or the caller does. -/
def ofSchema (name : String) (schema : Schema) (asResponse : Bool) (settings : Settings) : Dto :=
  let isResponse := asResponse || isResponseName name
  let fields := schema.properties.map field
  { packageName := if isResponse then settings.responsePackage else settings.requestPackage
    className := name
    description := schema.description
    isResponse := isResponse
    fields := fields
    imports := importsOf fields }

/-- What is told when a schema becomes a class. -/
def notices (schema : Schema) : List Notice :=
  schema.properties.flatMap fun property => JavaType.notices property.2

/-- The variants that are built for a schema of this name, by whether they are responses. -/
def variants (name : String) : List Bool :=
  if isResponseName name then [true] else [false, true]

/-- The classes of all schemas, in the order of the schemas. -/
def ofSchemas (schemas : List (String × Schema)) (settings : Settings) : List Dto :=
  schemas.flatMap fun entry =>
    (variants entry.1).map fun asResponse => ofSchema entry.1 entry.2 asResponse settings

/-- What is told when all schemas become classes. -/
def allNotices (schemas : List (String × Schema)) : List Notice :=
  schemas.flatMap fun entry => (variants entry.1).flatMap fun _ => notices entry.2

end Dto

end OpenApiJava
