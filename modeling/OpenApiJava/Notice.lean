import OpenApiJava.Text.Quoted

/-!
# Notices

What a run tells while it works: each notice has a level, the part of the program that it comes
from, and a text.
-/

namespace OpenApiJava

/-- How much a notice matters. -/
inductive Level where
  | debug
  | info
deriving DecidableEq, Repr

def Level.name : Level → String
  | debug => "DEBUG"
  | info => "INFO"

/-- Something that a run tells. -/
inductive Notice where
  /-- A reference that does not lead to a schema. -/
  | foreignReference (reference : String)
  /-- A request body whose schema names no type. -/
  | unresolvedBody
  | skippedMethod (method path : String)
  | generating (category : String)
  | creating (path : String)
  | updating (path : String)
  /-- A page that was asked for. -/
  | fetched (url status : String)
deriving DecidableEq, Repr

/-- Where references to schemas lead. -/
def schemaRegistry : String := "#/components/schemas/"

/-- The type of whatever has no better one. -/
def objectType : String := "Object"

namespace Notice

def level : Notice → Level
  | foreignReference _ => .debug
  | unresolvedBody => .debug
  | skippedMethod _ _ => .debug
  | generating _ => .info
  | creating _ => .info
  | updating _ => .info
  | fetched _ _ => .info

/-- The part of the program that a notice comes from. -/
def channel : Notice → String
  | foreignReference _ => "dtogen.schema_parser"
  | unresolvedBody => "dtogen.operations"
  | skippedMethod _ _ => "dtogen.context_builder"
  | generating _ => "dtogen.codegen"
  | creating _ => "dtogen.codegen"
  | updating _ => "dtogen.codegen"
  | fetched _ _ => "httpx"

def text : Notice → String
  | foreignReference reference =>
      "Reference " ++ Text.quotedString reference ++ " is outside " ++ schemaRegistry ++
        "; using " ++ objectType
  | unresolvedBody => "Request body schema has no $ref; leaving body type unresolved"
  | skippedMethod method path => "Skipping unsupported method " ++ method ++ " " ++ path
  | generating category => "Generating " ++ category
  | creating path => "Creating new " ++ path
  | updating path => "Updating existing " ++ path
  | fetched url status => "HTTP Request: GET " ++ url ++ " \"HTTP/1.1 " ++ status ++ "\""

/-- A notice as a line of a log. -/
def line (notice : Notice) : String :=
  notice.level.name ++ " " ++ notice.channel ++ ": " ++ notice.text

end Notice

end OpenApiJava
