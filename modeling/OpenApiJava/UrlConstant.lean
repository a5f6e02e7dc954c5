import OpenApiJava.Java.Naming
import OpenApiJava.ServerUrl

/-!
# URL constants

Two tables of constants: the base paths of the servers and the relative URLs of the paths.
-/

namespace OpenApiJava

/-- A constant that holds a text. -/
structure UrlConstant where
  name : String
  value : String
  description : String
deriving DecidableEq, Repr, Inhabited

namespace UrlConstant

/-- The first text, or the second if the first is missing or empty. -/
def nonemptyOr (text : Option String) (fallback : String) : String :=
  match text with
  | some value => if value.isEmpty then fallback else value
  | none => fallback

def serverName (position : Nat) : String :=
  if position == 0 then "DEFAULT" else "SERVER_" ++ toString position

/-- The base path of a server. -/
def ofServer (position : Nat) (server : Server) : UrlConstant :=
  { name := serverName position
    value := (ServerUrl.split server.url).2
    description := nonemptyOr server.description "Default server" }

/-- The base paths of servers, the first of which has a position. -/
def ofServersFrom (position : Nat) : List Server → List UrlConstant
  | [] => []
  | server :: rest => ofServer position server :: ofServersFrom (position + 1) rest

/-- One constant for each server. -/
def ofServers (servers : List Server) : List UrlConstant :=
  ofServersFrom 0 servers

/-- The summary of the first operation that has one. -/
def summary? (item : PathItem) : Option String :=
  item.operations.findSome? fun entry =>
    match entry.2.summary with
    | some summary => if summary.isEmpty then none else some summary
    | none => none

/-- The relative URL of a path. -/
def ofPath (path : String) (item : PathItem) : UrlConstant :=
  { name := Java.constantName path
    value := path
    description := (summary? item).getD ("Path: " ++ path) }

/-- One constant for each path. -/
def ofPaths (paths : List (String × PathItem)) : List UrlConstant :=
  paths.map fun entry => ofPath entry.1 entry.2

end UrlConstant

end OpenApiJava
