import OpenApiJava.Endpoint.Basic
import OpenApiJava.ServerUrl

/-!
# Services

The endpoints of a document are grouped by tag, one service for each tag. All services share the
host and the base path of the first server.
-/

namespace OpenApiJava

/-- The endpoints of a tag. -/
structure Service where
  className : String
  baseName : String
  host : String
  basePath : String
  endpoints : List Endpoint
deriving DecidableEq, Repr, Inhabited

/-- There are operations and no servers. -/
structure NoServers where
deriving DecidableEq, Repr

def NoServers.message (_ : NoServers) : String :=
  "specification declares operations but no servers; " ++
    "add a \x27servers\x27 entry to derive host and base path"

/-- The different strings of a list in the order in which they first occur. -/
def distinct : List String → List String
  | [] => []
  | first :: rest => first :: (distinct rest).filter (· != first)

namespace Service

/-- The endpoints by tag, in the order in which the tags first occur. -/
def groups (endpoints : List Endpoint) : List (String × List Endpoint) :=
  (distinct (endpoints.map (·.tag))).map fun tag =>
    (tag, endpoints.filter fun endpoint => endpoint.tag == tag)

/-- The service of a tag on a server. -/
def ofGroup (server : Server) (group : String × List Endpoint) : Service :=
  let (host, basePath) := ServerUrl.split server.url
  { className := Java.serviceClassName group.1
    baseName := Java.serviceBaseName group.1
    host := host
    basePath := basePath
    endpoints := group.2 }

/-- One service for each tag. Without endpoints no server is needed. -/
def aggregate (endpoints : List Endpoint) (servers : List Server) :
    Except NoServers (List Service) :=
  match groups endpoints, servers with
  | [], _ => .ok []
  | _ :: _, [] => .error {}
  | groups, server :: _ => .ok (groups.map (ofGroup server))

/-- The services of a document. -/
def ofDocument (document : Document) : Except NoServers (List Service) :=
  aggregate (Endpoint.ofPaths document.paths) document.servers

end Service

end OpenApiJava
