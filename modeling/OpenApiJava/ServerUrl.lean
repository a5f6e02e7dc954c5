import OpenApiJava.Document.Basic

/-!
# Server URLs

The URL of a server is cut into a host and a base path at the first slash that follows a double
slash; without a double slash, at the first slash that is not in front.
-/

namespace OpenApiJava.ServerUrl

/-- The number of characters up to the end of the first double slash. -/
def doubleSlashEnd? : List Char → Option Nat
  | [] => none
  | '/' :: '/' :: _ => some 2
  | _ :: rest => (doubleSlashEnd? rest).map (· + 1)

/-- The host and the base path of a URL. -/
def splitChars (url : List Char) : List Char × List Char :=
  let skipped := (doubleSlashEnd? url).getD 1
  let rest := url.drop skipped
  (url.take skipped ++ rest.takeWhile (· != '/'), rest.dropWhile (· != '/'))

/-- The host and the base path of a URL. -/
def split (url : String) : String × String :=
  let (host, basePath) := splitChars url.toList
  (String.ofList host, String.ofList basePath)

end OpenApiJava.ServerUrl
