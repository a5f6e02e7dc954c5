import OpenApiJava.Web.Address

/-!
# Addresses that leave out parts

A page may name another page by a text that leaves out the parts in front. The parts that are left
out are those of the page's own address. Main statement: a text without parts means the address
itself.
-/

namespace OpenApiJava.Web

open OpenApiJava.Text

/-- The schemes whose addresses may leave out parts. -/
def relativeSchemes : List String := [
  "ftp", "http", "gopher", "nntp", "imap", "wais", "file", "https", "shttp", "mms", "prospero",
  "rtsp", "rtsps", "rtspu", "sftp", "svn", "svn+ssh", "ws", "wss"]

/-- The schemes that let parameters follow the last name of a path, after a semicolon. -/
def parameterSchemes : List String := [
  "ftp", "prospero", "http", "imap", "https", "shttp", "rtsp", "rtsps", "rtspu", "mms", "sftp"]

/-- A path without the parameters of its last name, and the parameters. -/
def cutParameters (scheme path : List Char) : List Char × List Char :=
  if parameterSchemes.contains (String.ofList scheme) then
    let names := pieces '/' path
    let (name, parameters) := cutAt ';' (names.getLast?.getD [])
    (joined ['/'] (names.dropLast ++ [name]), parameters.getD [])
  else (path, [])

/-- A path with the parameters of its last name, if there are any. -/
def withParameters (path parameters : List Char) : List Char :=
  path ++ (if parameters.isEmpty then [] else ';' :: parameters)

/-- The names of a path without dots; the names before are reversed. Two dots take back the name
before them, if there is one. -/
def resolvedNames (before : List (List Char)) : List (List Char) → List (List Char)
  | [] => before.reverse
  | name :: rest =>
      if name == ['.'] then resolvedNames before rest
      else if name == ['.', '.'] then resolvedNames (before.drop 1) rest
      else resolvedNames (name :: before) rest

/-- The names without the empty ones between the first and the last. -/
def withoutInnerGaps (names : List (List Char)) : List (List Char) :=
  names.take 1 ++ ((names.drop 1).dropLast.filter fun name => !name.isEmpty) ++
    (names.drop 1).getLast?.toList

/-- The path that a path means on the page of another one: it stands in the same folder unless it
starts with a slash. -/
def joinedPath (base path : List Char) : List Char :=
  let own := pieces '/' path
  let folder :=
    let names := pieces '/' base
    if names.getLast? == some [] then names else names.dropLast
  let names := if path.head? == some '/' then own else withoutInnerGaps (folder ++ own)
  let last := own.getLast?.getD []
  let ending := if last == ['.'] || last == ['.', '.'] then [[]] else []
  let resolved := joined ['/'] (resolvedNames [] names ++ ending)
  if resolved.isEmpty then ['/'] else resolved

/-- The text of an address of which some parts are empty. -/
def spelled (scheme authority path query fragment : List Char) : List Char :=
  scheme ++ "://".toList ++ authority ++
    (if path.head?.any (· != '/') then '/' :: path else path) ++
    (if query.isEmpty then [] else '?' :: query) ++
    (if fragment.isEmpty then [] else '#' :: fragment)

/-- The text of the address that a text means on the page of another address. -/
def Address.joined (base : Address) (text : List Char) : List Char :=
  let (scheme, rest) :=
    match cutAt ':' text with
    | (front, some rest) =>
        if isScheme front then (front.map Char.toLower, rest) else (base.scheme, text)
    | (_, none) => (base.scheme, text)
  if text.isEmpty then base.chars
  else if scheme != base.scheme || !relativeSchemes.contains (String.ofList scheme) then text
  else
    let (authority, rest) := cutAuthority rest
    let (rest, fragment) := cutAt '#' rest
    let (path, query) := cutAt '?' rest
    let (fragment, query) := (fragment.getD [], query.getD [])
    let (path, parameters) := cutParameters scheme path
    if !authority.isEmpty then
      spelled scheme authority (withParameters path parameters) query fragment
    else
      let (basePath, baseParameters) := cutParameters scheme base.path
      if path.isEmpty && parameters.isEmpty then
        let query := if query.isEmpty then base.query.getD [] else query
        spelled scheme base.authority (withParameters basePath baseParameters) query fragment
      else
        let path := withParameters (joinedPath basePath path) parameters
        spelled scheme base.authority path query fragment

theorem Address.joined_nil (base : Address) : base.joined [] = base.chars := rfl

end OpenApiJava.Web
