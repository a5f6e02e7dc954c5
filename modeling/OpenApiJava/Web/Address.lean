import OpenApiJava.Web.Host

/-!
# Web addresses

An address is a scheme, who is asked at which host and port, a path, a query and a fragment. The
form that requests use is plain: the scheme and the host are in lower case, the path has no dots,
the port is not the scheme's own, and each part is escaped.
-/

namespace OpenApiJava.Web

open OpenApiJava.Text

/-- An address in plain form. -/
structure Address where
  scheme : List Char
  userInfo : List Char
  host : List Char
  port : Option Int
  path : List Char
  query : Option (List Char)
  fragment : Option (List Char)
deriving DecidableEq, Repr

/-- The parts of an address as they are written. -/
structure AddressParts where
  scheme : List Char
  userInfo : List Char
  host : List Char
  port : List Char
  path : List Char
  query : Option (List Char)
  fragment : Option (List Char)

/-- The text before a mark, and the text behind it if the mark is there. -/
def cutAt (mark : Char) (text : List Char) : List Char × Option (List Char) :=
  match text.dropWhile (· != mark) with
  | [] => (text, none)
  | _ :: rest => (text.takeWhile (· != mark), some rest)

/-- The text before the last mark, if it is there, and the text behind it. -/
def cutAtLast (mark : Char) (text : List Char) : Option (List Char) × List Char :=
  match cutAt mark text.reverse with
  | (_, none) => (none, text)
  | (back, some front) => (some front.reverse, back.reverse)

/-- The text is the name of a scheme. -/
def isScheme (text : List Char) : Bool :=
  let belongs (character : Char) : Bool :=
    character.isAlphanum || character == '+' || character == '-' || character == '.'
  text.head?.any Char.isAlpha && text.all belongs

/-- The authority at the front of a text, after two slashes, and the text behind it. -/
def cutAuthority (text : List Char) : List Char × List Char :=
  match text with
  | '/' :: '/' :: rest =>
      let ends (character : Char) : Bool :=
        character == '/' || character == '?' || character == '#'
      let authority := rest.takeWhile fun character => !ends character
      (authority, rest.drop authority.length)
  | _ => ([], text)

/-- The host at the front of a text, which ends at a colon unless it stands in brackets, and the
text behind it. -/
def cutHost (text : List Char) : List Char × List Char :=
  match text, cutAtLast ']' text with
  | '[' :: _, (some front, rest) => (front ++ [']'], rest)
  | _, _ => (text.takeWhile (· != ':'), text.dropWhile (· != ':'))

namespace AddressParts

def ofChars (text : List Char) : AddressParts :=
  let (scheme, text) :=
    match cutAt ':' text with
    | (front, some rest) => if front.isEmpty || isScheme front then (front, rest) else ([], text)
    | (_, none) => ([], text)
  let (authority, text) := cutAuthority text
  let (text, fragment) := cutAt '#' text
  let (path, query) := cutAt '?' text
  let (userInfo, rest) := cutAtLast '@' authority
  let (host, rest) := cutHost rest
  let port := if rest.head? == some ':' then rest.drop 1 else rest
  ⟨scheme, userInfo.getD [], host, port, path, query, fragment⟩

end AddressParts

/-- The port that a scheme has of its own. -/
def ownPort? (scheme : List Char) : Option Int :=
  [("ftp", (21 : Int)), ("http", 80), ("https", 443), ("ws", 80), ("wss", 443)].lookup
    (String.ofList scheme)

/-- The number of a port. Underscores may stand between digits. -/
def portNumber? (text : List Char) : Option Int :=
  let (negative, unsigned) := Decimal.signed (trimBlanks text)
  let groups := pieces '_' unsigned
  let digits := groups.flatten
  if groups.any List.isEmpty || Decimal.longestNumeral < digits.length then none
  else (Decimal.digits? 10 digits).map fun number => if negative then -number else number

/-- The port of a text, unless it is the scheme's own; nothing is no port. -/
def plainPort? (scheme text : List Char) : Option (Option Int) :=
  if text.isEmpty then some none
  else
    (portNumber? text).map fun number =>
      if ownPort? scheme == some number then none else some number

/-- The names of a path without dots; the names before are reversed. Two dots take back the name
before them, but not the slash at the front. -/
def withoutDots (before : List (List Char)) : List (List Char) → List (List Char)
  | [] => before.reverse
  | name :: rest =>
      if name == ['.'] then withoutDots before rest
      else if name == ['.', '.'] then
        withoutDots (if before == [[]] then before else before.drop 1) rest
      else withoutDots (name :: before) rest

/-- A path without dots. -/
def plainPath (path : List Char) : List Char :=
  joined ['/'] (withoutDots [] (pieces '/' path))

/-- The most characters of an address or of one of its parts. -/
def longestAddress : Nat := 65536

/-- The text can be an address or one of its parts. -/
def isAddressText (text : List Char) : Bool :=
  text.length ≤ longestAddress && text.all fun character =>
    !(character.toNat < 0x20 || character.toNat == 0x7f)

namespace Address

/-- The address of parts. A path behind an authority starts with a slash; without scheme and
authority it starts neither with two slashes nor with a colon. -/
def ofParts? (parts : AddressParts) : Option Address := do
  let userInfo := escaped .userInfo parts.userInfo
  let host ← plainHost? parts.host
  let port ← plainPort? parts.scheme parts.port
  let hasAuthority := !userInfo.isEmpty || !host.isEmpty || port.isSome
  let isRelative := parts.scheme.isEmpty && !hasAuthority
  let startsAnew := ['/', '/'].isPrefixOf parts.path || [':'].isPrefixOf parts.path
  if hasAuthority && parts.path.head?.any (· != '/') then none
  else if isRelative && startsAnew then none
  else
    let path := if isRelative then parts.path else plainPath parts.path
    return {
      scheme := parts.scheme.map Char.toLower
      userInfo
      host
      port
      path := escaped .path path
      query := parts.query.map (escaped .query)
      fragment := parts.fragment.map (escaped .fragment) }

/-- The address that a text spells. -/
def ofChars? (text : List Char) : Option Address :=
  if isAddressText text then ofParts? (.ofChars text) else none

/-- The host with brackets if it is numbered with colons. -/
def bracketedHost (host : List Char) : List Char :=
  if host.contains ':' then '[' :: host ++ [']'] else host

def portText (address : Address) : List Char :=
  (address.port.map fun number => (toString number).toList).getD []

/-- Who is asked at which host and port. -/
def authority (address : Address) : List Char :=
  (if address.userInfo.isEmpty then [] else address.userInfo ++ ['@']) ++
    bracketedHost address.host ++
    (if address.port.isSome then ':' :: address.portText else [])

/-- The text of an address. -/
def chars (address : Address) : List Char :=
  (if address.scheme.isEmpty then [] else address.scheme ++ [':']) ++
    (if address.authority.isEmpty then [] else '/' :: '/' :: address.authority) ++
    address.path ++
    ((address.query.map ('?' :: ·)).getD []) ++
    ((address.fragment.map ('#' :: ·)).getD [])

/-- The text of an address, as a string. -/
def text (address : Address) : String :=
  String.ofList address.chars

/-- The address has a scheme and a host. -/
def isAbsolute (address : Address) : Bool :=
  !address.scheme.isEmpty && !address.host.isEmpty

/-- The address of parts that replace some of an address. -/
def revised? (parts : AddressParts) : Option Address :=
  let optional (part : Option (List Char)) : Bool := part.all isAddressText
  if [parts.userInfo, parts.host, parts.path].all isAddressText && optional parts.query &&
      optional parts.fragment then
    ofParts? parts
  else none

def parts (address : Address) : AddressParts := {
  scheme := address.scheme
  userInfo := address.userInfo
  host := bracketedHost address.host
  port := address.portText
  path := address.path
  query := address.query
  fragment := address.fragment }

/-- The address with another host. -/
def withHost? (address : Address) (host : List Char) : Option Address :=
  revised? { address.parts with host := bracketedHost host }

/-- The address with another fragment. -/
def withFragment? (address : Address) (fragment : List Char) : Option Address :=
  revised? { address.parts with fragment := some fragment }

end Address

end OpenApiJava.Web
