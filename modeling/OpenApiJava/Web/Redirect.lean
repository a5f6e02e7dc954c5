import OpenApiJava.Text.Charset.Basic
import OpenApiJava.Web.Join

/-!
# Requests and redirections

The address that is asked for first is spelled by a text; each other one is where a page sends its
reader. A redirection may leave out parts of the address, and keeps the fragment unless it has its
own.
-/

namespace OpenApiJava.Web

/-- Why there is no text at an address. -/
inductive VisitFault where
  /-- No page, or one that does not tell of success. -/
  | unfetched
  /-- The text spells no address. -/
  | invalidAddress
  /-- The page, or an address, cannot be read. -/
  | unreadable
  /-- The body has no characters. -/
  | undecoded (fault : Text.CharsetFault)
deriving DecidableEq, Repr

/-- A value that has to be there. -/
def orFault {α : Type} (fault : VisitFault) (value : Option α) : Except VisitFault α :=
  match value with
  | some found => .ok found
  | none => .error fault

/-- The address that is asked for when a text is to be read. One without scheme or host is a path on
an unknown host. -/
def request (source : List Char) : Except VisitFault Address := do
  let address ← orFault .invalidAddress (Address.ofChars? source)
  if !Domain.isAscii address.host then .error .unreadable
  else if address.isAbsolute then return address
  else
    let path := if address.path.isEmpty then ['/'] else address.path
    return {
      scheme := []
      userInfo := []
      host := []
      port := none
      path := '/' :: path.dropWhile (· == '/')
      query := address.query
      fragment := none }

/-- The address with the fragment of another one, unless it has its own. -/
def Address.keepFragment (address page : Address) : Except VisitFault Address :=
  let kept := unescaped (page.fragment.getD [])
  if kept.isEmpty || !(address.fragment.getD []).isEmpty then .ok address
  else orFault .invalidAddress (address.withFragment? kept)

/-- Where a text sends the reader of a page. A scheme without a host asks the page's own host. -/
def redirect (page : Address) (text : List Char) : Except VisitFault Address := do
  let written ← orFault .unfetched (Address.ofChars? text)
  let named ←
    if written.scheme.isEmpty then pure written
    else do
      let host ← orFault .unreadable (nameOfHost? written.host)
      if host.isEmpty then do
        let host ← orFault .unreadable (nameOfHost? page.host)
        orFault .invalidAddress (written.withHost? host)
      else pure written
  let whole ←
    if named.isAbsolute then pure named
    else orFault .invalidAddress (Address.ofChars? (page.joined named.chars))
  let target ← whole.keepFragment page
  if !Domain.isAscii target.host then .error .unreadable
  else
    let _ ← orFault .unreadable (nameOfHost? target.host)
    let _ ← orFault .unreadable (nameOfHost? page.host)
    return target

end OpenApiJava.Web
