import OpenApiJava.Notice
import OpenApiJava.Web.ContentType
import OpenApiJava.Web.Inflate
import OpenApiJava.Web.Redirect

/-!
# Pages

The web as far as it is known: a table of pages by address. A page has a status, headers and a body,
and may send its reader on to another page.
-/

namespace OpenApiJava.Web

/-- What an address answers. The body is sent in UTF-8. -/
structure Page where
  status : Nat
  headers : List (String × String)
  body : String
deriving DecidableEq, Repr, Inhabited

/-- The pages that are known. Any other address does not answer. -/
abbrev Pages := List (String × Page)

/-- The words for a status; a status that is not known has none. -/
def statusWords : Nat → String
  | 100 => "Continue"
  | 101 => "Switching Protocols"
  | 102 => "Processing"
  | 103 => "Early Hints"
  | 200 => "OK"
  | 201 => "Created"
  | 202 => "Accepted"
  | 203 => "Non-Authoritative Information"
  | 204 => "No Content"
  | 205 => "Reset Content"
  | 206 => "Partial Content"
  | 207 => "Multi-Status"
  | 208 => "Already Reported"
  | 226 => "IM Used"
  | 300 => "Multiple Choices"
  | 301 => "Moved Permanently"
  | 302 => "Found"
  | 303 => "See Other"
  | 304 => "Not Modified"
  | 305 => "Use Proxy"
  | 307 => "Temporary Redirect"
  | 308 => "Permanent Redirect"
  | 400 => "Bad Request"
  | 401 => "Unauthorized"
  | 402 => "Payment Required"
  | 403 => "Forbidden"
  | 404 => "Not Found"
  | 405 => "Method Not Allowed"
  | 406 => "Not Acceptable"
  | 407 => "Proxy Authentication Required"
  | 408 => "Request Timeout"
  | 409 => "Conflict"
  | 410 => "Gone"
  | 411 => "Length Required"
  | 412 => "Precondition Failed"
  | 413 => "Request Entity Too Large"
  | 414 => "Request-URI Too Long"
  | 415 => "Unsupported Media Type"
  | 416 => "Requested Range Not Satisfiable"
  | 417 => "Expectation Failed"
  | 418 => "I'm a teapot"
  | 421 => "Misdirected Request"
  | 422 => "Unprocessable Entity"
  | 423 => "Locked"
  | 424 => "Failed Dependency"
  | 425 => "Too Early"
  | 426 => "Upgrade Required"
  | 428 => "Precondition Required"
  | 429 => "Too Many Requests"
  | 431 => "Request Header Fields Too Large"
  | 451 => "Unavailable For Legal Reasons"
  | 500 => "Internal Server Error"
  | 501 => "Not Implemented"
  | 502 => "Bad Gateway"
  | 503 => "Service Unavailable"
  | 504 => "Gateway Timeout"
  | 505 => "HTTP Version Not Supported"
  | 506 => "Variant Also Negotiates"
  | 507 => "Insufficient Storage"
  | 508 => "Loop Detected"
  | 510 => "Not Extended"
  | 511 => "Network Authentication Required"
  | _ => ""

namespace Page

/-- The status in numbers and words. -/
def statusLine (page : Page) : String :=
  toString page.status ++ " " ++ statusWords page.status

/-- The status tells of success. -/
def isSuccess (page : Page) : Bool :=
  200 ≤ page.status && page.status < 300

/-- The headers are ASCII texts. -/
def hasPlainHeaders (page : Page) : Bool :=
  page.headers.all fun (name, value) =>
    Domain.isAscii name.toList && Domain.isAscii value.toList

/-- The value of a header, whose name is given in lower case. The values of headers of one name are
joined with commas. -/
def header? (page : Page) (name : String) : Option (List Char) :=
  let named := page.headers.filter fun header => header.1.toList.map Char.toLower == name.toList
  if named.isEmpty then none
  else some (Text.joined [',', ' '] (named.map fun header => header.2.toList))

/-- Where a page sends its reader, if its status says so. -/
def target? (page : Page) : Option (List Char) :=
  if [301, 302, 303, 307, 308].contains page.status then page.header? "location" else none

/-- How the body is packed, the last way first. -/
def codings (page : Page) : List String :=
  let named := Text.pieces ',' ((page.header? "content-encoding").getD [])
  named.reverse.map fun name => String.ofList ((Text.trimBlanks name).map Char.toLower)

/-- What bytes hold that are packed in the named way; none if they are broken. No body in UTF-8 is
one that is zipped, but its first byte might start one. -/
def unpacked? (content : ByteArray) (coding : String) : Option ByteArray :=
  if content.isEmpty then some content
  else if coding == "gzip" then if content.size == 1 then some .empty else none
  else if coding == "deflate" then Inflate.inflate? content
  else some content

/-- The bytes of a page; none if they are not packed as the page says. -/
def content? (page : Page) : Option ByteArray :=
  page.codings.foldlM unpacked? page.body.toUTF8

/-- The text that the bytes of a page stand for. -/
def text (page : Page) (content : ByteArray) : Except Text.CharsetFault String :=
  match charsetOf (page.header? "content-type"), String.fromUTF8? content with
  | .utf8, some text => .ok text
  | charset, _ => (charset.decode content.toList).map String.ofList

end Page

/-- How often a reader lets a page send it on. -/
def mostRedirects : Nat := 20

/-- What comes of reading an address: the notices, and the text or why there is none. -/
structure Visit where
  notices : List Notice
  body : Except VisitFault String

/-- Reads an address, and goes where its page sends its reader at most the given number of times. -/
def visitFrom (pages : Pages) (address : Address) (remaining : Nat) : Visit :=
  match pages.lookup address.text with
  | none => ⟨[], .error .unfetched⟩
  | some page =>
      match page.hasPlainHeaders, page.content? with
      | false, _ => ⟨[], .error .unreadable⟩
      | true, none => ⟨[], .error .unfetched⟩
      | true, some content =>
          if address.scheme.isEmpty then ⟨[], .error .unreadable⟩
          else
            let told := Notice.fetched address.text page.statusLine
            match page.target?.map (redirect address), remaining with
            | some (.error fault), _ => ⟨[told], .error fault⟩
            | some (.ok _), 0 => ⟨[told], .error .unfetched⟩
            | some (.ok target), remaining + 1 =>
                let visit := visitFrom pages target remaining
                ⟨told :: visit.notices, visit.body⟩
            | none, _ =>
                if page.isSuccess then ⟨[told], (page.text content).mapError .undecoded⟩
                else ⟨[told], .error .unfetched⟩

/-- Reads the address that a text spells, with a reader that goes where pages send it or with one
that does not. -/
def visit (pages : Pages) (goesOn : Bool) (source : String) : Visit :=
  match request source.toList with
  | .error fault => ⟨[], .error fault⟩
  | .ok address => visitFrom pages address (if goesOn then mostRedirects else 0)

end OpenApiJava.Web
