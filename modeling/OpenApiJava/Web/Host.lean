import OpenApiJava.Decimal.Numeral
import OpenApiJava.Text.Case
import OpenApiJava.Text.Split
import OpenApiJava.Web.Domain.Label
import OpenApiJava.Web.Escape

/-!
# Hosts

A host is named, or numbered in one of two ways. A text that looks like numbers has to be numbers. A
name in other characters than ASCII is written by its form in ASCII.
-/

namespace OpenApiJava.Web

open OpenApiJava.Text

/-- How far a text has come that is four runs of digits with one character of any kind between each
two: an even number waits for the first digit of a run, an odd one stands in a run. Digits may also
be between two runs, so there are several ways to read a text. -/
def nextPlaces (places : List Nat) (character : Char) : List Nat :=
  let next (place : Nat) : List Nat :=
    if place % 2 == 0 then if character.isDigit then [place + 1] else []
    else
      (if character.isDigit then [place] else []) ++ (if place < 7 then [place + 1] else [])
  (places.flatMap next).eraseDups

/-- The text looks like four numbers. -/
def looksNumbered (host : List Char) : Bool :=
  (host.foldl nextPlaces [0]).contains 7

/-- The text is a number of at most one byte, without zeros in front. -/
def isOctet (text : List Char) : Bool :=
  match text with
  | [] => false
  | first :: rest =>
      text.all Char.isDigit && text.length ≤ 3 && (first != '0' || rest.isEmpty) &&
        (Decimal.digits? 10 text).any (· ≤ 255)

/-- The text is four numbers with dots between them. -/
def isFourOctets (text : List Char) : Bool :=
  let octets := pieces '.' text
  octets.length == 4 && octets.all isOctet

/-- The text is a number of at most two bytes in base sixteen. -/
def isHextet (text : List Char) : Bool :=
  !text.isEmpty && text.length ≤ 4 && text.all fun digit => (Decimal.hexValue? digit).isSome

/-- Some numbers, or none where there is nothing. -/
def areHextets (texts : List (List Char)) : Bool :=
  texts == [[]] || texts.all isHextet

/-- How many numbers there are; nothing counts as none. -/
def hextetCount (texts : List (List Char)) : Nat :=
  if texts == [[]] then 0 else texts.length

/-- The texts are eight numbers, where two colons together stand for the zeros that are missing. -/
def areEightHextets (texts : List (List Char)) : Bool :=
  let inner := (texts.drop 1).dropLast
  if inner.contains [] then
    let before := texts.take (1 + inner.idxOf [])
    let after := texts.drop (2 + inner.idxOf [])
    areHextets before && areHextets after && hextetCount before + hextetCount after < 8
  else texts.length == 8 && texts.all isHextet

/-- The text is eight numbers with colons between them. Four numbers with dots may stand for the
last two, and a zone may follow after a percent sign. -/
def isNumbered (text : List Char) : Bool :=
  let zone := text.dropWhile (· != '%')
  let texts := pieces ':' (text.takeWhile (· != '%'))
  let last := texts.getLast?.getD []
  let texts :=
    if last.contains '.' && isFourOctets last then texts.dropLast ++ [['0'], ['0']] else texts
  zone.length != 1 && !(zone.drop 1).contains '%' && !text.contains '/' && areEightHextets texts

/-- The text between the brackets around it. -/
def betweenBrackets? (host : List Char) : Option (List Char) :=
  match host, host.getLast? with
  | '[' :: rest@(_ :: _), some ']' => some rest.dropLast
  | _, _ => none

/-- The form of a host that requests use. -/
def plainHost? (host : List Char) : Option (List Char) :=
  if host.isEmpty then some []
  else if looksNumbered host then if isFourOctets host then some host else none
  else
    match betweenBrackets? host with
    | some inner => if isNumbered inner then some inner else none
    | none =>
        if Domain.isAscii host then some (escaped .host (host.map Char.toLower))
        else Domain.asciiName? (lower host)

/-- The name of a host, whose form in ASCII may be another one. -/
def nameOfHost? (host : List Char) : Option (List Char) :=
  if Domain.asciiMark.isPrefixOf host then Domain.nameOfAscii? host else some host

end OpenApiJava.Web
