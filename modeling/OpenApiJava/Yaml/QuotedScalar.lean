import OpenApiJava.Decimal.Numeral
import OpenApiJava.Yaml.Cell

/-!
# Quoted scalars

Between single quotes only the quote is special, and is written twice. Between double quotes a
backslash begins an escape. Line breaks are folded as in plain scalars, and no line may look like
the end of the document.
-/

namespace OpenApiJava.Yaml

/-- Where the reading of a quoted scalar stands. -/
inductive QuotedMode where
  | word
  | spaces (run : List Char)
  /-- After a line break; the first one is missing if it was escaped. -/
  | lines (first : Option Char) (more : List Char)
  | escape
  | hex (left value : Nat)
  /-- After a single quote between single quotes. -/
  | quote

/-- The text that the space before the next character amounts to, in reverse. -/
def QuotedMode.pending : QuotedMode → List Char
  | spaces run => run
  | lines none more => more.reverse
  | lines (some first) more =>
      if first != '\n' then (first :: more).reverse
      else if more.isEmpty then [' ']
      else more.reverse
  | _ => []

/-- The character that an escape of one letter stands for. -/
def escapedChar? : Char → Option Char
  | '0' => some '\x00'
  | 'a' => some '\x07'
  | 'b' => some '\x08'
  | 't' => some '\t'
  | '\t' => some '\t'
  | 'n' => some '\n'
  | 'v' => some '\x0b'
  | 'f' => some '\x0c'
  | 'r' => some '\r'
  | 'e' => some '\x1b'
  | ' ' => some ' '
  | '"' => some '"'
  | '\\' => some '\\'
  | '/' => some '/'
  | 'N' => some '\u0085'
  | '_' => some '\u00a0'
  | 'L' => some '\u2028'
  | 'P' => some '\u2029'
  | _ => none

/-- The number of digits of an escape by code point. -/
def escapeWidth? : Char → Option Nat
  | 'x' => some 2
  | 'u' => some 4
  | 'U' => some 8
  | _ => none

/-- The character of a code point. -/
def charOfCode (code : Nat) : Except Fault Char :=
  if code.isValidChar then .ok (Char.ofNat code)
  else if Nat.pow 2 31 ≤ code then .error (.value .numberTooLarge)
  else .error .malformed

/-- The quoted scalar that goes on with these cells after the reversed text before them, and the
cells after its closing quote. -/
def quotedFrom (double : Bool) (mode : QuotedMode) (reversed : List Char) :
    List Cell → Except Fault (List Char × List Cell)
  | [] => .error .malformed
  | cell :: rest =>
      let character := cell.char
      let inText (mode : QuotedMode) : Except Fault (List Char × List Cell) :=
        if character == endMark then .error .malformed
        else if character == ' ' || character == '\t' then
          match mode with
          | .spaces run => quotedFrom double (.spaces (character :: run)) reversed rest
          | .lines first more => quotedFrom double (.lines first more) reversed rest
          | _ => quotedFrom double (.spaces [character]) reversed rest
        else if isBreak character then
          if separatesDocuments rest then .error .malformed
          else
            match mode with
            | .lines first more =>
                quotedFrom double (.lines first (more ++ [character])) reversed rest
            | _ => quotedFrom double (.lines (some character) []) reversed rest
        else
          let before := mode.pending ++ reversed
          if double && character == '"' then .ok (before.reverse, rest)
          else if double && character == '\\' then quotedFrom double .escape before rest
          else if !double && character == '\x27' then quotedFrom double .quote before rest
          else quotedFrom double .word (character :: before) rest
      match mode with
      | .hex left value =>
          match Decimal.hexValue? character with
          | none => .error .malformed
          | some digit =>
              let code := value * 16 + digit
              if 1 < left then quotedFrom double (.hex (left - 1) code) reversed rest
              else
                match charOfCode code with
                | .ok meant => quotedFrom double .word (meant :: reversed) rest
                | .error fault => .error fault
      | .escape =>
          match escapedChar? character, escapeWidth? character with
          | some meant, _ => quotedFrom double .word (meant :: reversed) rest
          | none, some width => quotedFrom double (.hex width 0) reversed rest
          | none, none =>
              if isBreak character && !separatesDocuments rest then
                quotedFrom double (.lines none []) reversed rest
              else .error .malformed
      | .quote =>
          if character == '\x27' then quotedFrom double .word ('\x27' :: reversed) rest
          else .ok (reversed.reverse, cell :: rest)
      | other => inText other

end OpenApiJava.Yaml
