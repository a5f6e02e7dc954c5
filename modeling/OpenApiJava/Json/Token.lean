import OpenApiJava.Decimal.Numeral
import OpenApiJava.Tree.Basic

/-!
# JSON tokens

A text is cut into brackets, separators and scalars by one pass over its characters. Numbers that
are neither whole nor finite have names, and a pair of escaped surrogates is one character.
-/

namespace OpenApiJava.Json

open OpenApiJava.Decimal

inductive Token where
  | beginList
  | endList
  | beginMapping
  | endMapping
  | comma
  | colon
  | scalar (value : Tree)

/-- Where the pass stands: between tokens, in a bare word, or in a text. What a word or a text has
gathered is reversed; a text is gathered as code points, in which escaped surrogates are apart. -/
inductive Mode where
  | between
  | word (letters : List Char)
  | text (codes : List Nat)
  | escape (codes : List Nat)
  | hex (left value : Nat) (codes : List Nat)

/-- Blanks between tokens. -/
def isSpace (character : Char) : Bool :=
  character == ' ' || character == '\t' || character == '\n' || character == '\r'

/-- A character of a bare word. -/
def isWordPart (character : Char) : Bool :=
  character.isAlphanum || character == '+' || character == '-' || character == '.'

/-- The unsigned number that a word spells: no zero in front of other digits, and digits on both
sides of a point. -/
def unsigned? (negative : Bool) (word : List Char) : Option Tree :=
  let whole := word.takeWhile Char.isDigit
  let rest := word.dropWhile Char.isDigit
  if whole.isEmpty || (whole.head? == some '0' && 1 < whole.length) then none
  else if rest.isEmpty then
    if longestNumeral < whole.length then none
    else (digits? 10 whole).map fun number => .integer (if negative then -number else number)
  else
    let fraction :=
      match rest with
      | '.' :: more => some (more.takeWhile Char.isDigit, more.dropWhile Char.isDigit)
      | _ => none
    match fraction with
    | some ([], _) => none
    | some (places, tail) =>
        (exponent? tail).map fun exponent =>
          .float ((DecimalParts.mk whole places exponent).nearest negative)
    | none =>
        (exponent? rest).map fun exponent =>
          .float ((DecimalParts.mk whole [] exponent).nearest negative)

/-- The scalar that a bare word spells. -/
def bare? (word : List Char) : Option Tree :=
  match String.ofList word with
  | "null" => some .null
  | "true" => some (.boolean true)
  | "false" => some (.boolean false)
  | "NaN" => some (.float .nan)
  | "Infinity" => some (.float (.infinity false))
  | "-Infinity" => some (.float (.infinity true))
  | _ =>
      match word with
      | '-' :: rest => unsigned? true rest
      | _ => unsigned? false word

/-- The characters of a list of code points. A high and a low surrogate in sequence are one
character; a surrogate that stands alone becomes the replacement character. -/
def charactersOf : List Nat → List Char
  | [] => []
  | [code] => [single code]
  | code :: next :: rest =>
      if 0xD800 ≤ code && code < 0xDC00 && 0xDC00 ≤ next && next < 0xE000 then
        Char.ofNat (0x10000 + (code - 0xD800) * 0x400 + (next - 0xDC00)) :: charactersOf rest
      else single code :: charactersOf (next :: rest)
where
  single (code : Nat) : Char :=
    if 0xD800 ≤ code && code < 0xE000 then '\ufffd' else Char.ofNat code

/-- The character that a one-letter escape stands for. -/
def escaped? : Char → Option Char
  | '"' => some '"'
  | '\\' => some '\\'
  | '/' => some '/'
  | 'b' => some '\x08'
  | 'f' => some '\x0c'
  | 'n' => some '\n'
  | 'r' => some '\r'
  | 't' => some '\t'
  | _ => none

/-- The tokens that end before a character that begins something new, and the mode after it. -/
def start? (finished : List Token) (character : Char) : Option (List Token × Mode) :=
  if isSpace character then some (finished, .between)
  else if isWordPart character then some (finished, .word [character])
  else
    match character with
    | '[' => some (finished ++ [.beginList], .between)
    | ']' => some (finished ++ [.endList], .between)
    | '{' => some (finished ++ [.beginMapping], .between)
    | '}' => some (finished ++ [.endMapping], .between)
    | ',' => some (finished ++ [.comma], .between)
    | ':' => some (finished ++ [.colon], .between)
    | '"' => some (finished, .text [])
    | _ => none

/-- One character: the tokens it ends and the mode it leads to. -/
def step? (mode : Mode) (character : Char) : Option (List Token × Mode) :=
  match mode with
  | .between => start? [] character
  | .word letters =>
      if isWordPart character then some ([], .word (character :: letters))
      else
        match bare? letters.reverse with
        | some value => start? [.scalar value] character
        | none => none
  | .text codes =>
      if character == '"' then
        let value := String.ofList (charactersOf codes.reverse)
        some ([.scalar (.text value)], .between)
      else if character == '\\' then some ([], .escape codes)
      else if character.toNat < 32 then none
      else some ([], .text (character.toNat :: codes))
  | .escape codes =>
      if character == 'u' then some ([], .hex 4 0 codes)
      else (escaped? character).map fun meant => ([], .text (meant.toNat :: codes))
  | .hex left value codes =>
      if !character.isAlphanum then none
      else
        match digitValue? 16 character with
        | none => none
        | some digit =>
            if left ≤ 1 then some ([], .text ((value * 16 + digit) :: codes))
            else some ([], .hex (left - 1) (value * 16 + digit) codes)

/-- The tokens of a text that is read from the given mode, after those found before it. The tokens
found before are reversed. -/
def tokensFrom? (mode : Mode) (found : List Token) : List Char → Option (List Token)
  | [] =>
      match mode with
      | .between => some found.reverse
      | .word letters =>
          (bare? letters.reverse).map fun value => (.scalar value :: found).reverse
      | _ => none
  | character :: rest =>
      match step? mode character with
      | none => none
      | some (tokens, next) => tokensFrom? next (tokens.reverse ++ found) rest

def tokens? (text : List Char) : Option (List Token) :=
  tokensFrom? .between [] text

end OpenApiJava.Json
