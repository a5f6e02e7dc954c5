import OpenApiJava.Decimal.Numeral
import OpenApiJava.Java.Literal
import OpenApiJava.Proofs.ReplacedText

/-!
# String literals that Java reads

Java reads a source in two steps. First the escapes of code points become characters, unless an odd
number of backslashes stands in front of their own; then a literal is read up to the quote that
closes it, which has to stand on the same line. Main statement: what is written for a text is read
back as this text, up to the quote behind it, exactly if the text has no line breaks; no other
character keeps it from being read.
-/

namespace OpenApiJava.Java

open OpenApiJava.Text

/-! ## Characters of a source -/

/-- A character of a source, with the text behind what it is written as. -/
structure SourceCharacter where
  character : Char
  behind : List Char

/-- The character with the code point of four digits in base sixteen. A half of a surrogate pair is
no character. -/
def codeCharacter? (digits : List Char) : Option Char := do
  let values ← digits.mapM Decimal.hexValue?
  let code := values.foldl (fun number value => 16 * number + value) 0
  if values.length = 4 ∧ code.isValidChar then some (Char.ofNat code) else none

/-- The characters of a source, where an odd number of backslashes may stand right in front of it. A
backslash begins the escape of a code point if an even number of them stands in front of it. An
escape that has no four digits ends what is read. -/
def sourceCharacters : Bool → List Char → List SourceCharacter
  | _, [] => []
  | false, '\\' :: 'u' :: rest =>
      let digits := rest.dropWhile (· == 'u')
      match codeCharacter? (digits.take 4) with
      | some character => ⟨character, digits.drop 4⟩ :: sourceCharacters false (digits.drop 4)
      | none => []
  | odd, character :: rest =>
      ⟨character, rest⟩ :: sourceCharacters (!odd && character == '\\') rest
termination_by _ text => text.length
decreasing_by
  · have shorter : digits.length ≤ rest.length := (List.dropWhile_sublist _).length_le
    simp only [digits, List.length_drop, List.length_cons] at shorter ⊢
    omega
  · simp

/-! ## Literals -/

/-- The character ends a line. -/
def breaksLine (character : Char) : Bool :=
  character == '\n' || character == '\r'

/-- The characters that stand for others behind a backslash. -/
def namedEscapes : List (Char × Char) := [
  ('b', '\x08'), ('s', ' '), ('t', '\t'), ('n', '\n'), ('f', '\x0c'), ('r', '\r'), ('"', '"'),
  ('\x27', '\x27'), ('\\', '\\')]

/-- The digits of an escape in base eight: at most three, or two after a first digit above three. -/
def octalDigits (text : List Char) : List Char :=
  let longest := if text.head?.any (· ≤ '3') then 3 else 2
  (text.takeWhile fun character => '0' ≤ character && character ≤ '7').take longest

/-- The character that an escape stands for, from the text behind its backslash, with the number of
characters that it takes there. -/
def escape? (text : List Char) : Option (Char × Nat) := do
  let first ← text.head?
  match namedEscapes.lookup first with
  | some character => some (character, 1)
  | none =>
      let digits := octalDigits text
      let code := digits.foldl (fun number digit => 8 * number + (digit.toNat - '0'.toNat)) 0
      if digits.isEmpty then none else some (Char.ofNat code, digits.length)

/-- What keeps a literal from being read. -/
inductive LiteralFault where
  | unclosed
  | brokenLine
  | unknownEscape
deriving DecidableEq, Repr

/-- What a literal stands for, from its first character on, and the text behind the quote that
closes it. -/
def scanLiteral : List SourceCharacter → Except LiteralFault (List Char × List Char)
  | [] => .error .unclosed
  | ⟨character, behind⟩ :: rest =>
      if character = '"' then .ok ([], behind)
      else if breaksLine character then .error .brokenLine
      else if character = '\\' then
        match escape? (rest.map SourceCharacter.character) with
        | some (escaped, width) =>
            (scanLiteral (rest.drop width)).map fun (text, after) => (escaped :: text, after)
        | none => .error .unknownEscape
      else (scanLiteral rest).map fun (text, after) => (character :: text, after)
termination_by characters => characters.length
decreasing_by
  · simp only [List.length_drop, List.length_cons]
    omega
  · simp

/-- What a literal stands for whose opening quote is right in front of the text, and what is behind
the quote that closes it. -/
def readString (text : List Char) : Except LiteralFault (List Char × List Char) :=
  scanLiteral (sourceCharacters false text)

example : readString "\\101\\u005c\\u005C\\\\u0041\\uu0022 + x".toList =
    .ok ("A\\\\u0041".toList, " + x".toList) := by
  decide +kernel

/-! ## Reading what is written -/

theorem readString_quote (rest : List Char) : readString ('"' :: rest) = .ok ([], rest) := by
  rw [readString, sourceCharacters, scanLiteral, if_pos rfl]
  exact fun _ _ backslash _ => absurd backslash (by decide)

theorem readString_break {character : Char} (broken : breaksLine character = true)
    (rest : List Char) : readString (character :: rest) = .error .brokenLine := by
  have noQuote : character ≠ '"' := by
    rintro rfl
    cases broken
  rw [readString, sourceCharacters, scanLiteral, if_neg noQuote, if_pos broken]
  rintro _ _ rfl _
  cases broken

theorem readString_plain {character : Char} (noBackslash : character ≠ '\\')
    (noQuote : character ≠ '"') (unbroken : breaksLine character = false) (rest : List Char) :
    readString (character :: rest) =
      (readString rest).map fun (text, after) => (character :: text, after) := by
  have single : sourceCharacters false (character :: rest) =
      ⟨character, rest⟩ :: sourceCharacters false rest := by
    rw [sourceCharacters, Bool.not_false, Bool.true_and, beq_false_of_ne noBackslash]
    exact fun _ _ backslash _ => noBackslash backslash
  rw [readString, single, scanLiteral, if_neg noQuote, if_neg (by simp [unbroken]),
    if_neg noBackslash, readString]

/-- The backslash that stands in front of another one keeps it from beginning an escape. -/
theorem readString_escaped {character : Char} (special : character = '\\' ∨ character = '"')
    (rest : List Char) :
    readString ('\\' :: character :: rest) =
      (readString rest).map fun (text, after) => (character :: text, after) := by
  have pair : sourceCharacters false ('\\' :: character :: rest) =
      ⟨'\\', character :: rest⟩ :: ⟨character, rest⟩ :: sourceCharacters false rest := by
    rw [sourceCharacters, Bool.not_false, Bool.true_and, beq_self_eq_true, sourceCharacters,
      Bool.not_true, Bool.false_and]
    · exact fun _ odd _ _ => absurd odd (by decide)
    · rintro _ _ _ same
      rcases special with rfl | rfl <;> cases same
  have stands : ∀ text, escape? (character :: text) = some (character, 1) := by
    rcases special with rfl | rfl <;> exact fun _ => rfl
  rw [readString, pair, scanLiteral, if_neg (by decide), if_neg (by decide), if_pos rfl,
    List.map_cons, stands]
  rfl

/-- What is written for a character is read as the character. -/
theorem readString_escapedChar (character : Char) (rest : List Char) :
    readString (escapedChar character ++ rest) =
      if breaksLine character then .error .brokenLine
      else (readString rest).map fun (text, after) => (character :: text, after) := by
  by_cases special : character = '\\' ∨ character = '"'
  · have written : escapedChar character = ['\\', character] := if_pos (by simpa using special)
    have unbroken : ¬ breaksLine character = true := by
      rcases special with rfl | rfl <;> decide
    rw [written, List.cons_append, List.singleton_append, readString_escaped special,
      if_neg unbroken]
  · have written : escapedChar character = [character] := if_neg (by simpa using special)
    obtain ⟨noBackslash, noQuote⟩ := not_or.mp special
    rw [written, List.singleton_append]
    cases broken : breaksLine character with
    | true => exact readString_break broken rest
    | false => exact readString_plain noBackslash noQuote broken rest

/-- A text is read back from what is written for it, unless a line ends in it. -/
theorem readString_escapedChars (text rest : List Char) :
    readString (escapedChars text ++ '"' :: rest) =
      if text.any breaksLine then .error .brokenLine else .ok (text, rest) := by
  induction text with
  | nil => exact readString_quote rest
  | cons character others inductionHypothesis =>
      rw [escapedChars, List.flatMap_cons, List.append_assoc, ← escapedChars,
        readString_escapedChar, inductionHypothesis, List.any_cons]
      cases breaksLine character with
      | true => rfl
      | false => cases others.any breaksLine <;> rfl

/-- The escapes are those of two replacements, first of backslashes and then of quotes. -/
theorem escapedChars_eq_replaceText (text : List Char) :
    escapedChars text =
      replaceText ['"'] ['\\', '"'] (replaceText ['\\'] ['\\', '\\'] text) := by
  rw [replaceText_singleton, replaceText_singleton, List.flatMap_assoc, escapedChars]
  refine List.flatMap_congr fun character _ => ?_
  by_cases backslash : character = '\\'
  · subst backslash
    rfl
  · rw [if_neg backslash, List.flatMap_singleton]
    by_cases quote : character = '"'
    · subst quote
      rfl
    · rw [if_neg quote]
      exact if_neg (by simp [backslash, quote])

/-- The body of a literal, which is written by two replacements, is read back as the text, up to the
quote behind it, exactly if no line ends in the text. Otherwise the literal is broken. -/
theorem literalBody_readBack_iff (text : String) (rest : List Char) :
    (literalBody text).toList =
        replaceText ['"'] ['\\', '"'] (replaceText ['\\'] ['\\', '\\'] text.toList) ∧
      (readString ((literalBody text).toList ++ '"' :: rest) = .ok (text.toList, rest) ↔
        ∀ character ∈ text.toList, breaksLine character = false) ∧
      (readString ((literalBody text).toList ++ '"' :: rest) = .error .brokenLine ↔
        ∃ character ∈ text.toList, breaksLine character = true) := by
  rw [literalBody, toList_onString, readString_escapedChars]
  have unbroken_iff : (∀ character ∈ text.toList, breaksLine character = false) ↔
      text.toList.any breaksLine = false := by
    simp only [List.any_eq_false, Bool.not_eq_true]
  refine ⟨escapedChars_eq_replaceText text.toList, ?_⟩
  rw [unbroken_iff, ← List.any_eq_true]
  cases text.toList.any breaksLine with
  | true => simp
  | false => simp

/-- A line break stays in the literal, which then ends with its line. -/
theorem brokenName_not_read :
    literalBody "pet\nname" = "pet\nname" ∧
      readString ((literalBody "pet\nname").toList ++ '"' :: ")".toList) = .error .brokenLine := by
  decide +kernel

end OpenApiJava.Java
