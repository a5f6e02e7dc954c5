import OpenApiJava.Java.Literal
import OpenApiJava.Proofs.CloseMarks
import OpenApiJava.Text.Blank

/-!
# The bare text of a source

The bare text of a source is what stands outside of its comments, without the blanks outside of its
string literals. Main statements: pieces of a source are read one after the other, a comment that
holds no mark that closes it leaves nothing, and a text that is escaped stays inside its literal.
-/

namespace OpenApiJava.Source

open OpenApiJava.Java OpenApiJava.Text

/-! ## Reading a source -/

/-- Where a character of a source stands. -/
inductive Region where
  | code
  | literal
  | comment
deriving DecidableEq, Repr

/-- What is kept of a text that starts in a region. In a literal, a backslash keeps the character
behind it from closing the literal. -/
def bareFrom : Region → List Char → List Char
  | .code, '/' :: '*' :: rest => bareFrom .comment rest
  | .code, '"' :: rest => '"' :: bareFrom .literal rest
  | .code, character :: rest =>
      if isBlank character then bareFrom .code rest else character :: bareFrom .code rest
  | .literal, '\\' :: character :: rest => '\\' :: character :: bareFrom .literal rest
  | .literal, '"' :: rest => '"' :: bareFrom .code rest
  | .literal, character :: rest => character :: bareFrom .literal rest
  | .comment, '*' :: '/' :: rest => bareFrom .code rest
  | .comment, _ :: rest => bareFrom .comment rest
  | _, [] => []

def bareText (source : String) : List Char :=
  bareFrom .code source.toList

example : bareText "a /* \" */ b \"/* \\\" */\" c" = "ab\"/* \\\" */\"c".toList := by
  decide

theorem bareFrom_comment {text rest : List Char} (ends : afterComment? text = some rest) :
    bareFrom .comment text = bareFrom .code rest := by
  induction text using afterComment?.induct with
  | case1 => cases ends
  | case2 after =>
      cases ends
      rfl
  | case3 character others noMark inductionHypothesis =>
      rw [afterComment?.eq_3 _ _ noMark] at ends
      rw [bareFrom, inductionHypothesis ends]
      exact noMark

/-- The piece leads from one region into another and leaves the same text whatever is behind it. -/
def Reads (start : Region) (piece kept : List Char) (stop : Region) : Prop :=
  ∀ rest, bareFrom start (piece ++ rest) = kept ++ bareFrom stop rest

namespace Reads

variable {start middle stop : Region} {first second keptFirst keptSecond : List Char}

theorem nil (region : Region) : Reads region [] [] region :=
  fun _ => rfl

theorem append (readsFirst : Reads start first keptFirst middle)
    (readsSecond : Reads middle second keptSecond stop) :
    Reads start (first ++ second) (keptFirst ++ keptSecond) stop := by
  intro rest
  rw [List.append_assoc, readsFirst, readsSecond, List.append_assoc]

/-! ## Pieces of code -/

theorem code_cons {character : Char} (noQuote : character ≠ '"') (noSlash : character ≠ '/') :
    Reads .code [character] ([character].filter fun kept => !isBlank kept) .code := by
  intro rest
  rw [List.singleton_append, bareFrom]
  · by_cases blank : isBlank character = true
    · simp [blank]
    · simp [blank]
  · exact fun _ slash _ => noSlash slash
  · exact noQuote

/-- Code without quotes and slashes loses its blanks. -/
theorem code {piece : List Char}
    (stays : ∀ character ∈ piece, character ≠ '"' ∧ character ≠ '/') :
    Reads .code piece (piece.filter fun kept => !isBlank kept) .code := by
  induction piece with
  | nil => exact nil .code
  | cons character others inductionHypothesis =>
      obtain ⟨⟨noQuote, noSlash⟩, staysOthers⟩ := List.forall_mem_cons.mp stays
      have both := (code_cons noQuote noSlash).append (inductionHypothesis staysOthers)
      rwa [← List.filter_append] at both

/-! ## String literals -/

theorem escapedChar (character : Char) :
    Reads .literal (Java.escapedChar character) (Java.escapedChar character) .literal := by
  intro rest
  unfold Java.escapedChar
  split
  · rfl
  · rename_i plain
    simp only [Bool.or_eq_true, beq_iff_eq, not_or] at plain
    rw [List.singleton_append, bareFrom]
    · rfl
    -- Only a backslash or a quote would be read in another way.
    · exact fun _ _ backslash _ => plain.1 backslash
    · exact plain.2

/-- A text that is escaped is kept as it is and does not close its literal. -/
theorem escapedChars (text : List Char) :
    Reads .literal (Java.escapedChars text) (Java.escapedChars text) .literal := by
  induction text with
  | nil => exact nil .literal
  | cons character others inductionHypothesis =>
      exact (escapedChar character).append inductionHypothesis

theorem literalBody (text : String) :
    Reads .literal (Java.literalBody text).toList (Java.literalBody text).toList .literal := by
  rw [Java.literalBody, toList_onString]
  exact escapedChars text.toList

/-! ## Comments -/

/-- Nothing is kept of a comment that is closed where it should be. -/
theorem comment {body : List Char} (stays : body.IsChain StaysOpen) :
    Reads .comment (body ++ ['*', '/']) [] .code := by
  intro rest
  rw [List.append_assoc]
  exact bareFrom_comment (afterComment?_complete rest stays)

end Reads

end OpenApiJava.Source
