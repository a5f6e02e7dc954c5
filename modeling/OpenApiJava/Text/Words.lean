import OpenApiJava.Text.Blank

/-!
# Words

A text is cut into words at runs of separating characters. Main statements: no word is empty and no
word holds a separating character.
-/

namespace OpenApiJava.Text

/-- The words of `word ++ text`, where `word` is the unfinished word in front of the text. -/
def wordsAfter (separates : Char → Bool) (word : List Char) : List Char → List (List Char)
  | [] => if word.isEmpty then [] else [word]
  | character :: rest =>
      if separates character then
        if word.isEmpty then wordsAfter separates [] rest
        else word :: wordsAfter separates [] rest
      else wordsAfter separates (word ++ [character]) rest

/-- The maximal runs of characters that do not separate, in order. -/
def wordsBy (separates : Char → Bool) (text : List Char) : List (List Char) :=
  wordsAfter separates [] text

/-- The maximal runs of characters that are not blank, in order. -/
def words (text : List Char) : List (List Char) :=
  wordsBy isBlank text

variable {separates : Char → Bool}

theorem wordsAfter_nonempty (word text : List Char) :
    ∀ piece ∈ wordsAfter separates word text, piece ≠ [] := by
  induction text generalizing word with
  | nil => cases word <;> simp [wordsAfter]
  | cons character rest inductionHypothesis =>
      by_cases separating : separates character
      · have others := inductionHypothesis []
        cases word with
        | nil => simpa [wordsAfter, separating] using others
        | cons head tail => simpa [wordsAfter, separating] using others
      · simpa [wordsAfter, separating] using
          inductionHypothesis (word ++ [character])

/-- No word is empty. -/
theorem wordsBy_nonempty (text : List Char) :
    ∀ piece ∈ wordsBy separates text, piece ≠ [] :=
  wordsAfter_nonempty [] text

theorem wordsAfter_clean
    {word : List Char} (text : List Char)
    (wordClean : ∀ character ∈ word, separates character = false) :
    ∀ piece ∈ wordsAfter separates word text,
      ∀ character ∈ piece, separates character = false := by
  induction text generalizing word with
  | nil =>
      cases word with
      | nil => simp [wordsAfter]
      | cons head tail => simpa [wordsAfter] using wordClean
  | cons character rest inductionHypothesis =>
      by_cases separating : separates character
      · have tailClean := @inductionHypothesis [] (by simp)
        cases word with
        | nil => simpa [wordsAfter, separating] using tailClean
        | cons head tail =>
            intro piece member
            simp only [wordsAfter, separating, if_true, List.isEmpty_cons,
              Bool.false_eq_true, if_false, List.mem_cons] at member
            rcases member with rfl | member
            · exact wordClean
            · exact tailClean piece member
      · simp only [wordsAfter, separating]
        refine inductionHypothesis fun other member => ?_
        rcases List.mem_append.1 member with member | member
        · exact wordClean other member
        · simp_all

/-- No word holds a separating character. -/
theorem wordsBy_clean (text : List Char) :
    ∀ piece ∈ wordsBy separates text,
      ∀ character ∈ piece, separates character = false :=
  wordsAfter_clean text (by simp)

end OpenApiJava.Text
