import OpenApiJava.Proofs.CloseMarks
import OpenApiJava.Proofs.ReplacedText

/-!
# The words of a comment

The text of a comment is made of the words of a description: the marks in them are escaped, and they
are joined with single spaces. Main statement: the escape neither merges nor cuts words, so that the
comment has the words of the description, each with its own marks escaped, and its text is made of
itself.
-/

namespace OpenApiJava

open OpenApiJava.Java OpenApiJava.Text

/-! ## Words in a text -/

namespace Text

/-- The text has these words: the longest runs of characters that do not separate, in order. -/
inductive HasWords (separates : Char → Bool) : List Char → List (List Char) → Prop
  | nil : HasWords separates [] []
  | separator {character : Char} {text : List Char} {given : List (List Char)} :
      separates character = true → HasWords separates text given →
      HasWords separates (character :: text) given
  | word {word text : List Char} {given : List (List Char)} :
      word ≠ [] → (∀ character ∈ word, separates character = false) →
      (∀ next ∈ text.head?, separates next = true) → HasWords separates text given →
      HasWords separates (word ++ text) (word :: given)

variable {separates : Char → Bool} {text : List Char} {given : List (List Char)}

theorem wordsBy_cons_of_separates {character : Char} (separating : separates character = true)
    (rest : List Char) : wordsBy separates (character :: rest) = wordsBy separates rest := by
  rw [wordsBy, wordsAfter, if_pos separating, if_pos List.isEmpty_nil, wordsBy]

theorem wordsAfter_append_of_clean {piece : List Char}
    (clean : ∀ character ∈ piece, separates character = false) (word rest : List Char) :
    wordsAfter separates word (piece ++ rest) = wordsAfter separates (word ++ piece) rest := by
  induction piece generalizing word with
  | nil => rw [List.nil_append, List.append_nil]
  | cons character others inductionHypothesis =>
      obtain ⟨here, later⟩ := List.forall_mem_cons.mp clean
      have joining : ¬ separates character = true := by simp [here]
      rw [List.cons_append, wordsAfter, if_neg joining, inductionHypothesis later,
        List.append_assoc, List.singleton_append]

theorem wordsAfter_of_separated {word : List Char} (nonempty : word ≠ [])
    (separated : ∀ next ∈ text.head?, separates next = true) :
    wordsAfter separates word text = word :: wordsBy separates text := by
  have proper : ¬ word.isEmpty = true := by rwa [List.isEmpty_iff]
  cases text with
  | nil => rw [wordsAfter, if_neg proper, wordsBy, wordsAfter, if_pos List.isEmpty_nil]
  | cons next rest =>
      have separating : separates next = true := separated next rfl
      rw [wordsAfter, if_pos separating, if_neg proper, wordsBy_cons_of_separates separating,
        wordsBy]

theorem HasWords.eq_wordsBy (has : HasWords separates text given) :
    given = wordsBy separates text := by
  induction has with
  | nil => rfl
  | separator separating _ inductionHypothesis =>
      rw [inductionHypothesis, wordsBy_cons_of_separates separating]
  | word nonempty clean separated _ inductionHypothesis =>
      rw [wordsBy, wordsAfter_append_of_clean clean, List.nil_append,
        wordsAfter_of_separated nonempty separated, ← inductionHypothesis]

theorem hasWords_wordsAfter {word : List Char} (text : List Char)
    (clean : ∀ character ∈ word, separates character = false) :
    HasWords separates (word ++ text) (wordsAfter separates word text) := by
  induction text generalizing word with
  | nil =>
      by_cases empty : word = []
      · subst empty
        exact .nil
      · rw [wordsAfter_of_separated empty (by simp)]
        exact .word empty clean (by simp) .nil
  | cons character rest inductionHypothesis =>
      by_cases separating : separates character = true
      · have separated : ∀ next ∈ (character :: rest).head?, separates next = true := by
          simpa using separating
        have later : HasWords separates (character :: rest)
            (wordsBy separates (character :: rest)) := by
          rw [wordsBy_cons_of_separates separating]
          exact .separator separating (inductionHypothesis (List.forall_mem_nil _))
        by_cases empty : word = []
        · subst empty
          exact later
        · rw [wordsAfter_of_separated empty separated]
          exact .word empty clean separated later
      · have longer : ∀ other ∈ word ++ [character], separates other = false :=
          List.forall_mem_append.mpr
            ⟨clean, List.forall_mem_singleton.mpr ((Bool.not_eq_true _).mp separating)⟩
        have whole := inductionHypothesis longer
        rw [List.append_assoc, List.singleton_append] at whole
        rwa [wordsAfter, if_neg separating]

/-- The words that a text has are those that it is cut into. -/
theorem hasWords_iff : HasWords separates text given ↔ given = wordsBy separates text := by
  constructor
  · exact HasWords.eq_wordsBy
  · rintro rfl
    exact hasWords_wordsAfter text (List.forall_mem_nil _)

/-- Words with a separator between each two are the words of the text that they make up. -/
theorem HasWords.joined {separator : Char} (separating : separates separator = true)
    (has : HasWords separates text given) :
    HasWords separates (joined [separator] given) given := by
  induction has with
  | nil => exact .nil
  | separator _ _ inductionHypothesis => exact inductionHypothesis
  | @word word text given nonempty clean _ _ inductionHypothesis =>
      cases given with
      | nil =>
          have alone : HasWords separates (word ++ []) [word] :=
            .word nonempty clean (by simp) .nil
          rwa [List.append_nil] at alone
      | cons next others =>
          rw [joined_cons_ne_nil _ _ (List.cons_ne_nil next others), List.append_assoc]
          have later := HasWords.separator separating inductionHypothesis
          exact .word nonempty clean (by simpa using separating) later

end Text

/-! ## Escaped marks -/

namespace Java

theorem openMarks_eq_replaceText (text : List Char) :
    openMarks text = replaceText ['*', '/'] ('*' :: slashEntity) text := by
  induction text using openMarks.induct with
  | case1 => exact (replaceText_nil (List.cons_ne_nil _ _) _).symm
  | case2 rest inductionHypothesis =>
      rw [openMarks, inductionHypothesis]
      exact (replaceText_append_self (List.cons_ne_nil '*' ['/']) ('*' :: slashEntity) rest).symm
  | case3 character rest noMark inductionHypothesis =>
      have absent : ¬ ['*', '/'] <+: character :: rest := by
        rintro ⟨tail, same⟩
        injection same with star slash
        exact noMark tail star.symm slash.symm
      rw [openMarks, inductionHypothesis, replaceText_cons_of_not_isPrefix absent]
      exact noMark

theorem openMarks_append {text : List Char} (noSlash : '/' ∉ text.head?) (front : List Char) :
    openMarks (front ++ text) = openMarks front ++ openMarks text := by
  induction front using openMarks.induct with
  | case1 => rfl
  | case2 rest inductionHypothesis =>
      rw [List.cons_append, List.cons_append, openMarks, openMarks, inductionHypothesis,
        List.cons_append, List.append_assoc]
  | case3 character rest noMark inductionHypothesis =>
      have stays : ∀ tail, character = '*' → rest ++ text = '/' :: tail → False := by
        intro tail star same
        cases rest with
        | nil => exact noSlash (by rw [List.nil_append] at same; simp [same])
        | cons next others => exact noMark others star (by rw [(List.cons.inj same).1])
      rw [List.cons_append, openMarks.eq_3 _ _ stays, openMarks.eq_3 _ _ noMark,
        inductionHypothesis, List.cons_append]

theorem openMarks_of_isChain {text : List Char} (stays : text.IsChain StaysOpen) :
    openMarks text = text := by
  induction text with
  | nil => rfl
  | cons character rest inductionHypothesis =>
      obtain ⟨first, others⟩ := List.isChain_cons.mp stays
      have noMark : ∀ tail, character = '*' → rest = '/' :: tail → False := by
        rintro tail rfl rfl
        exact first '/' rfl ⟨rfl, rfl⟩
      rw [openMarks.eq_3 _ _ noMark, inductionHypothesis others]

theorem mem_openMarks {text : List Char} {character : Char} (member : character ∈ openMarks text) :
    character ∈ text ∨ character ∈ slashEntity := by
  induction text using openMarks.induct with
  | case1 => cases member
  | case2 rest inductionHypothesis =>
      rw [openMarks, List.mem_cons, List.mem_append] at member
      rcases member with star | entity | inRest
      · exact Or.inl (by simp [star])
      · exact Or.inr entity
      · exact (inductionHypothesis inRest).imp_left fun found => by simp [found]
  | case3 other rest noMark inductionHypothesis =>
      rw [openMarks.eq_3 _ _ noMark, List.mem_cons] at member
      rcases member with here | inRest
      · exact Or.inl (by simp [here])
      · exact (inductionHypothesis inRest).imp_left fun found => by simp [found]

theorem openMarks_ne_nil {text : List Char} (nonempty : text ≠ []) : openMarks text ≠ [] := by
  intro empty
  have front := head?_openMarks text
  rw [empty] at front
  exact nonempty (List.head?_eq_none_iff.mp front.symm)

theorem isBlank_of_mem_openMarks {word : List Char}
    (clean : ∀ character ∈ word, isBlank character = false) :
    ∀ character ∈ openMarks word, isBlank character = false := by
  have noBlanks : slashEntity.any isBlank = false := by decide
  intro character member
  rcases mem_openMarks member with inWord | inEntity
  · exact clean character inWord
  · exact (Bool.not_eq_true _).mp (List.any_eq_false.mp noBlanks character inEntity)

/-- Escaping marks in a text escapes them word by word. -/
theorem hasWords_openMarks {text : List Char} {given : List (List Char)}
    (has : HasWords isBlank text given) :
    HasWords isBlank (openMarks text) (given.map openMarks) := by
  induction has with
  | nil => exact .nil
  | @separator character text given blank _ inductionHypothesis =>
      have noMark : ∀ tail, character = '*' → text = '/' :: tail → False := by
        rintro tail rfl _
        exact absurd blank (by decide)
      rw [openMarks.eq_3 _ _ noMark]
      exact .separator blank inductionHypothesis
  | @word word text given nonempty clean separated _ inductionHypothesis =>
      have noSlash : '/' ∉ text.head? := fun slash => absurd (separated '/' slash) (by decide)
      have stillSeparated : ∀ next ∈ (openMarks text).head?, isBlank next = true := by
        rwa [head?_openMarks]
      rw [openMarks_append noSlash, List.map_cons]
      exact .word (openMarks_ne_nil nonempty) (isBlank_of_mem_openMarks clean) stillSeparated
        inductionHypothesis

/-- A text of words between single spaces that closes no comment is its own comment text. -/
theorem commentChars_of_hasWords {text : List Char} {given : List (List Char)}
    (has : HasWords isBlank text given) (spaced : text = joined [' '] given)
    (stays : text.IsChain StaysOpen) : commentChars text = text := by
  rw [commentChars, openMarks_of_isChain stays, words, ← hasWords_iff.mp has, ← spaced]

/-- The text of a comment has the words of the given one, each with its own marks escaped, and a
single space between each two. It does not close the comment, and it is its own comment text. -/
theorem commentText_keeps_words (text : String) :
    ¬ HoldsCloseMark (commentText text).toList ∧
      (∃ given shown, HasWords isBlank text.toList given ∧
        shown = given.map (replaceText "*/".toList "*&#47;".toList) ∧
        HasWords isBlank (commentText text).toList shown ∧
        (commentText text).toList = joined [' '] shown) ∧
      commentText (commentText text) = commentText text := by
  have stays := isChain_commentText text
  have has : HasWords isBlank text.toList (words text.toList) := hasWords_iff.mpr rfl
  have escaped := hasWords_openMarks has
  have spaced : (commentText text).toList = joined [' '] ((words text.toList).map openMarks) := by
    rw [commentText, toList_onString, commentChars, words, ← hasWords_iff.mp escaped]
  have hasShown : HasWords isBlank (commentText text).toList
      ((words text.toList).map openMarks) := by
    rw [spaced]
    exact escaped.joined (by decide)
  have again : commentText (commentText text) = commentText text := by
    rw [← String.toList_inj, commentText, toList_onString]
    exact commentChars_of_hasWords hasShown spaced stays
  have rewritten : (words text.toList).map openMarks =
      (words text.toList).map (replaceText "*/".toList "*&#47;".toList) :=
    List.map_congr_left fun word _ => openMarks_eq_replaceText word
  exact ⟨isChain_staysOpen_iff.mp stays, ⟨_, _, has, rewritten, hasShown, spaced⟩, again⟩

example : commentText " **//\n*/\t* / " = "**&#47;/ *&#47; * /" := by decide +kernel

end Java

end OpenApiJava
