import Mathlib.Data.List.Chain
import Mathlib.Data.List.Infix
import OpenApiJava.Java.Comment

/-!
# Marks that close a comment

A block comment ends with the first star that a slash follows. Main statements: a comment ends with
the mark that is meant to close it exactly if no such mark stands in its text, and the text of a
comment that is written for a description never holds one.
-/

namespace OpenApiJava.Java

open OpenApiJava.Text

/-! ## The end of a comment -/

/-- A star is followed by a slash somewhere in the text. -/
def HoldsCloseMark (text : List Char) : Prop :=
  ['*', '/'] <:+: text

instance (text : List Char) : Decidable (HoldsCloseMark text) :=
  inferInstanceAs (Decidable (['*', '/'] <:+: text))

/-- What follows the first mark that closes a comment. -/
def afterComment? : List Char → Option (List Char)
  | [] => none
  | '*' :: '/' :: rest => some rest
  | _ :: rest => afterComment? rest

def StaysOpen (first second : Char) : Prop :=
  ¬ (first = '*' ∧ second = '/')

theorem staysOpen_of_ne_star {first : Char} (noStar : first ≠ '*') (second : Char) :
    StaysOpen first second :=
  fun closes => noStar closes.1

theorem staysOpen_of_ne_slash (first : Char) {second : Char} (noSlash : second ≠ '/') :
    StaysOpen first second :=
  fun closes => noSlash closes.2

theorem isChain_staysOpen_iff {text : List Char} :
    text.IsChain StaysOpen ↔ ¬ HoldsCloseMark text := by
  rw [List.isChain_iff_forall_rel_of_append_cons_cons]
  constructor
  · rintro stays ⟨before, after, same⟩
    have split : text = before ++ '*' :: '/' :: after := by
      rw [← same]
      simp
    exact stays split ⟨rfl, rfl⟩
  · rintro noMark first second before after same ⟨rfl, rfl⟩
    exact noMark ⟨before, after, by rw [same]; simp⟩

theorem afterComment?_sound {text rest : List Char} (found : afterComment? text = some rest) :
    ∃ body, text = body ++ '*' :: '/' :: rest ∧ body.IsChain StaysOpen := by
  induction text with
  | nil => cases found
  | cons character others inductionHypothesis =>
      by_cases closes : character = '*' ∧ others.head? = some '/'
      · obtain ⟨rfl, slash⟩ := closes
        obtain ⟨after, rfl⟩ := List.head?_eq_some_iff.mp slash
        cases found
        exact ⟨[], rfl, List.IsChain.nil⟩
      · have stays : ∀ tail, character = '*' → others = '/' :: tail → False := by
          intro tail star same
          exact closes ⟨star, by rw [same]; rfl⟩
        rw [afterComment?.eq_3 _ _ stays] at found
        obtain ⟨body, rfl, inner⟩ := inductionHypothesis found
        refine ⟨character :: body, rfl, List.isChain_cons.mpr ⟨?_, inner⟩⟩
        rintro next isNext ⟨star, rfl⟩
        -- A slash at the front of the rest would have closed the comment right here.
        cases body with
        | nil => cases isNext
        | cons first tail =>
            cases isNext
            exact closes ⟨star, rfl⟩

theorem afterComment?_complete {body : List Char} (rest : List Char)
    (inner : body.IsChain StaysOpen) :
    afterComment? (body ++ '*' :: '/' :: rest) = some rest := by
  induction body with
  | nil => rfl
  | cons character body inductionHypothesis =>
      obtain ⟨first, others⟩ := List.isChain_cons.mp inner
      have stays : ∀ tail, character = '*' → body ++ '*' :: '/' :: rest = '/' :: tail → False := by
        intro tail star same
        cases body with
        | nil => cases same
        | cons next more =>
            have slash : next = '/' := (List.cons.inj same).1
            exact first next rfl ⟨star, slash⟩
      rw [List.cons_append, afterComment?.eq_3 _ _ stays, inductionHypothesis others]

/-- A comment ends with the mark after its text exactly if no mark stands in the text. -/
theorem afterComment?_append_iff {body rest : List Char} :
    afterComment? (body ++ '*' :: '/' :: rest) = some rest ↔ ¬ HoldsCloseMark body := by
  rw [← isChain_staysOpen_iff]
  constructor
  · intro found
    obtain ⟨shown, same, inner⟩ := afterComment?_sound found
    rw [List.append_cancel_right same]
    exact inner
  · exact afterComment?_complete rest

/-! ## Texts that are put together -/

/-- A character that belongs to no mark keeps the texts around it apart. -/
theorem isChain_append_cons_iff {first second : List Char} {separator : Char}
    (noStar : separator ≠ '*') (noSlash : separator ≠ '/') :
    (first ++ separator :: second).IsChain StaysOpen ↔
      first.IsChain StaysOpen ∧ second.IsChain StaysOpen := by
  rw [List.isChain_append, List.isChain_cons]
  constructor
  · rintro ⟨inner, ⟨_, others⟩, _⟩
    exact ⟨inner, others⟩
  · rintro ⟨inner, others⟩
    refine ⟨inner, ⟨fun next _ => staysOpen_of_ne_star noStar next, others⟩, ?_⟩
    intro last _ next isNext
    have same : separator = next := Option.some.inj isNext
    rw [← same]
    exact staysOpen_of_ne_slash last noSlash

/-- Where a text stands between others that keep their distance, it alone may hold a mark. -/
theorem isChain_between_iff {front text back : List Char}
    (frontStays : front.IsChain StaysOpen) (noStar : '*' ∉ front.getLast?)
    (backStays : back.IsChain StaysOpen) (noSlash : '/' ∉ back.head?) :
    (front ++ text ++ back).IsChain StaysOpen ↔ text.IsChain StaysOpen := by
  rw [List.isChain_append, List.isChain_append]
  constructor
  · rintro ⟨⟨_, inner, _⟩, _⟩
    exact inner
  · intro inner
    refine ⟨⟨frontStays, inner, ?_⟩, backStays, ?_⟩
    · intro last isLast first _
      exact staysOpen_of_ne_star (fun star => noStar (star ▸ isLast)) first
    · intro last _ first isFirst
      exact staysOpen_of_ne_slash last fun slash => noSlash (slash ▸ isFirst)

/-! ## Comment texts -/

theorem head?_openMarks (text : List Char) : (openMarks text).head? = text.head? := by
  fun_cases openMarks text <;> rfl

theorem isChain_openMarks (text : List Char) : (openMarks text).IsChain StaysOpen := by
  induction text using openMarks.induct with
  | case1 => exact List.IsChain.nil
  | case2 rest inductionHypothesis =>
      have entity : ('*' :: slashEntity).IsChain StaysOpen :=
        isChain_staysOpen_iff.mpr (by decide)
      -- The entity ends in a semicolon, which makes no mark with what follows.
      have escaped := entity.append inductionHypothesis fun last isLast first _ => by
        have semicolon : last = ';' := (Option.some.inj isLast).symm
        exact staysOpen_of_ne_star (by rw [semicolon]; decide) first
      simpa only [openMarks, List.cons_append] using escaped
  | case3 character rest noMark inductionHypothesis =>
      rw [openMarks]
      · refine List.isChain_cons.mpr ⟨?_, inductionHypothesis⟩
        rintro next isNext ⟨star, rfl⟩
        rw [head?_openMarks] at isNext
        obtain ⟨after, rfl⟩ := List.head?_eq_some_iff.mp isNext
        exact noMark after star rfl
      · exact noMark

theorem isInfix_of_mem_wordsAfter {separates : Char → Bool} {word text piece : List Char}
    (isPiece : piece ∈ wordsAfter separates word text) :
    piece <:+: word ++ text := by
  induction text generalizing word with
  | nil =>
      cases word with
      | nil => cases isPiece
      | cons first others =>
          rw [List.mem_singleton.mp isPiece, List.append_nil]
  | cons character rest inductionHypothesis =>
      have behind : rest <:+: word ++ character :: rest :=
        ⟨word ++ [character], [], by simp⟩
      unfold wordsAfter at isPiece
      split at isPiece
      · split at isPiece
        · exact (inductionHypothesis isPiece).trans behind
        · rcases List.mem_cons.mp isPiece with rfl | isPiece
          · exact List.infix_append' [] _ _
          · exact (inductionHypothesis isPiece).trans behind
      · have found := inductionHypothesis isPiece
        rwa [List.append_assoc, List.singleton_append] at found

theorem isInfix_of_mem_words {text piece : List Char} (isPiece : piece ∈ words text) :
    piece <:+: text :=
  isInfix_of_mem_wordsAfter isPiece

theorem isChain_joined_space {pieces : List (List Char)}
    (each : ∀ piece ∈ pieces, piece.IsChain StaysOpen) :
    (joined [' '] pieces).IsChain StaysOpen := by
  induction pieces with
  | nil => exact List.IsChain.nil
  | cons piece others inductionHypothesis =>
      have first := each piece List.mem_cons_self
      have joinedOthers := inductionHypothesis fun other member =>
        each other (List.mem_cons_of_mem piece member)
      cases others with
      | nil => exact first
      | cons next more =>
          rw [joined_cons_ne_nil _ _ (List.cons_ne_nil next more), List.append_assoc]
          exact (isChain_append_cons_iff (by decide) (by decide)).mpr ⟨first, joinedOthers⟩

/-- The text of a comment that is written for a description does not close it. -/
theorem isChain_commentText (text : String) : (commentText text).toList.IsChain StaysOpen := by
  rw [commentText, toList_onString]
  apply isChain_joined_space
  intro word isWord
  obtain ⟨before, after, same⟩ := isInfix_of_mem_words isWord
  have whole := isChain_openMarks text.toList
  rw [← same] at whole
  exact whole.left_of_append.right_of_append

end OpenApiJava.Java
