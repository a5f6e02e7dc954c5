/-!
# Cutting and joining

A text is cut at every occurrence of one character, and pieces are joined with a separator between
them. Main statement: joining undoes cutting.
-/

namespace OpenApiJava.Text

/-- The pieces between the occurrences of the separator; there is always at least one. -/
def pieces (separator : Char) : List Char → List (List Char)
  | [] => [[]]
  | character :: rest =>
      if character == separator then [] :: pieces separator rest
      else
        match pieces separator rest with
        | [] => [[character]]
        | piece :: others => (character :: piece) :: others

/-- The pieces with the separator between each two. -/
def joined (separator : List Char) : List (List Char) → List Char
  | [] => []
  | [piece] => piece
  | piece :: next :: others => piece ++ separator ++ joined separator (next :: others)

/-- The text with every occurrence of one character replaced by another. -/
def replaceChar (old new : Char) (text : List Char) : List Char :=
  text.map fun character => if character == old then new else character

theorem pieces_ne_nil (separator : Char) (text : List Char) :
    pieces separator text ≠ [] := by
  cases text with
  | nil => simp [pieces]
  | cons character rest =>
      unfold pieces
      split
      · simp
      · split <;> simp

theorem joined_cons_ne_nil
    (separator piece : List Char) {others : List (List Char)}
    (more : others ≠ []) :
    joined separator (piece :: others) = piece ++ separator ++ joined separator others := by
  cases others with
  | nil => exact absurd rfl more
  | cons next rest => rfl

/-- Joining the pieces of a text gives the text back. -/
theorem joined_pieces (separator : Char) (text : List Char) :
    joined [separator] (pieces separator text) = text := by
  induction text with
  | nil => rfl
  | cons character rest inductionHypothesis =>
      unfold pieces
      split
      · rename_i same
        rw [joined_cons_ne_nil _ _ (pieces_ne_nil separator rest), inductionHypothesis]
        simp_all
      · cases cut : pieces separator rest with
        | nil => exact absurd cut (pieces_ne_nil separator rest)
        | cons piece others =>
            rw [cut] at inductionHypothesis
            rw [← inductionHypothesis]
            cases others <;> simp [joined]

theorem pieces_append_separator (separator : Char) (first second : List Char) :
    pieces separator (first ++ separator :: second) =
      pieces separator first ++ pieces separator second := by
  induction first with
  | nil => simp [pieces]
  | cons character rest inductionHypothesis =>
      by_cases same : character = separator
      · simp [pieces, same, inductionHypothesis]
      · cases cut : pieces separator rest with
        | nil => exact absurd cut (pieces_ne_nil separator rest)
        | cons piece others => simp [pieces, same, inductionHypothesis, cut]

theorem pieces_of_not_mem {separator : Char} {text : List Char} (absent : separator ∉ text) :
    pieces separator text = [text] := by
  induction text with
  | nil => rfl
  | cons character rest inductionHypothesis =>
      have different : character ≠ separator := (List.ne_of_not_mem_cons absent).symm
      have cutRest := inductionHypothesis (List.not_mem_of_not_mem_cons absent)
      simp [pieces, different, cutRest]

theorem not_mem_of_mem_pieces {separator : Char} {text piece : List Char}
    (isPiece : piece ∈ pieces separator text) :
    separator ∉ piece := by
  induction text generalizing piece with
  | nil =>
      rw [List.mem_singleton.mp isPiece]
      exact List.not_mem_nil
  | cons character rest inductionHypothesis =>
      unfold pieces at isPiece
      split at isPiece
      · rcases List.mem_cons.mp isPiece with rfl | inRest
        · exact List.not_mem_nil
        · exact inductionHypothesis inRest
      · rename_i different
        have differs : separator ≠ character := fun same => different (same ▸ beq_self_eq_true _)
        split at isPiece
        · rename_i cut
          exact absurd cut (pieces_ne_nil separator rest)
        · rename_i first others cut
          rcases List.mem_cons.mp isPiece with rfl | isOther
          · have clean := inductionHypothesis (cut ▸ List.mem_cons_self)
            exact List.not_mem_cons_of_ne_of_not_mem differs clean
          · exact inductionHypothesis (cut ▸ List.mem_cons_of_mem first isOther)

theorem mem_of_mem_pieces {separator character : Char} {text piece : List Char}
    (isPiece : piece ∈ pieces separator text) (member : character ∈ piece) :
    character ∈ text := by
  induction text generalizing piece with
  | nil =>
      rw [List.mem_singleton.mp isPiece] at member
      exact member
  | cons first rest inductionHypothesis =>
      unfold pieces at isPiece
      split at isPiece
      · rcases List.mem_cons.mp isPiece with rfl | inRest
        · cases member
        · exact List.mem_cons_of_mem first (inductionHypothesis inRest member)
      · split at isPiece
        · rename_i cut
          exact absurd cut (pieces_ne_nil separator rest)
        · rename_i next others cut
          rcases List.mem_cons.mp isPiece with rfl | isOther
          · rcases List.mem_cons.mp member with rfl | inNext
            · exact List.mem_cons_self
            · have isNext : next ∈ pieces separator rest := cut ▸ List.mem_cons_self
              exact List.mem_cons_of_mem first (inductionHypothesis isNext inNext)
          · have isPiece : piece ∈ pieces separator rest := cut ▸ List.mem_cons_of_mem next isOther
            exact List.mem_cons_of_mem first (inductionHypothesis isPiece member)

/-- Cutting undoes joining where the separator stands in no piece. -/
theorem pieces_joined {separator : Char} {given : List (List Char)} (nonempty : given ≠ [])
    (absent : ∀ piece ∈ given, separator ∉ piece) :
    pieces separator (joined [separator] given) = given := by
  induction given with
  | nil => exact absurd rfl nonempty
  | cons piece others inductionHypothesis =>
      obtain ⟨absentHere, absentLater⟩ := List.forall_mem_cons.mp absent
      cases others with
      | nil => exact pieces_of_not_mem absentHere
      | cons next rest =>
          have cutLater := inductionHypothesis (List.cons_ne_nil next rest) absentLater
          rw [joined, List.append_assoc, List.singleton_append, pieces_append_separator,
            pieces_of_not_mem absentHere, cutLater, List.singleton_append]

theorem joined_map_cons_cons {α : Type} (separator : List Char) (form : α → List Char)
    (item next : α) (rest : List α) :
    joined separator ((item :: next :: rest).map form) =
      form item ++ separator ++ joined separator ((next :: rest).map form) :=
  rfl

/-- What passes the separator and changes each piece by itself changes the joined pieces one by
one. -/
theorem apply_joined {α : Type} {function : List Char → List Char} {separator : List Char}
    {before after : α → List Char} (nil : function [] = [])
    (passes : ∀ rest, function (separator ++ rest) = separator ++ function rest)
    (changes : ∀ item rest, function (before item ++ rest) = after item ++ function rest)
    (items : List α) :
    function (joined separator (items.map before)) = joined separator (items.map after) := by
  induction items with
  | nil => exact nil
  | cons item others inductionHypothesis =>
      cases others with
      | nil =>
          have alone := changes item []
          rwa [List.append_nil, nil, List.append_nil] at alone
      | cons next rest =>
          rw [joined_map_cons_cons, List.append_assoc, changes, passes, inductionHypothesis,
            joined_map_cons_cons, List.append_assoc]

theorem map_joined (function : Char → Char) (separator : List Char) (given : List (List Char)) :
    (joined separator given).map function =
      joined (separator.map function) (given.map (List.map function)) := by
  induction given with
  | nil => rfl
  | cons piece others inductionHypothesis =>
      cases others with
      | nil => rfl
      | cons next rest =>
          rw [joined, List.map_append, List.map_append, inductionHypothesis]
          rfl

theorem joined_append {separator : List Char} {first second : List (List Char)}
    (nonempty : first ≠ []) (alsoNonempty : second ≠ []) :
    joined separator (first ++ second) =
      joined separator first ++ separator ++ joined separator second := by
  induction first with
  | nil => exact absurd rfl nonempty
  | cons piece others inductionHypothesis =>
      cases others with
      | nil => exact joined_cons_ne_nil separator piece alsoNonempty
      | cons next rest =>
          have later := inductionHypothesis (List.cons_ne_nil next rest)
          rw [List.cons_append, joined_cons_ne_nil _ _ (by simp), later, joined]
          simp only [List.append_assoc]

/-- Pieces that are themselves joined may be joined at once. -/
theorem joined_flatMap {α : Type} {separator : List Char} {inner : α → List (List Char)}
    (nonempty : ∀ item, inner item ≠ []) (items : List α) :
    joined separator (items.flatMap inner) =
      joined separator (items.map fun item => joined separator (inner item)) := by
  induction items with
  | nil => rfl
  | cons item others inductionHypothesis =>
      cases others with
      | nil =>
          rw [List.flatMap_singleton]
          rfl
      | cons next rest =>
          have more : (next :: rest).flatMap inner ≠ [] := by simp [nonempty]
          rw [List.flatMap_cons, joined_append (nonempty item) more, inductionHypothesis,
            joined_map_cons_cons]

theorem replaceChar_of_not_mem {old new : Char} {text : List Char} (absent : old ∉ text) :
    replaceChar old new text = text := by
  have same : ∀ character ∈ text, (if character == old then new else character) = character := by
    intro character member
    apply if_neg
    rw [beq_iff_eq]
    rintro rfl
    exact absent member
  exact (List.map_congr_left same).trans (List.map_id' text)

end OpenApiJava.Text
