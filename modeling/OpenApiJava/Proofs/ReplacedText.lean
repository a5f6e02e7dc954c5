import Mathlib.Data.List.Infix

/-!
# Replacing a text in another one

Every occurrence of a text is replaced from the left on, and what is put in is not looked at again.
Main statement: to replace single characters is to replace each of them by itself.
-/

namespace OpenApiJava.Text

/-- The text with every occurrence of another one replaced, from the left on. An empty text occurs
in front of every character and at the end. -/
def replaceText (old new : List Char) : List Char → List Char
  | [] => if old.isEmpty then new else []
  | character :: rest =>
      if old.isEmpty then new ++ character :: replaceText old new rest
      else if old.isPrefixOf (character :: rest) then
        new ++ replaceText old new (rest.drop (old.length - 1))
      else character :: replaceText old new rest
termination_by text => text.length

variable {old : List Char}

theorem replaceText_nil (nonempty : old ≠ []) (new : List Char) : replaceText old new [] = [] := by
  rw [replaceText, if_neg (by simpa using nonempty)]

theorem replaceText_cons_of_not_isPrefix {character : Char} {rest : List Char}
    (absent : ¬ old <+: character :: rest) (new : List Char) :
    replaceText old new (character :: rest) = character :: replaceText old new rest := by
  have nonempty : ¬ old.isEmpty = true := by
    rw [List.isEmpty_iff]
    rintro rfl
    exact absent (List.nil_prefix)
  have noPrefix : ¬ old.isPrefixOf (character :: rest) = true :=
    fun found => absent (List.isPrefixOf_iff_prefix.mp found)
  rw [replaceText, if_neg nonempty, if_neg noPrefix]

theorem replaceText_append_self (nonempty : old ≠ []) (new rest : List Char) :
    replaceText old new (old ++ rest) = new ++ replaceText old new rest := by
  obtain ⟨first, others, rfl⟩ := List.exists_cons_of_ne_nil nonempty
  have found : (first :: others).isPrefixOf (first :: (others ++ rest)) = true :=
    List.isPrefixOf_iff_prefix.mpr (List.prefix_append (first :: others) rest)
  rw [List.cons_append, replaceText, if_neg (by simp), if_pos found]
  simp

/-- An occurrence starts with the first character of what occurs. -/
theorem replaceText_append_of_not_mem {first : Char} {others text : List Char}
    (absent : first ∉ text) (new rest : List Char) :
    replaceText (first :: others) new (text ++ rest) =
      text ++ replaceText (first :: others) new rest := by
  induction text with
  | nil => rfl
  | cons character later inductionHypothesis =>
      have notHere : ¬ first :: others <+: character :: (later ++ rest) := by
        rw [List.cons_prefix_cons]
        exact fun found => List.ne_of_not_mem_cons absent found.1
      rw [List.cons_append, replaceText_cons_of_not_isPrefix notHere,
        inductionHypothesis (List.not_mem_of_not_mem_cons absent), List.cons_append]

/-- To replace a single character is to replace each character by itself. -/
theorem replaceText_singleton (old : Char) (new text : List Char) :
    replaceText [old] new text =
      text.flatMap fun character => if character = old then new else [character] := by
  induction text with
  | nil => exact replaceText_nil (List.cons_ne_nil old []) new
  | cons character rest inductionHypothesis =>
      rw [List.flatMap_cons, ← inductionHypothesis]
      by_cases same : character = old
      · subst same
        rw [if_pos rfl]
        exact replaceText_append_self (List.cons_ne_nil character []) new rest
      · have absent : ¬ [old] <+: character :: rest := by
          rw [List.cons_prefix_cons]
          exact fun found => same found.1.symm
        rw [if_neg same, replaceText_cons_of_not_isPrefix absent, List.singleton_append]

end OpenApiJava.Text
