import OpenApiJava.Java.Identifier

/-!
# Legal names

A legal name has word characters only and no digit in front, and it is no reserved word. Main
statement: an identifier is always legal, and a text is its own identifier exactly if it is legal.
-/

namespace OpenApiJava.Java

open OpenApiJava.Text

/-- The text is a name that needs no change. -/
structure IsLegal (name : List Char) : Prop where
  nonempty : name ≠ []
  words : ∀ character ∈ name, isWord character = true
  noDigit : ∀ first ∈ name.head?, isDigit first = false
  free : isReserved name = false

theorem isReserved_iff {text : List Char} :
    isReserved text = true ↔ ∃ word ∈ reservedWords, word.toList = text := by
  simp only [isReserved, List.any_eq_true, beq_iff_eq]

theorem isReserved_eq_false_iff {text : List Char} :
    isReserved text = false ↔ ∀ word ∈ reservedWords, word.toList ≠ text := by
  simp only [isReserved, List.any_eq_false, beq_iff_eq, ne_eq]

theorem isWord_nameCharacter (character : Char) : isWord (nameCharacter character) = true := by
  unfold nameCharacter
  by_cases word : isWord character = true
  · rw [if_pos word]
    exact word
  · rw [if_neg word]
    decide

theorem noDigit_cons {first : Char} (noDigit : isDigit first = false) (rest : List Char) :
    ∀ front ∈ (first :: rest).head?, isDigit front = false := by
  intro front isFront
  rw [← Option.some.inj isFront]
  exact noDigit

/-- No reserved word starts with an underscore but the underscore itself. -/
theorem isReserved_underscore_cons (first : Char) (rest : List Char) :
    isReserved ('_' :: first :: rest) = false := by
  have alone : ∀ word ∈ reservedWords,
      word.toList.head? = some '_' → word.toList.length = 1 := by
    decide
  rw [isReserved_eq_false_iff]
  intro word isListed same
  have single := alone word isListed (by rw [same]; rfl)
  rw [same] at single
  simp at single

theorem isReserved_append_underscore {word : List Char} (reserved : isReserved word = true) :
    isReserved (word ++ ['_']) = false := by
  have free : ∀ word ∈ reservedWords, isReserved (word.toList ++ ['_']) = false := by decide
  obtain ⟨listed, isListed, same⟩ := isReserved_iff.mp reserved
  exact same ▸ free listed isListed

/-- What is made of a text of word characters is legal. -/
theorem isLegal_legalName {name : List Char}
    (words : ∀ character ∈ name, isWord character = true) :
    IsLegal (legalName name) := by
  have underscore : isWord '_' = true := by decide
  fun_cases legalName name with
  | case1 =>
      have letters : emptyName.toList.all isWord = true := by decide
      exact ⟨by decide, List.all_eq_true.mp letters, noDigit_cons (by decide) _, by decide⟩
  | case2 first rest digit =>
      exact ⟨List.cons_ne_nil _ _, List.forall_mem_cons.mpr ⟨underscore, words⟩,
        noDigit_cons (by decide) _, isReserved_underscore_cons first rest⟩
  | case3 first rest noDigit reserved =>
      have longer : ∀ character ∈ first :: rest ++ ['_'], isWord character = true :=
        List.forall_mem_append.mpr ⟨words, List.forall_mem_singleton.mpr underscore⟩
      exact ⟨List.cons_ne_nil _ _, longer, noDigit_cons ((Bool.not_eq_true _).mp noDigit) _,
        isReserved_append_underscore reserved⟩
  | case4 first rest noDigit free =>
      exact ⟨List.cons_ne_nil first rest, words,
        noDigit_cons ((Bool.not_eq_true _).mp noDigit) rest, (Bool.not_eq_true _).mp free⟩

theorem isLegal_nameOf (text : List Char) : IsLegal (nameOf text) := by
  apply isLegal_legalName
  intro character member
  obtain ⟨given, _, rfl⟩ := List.mem_map.mp member
  exact isWord_nameCharacter given

theorem nameOf_of_isLegal {name : List Char} (legal : IsLegal name) : nameOf name = name := by
  have same : name.map nameCharacter = name := by
    have each : ∀ character ∈ name, nameCharacter character = character := by
      intro character member
      exact if_pos (legal.words character member)
    exact (List.map_congr_left each).trans (List.map_id' name)
  unfold nameOf
  rw [same]
  cases name with
  | nil => exact absurd rfl legal.nonempty
  | cons first rest =>
      have noDigit : isDigit first = false := legal.noDigit first rfl
      rw [legalName, noDigit, legal.free]
      rfl

/-- A text is its own identifier exactly if it is a legal name. -/
theorem identifier_eq_self_iff {name : String} : identifier name = name ↔ IsLegal name.toList := by
  have asTexts : identifier name = name ↔ nameOf name.toList = name.toList := by
    rw [← String.toList_inj, identifier, toList_onString]
  rw [asTexts]
  constructor
  · intro same
    rw [← same]
    exact isLegal_nameOf name.toList
  · exact nameOf_of_isLegal

theorem isLegal_toList_iff {name : String} :
    IsLegal name.toList ↔
      name ≠ "" ∧ (∀ character ∈ name.toList, isWord character = true) ∧
        (∀ first ∈ name.toList.head?, isDigit first = false) ∧ name ∉ reservedWords := by
  have empty : name.toList = [] ↔ name = "" := String.toList_eq_nil_iff
  have free : isReserved name.toList = false ↔ name ∉ reservedWords := by
    rw [isReserved_eq_false_iff]
    constructor
    · exact fun differs listed => differs name listed rfl
    · exact fun absent word listed same => absent (String.toList_inj.mp same ▸ listed)
  constructor
  · exact fun legal =>
      ⟨mt empty.mpr legal.nonempty, legal.words, legal.noDigit, free.mp legal.free⟩
  · exact fun ⟨nonempty, words, noDigit, absent⟩ =>
      ⟨mt empty.mp nonempty, words, noDigit, free.mpr absent⟩

/-- Exactly the legal names are their own identifiers, they are all identifiers that there are, and
an identifier is not changed once more. -/
theorem identifier_image (name : String) :
    (identifier name = name ↔
        name ≠ "" ∧ (∀ character ∈ name.toList, isWord character = true) ∧
          (∀ first ∈ name.toList.head?, isDigit first = false) ∧ name ∉ reservedWords) ∧
      ((∃ text, identifier text = name) ↔ identifier name = name) ∧
      identifier (identifier name) = identifier name ∧
      IsLegal (identifier name).toList := by
  have legal : ∀ text : String, IsLegal (identifier text).toList := by
    intro text
    rw [identifier, toList_onString]
    exact isLegal_nameOf text.toList
  have unchanged : ∀ text : String, identifier (identifier text) = identifier text :=
    fun text => identifier_eq_self_iff.mpr (legal text)
  refine ⟨identifier_eq_self_iff.trans isLegal_toList_iff, ?_, unchanged name, legal name⟩
  constructor
  · rintro ⟨text, rfl⟩
    exact unchanged text
  · exact fun same => ⟨name, same⟩

/-- No reserved word ends as the name does, so that only its characters matter. -/
theorem isLegal_append_iff {text ending : List Char} (nonempty : ending ≠ [])
    (words : ending.all isWord = true) (noDigit : ending.head?.any isDigit = false)
    (free : ∀ word ∈ reservedWords, ¬ ending <:+ word.toList) :
    IsLegal (text ++ ending) ↔
      (∀ character ∈ text, isWord character = true) ∧
        ∀ first ∈ text.head?, isDigit first = false := by
  constructor
  · intro legal
    constructor
    · exact fun character member => legal.words character (List.mem_append_left ending member)
    · intro first isFirst
      apply legal.noDigit
      rw [List.head?_append, Option.mem_def.mp isFirst]
      rfl
  · rintro ⟨wordsInFront, noDigitInFront⟩
    have wordsBehind : ∀ character ∈ ending, isWord character = true := List.all_eq_true.mp words
    refine ⟨by simp [nonempty], List.forall_mem_append.mpr ⟨wordsInFront, wordsBehind⟩, ?_, ?_⟩
    · intro first isFirst
      cases text with
      | nil =>
          have here : ending.head? = some first := isFirst
          rw [here] at noDigit
          exact noDigit
      | cons front rest => exact noDigitInFront first isFirst
    · rw [isReserved_eq_false_iff]
      intro word isListed same
      exact free word isListed ⟨text, same.symm⟩

end OpenApiJava.Java
