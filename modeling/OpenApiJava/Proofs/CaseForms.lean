import OpenApiJava.Java.Naming

/-!
# Characters of case forms

Upper and lower case bring letters in and take letters out, and nothing else: a sign of ASCII that
is no letter stands in a case form only where it stood before. The tables are checked run by run.
-/

namespace OpenApiJava.Text

/-- A character of ASCII that is no letter. -/
def isSign (character : Char) : Bool :=
  character.toNat < 128 && !character.isAlpha

/-- No code point of the run is shifted to a sign: the run is shifted as a whole to code points
outside ASCII, or it is a single one that is shifted to a letter. -/
def CaseRun.avoidsSigns (run : CaseRun) : Bool :=
  (128 ≤ run.first + run.shift &&
      (run.last + run.shift < 0xD800 ||
        (0xE000 ≤ run.first + run.shift && run.last + run.shift < 0x110000))) ||
    (run.first == run.last && !isSign (shifted run.first run.shift))

theorem upperRuns_avoidSigns : upperRuns.all CaseRun.avoidsSigns = true := by
  decide +kernel

theorem lowerRuns_avoidSigns : lowerRuns.all CaseRun.avoidsSigns = true := by
  decide +kernel

theorem longUpperForms_avoidSigns :
    (longUpperForms.all fun form => form.2.all fun code => !isSign (Char.ofNat code)) = true := by
  decide +kernel

theorem not_isSign_of_le {character : Char} (outside : 128 ≤ character.toNat) :
    isSign character = false := by
  simp [isSign, Nat.not_lt.mpr outside]

theorem toNat_shifted {code : Nat} {shift : Int}
    (valid : (code + shift).toNat.isValidChar) :
    (shifted code shift).toNat = (code + shift).toNat := by
  rw [shifted, Char.ofNat, dif_pos valid]
  rfl

/-- No code point of a run that avoids signs is shifted to one. -/
theorem not_isSign_shifted {run : CaseRun} {code : Nat}
    (avoids : run.avoidsSigns = true) (held : run.has code = true) :
    isSign (shifted code run.shift) = false := by
  simp only [CaseRun.has, Bool.and_eq_true, decide_eq_true_eq] at held
  obtain ⟨⟨lower, upper⟩, _⟩ := held
  simp only [CaseRun.avoidsSigns, Bool.or_eq_true, Bool.and_eq_true, decide_eq_true_eq,
    beq_iff_eq, Bool.not_eq_true'] at avoids
  rcases avoids with ⟨outside, valid⟩ | ⟨single, letter⟩
  · have validCode : (code + run.shift).toNat.isValidChar := by
      unfold Nat.isValidChar
      omega
    apply not_isSign_of_le
    rw [toNat_shifted validCode]
    omega
  · have same : code = run.first := by omega
    rw [same]
    exact letter

/-- A character outside ASCII is mapped to no sign. -/
theorem not_isSign_mapByRuns {runs : List CaseRun} (avoid : runs.all CaseRun.avoidsSigns = true)
    {character : Char} (outside : 128 ≤ character.toNat) :
    isSign (mapByRuns runs character) = false := by
  unfold mapByRuns
  split
  · rename_i run found
    have member : run ∈ runs := List.mem_of_find?_eq_some found
    have held : run.has character.toNat = true := by simpa using List.find?_some found
    exact not_isSign_shifted (List.all_eq_true.mp avoid run member) held
  · exact not_isSign_of_le outside

/-- What a table of the code points of ASCII tells holds of its characters. -/
theorem forall_ascii {property : Char → Prop}
    (table : ∀ code < 128, property (Char.ofNat code)) :
    ∀ character : Char, character.toNat < 128 → property character := by
  intro character ascii
  rw [← Char.ofNat_toNat character]
  exact table character.toNat ascii

theorem eq_of_isSign_toUpper :
    ∀ character : Char, character.toNat < 128 → isSign character.toUpper = true →
      character.toUpper = character :=
  forall_ascii (by decide)

theorem eq_of_isSign_toLower :
    ∀ character : Char, character.toNat < 128 → isSign character.toLower = true →
      character.toLower = character :=
  forall_ascii (by decide)

/-- A sign in the upper-case form of a character is that character. -/
theorem eq_of_mem_upperChar {character sign : Char}
    (member : sign ∈ upperChar character) (isSigned : isSign sign = true) :
    sign = character := by
  unfold upperChar at member
  split at member
  · rename_i ascii
    rw [List.mem_singleton] at member
    subst member
    exact eq_of_isSign_toUpper character ascii isSigned
  · rename_i ascii
    split at member
    · rename_i codes found
      have listed : (_, codes) ∈ longUpperForms := List.mem_of_find?_eq_some found
      have letters := List.all_eq_true.mp longUpperForms_avoidSigns _ listed
      obtain ⟨code, codeMember, rfl⟩ := List.mem_map.mp member
      have letter := List.all_eq_true.mp letters code codeMember
      simp [isSigned] at letter
    · rw [List.mem_singleton] at member
      have letter := not_isSign_mapByRuns upperRuns_avoidSigns (Nat.le_of_not_lt ascii)
      rw [← member, isSigned] at letter
      cases letter

/-- A sign in the lower-case form of a character is that character. -/
theorem eq_of_mem_lowerChar {character sign : Char}
    (member : sign ∈ lowerChar character) (isSigned : isSign sign = true) :
    sign = character := by
  unfold lowerChar at member
  split at member
  · rename_i ascii
    rw [List.mem_singleton] at member
    subst member
    exact eq_of_isSign_toLower character ascii isSigned
  · rename_i ascii
    split at member
    · have letters : ∀ part ∈ ['i', '\u0307'], isSign part = false :=
        List.forall_mem_cons.mpr ⟨rfl, List.forall_mem_singleton.mpr rfl⟩
      rw [letters sign member] at isSigned
      cases isSigned
    · rw [List.mem_singleton] at member
      have letter := not_isSign_mapByRuns lowerRuns_avoidSigns (Nat.le_of_not_lt ascii)
      rw [← member, isSigned] at letter
      cases letter

variable {sign : Char} {text : List Char}

theorem mem_of_mem_lowerAfter {before : List Char}
    (member : sign ∈ lowerAfter before text) (isSigned : isSign sign = true) :
    sign ∈ text := by
  induction text generalizing before with
  | nil => exact member
  | cons character rest inductionHypothesis =>
      unfold lowerAfter at member
      rcases List.mem_append.mp member with member | member
      · split at member
        · have letters : ∀ part ∈ ['ς', 'σ'], isSign part = false :=
            List.forall_mem_cons.mpr ⟨rfl, List.forall_mem_singleton.mpr rfl⟩
          have sigma : sign ∈ ['ς', 'σ'] := by
            split at member <;> simp_all
          rw [letters sign sigma] at isSigned
          cases isSigned
        · rw [eq_of_mem_lowerChar member isSigned]
          exact List.mem_cons_self
      · exact List.mem_cons_of_mem character (inductionHypothesis member)

/-- A sign in the lower-case form of a text stands in the text. -/
theorem mem_of_mem_lower (member : sign ∈ lower text) (isSigned : isSign sign = true) :
    sign ∈ text :=
  mem_of_mem_lowerAfter member isSigned

theorem mem_of_mem_upperFirst (member : sign ∈ upperFirst text)
    (isSigned : isSign sign = true) :
    sign ∈ text := by
  cases text with
  | nil => exact member
  | cons character rest =>
      rcases List.mem_append.mp member with member | member
      · rw [eq_of_mem_upperChar member isSigned]
        exact List.mem_cons_self
      · exact List.mem_cons_of_mem character member

theorem mem_of_mem_capitalized (member : sign ∈ capitalized text)
    (isSigned : isSign sign = true) :
    sign ∈ text := by
  cases text with
  | nil => exact member
  | cons character rest =>
      rcases List.mem_append.mp member with member | member
      · rw [eq_of_mem_upperChar member isSigned]
        exact List.mem_cons_self
      · exact List.mem_cons_of_mem character (mem_of_mem_lower member isSigned)

/-! ## Words -/

theorem mem_of_mem_wordsAfter {separates : Char → Bool} {word piece : List Char}
    {character : Char} (isPiece : piece ∈ wordsAfter separates word text)
    (member : character ∈ piece) :
    character ∈ word ∨ character ∈ text := by
  induction text generalizing word with
  | nil =>
      cases word with
      | nil => simp [wordsAfter] at isPiece
      | cons first others =>
          simp only [wordsAfter, List.isEmpty_cons, Bool.false_eq_true, if_false,
            List.mem_singleton] at isPiece
          exact Or.inl (isPiece ▸ member)
  | cons next rest inductionHypothesis =>
      unfold wordsAfter at isPiece
      split at isPiece
      · split at isPiece
        · rcases inductionHypothesis isPiece with inWord | inRest
          · exact absurd inWord List.not_mem_nil
          · exact Or.inr (List.mem_cons_of_mem next inRest)
        · rcases List.mem_cons.mp isPiece with here | isPiece
          · exact Or.inl (here ▸ member)
          · rcases inductionHypothesis isPiece with inWord | inRest
            · exact absurd inWord List.not_mem_nil
            · exact Or.inr (List.mem_cons_of_mem next inRest)
      · rcases inductionHypothesis isPiece with inWord | inRest
        · rcases List.mem_append.mp inWord with inWord | here
          · exact Or.inl inWord
          · rw [List.mem_singleton] at here
            exact Or.inr (here ▸ List.mem_cons_self)
        · exact Or.inr (List.mem_cons_of_mem next inRest)

/-- The characters of the words of a text stand in the text. -/
theorem mem_of_mem_wordsBy {separates : Char → Bool} {piece : List Char} {character : Char}
    (isPiece : piece ∈ wordsBy separates text) (member : character ∈ piece) :
    character ∈ text := by
  rcases mem_of_mem_wordsAfter isPiece member with inWord | inText
  · exact absurd inWord List.not_mem_nil
  · exact inText

end OpenApiJava.Text

namespace OpenApiJava.Java

open OpenApiJava.Text

/-- A sign in the word for a tag stands in the tag. -/
theorem mem_of_mem_tagWord {sign : Char} {tag : List Char}
    (member : sign ∈ tagWord tag) (isSigned : isSign sign = true) :
    sign ∈ tag := by
  unfold tagWord at member
  split at member
  · obtain ⟨word, isWord, inWord⟩ := List.mem_flatMap.mp member
    exact mem_of_mem_wordsBy isWord (mem_of_mem_capitalized inWord isSigned)
  · exact mem_of_mem_upperFirst member isSigned

/-- The class of a tag without slashes has no slash in its name. -/
theorem slash_not_mem_serviceClassName {tag : String} (plain : '/' ∉ tag.toList) :
    '/' ∉ (serviceClassName tag).toList := by
  unfold serviceClassName serviceBaseName
  rw [String.toList_append, toList_onString, List.mem_append]
  rintro (inBase | inSuffix)
  · exact plain (mem_of_mem_tagWord inBase rfl)
  · exact absurd inSuffix (by decide)

end OpenApiJava.Java
