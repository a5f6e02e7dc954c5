import OpenApiJava.Proofs.CaseForms
import OpenApiJava.Text.Word

/-!
# Names in other case

A character that may start a name still may in lower case, except for the capital letter whose
lower-case form has a mark of its own. Main statement: a name that starts in lower case has word
characters only and no digit in front, unless it starts with that letter. Within ASCII, case forms
keep the difference between word characters and all others, and all of them have the same upper-case
form.
-/

namespace OpenApiJava.Text

/-! ## Runs of letters -/

/-- A word character that is no digit. -/
def startsName (character : Char) : Bool :=
  isWord character && !isDigit character

/-- The code points from the first to the last are word characters outside ASCII and no digits. -/
def areLetters (first last : Nat) : Bool :=
  Nat.ble 128 first && (wordRanges.any fun range => Nat.ble range.1 first && Nat.ble last range.2) &&
    digitRanges.all fun range => Nat.blt last range.1 || Nat.blt range.2 first

/-- No code point from the first to the last is a word character, and none is one of ASCII. -/
def areNoWords (first last : Nat) : Bool :=
  Nat.ble 128 first && wordRanges.all fun range => Nat.blt last range.1 || Nat.blt range.2 first

/-- The code points that a run holds. -/
def CaseRun.codes (run : CaseRun) : List Nat :=
  (List.range ((run.last - run.first) / run.step + 1)).map fun index =>
    run.first + index * run.step

/-- The run is shifted to letters as a whole, or it is a single code point that is shifted to one,
or each of its code points is shifted to a letter if it is a word character. -/
def CaseRun.startsNames (run : CaseRun) : Bool :=
  areLetters (run.first + run.shift).toNat (run.last + run.shift).toNat ||
    (run.first == run.last && startsName (shifted run.first run.shift)) ||
    run.codes.all fun code =>
      areNoWords code code || areLetters (code + run.shift).toNat (code + run.shift).toNat

theorem lowerRuns_startNames : lowerRuns.all CaseRun.startsNames = true := by
  decide +kernel

theorem wordRanges_valid :
    ∀ range ∈ wordRanges, range.2 < 0xD800 ∨ 0xE000 ≤ range.1 ∧ range.2 < 0x110000 := by
  decide +kernel

theorem CaseRun.mem_codes {run : CaseRun} {code : Nat} (held : run.has code = true) :
    code ∈ run.codes := by
  simp only [has, Bool.and_eq_true, decide_eq_true_eq, beq_iff_eq] at held
  obtain ⟨⟨fromFirst, toLast⟩, onStep⟩ := held
  have steps : (code - run.first) / run.step * run.step = code - run.first :=
    Nat.div_mul_cancel (Nat.dvd_of_mod_eq_zero onStep)
  have inside : (code - run.first) / run.step ≤ (run.last - run.first) / run.step :=
    Nat.div_le_div_right (Nat.sub_le_sub_right toLast run.first)
  refine List.mem_map.mpr ⟨_, List.mem_range.mpr (Nat.lt_succ_of_le inside), ?_⟩
  rw [steps]
  exact Nat.add_sub_cancel' fromFirst

theorem areLetters_iff {first last : Nat} :
    areLetters first last = true ↔
      128 ≤ first ∧ (∃ range ∈ wordRanges, range.1 ≤ first ∧ last ≤ range.2) ∧
        ∀ range ∈ digitRanges, last < range.1 ∨ range.2 < first := by
  simp only [areLetters, Bool.and_eq_true, Bool.or_eq_true, Nat.ble_eq, Nat.blt_eq,
    List.any_eq_true, List.all_eq_true, and_assoc]

theorem startsName_of_areLetters {first last : Nat} (letters : areLetters first last = true)
    {character : Char} (fromFirst : first ≤ character.toNat) (toLast : character.toNat ≤ last) :
    startsName character = true := by
  obtain ⟨outside, ⟨range, listed, lower, upper⟩, noDigits⟩ := areLetters_iff.mp letters
  have noAscii : ¬ character.toNat < 128 := by omega
  have word : wordRanges.has character = true := by
    refine List.any_eq_true.mpr ⟨range, listed, ?_⟩
    simp only [Bool.and_eq_true, decide_eq_true_eq]
    omega
  have noDigit : digitRanges.has character = false := by
    refine List.any_eq_false.mpr ?_
    intro digits isDigits
    have apart := noDigits digits isDigits
    simp only [Bool.and_eq_true, decide_eq_true_eq]
    omega
  simp only [startsName, isWord, isDigit, if_neg noAscii, word, noDigit, Bool.not_false,
    Bool.and_self]

theorem isWord_of_areNoWords {first last : Nat} (noWords : areNoWords first last = true)
    {character : Char} (fromFirst : first ≤ character.toNat) (toLast : character.toNat ≤ last) :
    isWord character = false := by
  simp only [areNoWords, Bool.and_eq_true, Bool.or_eq_true, Nat.ble_eq, Nat.blt_eq,
    List.all_eq_true] at noWords
  obtain ⟨outside, others⟩ := noWords
  have noAscii : ¬ character.toNat < 128 := by omega
  rw [isWord, if_neg noAscii]
  refine List.any_eq_false.mpr ?_
  intro range listed
  have apart := others range listed
  simp only [Bool.and_eq_true, decide_eq_true_eq]
  omega

/-- Letters are valid code points, so that a shift to one is not cut off. -/
theorem startsName_shifted_of_areLetters {first last code : Nat} {shift : Int}
    (letters : areLetters first last = true) (fromFirst : first ≤ (code + shift).toNat)
    (toLast : (code + shift).toNat ≤ last) :
    startsName (shifted code shift) = true := by
  have valid : (code + shift).toNat.isValidChar := by
    obtain ⟨_, ⟨range, listed, lower, upper⟩, _⟩ := areLetters_iff.mp letters
    have validRange := wordRanges_valid range listed
    unfold Nat.isValidChar
    omega
  have moved : (shifted code shift).toNat = (code + shift).toNat := toNat_shifted valid
  rw [← moved] at fromFirst toLast
  exact startsName_of_areLetters letters fromFirst toLast

theorem startsName_shifted {run : CaseRun} {character : Char} (starts : run.startsNames = true)
    (held : run.has character.toNat = true) (before : startsName character = true) :
    startsName (shifted character.toNat run.shift) = true := by
  have codes := CaseRun.mem_codes held
  simp only [CaseRun.has, Bool.and_eq_true, decide_eq_true_eq] at held
  obtain ⟨⟨fromFirst, toLast⟩, _⟩ := held
  simp only [CaseRun.startsNames, Bool.or_eq_true, Bool.and_eq_true, beq_iff_eq,
    List.all_eq_true] at starts
  -- Only a run with gaps is looked through one by one: the code points between need not be letters.
  rcases starts with (letters | ⟨single, starting⟩) | each
  · exact startsName_shifted_of_areLetters letters (by omega) (by omega)
  · have same : character.toNat = run.first := by omega
    rw [same]
    exact starting
  · rcases each character.toNat codes with noWords | letters
    · have noWord := isWord_of_areNoWords noWords (Nat.le_refl _) (Nat.le_refl _)
      rw [startsName, noWord] at before
      cases before
    · exact startsName_shifted_of_areLetters letters (Nat.le_refl _) (Nat.le_refl _)

/-! ## Lower case in front -/

theorem startsName_toLower :
    ∀ character : Char, character.toNat < 128 → startsName character = true →
      startsName character.toLower = true :=
  forall_ascii (by decide)

theorem startsName_mapByRuns {runs : List CaseRun}
    (start : runs.all CaseRun.startsNames = true) {character : Char}
    (starts : startsName character = true) :
    startsName (mapByRuns runs character) = true := by
  unfold mapByRuns
  split
  · rename_i run found
    have member : run ∈ runs := List.mem_of_find?_eq_some found
    have held : run.has character.toNat = true := by simpa using List.find?_some found
    exact startsName_shifted (List.all_eq_true.mp start run member) held starts
  · exact starts

theorem startsName_of_mem_lowerChar {character lowered : Char}
    (starts : startsName character = true) (noMark : character ≠ 'İ')
    (member : lowered ∈ lowerChar character) :
    startsName lowered = true := by
  unfold lowerChar at member
  by_cases ascii : character.toNat < 128
  · rw [if_pos ascii, List.mem_singleton] at member
    rw [member]
    exact startsName_toLower character ascii starts
  · rw [if_neg ascii, if_neg (by simpa using noMark), List.mem_singleton] at member
    rw [member]
    exact startsName_mapByRuns lowerRuns_startNames starts

/-- A character alone is in lower case as it is among others, except for the capital sigma. -/
theorem startsName_of_mem_lower_singleton {character lowered : Char}
    (starts : startsName character = true) (noMark : character ≠ 'İ')
    (member : lowered ∈ lower [character]) :
    startsName lowered = true := by
  simp only [lower, lowerAfter, List.append_nil] at member
  by_cases sigma : character = 'Σ'
  · have small : startsName 'σ' = true := by decide +kernel
    subst sigma
    rw [List.mem_singleton.mp member]
    exact small
  · rw [if_neg (by simpa using sigma)] at member
    exact startsName_of_mem_lowerChar starts noMark member

theorem lower_singleton_ne_nil (character : Char) : lower [character] ≠ [] := by
  unfold lower lowerAfter lowerChar
  repeat' split
  all_goals simp

/-- A text that may be a name but for its words still may with its first character in lower case,
unless that character gets a mark of its own. -/
theorem lowerFirst_words_iff {first : Char} {rest : List Char}
    (words : ∀ character ∈ first :: rest, isWord character = true)
    (noDigit : isDigit first = false) :
    ((∀ character ∈ lowerFirst (first :: rest), isWord character = true) ∧
        ∀ front ∈ (lowerFirst (first :: rest)).head?, isDigit front = false) ↔
      first ≠ 'İ' := by
  have starts : startsName first = true := by
    rw [startsName, words first List.mem_cons_self, noDigit]
    rfl
  constructor
  · rintro ⟨lowered, _⟩ rfl
    have marked : '\u0307' ∈ lowerFirst ('İ' :: rest) := by
      have inFront : '\u0307' ∈ lower ['İ'] := by decide
      exact List.mem_append_left rest inFront
    have noWord : isWord '\u0307' = false := by decide +kernel
    rw [lowered _ marked] at noWord
    cases noWord
  · intro noMark
    have start : ∀ lowered ∈ lower [first], isWord lowered = true ∧ isDigit lowered = false := by
      intro lowered member
      have starting := startsName_of_mem_lower_singleton starts noMark member
      simpa [startsName] using starting
    constructor
    · refine List.forall_mem_append.mpr ⟨fun lowered member => (start lowered member).1, ?_⟩
      exact fun character member => words character (List.mem_cons_of_mem first member)
    · intro front isFront
      have inFront : front ∈ lower [first] := by
        obtain ⟨lowered, others, split⟩ := List.exists_cons_of_ne_nil (lower_singleton_ne_nil first)
        rw [lowerFirst, split] at isFront
        rw [split, ← Option.some.inj isFront]
        exact List.mem_cons_self
      exact (start front inFront).2

/-! ## Small letters -/

theorem upperRuns_noLower :
    (upperRuns.all fun run => run.codes.all fun code =>
      !(shifted code run.shift).isLower) = true := by
  decide +kernel

theorem longUpperForms_noLower :
    (longUpperForms.all fun form => form.2.all fun code => !(Char.ofNat code).isLower) = true := by
  decide +kernel

theorem not_isLower_toUpper :
    ∀ character : Char, character.toNat < 128 → character.toUpper.isLower = false :=
  forall_ascii (by decide)

theorem not_isLower_of_le {character : Char} (outside : 128 ≤ character.toNat) :
    character.isLower = false := by
  have above : ¬ character.toNat ≤ 'z'.toNat := by
    have last : 'z'.toNat = 122 := rfl
    omega
  exact Bool.and_eq_false_iff.mpr (Or.inr (decide_eq_false above))

theorem not_isLower_mapByRuns {character : Char} (outside : 128 ≤ character.toNat) :
    (mapByRuns upperRuns character).isLower = false := by
  unfold mapByRuns
  split
  · rename_i run found
    have member : run ∈ upperRuns := List.mem_of_find?_eq_some found
    have held : run.has character.toNat = true := by simpa using List.find?_some found
    have shifts := List.all_eq_true.mp upperRuns_noLower run member
    simpa using List.all_eq_true.mp shifts _ (CaseRun.mem_codes held)
  · exact not_isLower_of_le outside

/-- A text in upper case has no small letters of ASCII. -/
theorem not_isLower_of_mem_upper {text : List Char} {character : Char}
    (member : character ∈ upper text) : character.isLower = false := by
  obtain ⟨given, _, inForm⟩ := List.mem_flatMap.mp member
  unfold upperChar at inForm
  split at inForm
  · rename_i ascii
    rw [List.mem_singleton.mp inForm]
    exact not_isLower_toUpper given ascii
  · rename_i outside
    split at inForm
    · rename_i codes found
      have listed : (_, codes) ∈ longUpperForms := List.mem_of_find?_eq_some found
      have letters := List.all_eq_true.mp longUpperForms_noLower _ listed
      obtain ⟨code, isCode, rfl⟩ := List.mem_map.mp inForm
      simpa using List.all_eq_true.mp letters code isCode
    · rw [List.mem_singleton.mp inForm]
      exact not_isLower_mapByRuns (Nat.le_of_not_lt outside)

/-! ## Case forms within ASCII -/

/-- All characters of the text are those of ASCII. -/
def IsAscii (text : List Char) : Prop :=
  ∀ character ∈ text, character.toNat < 128

instance (text : List Char) : Decidable (IsAscii text) :=
  List.decidableBAll (fun character : Char => character.toNat < 128) text

theorem isAscii_cons {character : Char} {text : List Char} :
    IsAscii (character :: text) ↔ character.toNat < 128 ∧ IsAscii text :=
  List.forall_mem_cons

theorem isAscii_append {first second : List Char} :
    IsAscii (first ++ second) ↔ IsAscii first ∧ IsAscii second :=
  List.forall_mem_append

theorem isAscii_map {form : Char → Char}
    (keeps : ∀ character, character.toNat < 128 → (form character).toNat < 128)
    {text : List Char} (ascii : IsAscii text) :
    IsAscii (text.map form) :=
  List.forall_mem_map.mpr fun character member => keeps character (ascii character member)

theorem isWord_toUpper :
    ∀ character : Char, character.toNat < 128 → isWord character.toUpper = isWord character :=
  forall_ascii (by decide)

theorem isWord_toLower :
    ∀ character : Char, character.toNat < 128 → isWord character.toLower = isWord character :=
  forall_ascii (by decide)

theorem toNat_toUpper_lt :
    ∀ character : Char, character.toNat < 128 → character.toUpper.toNat < 128 :=
  forall_ascii (by decide)

theorem toNat_toLower_lt :
    ∀ character : Char, character.toNat < 128 → character.toLower.toNat < 128 :=
  forall_ascii (by decide)

theorem toUpper_toUpper :
    ∀ character : Char, character.toNat < 128 →
      character.toUpper.toUpper = character.toUpper :=
  forall_ascii (by decide)

theorem toUpper_toLower :
    ∀ character : Char, character.toNat < 128 →
      character.toLower.toUpper = character.toUpper :=
  forall_ascii (by decide)

theorem upperChar_of_ascii {character : Char} (ascii : character.toNat < 128) :
    upperChar character = [character.toUpper] :=
  if_pos ascii

theorem upper_of_isAscii {text : List Char} (ascii : IsAscii text) :
    upper text = text.map Char.toUpper := by
  induction text with
  | nil => rfl
  | cons character rest inductionHypothesis =>
      obtain ⟨first, others⟩ := isAscii_cons.mp ascii
      have upperRest : rest.flatMap upperChar = rest.map Char.toUpper := inductionHypothesis others
      rw [upper, List.flatMap_cons, upperRest, upperChar_of_ascii first]
      rfl

theorem lowerAfter_of_isAscii (before : List Char) {text : List Char} (ascii : IsAscii text) :
    lowerAfter before text = text.map Char.toLower := by
  induction text generalizing before with
  | nil => rfl
  | cons character rest inductionHypothesis =>
      obtain ⟨first, others⟩ := isAscii_cons.mp ascii
      have noSigma : (character == 'Σ') = false := by
        rw [beq_eq_false_iff_ne]
        rintro rfl
        exact absurd first (by decide)
      have lowered : lowerChar character = [character.toLower] := if_pos first
      rw [lowerAfter, inductionHypothesis _ others, noSigma, lowered]
      rfl

theorem isAscii_upper {text : List Char} (ascii : IsAscii text) : IsAscii (upper text) := by
  rw [upper_of_isAscii ascii]
  exact isAscii_map toNat_toUpper_lt ascii

theorem upper_words_iff {text : List Char} (ascii : IsAscii text) :
    (∀ character ∈ upper text, isWord character = true) ↔
      ∀ character ∈ text, isWord character = true := by
  rw [upper_of_isAscii ascii, List.forall_mem_map]
  have same : ∀ character ∈ text, isWord character.toUpper = isWord character :=
    fun character member => isWord_toUpper character (ascii character member)
  exact forall₂_congr fun character member => by rw [same character member]

theorem lower_words_iff {text : List Char} (ascii : IsAscii text) :
    (∀ character ∈ lower text, isWord character = true) ↔
      ∀ character ∈ text, isWord character = true := by
  rw [lower, lowerAfter_of_isAscii [] ascii, List.forall_mem_map]
  have same : ∀ character ∈ text, isWord character.toLower = isWord character :=
    fun character member => isWord_toLower character (ascii character member)
  exact forall₂_congr fun character member => by rw [same character member]

theorem capitalized_words_iff {text : List Char} (ascii : IsAscii text) :
    (∀ character ∈ capitalized text, isWord character = true) ↔
      ∀ character ∈ text, isWord character = true := by
  cases text with
  | nil => rfl
  | cons first rest =>
      obtain ⟨asciiFirst, asciiRest⟩ := isAscii_cons.mp ascii
      rw [capitalized, upperChar_of_ascii asciiFirst, List.forall_mem_append,
        List.forall_mem_singleton, isWord_toUpper first asciiFirst, lower_words_iff asciiRest,
        List.forall_mem_cons]

/-! ## Upper case of other forms -/

theorem upper_append (first second : List Char) :
    upper (first ++ second) = upper first ++ upper second :=
  List.flatMap_append

/-- A form that keeps the upper case of each character keeps that of a text. -/
theorem upper_map_of_toUpper_eq {form : Char → Char}
    (keeps : ∀ character, character.toNat < 128 → (form character).toNat < 128)
    (same : ∀ character, character.toNat < 128 → (form character).toUpper = character.toUpper)
    {text : List Char} (ascii : IsAscii text) :
    upper (text.map form) = text.map Char.toUpper := by
  rw [upper_of_isAscii (isAscii_map keeps ascii), List.map_map]
  exact List.map_congr_left fun character member => same character (ascii character member)

theorem upper_lower_of_isAscii {text : List Char} (ascii : IsAscii text) :
    upper (lower text) = text.map Char.toUpper := by
  rw [lower, lowerAfter_of_isAscii [] ascii]
  exact upper_map_of_toUpper_eq toNat_toLower_lt toUpper_toLower ascii

theorem upper_lowerFirst_of_isAscii {text : List Char} (ascii : IsAscii text) :
    upper (lowerFirst text) = text.map Char.toUpper := by
  cases text with
  | nil => rfl
  | cons first rest =>
      obtain ⟨asciiFirst, asciiRest⟩ := isAscii_cons.mp ascii
      have single : IsAscii [first] := List.forall_mem_singleton.mpr asciiFirst
      rw [lowerFirst, upper_append, upper_lower_of_isAscii single, upper_of_isAscii asciiRest]
      rfl

theorem upper_capitalized_of_isAscii {text : List Char} (ascii : IsAscii text) :
    upper (capitalized text) = text.map Char.toUpper := by
  cases text with
  | nil => rfl
  | cons first rest =>
      obtain ⟨asciiFirst, asciiRest⟩ := isAscii_cons.mp ascii
      have single : IsAscii [first] := List.forall_mem_singleton.mpr asciiFirst
      rw [capitalized, upper_append, upper_lower_of_isAscii asciiRest,
        upperChar_of_ascii asciiFirst, ← List.map_singleton,
        upper_map_of_toUpper_eq toNat_toUpper_lt toUpper_toUpper single]
      rfl

/-! ## Words of a text -/

theorem flatten_wordsAfter {separates : Char → Bool} (word text : List Char) :
    (wordsAfter separates word text).flatten =
      word ++ text.filter fun character => !separates character := by
  fun_induction wordsAfter separates word text with
  | case1 word empty => simp [List.isEmpty_iff.mp empty]
  | case2 word proper => simp
  | case3 word character rest separating empty inductionHypothesis =>
      rw [inductionHypothesis, List.isEmpty_iff.mp empty]
      simp [separating]
  | case4 word character rest separating proper inductionHypothesis =>
      rw [List.flatten_cons, inductionHypothesis]
      simp [separating]
  | case5 word character rest joining inductionHypothesis =>
      rw [inductionHypothesis]
      simp [joining]

/-- The words of a text make it up but for the characters that separate. -/
theorem flatten_wordsBy (separates : Char → Bool) (text : List Char) :
    (wordsBy separates text).flatten = text.filter fun character => !separates character :=
  flatten_wordsAfter [] text

/-- The words of a text have all of its characters except for those that separate. -/
theorem exists_mem_wordsBy_iff {separates : Char → Bool} {text : List Char} {character : Char} :
    (∃ piece ∈ wordsBy separates text, character ∈ piece) ↔
      character ∈ text ∧ separates character = false := by
  rw [← List.mem_flatten, flatten_wordsBy, List.mem_filter, Bool.not_eq_true']

end OpenApiJava.Text
