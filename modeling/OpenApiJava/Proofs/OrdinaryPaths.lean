import OpenApiJava.Proofs.PathSegments
import OpenApiJava.Proofs.WordForms

/-!
# Ordinary paths

The name of a constant has neither the slashes nor the braces nor the case of its path. Main
statement: where the segments of a path are small letters and digits, alone or in braces, and none
is the marker of parameters, the path can be read back from the name, so that two such paths never
share their constant.
-/

namespace OpenApiJava

open OpenApiJava.Java OpenApiJava.Text

/-! ## Ordinary segments -/

/-- A text of small letters and digits of ASCII that is not empty. -/
structure IsSmallWord (text : List Char) : Prop where
  nonempty : text ≠ []
  small : ∀ character ∈ text, character.isLower = true ∨ character.isDigit = true

theorem isSmallWord_iff {text : List Char} :
    text ≠ [] ∧ (text.all fun character => character.isLower || character.isDigit) = true ↔
      IsSmallWord text := by
  simp only [List.all_eq_true, Bool.or_eq_true]
  constructor
  · rintro ⟨nonempty, small⟩
    exact ⟨nonempty, small⟩
  · rintro ⟨nonempty, small⟩
    exact ⟨nonempty, small⟩

instance (text : List Char) : Decidable (IsSmallWord text) :=
  decidable_of_iff _ isSmallWord_iff

def Segment.IsOrdinary : Segment → Prop
  | literal text => IsSmallWord text ∧ text.val ≠ "by".toList
  | parameter name _ => IsSmallWord name

/-- A slash in front of ordinary segments with slashes between them. -/
def IsOrdinaryPath (path : String) : Prop :=
  ∃ segments : List Segment, (∀ segment ∈ segments, segment.IsOrdinary) ∧
    path.toList = '/' :: joined ['/'] (segments.map Segment.text)

theorem Text.not_isDigit_of_le {character : Char} (outside : 128 ≤ character.toNat) :
    character.isDigit = false := by
  have above : ¬ character.toNat ≤ '9'.toNat := by
    have last : '9'.toNat = 57 := rfl
    omega
  exact Bool.and_eq_false_iff.mpr (Or.inr (decide_eq_false above))

namespace IsSmallWord

variable {text : List Char}

theorem isAscii (word : IsSmallWord text) : IsAscii text := by
  intro character member
  apply Nat.lt_of_not_le
  intro outside
  rcases word.small character member with lower | digit
  · rw [not_isLower_of_le outside] at lower
    cases lower
  · rw [not_isDigit_of_le outside] at digit
    cases digit

theorem not_mem (word : IsSmallWord text) {sign : Char}
    (isSign : ¬ (sign.isLower = true ∨ sign.isDigit = true)) :
    sign ∉ text :=
  fun member => isSign (word.small sign member)

theorem upper_eq (word : IsSmallWord text) : upper text = text.map Char.toUpper :=
  upper_of_isAscii word.isAscii

/-- Small letters come back from their upper case. -/
theorem map_toLower_upper (word : IsSmallWord text) : (upper text).map Char.toLower = text := by
  have comesBack : ∀ character : Char, character.toNat < 128 →
      character.isLower = true ∨ character.isDigit = true →
        character.toUpper.toLower = character :=
    forall_ascii (by decide)
  have same : ∀ character ∈ text, (Char.toLower ∘ Char.toUpper) character = character :=
    fun character member =>
      comesBack character (word.isAscii character member) (word.small character member)
  rw [word.upper_eq, List.map_map]
  exact (List.map_congr_left same).trans (List.map_id' text)

theorem underscore_not_mem_upper (word : IsSmallWord text) : '_' ∉ upper text := by
  have apart : ∀ character : Char, character.toNat < 128 →
      character.isLower = true ∨ character.isDigit = true → character.toUpper ≠ '_' :=
    forall_ascii (by decide)
  intro member
  rw [word.upper_eq] at member
  obtain ⟨character, inText, same⟩ := List.mem_map.mp member
  exact apart character (word.isAscii character inText) (word.small character inText) same

end IsSmallWord

/-! ## Words of a name -/

theorem Text.upper_joined (separator : List Char) (given : List (List Char)) :
    upper (joined separator given) = joined (upper separator) (given.map upper) := by
  induction given with
  | nil => rfl
  | cons piece others inductionHypothesis =>
      cases others with
      | nil => rfl
      | cons next rest =>
          rw [joined, upper_append, upper_append, inductionHypothesis]
          rfl

namespace Segment

/-- The words of a segment between the underscores of a name. -/
def nameWords : Segment → List (List Char)
  | literal text => [upper text]
  | parameter name _ => ["BY".toList, upper name]

theorem nameWords_ne_nil (segment : Segment) : segment.nameWords ≠ [] := by
  cases segment with
  | literal text => exact List.cons_ne_nil _ _
  | parameter name nonempty => exact List.cons_ne_nil _ _

namespace IsOrdinary

variable {segment : Segment}

theorem slash_not_mem_text (ordinary : segment.IsOrdinary) : '/' ∉ segment.text := by
  cases segment with
  | literal text => exact ordinary.1.not_mem (by decide)
  | parameter name nonempty =>
      have inName : '/' ∉ name.val := IsSmallWord.not_mem ordinary (by decide)
      simpa [text, braced] using inName

theorem underscore_not_mem_nameWords (ordinary : segment.IsOrdinary) :
    ∀ word ∈ segment.nameWords, '_' ∉ word := by
  cases segment with
  | literal text =>
      exact List.forall_mem_singleton.mpr ordinary.1.underscore_not_mem_upper
  | parameter name nonempty =>
      have inName : '_' ∉ upper name := IsSmallWord.underscore_not_mem_upper ordinary
      exact List.forall_mem_cons.mpr ⟨by decide, List.forall_mem_singleton.mpr inName⟩

theorem upper_word (ordinary : segment.IsOrdinary) :
    upper segment.word = joined ['_'] segment.nameWords := by
  cases segment with
  | literal text =>
      have noDash : '-' ∉ text.val := ordinary.1.not_mem (by decide)
      exact congrArg upper (replaceChar_of_not_mem noDash)
  | parameter name nonempty =>
      have noDash : '-' ∉ "BY_".toList ++ name.val := by
        have inName : '-' ∉ name.val := IsSmallWord.not_mem ordinary (by decide)
        simpa using inName
      rw [word, marked, replaceChar_of_not_mem noDash, upper_append]
      rfl

end IsOrdinary

end Segment

theorem Java.constantWord_ordinary {segments : List Segment}
    (ordinary : ∀ segment ∈ segments, segment.IsOrdinary) :
    constantWord ('/' :: joined ['/'] (segments.map Segment.text)) =
      joined ['_'] (segments.flatMap Segment.nameWords) := by
  have absent : ∀ segment ∈ segments, '/' ∉ segment.text :=
    fun segment member => (ordinary segment member).slash_not_mem_text
  have words : ∀ segment ∈ segments,
      upper segment.word = joined ['_'] segment.nameWords :=
    fun segment member => (ordinary segment member).upper_word
  calc constantWord ('/' :: joined ['/'] (segments.map Segment.text))
      = upper (joined ['_'] (segments.map Segment.word)) := upper_replaceChar_joined absent
    _ = joined ['_'] (segments.map fun segment => upper segment.word) := by
        rw [upper_joined, List.map_map]
        rfl
    _ = joined ['_'] (segments.map fun segment => joined ['_'] segment.nameWords) := by
        rw [List.map_congr_left words]
    _ = joined ['_'] (segments.flatMap Segment.nameWords) :=
        (joined_flatMap Segment.nameWords_ne_nil segments).symm

/-! ## Reading a name back -/

/-- The segments of a path from the words of its name. The marker stands in front of the name of a
parameter. -/
def segmentTexts : List (List Char) → List (List Char)
  | [] => []
  | [word] => [word.map Char.toLower]
  | first :: second :: rest =>
      if first = "BY".toList then braced (second.map Char.toLower) :: segmentTexts rest
      else first.map Char.toLower :: segmentTexts (second :: rest)

/-- The path that a constant is named after. -/
def pathOfName (name : List Char) : List Char :=
  '/' :: joined ['/'] (segmentTexts (pieces '_' name))

theorem segmentTexts_cons_of_ne {first : List Char} (noMarker : first ≠ "BY".toList)
    (rest : List (List Char)) :
    segmentTexts (first :: rest) = first.map Char.toLower :: segmentTexts rest := by
  cases rest with
  | nil => rfl
  | cons second others => rw [segmentTexts, if_neg noMarker]

/-- Only the one literal segment that is left out would be read as a marker. -/
theorem segmentTexts_flatMap {segments : List Segment}
    (ordinary : ∀ segment ∈ segments, segment.IsOrdinary) :
    segmentTexts (segments.flatMap Segment.nameWords) = segments.map Segment.text := by
  induction segments with
  | nil => rfl
  | cons segment others inductionHypothesis =>
      obtain ⟨ordinaryHere, ordinaryLater⟩ := List.forall_mem_cons.mp ordinary
      have later := inductionHypothesis ordinaryLater
      cases segment with
      | literal text =>
          obtain ⟨word, notBy⟩ := ordinaryHere
          have noMarker : upper text ≠ "BY".toList := by
            intro isMarker
            apply notBy
            rw [← word.map_toLower_upper, isMarker]
            decide
          rw [List.flatMap_cons, Segment.nameWords, List.singleton_append,
            segmentTexts_cons_of_ne noMarker, word.map_toLower_upper, later]
          rfl
      | parameter name nonempty =>
          have word : IsSmallWord name := ordinaryHere
          rw [List.flatMap_cons, Segment.nameWords, List.cons_append, List.singleton_append,
            segmentTexts, if_pos rfl, word.map_toLower_upper, later]
          rfl

theorem pathOfName_constantName {path : String} (ordinary : IsOrdinaryPath path) :
    pathOfName (constantName path).toList = path.toList := by
  obtain ⟨segments, each, spelled⟩ := ordinary
  rw [constantName, toList_onString, spelled, constantWord_ordinary each, pathOfName]
  by_cases empty : segments = []
  · subst empty
    rfl
  · have nonempty : segments.flatMap Segment.nameWords ≠ [] := by
      obtain ⟨segment, isSegment⟩ := List.exists_mem_of_ne_nil segments empty
      intro noWords
      exact segment.nameWords_ne_nil (List.flatMap_eq_nil_iff.mp noWords segment isSegment)
    have absent : ∀ word ∈ segments.flatMap Segment.nameWords, '_' ∉ word := by
      intro word member
      obtain ⟨segment, isSegment, inWords⟩ := List.mem_flatMap.mp member
      exact (each segment isSegment).underscore_not_mem_nameWords word inWords
    rw [pieces_joined nonempty absent, segmentTexts_flatMap each]

/-- Two ordinary paths with one constant are one path. -/
theorem path_eq_of_constantName_eq {first second : String} (ordinary : IsOrdinaryPath first)
    (alsoOrdinary : IsOrdinaryPath second) (same : constantName first = constantName second) :
    first = second := by
  rw [← String.toList_inj, ← pathOfName_constantName ordinary,
    ← pathOfName_constantName alsoOrdinary, same]

/-- The segment that is left out would share its constant with a parameter. -/
example : constantName "/by/id" = constantName "/{id}" := by
  decide

/-- A path whose parameter is called like the marker. -/
def markerPath : String := "/{by}/pets"

theorem isOrdinaryPath_markerPath : IsOrdinaryPath markerPath := by
  refine ⟨[.parameter ⟨"by".toList, by decide⟩ (by decide), .literal ⟨"pets".toList, by decide⟩],
    ?_, by decide⟩
  have parameterIsSmall : IsSmallWord "by".toList := by decide
  have literalIsSmall : IsSmallWord "pets".toList := by decide
  exact List.forall_mem_cons.mpr
    ⟨parameterIsSmall, List.forall_mem_singleton.mpr ⟨literalIsSmall, by decide⟩⟩

theorem markerPath_eq_pathOfName :
    IsOrdinaryPath markerPath ∧ constantName markerPath = "BY_BY_PETS" ∧
      markerPath = String.ofList (pathOfName "BY_BY_PETS".toList) := by
  have spelled : String.ofList (pathOfName "BY_BY_PETS".toList) = "/{by}/pets" := by decide
  have alsoOrdinary : IsOrdinaryPath (String.ofList (pathOfName "BY_BY_PETS".toList)) := by
    rw [spelled]
    exact isOrdinaryPath_markerPath
  exact ⟨isOrdinaryPath_markerPath, by decide,
    path_eq_of_constantName_eq isOrdinaryPath_markerPath alsoOrdinary (by decide)⟩

end OpenApiJava
