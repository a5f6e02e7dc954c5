import Mathlib.Data.List.Basic
import Mathlib.Data.Set.List
import OpenApiJava.Endpoint.PathParameter
import OpenApiJava.Java.Naming

/-!
# Segments of paths

The parameters of a path are found segment by segment, the name of its constant by a scan for braces
through the whole path. Main statement: where every segment is free of braces or is a name in braces,
both find the same segments.
-/

namespace OpenApiJava

open OpenApiJava.Java OpenApiJava.Text

/-! ## Segments -/

/-- The text has no braces. -/
def IsBare (text : List Char) : Prop :=
  '{' ∉ text ∧ '}' ∉ text

instance (text : List Char) : Decidable (IsBare text) :=
  inferInstanceAs (Decidable (_ ∧ _))

theorem isBare_nil : IsBare [] :=
  ⟨List.not_mem_nil, List.not_mem_nil⟩

abbrev BareText : Type := { text : List Char // IsBare text }

def braced (name : List Char) : List Char :=
  '{' :: (name ++ ['}'])

/-- A part of a path between slashes: a text, or the name of a parameter. -/
inductive Segment where
  | literal (text : BareText)
  | parameter (name : BareText) (nonempty : name.val ≠ [])

namespace Segment

/-- The segment as it stands in a path. -/
def text : Segment → List Char
  | literal text => text
  | parameter name _ => braced name

def name? : Segment → Option BareText
  | literal _ => none
  | parameter name _ => some name

def marked : Segment → List Char
  | literal text => text
  | parameter name _ => "BY_".toList ++ name

/-- The segment as it stands in the name of a constant, but for its case. -/
def word (segment : Segment) : List Char :=
  replaceChar '-' '_' segment.marked

theorem not_isBare_braced (name : List Char) : ¬ IsBare (braced name) :=
  fun bare => bare.1 List.mem_cons_self

theorem braced_injective : Function.Injective braced := by
  intro first second same
  exact List.append_cancel_right (List.cons.inj same).2

theorem text_injective : Function.Injective text := by
  rintro (first | ⟨first, _⟩) (second | ⟨second, _⟩) same
  · exact congrArg literal (Subtype.ext same)
  · have inBraces : first.val = braced second := same
    exact absurd (inBraces ▸ first.property) (not_isBare_braced second)
  · have inBraces : braced first = second.val := same
    exact absurd (inBraces ▸ second.property) (not_isBare_braced first)
  · cases Subtype.ext (braced_injective same)
    rfl

theorem exists_text_eq_iff {piece : List Char} :
    (∃ segment : Segment, segment.text = piece) ↔
      IsBare piece ∨ ∃ name, name ≠ [] ∧ IsBare name ∧ piece = braced name := by
  constructor
  · rintro ⟨segment, rfl⟩
    cases segment with
    | literal text => exact .inl text.property
    | parameter name nonempty => exact .inr ⟨name, nonempty, name.property, rfl⟩
  · rintro (bare | ⟨name, nonempty, bare, rfl⟩)
    · exact ⟨.literal ⟨piece, bare⟩, rfl⟩
    · exact ⟨.parameter ⟨name, bare⟩ nonempty, rfl⟩

end Segment

/-- Every segment of the path is free of braces, or is a name in braces. -/
def IsTemplate (path : String) : Prop :=
  ∀ piece ∈ pieces '/' path.toList,
    IsBare piece ∨ ∃ name, name ≠ [] ∧ IsBare name ∧ piece = braced name

theorem IsTemplate.of_segments {path : String} {segments : List Segment}
    (cut : pieces '/' path.toList = segments.map Segment.text) : IsTemplate path := by
  intro piece isPiece
  rw [cut] at isPiece
  obtain ⟨segment, _, same⟩ := List.mem_map.mp isPiece
  exact Segment.exists_text_eq_iff.mp ⟨segment, same⟩

theorem IsTemplate.exists_segments {path : String} (template : IsTemplate path) :
    ∃ segments : List Segment, pieces '/' path.toList = segments.map Segment.text := by
  have texts : ∀ piece ∈ pieces '/' path.toList, piece ∈ Set.range Segment.text :=
    fun piece isPiece => Segment.exists_text_eq_iff.mpr (template piece isPiece)
  have inRange : pieces '/' path.toList ∈ Set.range (List.map Segment.text) := by
    rw [Set.range_list_map]
    exact texts
  obtain ⟨segments, cut⟩ := inRange
  exact ⟨segments, cut.symm⟩

/-! ## Parameters of a path -/

namespace PathParameter

/-- The parameter that a name in braces is. -/
def ofName (name : BareText) : PathParameter :=
  ⟨String.ofList name, String.ofList (braced name)⟩

theorem ofSegment?_of_bare {text : List Char} (bare : IsBare text) : ofSegment? text = none := by
  cases text with
  | nil => rfl
  | cons first rest =>
      have noBrace : first ≠ '{' := (List.ne_of_not_mem_cons bare.1).symm
      unfold ofSegment?
      split
      · rename_i opened
        exact absurd (List.cons.inj opened).1 noBrace
      · rfl

theorem ofSegment?_braced {name : BareText} (nonempty : name.val ≠ []) :
    ofSegment? (braced name) = some (ofName name) := by
  simp [ofSegment?, braced, ofName, nonempty]

theorem ofSegment?_text (segment : Segment) :
    ofSegment? segment.text = segment.name?.map ofName := by
  cases segment with
  | literal text => exact ofSegment?_of_bare text.property
  | parameter name nonempty => exact ofSegment?_braced nonempty

theorem ofPath_eq {path : String} {segments : List Segment}
    (cut : pieces '/' path.toList = segments.map Segment.text) :
    ofPath path = (segments.filterMap Segment.name?).map ofName := by
  rw [ofPath, cut, List.filterMap_map, List.map_filterMap]
  exact List.filterMap_congr fun segment _ => ofSegment?_text segment

end PathParameter

/-! ## Names of constants -/

namespace Java

theorem markParameters_append_of_not_mem {text : List Char} (absent : '{' ∉ text)
    (rest : List Char) :
    markParameters (text ++ rest) = text ++ markParameters rest := by
  unfold markParameters
  induction text with
  | nil => rfl
  | cons character others inductionHypothesis =>
      have noBrace : ¬ (character == '{') = true := by
        rw [beq_iff_eq]
        exact (List.ne_of_not_mem_cons absent).symm
      rw [List.cons_append, markParametersFrom, if_neg noBrace,
        inductionHypothesis (List.not_mem_of_not_mem_cons absent), List.cons_append]

/-- A brace that closes a name puts the marker in front of all that was read since the open one. -/
theorem markParametersFrom_append_brace {name : List Char} (absent : '}' ∉ name)
    (known : List Char) (nonempty : known ++ name ≠ []) (rest : List Char) :
    markParametersFrom (some known) (name ++ '}' :: rest) =
      "BY_".toList ++ (known ++ name) ++ markParameters rest := by
  induction name generalizing known with
  | nil =>
      have proper : known.isEmpty = false := by simpa using nonempty
      simp [markParametersFrom, proper, parameterMarker, markParameters]
  | cons character others inductionHypothesis =>
      have noBrace : ¬ (character == '}') = true := by
        rw [beq_iff_eq]
        exact (List.ne_of_not_mem_cons absent).symm
      have later := inductionHypothesis (List.not_mem_of_not_mem_cons absent)
        (known ++ [character]) (by simp)
      rw [List.cons_append, markParametersFrom, if_neg noBrace, later]
      simp

theorem markParameters_text_append (segment : Segment) (rest : List Char) :
    markParameters (segment.text ++ rest) = segment.marked ++ markParameters rest := by
  cases segment with
  | literal text => exact markParameters_append_of_not_mem text.property.1 rest
  | parameter name nonempty =>
      have closed := markParametersFrom_append_brace name.property.2 [] nonempty rest
      rw [Segment.text, braced, List.cons_append, List.append_assoc, markParameters,
        markParametersFrom, if_pos (beq_self_eq_true '{')]
      exact closed

theorem markParameters_joined (segments : List Segment) :
    markParameters (joined ['/'] (segments.map Segment.text)) =
      joined ['/'] (segments.map Segment.marked) := by
  have passes : ∀ rest, markParameters (['/'] ++ rest) = ['/'] ++ markParameters rest :=
    markParameters_append_of_not_mem (by decide)
  exact apply_joined rfl passes markParameters_text_append segments

theorem slash_not_mem_marked {segment : Segment} (absent : '/' ∉ segment.text) :
    '/' ∉ segment.marked := by
  cases segment with
  | literal text => exact absent
  | parameter name nonempty =>
      have inName : '/' ∉ name.val := by
        intro member
        exact absent (List.mem_cons_of_mem '{' (List.mem_append_left _ member))
      simpa [Segment.marked] using inName

/-- The name of the constant of a path is put together from its segments. -/
theorem upper_replaceChar_joined {segments : List Segment}
    (absent : ∀ segment ∈ segments, '/' ∉ segment.text) :
    upper (replaceChar '-' '_' (replaceChar '/' '_'
        (markParameters (joined ['/'] (segments.map Segment.text))))) =
      upper (joined ['_'] (segments.map Segment.word)) := by
  have slashes : replaceChar '/' '_' (joined ['/'] (segments.map Segment.marked)) =
      joined ['_'] (segments.map Segment.marked) := by
    have kept : ∀ segment ∈ segments,
        replaceChar '/' '_' segment.marked = segment.marked := by
      intro segment member
      exact replaceChar_of_not_mem (slash_not_mem_marked (absent segment member))
    have mapped := map_joined (fun character => if character == '/' then '_' else character) ['/']
      (segments.map Segment.marked)
    rw [List.map_map] at mapped
    exact mapped.trans (congrArg (joined ['_']) (List.map_congr_left kept))
  have dashes : replaceChar '-' '_' (joined ['_'] (segments.map Segment.marked)) =
      joined ['_'] (segments.map Segment.word) := by
    have mapped := map_joined (fun character => if character == '-' then '_' else character) ['_']
      (segments.map Segment.marked)
    rw [List.map_map] at mapped
    exact mapped
  rw [markParameters_joined, slashes, dashes]

/-- The first segment of a path is the empty one in front of a slash, if there is one. -/
theorem withoutSlash_eq {text : List Char} {segments : List Segment}
    (cut : pieces '/' text = segments.map Segment.text) :
    withoutSlash text =
      joined ['/'] ((if text.head? = some '/' then segments.tail else segments).map
        Segment.text) := by
  by_cases slash : text.head? = some '/'
  · obtain ⟨rest, rfl⟩ := List.head?_eq_some_iff.mp slash
    have cutRest : pieces '/' rest = segments.tail.map Segment.text := by
      rw [List.map_tail, ← cut]
      rfl
    rw [if_pos slash, ← cutRest, joined_pieces]
    rfl
  · rw [if_neg slash, ← cut, joined_pieces]
    unfold withoutSlash
    split
    · exact absurd rfl slash
    · rfl

theorem constantName_eq {path : String} {segments : List Segment}
    (cut : pieces '/' path.toList = segments.map Segment.text) :
    constantName path = String.ofList (upper (joined ['_']
      ((if path.toList.head? = some '/' then segments.tail else segments).map
        Segment.word))) := by
  have absent : ∀ segment ∈ segments, '/' ∉ segment.text := by
    intro segment member
    have isPiece : segment.text ∈ pieces '/' path.toList := by
      rw [cut]
      exact List.mem_map_of_mem member
    exact not_mem_of_mem_pieces isPiece
  rw [constantName, onString, constantWord, withoutSlash_eq cut]
  by_cases slash : path.toList.head? = some '/'
  · rw [if_pos slash]
    exact congrArg String.ofList (upper_replaceChar_joined fun segment member =>
      absent segment (List.mem_of_mem_tail member))
  · rw [if_neg slash]
    exact congrArg String.ofList (upper_replaceChar_joined absent)

end Java

/-- The parameters of a template are the names in braces in their order, and its constant is named
after its segments, with a marker in front of these names. -/
theorem path_is_read_alike {path : String} (template : IsTemplate path) :
    ∃ segments : List Segment, pieces '/' path.toList = segments.map Segment.text ∧
      PathParameter.ofPath path =
        (segments.filterMap Segment.name?).map PathParameter.ofName ∧
      constantName path = String.ofList (upper (joined ['_']
        ((if path.toList.head? = some '/' then segments.tail else segments).map
          Segment.word))) := by
  obtain ⟨segments, cut⟩ := template.exists_segments
  exact ⟨segments, cut, PathParameter.ofPath_eq cut, constantName_eq cut⟩

/-- The path of the orders of a user. -/
def ordersPath : String := "/users/{user-id}/orders"

def ordersSegments : List Segment := [
  .literal ⟨[], isBare_nil⟩,
  .literal ⟨"users".toList, by decide⟩,
  .parameter ⟨"user-id".toList, by decide⟩ (by decide),
  .literal ⟨"orders".toList, by decide⟩]

theorem pieces_ordersPath :
    pieces '/' ordersPath.toList = ordersSegments.map Segment.text := by
  decide

theorem ordersPath_is_read_alike :
    IsTemplate ordersPath ∧
      PathParameter.ofPath ordersPath = [⟨"user-id", "{user-id}"⟩] ∧
      constantName ordersPath = "USERS_BY_USER_ID_ORDERS" := by
  have template : IsTemplate ordersPath := .of_segments pieces_ordersPath
  obtain ⟨segments, cut, parameters, name⟩ := path_is_read_alike template
  have isOrders : segments = ordersSegments :=
    List.map_injective_iff.mpr Segment.text_injective (cut.symm.trans pieces_ordersPath)
  subst isOrders
  exact ⟨template, parameters.trans (by decide), name.trans (by decide)⟩

end OpenApiJava
