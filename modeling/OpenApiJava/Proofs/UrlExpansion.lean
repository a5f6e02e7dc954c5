import OpenApiJava.Proofs.ConstantReading
import OpenApiJava.Proofs.LegalNames
import OpenApiJava.Proofs.PathSegments
import OpenApiJava.Proofs.ReplacedText
import OpenApiJava.Proofs.ServiceUrls

/-!
# Expanded paths

The method that builds the URL of a call replaces the parameters of its path one after the other,
each wherever it stands in braces. Main statement: with values that have no braces, this puts every
value in the place of its parameter and changes nothing else, so that no parameter is left.
-/

namespace OpenApiJava

open OpenApiJava.Java OpenApiJava.Text

/-! ## Filling segments -/

namespace Segment

variable (value : String → BareText)

/-- The segment once the parameter of a name has its value. -/
def fill : Segment → BareText → Segment
  | literal text, _ => literal text
  | parameter other nonempty, name =>
      if other = name then literal (value (String.ofList name)) else parameter other nonempty

/-- The text of the segment once every parameter has its value. -/
def filled : Segment → BareText
  | literal text => text
  | parameter name _ => value (String.ofList name)

theorem braced_ne_nil (name : List Char) : braced name ≠ [] :=
  List.cons_ne_nil _ _

/-- The first brace that closes a name ends it. -/
theorem eq_of_braced_isPrefix {name other rest : List Char} (bare : IsBare name)
    (alsoBare : IsBare other) (front : braced name <+: braced other ++ rest) : name = other := by
  obtain ⟨tail, same⟩ := front
  have behindBrace : name ++ '}' :: tail = other ++ '}' :: rest := by
    simpa [braced] using same
  have cut := congrArg (pieces '}') behindBrace
  rw [pieces_append_separator, pieces_append_separator, pieces_of_not_mem bare.2,
    pieces_of_not_mem alsoBare.2] at cut
  exact (List.cons.inj cut).1

theorem replaceText_text_append (name : BareText) (segment : Segment) (rest : List Char) :
    replaceText (braced name) (value (String.ofList name)) (segment.text ++ rest) =
      (segment.fill value name).text ++
        replaceText (braced name) (value (String.ofList name)) rest := by
  cases segment with
  | literal text => exact replaceText_append_of_not_mem text.property.1 _ rest
  | parameter other nonempty =>
      by_cases same : other = name
      · subst same
        rw [fill, if_pos rfl]
        exact replaceText_append_self (braced_ne_nil other) _ rest
      · have notHere : ¬ braced name <+: braced other ++ rest := by
          intro front
          exact same (Subtype.ext (eq_of_braced_isPrefix name.property other.property front)).symm
        have absent : '{' ∉ other.val ++ ['}'] := by
          simpa using other.property.1
        rw [fill, if_neg same]
        exact (replaceText_cons_of_not_isPrefix notHere _).trans
          (congrArg ('{' :: ·) (replaceText_append_of_not_mem absent _ rest))

/-- Replacing a parameter in a path fills each segment by itself. -/
theorem replaceText_joined (name : BareText) (segments : List Segment) :
    replaceText (braced name) (value (String.ofList name)) (joined ['/'] (segments.map text)) =
      joined ['/'] ((segments.map (fill value · name)).map text) := by
  have passes : ∀ rest, replaceText (braced name) (value (String.ofList name)) (['/'] ++ rest) =
      ['/'] ++ replaceText (braced name) (value (String.ofList name)) rest :=
    replaceText_append_of_not_mem (by decide) _
  rw [List.map_map]
  exact apply_joined (replaceText_nil (braced_ne_nil name) _) passes
    (replaceText_text_append value name) segments

theorem foldl_replaceText (names : List BareText) (segments : List Segment) :
    names.foldl
        (fun text (name : BareText) =>
          replaceText (braced name) (value (String.ofList name)) text)
        (joined ['/'] (segments.map text)) =
      joined ['/'] ((segments.map (names.foldl (fill value))).map text) := by
  induction names generalizing segments with
  | nil => exact congrArg (fun given => joined ['/'] (given.map text)) (List.map_id' segments).symm
  | cons name others inductionHypothesis =>
      rw [List.foldl_cons, replaceText_joined, inductionHypothesis]
      simp only [List.map_map]
      rfl

theorem foldl_fill_literal (names : List BareText) (text : BareText) :
    names.foldl (fill value) (literal text) = literal text := by
  induction names with
  | nil => rfl
  | cons name others inductionHypothesis => exact inductionHypothesis

/-- A parameter is filled by the first of its names and stays as it is from there on. -/
theorem foldl_fill {names : List BareText} {segment : Segment}
    (known : ∀ name ∈ segment.name?, name ∈ names) :
    names.foldl (fill value) segment = literal (segment.filled value) := by
  cases segment with
  | literal text => exact foldl_fill_literal value names text
  | parameter name nonempty =>
      have isKnown : name ∈ names := known name rfl
      clear known
      induction names with
      | nil => cases isKnown
      | cons first others inductionHypothesis =>
          rw [List.foldl_cons, fill]
          by_cases same : name = first
          · rw [if_pos same, ← same]
            exact foldl_fill_literal value others _
          · rw [if_neg same]
            exact inductionHypothesis ((List.mem_cons.mp isKnown).resolve_left same)

end Segment

/-! ## Expanding a path -/

/-- What becomes of a path as one parameter after the other is replaced by its value. -/
def expanded (value : String → BareText) (parameters : List PathParameter) (path : List Char) :
    List Char :=
  parameters.foldl
    (fun text parameter => replaceText parameter.token.toList (value parameter.name) text) path

theorem expanded_ofPath {path : String} {segments : List Segment}
    (cut : pieces '/' path.toList = segments.map Segment.text) (value : String → BareText) :
    expanded value (PathParameter.ofPath path) path.toList =
      joined ['/'] (segments.map fun segment => (segment.filled value).val) := by
  have filledAll : ∀ segment ∈ segments,
      (Segment.text ∘ (segments.filterMap Segment.name?).foldl (Segment.fill value)) segment =
        (segment.filled value).val := by
    intro segment member
    have known : ∀ name ∈ segment.name?, name ∈ segments.filterMap Segment.name? :=
      fun name isName => List.mem_filterMap.mpr ⟨segment, member, isName⟩
    exact congrArg Segment.text (Segment.foldl_fill value known)
  have whole : path.toList = joined ['/'] (segments.map Segment.text) := by
    rw [← cut, joined_pieces]
  rw [expanded, PathParameter.ofPath_eq cut, List.foldl_map, whole]
  simp only [PathParameter.ofName, String.toList_ofList]
  rw [Segment.foldl_replaceText, List.map_map, List.map_congr_left filledAll]

theorem isBare_joined {given : List (List Char)} (bare : ∀ piece ∈ given, IsBare piece) :
    IsBare (joined ['/'] given) := by
  induction given with
  | nil => exact isBare_nil
  | cons piece others inductionHypothesis =>
      obtain ⟨bareHere, bareLater⟩ := List.forall_mem_cons.mp bare
      cases others with
      | nil => exact bareHere
      | cons next rest =>
          have later := inductionHypothesis bareLater
          simp only [IsBare, joined, List.mem_append, not_or] at bareHere later ⊢
          exact ⟨⟨⟨bareHere.1, by decide⟩, later.1⟩, ⟨bareHere.2, by decide⟩, later.2⟩

/-! ## Lines that replace -/

namespace Source.Call

/-- What a line starts with that replaces something in the path. -/
def replacementFront : String := "        path = path.replace(\""

/-- What stands between the token and the argument of such a line. -/
def argumentMark : List Char := ", String.valueOf(".toList

/-- The token that a line replaces, and the argument whose value it puts in its place. -/
def readReplacement? (line : String) : Option (String × String) := do
  let literal ← replacementFront.toList.isPrefixOf? line.toList
  let (token, behind) ← readLiteral? literal
  let named ← argumentMark.isPrefixOf? behind
  return (String.ofList token, String.ofList (named.takeWhile (· != ')')))

/-- What the lines of a method make of a path, with these values of its arguments. -/
def runReplacements (argument : String → BareText) (lines : List String) (path : List Char) :
    List Char :=
  (lines.filterMap readReplacement?).foldl
    (fun text step => replaceText step.1.toList (argument step.2) text) path

theorem isPrefixOf?_append (front rest : List Char) :
    front.isPrefixOf? (front ++ rest) = some rest :=
  List.isPrefixOf?_eq_some_iff_append_eq.mpr rfl

theorem takeWhile_identifier (text : String) (rest : List Char) :
    ((identifier text).toList ++ ')' :: rest).takeWhile (· != ')') = (identifier text).toList := by
  have proper : ∀ character ∈ (identifier text).toList, (character != ')') = true := by
    intro character member
    rw [identifier, toList_onString] at member
    have word := (isLegal_nameOf text.toList).words character member
    rw [bne_iff_ne]
    rintro rfl
    exact absurd word (by decide)
  rw [List.takeWhile_append_of_pos proper]
  exact List.append_nil _

theorem toList_replacementLine (parameter : PathParameter) :
    (replacementLine parameter).toList =
      replacementFront.toList ++ (escapedChars parameter.token.toList ++ '"' ::
        (argumentMark ++ ((identifier parameter.name).toList ++ ')' :: [')', ';']))) := by
  have quoted : "\", String.valueOf(".toList = '"' :: argumentMark := rfl
  have ended : "));".toList = ')' :: [')', ';'] := rfl
  unfold replacementLine replacementFront
  rw [String.toList_append, String.toList_append, String.toList_append, String.toList_append,
    literalBody, toList_onString, quoted, ended]
  rw [List.append_assoc, List.append_assoc, List.append_assoc, List.cons_append]

theorem readReplacement?_replacementLine (parameter : PathParameter) :
    readReplacement? (replacementLine parameter) =
      some (parameter.token, identifier parameter.name) := by
  unfold readReplacement?
  rw [toList_replacementLine, isPrefixOf?_append]
  simp only [readLiteral?_escapedChars, isPrefixOf?_append, takeWhile_identifier,
    Option.bind_eq_bind, Option.bind_some, Option.pure_def, String.ofList_toList]

theorem startsWith_replacementLine (parameter : PathParameter) :
    startsWith replacementFront (replacementLine parameter) = true := by
  rw [startsWith, toList_replacementLine, List.isPrefixOf_iff_prefix]
  exact List.prefix_append _ _

/-- A call has one line for each parameter that replaces something, and no others. -/
theorem filter_lines_replacement (className : String) (call : Call) :
    (call.lines className).filter (startsWith replacementFront) =
      call.parameters.map replacementLine := by
  have noQuery : (call.queries.map Query.line).filter (startsWith replacementFront) = [] := by
    apply filter_queries
    intro rest
    rw [startsWith_append]
    rfl
  have replacements : (call.parameters.map replacementLine).filter
      (startsWith replacementFront) = call.parameters.map replacementLine := by
    rw [List.filter_eq_self, List.forall_mem_map]
    exact fun parameter _ => startsWith_replacementLine parameter
  unfold lines
  simp only [List.filter_append, noQuery, replacements, String.append_assoc, List.append_nil]
  cases call.body with
  | none => simp [replacementFront, startsWith]
  | some body => simp [replacementFront, startsWith]

theorem readReplacement?_of_not_startsWith {line : String}
    (other : startsWith replacementFront line = false) : readReplacement? line = none := by
  have noFront : replacementFront.toList.isPrefixOf? line.toList = none := by
    rw [← Option.not_isSome_iff_eq_none, List.isSome_isPrefixOf?_eq_isPrefixOf, Bool.not_eq_true]
    exact other
  rw [readReplacement?, noFront]
  rfl

theorem filterMap_lines_replacement (className : String) (call : Call) :
    (call.lines className).filterMap readReplacement? =
      call.parameters.map fun parameter => (parameter.token, identifier parameter.name) := by
  have passed : (call.lines className).filterMap readReplacement? =
      ((call.lines className).filter (startsWith replacementFront)).filterMap
        readReplacement? := by
    rw [List.filterMap_filter]
    refine List.filterMap_congr fun line _ => ?_
    by_cases replaces : startsWith replacementFront line = true
    · rw [if_pos replaces]
    · rw [if_neg replaces, readReplacement?_of_not_startsWith ((Bool.not_eq_true _).mp replaces)]
  have read : (readReplacement? ∘ replacementLine) =
      some ∘ fun parameter => (parameter.token, identifier parameter.name) :=
    funext readReplacement?_replacementLine
  rw [passed, filter_lines_replacement, List.filterMap_map, read, List.filterMap_eq_map]

theorem runReplacements_lines (argument : String → BareText) (className : String) (call : Call)
    (path : List Char) :
    runReplacements argument (call.lines className) path =
      expanded (fun name => argument (identifier name)) call.parameters path := by
  rw [runReplacements, filterMap_lines_replacement, List.foldl_map]
  rfl

end Source.Call

open Source

/-- The method of a call expands its path: one after the other, the parameters of a template are
replaced by their values, and what comes out is the path with a value in the place of each
parameter. -/
theorem url_expands_path (operation : Operation) {path : String} (template : IsTemplate path)
    (method className : String) :
    let call := Endpoint.ofOperation operation path method
    ∃ segments : List Segment, pieces '/' path.toList = segments.map Segment.text ∧
      (∀ value : String → BareText,
        expanded value call.pathParameters path.toList =
            joined ['/'] (segments.map fun segment => (segment.filled value).val) ∧
          IsBare (expanded value call.pathParameters path.toList)) ∧
      ∀ argument : String → BareText,
        Call.runReplacements argument (call.toCall.lines className) path.toList =
          joined ['/'] (segments.map fun segment =>
            (segment.filled fun name => argument (identifier name)).val) := by
  obtain ⟨segments, cut⟩ := template.exists_segments
  refine ⟨segments, cut, ?_, ?_⟩
  · intro value
    have filled := expanded_ofPath cut value
    refine ⟨filled, ?_⟩
    have bare : ∀ piece ∈ segments.map fun segment => (segment.filled value).val,
        IsBare piece := by
      rw [List.forall_mem_map]
      exact fun segment _ => (segment.filled value).property
    exact filled.symm ▸ isBare_joined bare
  · intro argument
    rw [Call.runReplacements_lines]
    exact expanded_ofPath cut _

/-- A path with one parameter twice, which also stands in the name of another. -/
def tangledPath : String := "/shops/{id}/pets/{pet-id}/{id}"

def tangledSegments : List Segment := [
  .literal ⟨[], isBare_nil⟩,
  .literal ⟨"shops".toList, by decide⟩,
  .parameter ⟨"id".toList, by decide⟩ (by decide),
  .literal ⟨"pets".toList, by decide⟩,
  .parameter ⟨"pet-id".toList, by decide⟩ (by decide),
  .parameter ⟨"id".toList, by decide⟩ (by decide)]

def tangledOperation : Operation :=
  { operationId := none, summary := none, description := none, tags := [], parameters := []
    requestBody := none }

/-- A value with a slash and with the name of the other parameter. -/
def tangledValue (argument : String) : BareText :=
  if argument = "id" then ⟨"7/pet-id".toList, by decide⟩ else ⟨"id".toList, by decide⟩

theorem pieces_tangledPath :
    pieces '/' tangledPath.toList = tangledSegments.map Segment.text := by
  decide

theorem tangledPath_expands :
    let call := Endpoint.ofOperation tangledOperation tangledPath "GET"
    IsTemplate tangledPath ∧
      String.ofList (expanded tangledValue call.pathParameters tangledPath.toList) =
        "/shops/7/pet-id/pets/id/7/pet-id" ∧
      String.ofList (Call.runReplacements tangledValue (call.toCall.lines relativeUrlsClass)
        tangledPath.toList) = "/shops/7/pet-id/pets/id/7/pet-id" := by
  intro call
  have template : IsTemplate tangledPath := .of_segments pieces_tangledPath
  obtain ⟨segments, cut, expands, runs⟩ :=
    url_expands_path tangledOperation template "GET" relativeUrlsClass
  have isTangled : segments = tangledSegments :=
    List.map_injective_iff.mpr Segment.text_injective (cut.symm.trans pieces_tangledPath)
  subst isTangled
  refine ⟨template, ?_, ?_⟩
  · rw [(expands tangledValue).1]
    decide
  · rw [runs tangledValue]
    decide +kernel

end OpenApiJava
