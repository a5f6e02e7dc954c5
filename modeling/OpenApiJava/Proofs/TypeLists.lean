import OpenApiJava.Proofs.SchemaGrammar
import OpenApiJava.Proofs.TypePriorities

/-!
# Lists of types

A schema may name its type in a list, next to null. Main statement: the list stands for its type as
long as no null stands in front that is no text; behind such a null the type is lost, which changes
nothing only where the schema does not need it.
-/

namespace OpenApiJava

/-- Null, or the text that spells it. -/
def Tree.IsNullType (tree : Tree) : Prop :=
  tree = .null ∨ tree = .text "null"

namespace Schema

/-! ## Schemas without their type -/

/-- The schema without the name of its type. -/
def untyped (schema : Schema) : Schema :=
  { schema with type := none }

/-- The Java type is another one without the name of the type. -/
inductive NeedsType (schema : Schema) : Prop
  | array : schema.type = some "array" → NeedsType schema
  | winning {name : String} :
      schema.winningName? = some name →
      (∀ reference, schema.reference = some reference → referenceTypeName reference ≠ name) →
      NeedsType schema
  | dated :
      schema.type = some "string" → schema.reference = none →
      schema.format = some "date" ∨ schema.format = some "date-time" →
      NeedsType schema

theorem plainType_untyped (schema : Schema) :
    schema.untyped.plainType =
      match schema.reference with
      | some reference => ⟨referenceTypeName reference, []⟩
      | none => ⟨"String", []⟩ := by
  have noWin : schema.untyped.winningName? = none := rfl
  have noDate : schema.untyped.textType = ⟨"String", []⟩ := rfl
  have kept : schema.untyped.reference = schema.reference := rfl
  rw [plainType, noWin, noDate, kept]
  cases schema.reference <;> rfl

theorem winningName?_ne_string {schema : Schema} : schema.winningName? ≠ some "String" := by
  unfold winningName?
  split
  · split <;> decide
  · split
    · split <;> decide
    · split <;> decide

theorem textType_eq_string_iff {schema : Schema} :
    schema.textType = ⟨"String", []⟩ ↔
      ¬ (schema.type = some "string" ∧
        (schema.format = some "date" ∨ schema.format = some "date-time")) := by
  unfold textType
  by_cases date : schema.type = some "string" ∧ schema.format = some "date"
  · rw [if_pos date]
    simp [date]
  · rw [if_neg date]
    by_cases dateTime : schema.type = some "string" ∧ schema.format = some "date-time"
    · rw [if_pos dateTime]
      simp [dateTime]
    · rw [if_neg dateTime]
      tauto

section NoArray

variable {schema : Schema} (noArray : schema.type ≠ some "array")

include noArray

theorem needsType_iff_of_winningName? {name : String} (wins : schema.winningName? = some name) :
    schema.NeedsType ↔
      ∀ reference, schema.reference = some reference → referenceTypeName reference ≠ name := by
  constructor
  · intro needs
    cases needs with
    | array isArray => exact absurd isArray noArray
    | winning winsAlso others =>
        cases wins.symm.trans winsAlso
        exact others
    | dated _ absent _ =>
        intro reference there
        cases absent.symm.trans there
  · exact .winning wins

theorem not_needsType_of_reference {reference : String} (yields : schema.winningName? = none)
    (there : schema.reference = some reference) :
    ¬ schema.NeedsType := by
  intro needs
  cases needs with
  | array isArray => exact noArray isArray
  | winning wins _ => cases yields.symm.trans wins
  | dated _ absent _ => cases there.symm.trans absent

theorem needsType_iff_of_no_reference (yields : schema.winningName? = none)
    (absent : schema.reference = none) :
    schema.NeedsType ↔ schema.type = some "string" ∧
      (schema.format = some "date" ∨ schema.format = some "date-time") := by
  constructor
  · intro needs
    cases needs with
    | array isArray => exact absurd isArray noArray
    | winning wins _ => cases yields.symm.trans wins
    | dated string _ format => exact ⟨string, format⟩
  · rintro ⟨string, format⟩
    exact .dated string absent format

end NoArray

/-- Without the name of its type a schema has the same Java type exactly if it does not need it. -/
theorem ofSchema_untyped_eq_iff {schema : Schema} :
    JavaType.ofSchema schema.untyped = JavaType.ofSchema schema ↔ ¬ schema.NeedsType := by
  have untypedNoArray : schema.untyped.type ≠ some "array" := nofun
  rw [JavaType.ofSchema_of_not_array untypedNoArray, plainType_untyped]
  by_cases isArray : schema.type = some "array"
  · -- Only a list needs the import of lists.
    have needs : schema.NeedsType := .array isArray
    refine iff_of_false ?_ (not_not_intro needs)
    intro same
    rw [JavaType.ofSchema_of_array isArray] at same
    have imports := congrArg JavaType.imports same
    cases there : schema.reference <;> simp [there, JavaType.listOf] at imports
  · rw [JavaType.ofSchema_of_not_array isArray, plainType]
    cases wins : schema.winningName? with
    | some name =>
        rw [needsType_iff_of_winningName? isArray wins]
        cases there : schema.reference with
        | some reference => simp
        | none =>
            have other : "String" ≠ name := by
              rintro rfl
              exact winningName?_ne_string wins
            simp [other]
    | none =>
        cases there : schema.reference with
        | some reference =>
            exact iff_of_true rfl (not_needsType_of_reference isArray wins there)
        | none =>
            rw [needsType_iff_of_no_reference isArray wins there, eq_comm, textType_eq_string_iff]

/-! ## Checks without the type -/

/-- The check of a mapping whose type is known. -/
def checkTyped (type : Option String) (entries : Entries) : Checked Schema :=
  Schema.mk <$> Checked.valid type
    <*> entries.optionalText "format"
    <*> entries.optionalText (entries.spelling "$ref" "reference")
    <*> checkItemsFound (entries.find? "items")
    <*> checkPropertiesFound (entries.find? "properties")
    <*> entries.optionalText "description"

variable {entries : Entries} {type : Option String}

theorem check_eq_checkTyped
    (isType : checkText (typeOf (entries.find? "type")) = .valid type) :
    check (.mapping entries) = checkTyped type entries := by
  rw [check_fields, isType]
  rfl

theorem checkTyped_congr {changed : Entries}
    (same : ∀ field, field ≠ "type" → changed.find? field = entries.find? field) :
    checkTyped type changed = checkTyped type entries := by
  have format := same "format" (by decide)
  have registered := same "$ref" (by decide)
  have reference := same "reference" (by decide)
  have items := same "items" (by decide)
  have properties := same "properties" (by decide)
  have description := same "description" (by decide)
  have spelling : changed.spelling "$ref" "reference" = entries.spelling "$ref" "reference" := by
    rw [Entries.spelling, Entries.has, registered, Entries.spelling, Entries.has]
  have isSpelling : entries.spelling "$ref" "reference" ≠ "type" := by
    unfold Entries.spelling
    split <;> decide
  unfold checkTyped Entries.optionalText
  rw [format, spelling, same _ isSpelling, items, properties, description]

/-- The type has no part in the issues of a mapping. -/
theorem checkTyped_none : checkTyped none entries = untyped <$> checkTyped type entries := by
  unfold checkTyped
  generalize entries.optionalText "format" = format,
    entries.optionalText (entries.spelling "$ref" "reference") = reference,
    checkItemsFound (entries.find? "items") = items,
    checkPropertiesFound (entries.find? "properties") = properties,
    entries.optionalText "description" = description
  cases format <;> cases reference <;> cases items <;> cases properties <;> cases description <;>
    rfl

/-! ## Lists of types -/

variable {front back : List Tree} {name : String}

/-- The first null that is no text hides all types behind it. -/
theorem typeOf_types (nulls : ∀ type ∈ front, type.IsNullType) (named : name ≠ "null") :
    (.null ∉ front →
        typeOf (some (.list (front ++ .text name :: back))) = some (.text name)) ∧
      (.null ∈ front → typeOf (some (.list (front ++ .text name :: back))) = some .null) := by
  have isText : ∀ type ∈ front, type ≠ .null → type = .text "null" :=
    fun type member noNull => (nulls type member).resolve_left noNull
  constructor
  · intro noNull
    refine typeOf_list_eq_some_iff.mpr ⟨?_, front, back, rfl, ?_⟩
    · intro same
      exact named (Tree.text.inj same)
    · intro type member
      apply isText type member
      rintro rfl
      exact noNull member
  · intro isNull
    obtain ⟨before, after, rfl, noNull⟩ := List.eq_append_cons_of_mem isNull
    refine typeOf_list_eq_some_iff.mpr ⟨nofun, before, after ++ .text name :: back, ?_, ?_⟩
    · rw [List.append_assoc, List.cons_append]
    · intro type member
      apply isText type (List.mem_append_left _ member)
      rintro rfl
      exact noNull member

/-- A list that holds one type next to nulls stands for it, unless null stands in front. -/
theorem check_types (isList : entries.find? "type" = some (.list (front ++ .text name :: back)))
    (nulls : ∀ type ∈ front, type.IsNullType) (named : name ≠ "null") :
    (.null ∉ front →
        check (.mapping entries) =
          check (.mapping (entries.put (.text "type") (.text name)))) ∧
      (.null ∈ front →
        check (.mapping entries) =
          untyped <$> check (.mapping (entries.put (.text "type") (.text name)))) := by
  have single : (entries.put (.text "type") (.text name)).find? "type" = some (.text name) :=
    findNamed?_putEntry_self entries (.text name)
  have others : ∀ field, field ≠ "type" →
      (entries.put (.text "type") (.text name)).find? field = entries.find? field := by
    intro field different
    apply findNamed?_putEntry
    intro same
    exact different (Tree.text.inj same).symm
  have singleCheck : check (.mapping (entries.put (.text "type") (.text name))) =
      checkTyped (some name) entries := by
    rw [check_eq_checkTyped (by rw [single]; rfl), checkTyped_congr others]
  obtain ⟨shown, hidden⟩ := @typeOf_types front back name nulls named
  rw [singleCheck]
  constructor
  · intro noNull
    apply check_eq_checkTyped
    rw [isList, shown noNull]
    rfl
  · intro isNull
    rw [← checkTyped_none]
    apply check_eq_checkTyped
    rw [isList, hidden isNull]
    rfl

/-- A list of types has the issues of its one type, and stands for the same Java type exactly if no
null but the text stands in front of the type, or the schema does not need it. What stands behind
does not matter. -/
theorem types_resolve_alike_iff
    (isList : entries.find? "type" = some (.list (front ++ .text name :: back)))
    (nulls : ∀ type ∈ front, type.IsNullType) (named : name ≠ "null") :
    (∀ issues, check (.mapping entries) = .invalid issues ↔
        check (.mapping (entries.put (.text "type") (.text name))) = .invalid issues) ∧
      ∀ schema, check (.mapping (entries.put (.text "type") (.text name))) = .valid schema →
        ∃ listed, check (.mapping entries) = .valid listed ∧
          (JavaType.ofSchema listed = JavaType.ofSchema schema ↔
            (.null ∈ front → ¬ schema.NeedsType)) := by
  obtain ⟨shown, hidden⟩ := check_types isList nulls named
  by_cases isNull : .null ∈ front
  · rw [hidden isNull]
    constructor
    · intro issues
      cases check (.mapping (entries.put (.text "type") (.text name))) <;>
        simp [Functor.map, Checked.map]
    · intro schema valid
      rw [valid]
      refine ⟨schema.untyped, rfl, ?_⟩
      rw [ofSchema_untyped_eq_iff]
      exact ⟨fun spared _ => spared, fun spared => spared isNull⟩
  · rw [shown isNull]
    refine ⟨fun issues => Iff.rfl, fun schema valid => ⟨schema, valid, ?_⟩⟩
    exact iff_of_true rfl fun isNullAfterAll => absurd isNullAfterAll isNull

end Schema

/-- A list of types with null in both spellings, one in front of the type and one behind it. -/
def countEntries : Entries :=
  [(.text "type", .list [.text "null", .text "integer", .null]), (.text "format", .text "int64")]

/-- The same with null in front of the type. -/
def hiddenCountEntries : Entries :=
  [(.text "type", .list [.null, .text "integer"]), (.text "format", .text "int64")]

/-- An integer of a format. -/
def countSchema (type : Option String) : Schema :=
  { type := type, format := some "int64", reference := none, items := none, properties := []
    description := none }

theorem countEntries_resolve_alike :
    ∃ listed, Schema.check (.mapping countEntries) = .valid listed ∧
      JavaType.ofSchema listed = JavaType.ofSchema (countSchema (some "integer")) := by
  have nulls : ∀ type ∈ [Tree.text "null"], type.IsNullType :=
    List.forall_mem_singleton.mpr (Or.inr rfl)
  have noNull : Tree.null ∉ [Tree.text "null"] := by simp
  obtain ⟨_, alike⟩ := @Schema.types_resolve_alike_iff countEntries [.text "null"] [.null]
    "integer" rfl nulls (by decide)
  obtain ⟨listed, valid, same⟩ := alike (countSchema (some "integer")) rfl
  exact ⟨listed, valid, same.mpr fun isNull => absurd isNull noNull⟩

theorem not_forall_types_resolve_alike :
    ¬ ∀ (entries : Entries) (front back : List Tree) (name : String) (listed schema : Schema),
      entries.find? "type" = some (.list (front ++ .text name :: back)) →
      (∀ type ∈ front ++ back, type.IsNullType) → name ≠ "null" →
      Schema.check (.mapping entries) = .valid listed →
      Schema.check (.mapping (entries.put (.text "type") (.text name))) = .valid schema →
      JavaType.ofSchema listed = JavaType.ofSchema schema := by
  intro alike
  have nulls : ∀ type ∈ [Tree.null] ++ [], type.IsNullType :=
    List.forall_mem_singleton.mpr (Or.inl rfl)
  have same := alike hiddenCountEntries [.null] [] "integer" (countSchema none)
    (countSchema (some "integer")) rfl nulls (by decide) rfl rfl
  exact absurd same (by decide)

end OpenApiJava
