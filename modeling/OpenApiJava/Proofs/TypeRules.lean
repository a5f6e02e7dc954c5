import OpenApiJava.Proofs.TypePriorities

/-!
# Rules for types

What type a schema has, one rule for each type. Main statement: every schema has the type that the
rules give it and no other, and the rules look at the type, the format and the reference of a schema
and of its items, and at nothing that lies deeper.
-/

namespace OpenApiJava

namespace Schema

/-- The types of what is not looked at as a list. Numbers and truth values come first, then
references, and a format counts for a text only. -/
inductive HasPlainType (schema : Schema) : JavaType → Prop
  | long :
      schema.type = some "integer" → schema.format = some "int64" →
      HasPlainType schema ⟨"Long", []⟩
  | integer :
      schema.type = some "integer" → schema.format ≠ some "int64" →
      HasPlainType schema ⟨"Integer", []⟩
  | float :
      schema.type = some "number" → schema.format = some "float" →
      HasPlainType schema ⟨"Float", []⟩
  | double :
      schema.type = some "number" → schema.format ≠ some "float" →
      HasPlainType schema ⟨"Double", []⟩
  | boolean :
      schema.type = some "boolean" →
      HasPlainType schema ⟨"Boolean", []⟩
  | registered {name : String} :
      ¬ TypeKind.WinsOverReference schema.type →
      schema.reference = some ("#/components/schemas/" ++ name) →
      HasPlainType schema ⟨name, []⟩
  | foreign {reference : String} :
      ¬ TypeKind.WinsOverReference schema.type →
      schema.reference = some reference →
      ¬ "#/components/schemas/".toList <+: reference.toList →
      HasPlainType schema ⟨"Object", []⟩
  | date :
      schema.type = some "string" → schema.format = some "date" → schema.reference = none →
      HasPlainType schema ⟨"LocalDate", [.localDate]⟩
  | dateTime :
      schema.type = some "string" → schema.format = some "date-time" → schema.reference = none →
      HasPlainType schema ⟨"LocalDateTime", [.localDateTime]⟩
  | text :
      ¬ TypeKind.WinsOverReference schema.type → schema.reference = none →
      (schema.type = some "string" →
        schema.format ≠ some "date" ∧ schema.format ≠ some "date-time") →
      HasPlainType schema ⟨"String", []⟩

/-- The types of all schemas. A list comes before a reference, and its items are no lists. -/
inductive HasType (schema : Schema) : JavaType → Prop
  | plain {type : JavaType} :
      schema.type ≠ some "array" → schema.HasPlainType type →
      HasType schema type
  | objects :
      schema.type = some "array" → schema.items = none →
      HasType schema ⟨"List<Object>", [.list]⟩
  | list {items : Schema} {element : JavaType} :
      schema.type = some "array" → schema.items = some items → items.HasPlainType element →
      HasType schema ⟨"List<" ++ element.name ++ ">", element.imports ++ [.list]⟩

/-! ## The type of a reference -/

theorem referenceTypeName_of_foreign {reference : String}
    (foreign : ¬ "#/components/schemas/".toList <+: reference.toList) :
    referenceTypeName reference = "Object" := by
  have outside : Text.startsWith schemaRegistry reference = false :=
    Bool.eq_false_iff.mpr fun starts => foreign (List.isPrefixOf_iff_prefix.mp starts)
  rw [referenceTypeName, schemaName?, if_neg (by simp [outside])]
  rfl

/-- A reference leads into the registry or out of it. -/
theorem hasPlainType_of_reference {schema : Schema} {reference : String}
    (yields : ¬ TypeKind.WinsOverReference schema.type)
    (there : schema.reference = some reference) :
    schema.HasPlainType ⟨referenceTypeName reference, []⟩ := by
  by_cases registered : "#/components/schemas/".toList <+: reference.toList
  · obtain ⟨rest, same⟩ := registered
    have isReference : reference = schemaRegistry ++ String.ofList rest := by
      rw [← String.toList_inj, String.toList_append, String.toList_ofList]
      exact same.symm
    rw [isReference, referenceTypeName_registry]
    exact .registered yields (there.trans (congrArg some isReference))
  · rw [referenceTypeName_of_foreign registered]
    exact .foreign yields there registered

/-! ## The rules are those of the kinds -/

section Plain

variable {schema : Schema}

theorem hasPlainType_of_winningName? {name : String} (wins : schema.winningName? = some name) :
    schema.HasPlainType ⟨name, []⟩ := by
  unfold winningName? at wins
  by_cases integer : schema.type = some "integer"
  · rw [if_pos integer] at wins
    by_cases long : schema.format = some "int64"
    · rw [if_pos long] at wins
      cases wins
      exact .long integer long
    · rw [if_neg long] at wins
      cases wins
      exact .integer integer long
  · rw [if_neg integer] at wins
    by_cases number : schema.type = some "number"
    · rw [if_pos number] at wins
      by_cases float : schema.format = some "float"
      · rw [if_pos float] at wins
        cases wins
        exact .float number float
      · rw [if_neg float] at wins
        cases wins
        exact .double number float
    · rw [if_neg number] at wins
      by_cases boolean : schema.type = some "boolean"
      · rw [if_pos boolean] at wins
        cases wins
        exact .boolean boolean
      · rw [if_neg boolean] at wins
        cases wins

theorem hasPlainType_textType (yields : ¬ TypeKind.WinsOverReference schema.type)
    (absent : schema.reference = none) :
    schema.HasPlainType schema.textType := by
  unfold textType
  by_cases date : schema.type = some "string" ∧ schema.format = some "date"
  · rw [if_pos date]
    exact .date date.1 date.2 absent
  · rw [if_neg date]
    by_cases dateTime : schema.type = some "string" ∧ schema.format = some "date-time"
    · rw [if_pos dateTime]
      exact .dateTime dateTime.1 dateTime.2 absent
    · rw [if_neg dateTime]
      refine .text yields absent fun string => ⟨?_, ?_⟩
      · exact fun format => date ⟨string, format⟩
      · exact fun format => dateTime ⟨string, format⟩

theorem hasPlainType_plainType (schema : Schema) : schema.HasPlainType schema.plainType := by
  unfold plainType
  cases wins : schema.winningName? with
  | some name => exact hasPlainType_of_winningName? wins
  | none =>
      have yields := winningName?_eq_none_iff.mp wins
      cases there : schema.reference with
      | some reference => exact hasPlainType_of_reference yields there
      | none => exact hasPlainType_textType yields there

theorem HasPlainType.eq_plainType {type : JavaType} (hasType : schema.HasPlainType type) :
    type = schema.plainType := by
  unfold plainType
  cases hasType with
  | long integer long => simp [winningName?, integer, long]
  | integer integer noLong => simp [winningName?, integer, noLong]
  | float number float => simp [winningName?, number, float]
  | double number noFloat => simp [winningName?, number, noFloat]
  | boolean boolean => simp [winningName?, boolean]
  | @registered name yields there =>
      rw [winningName?_eq_none_iff.mpr yields, there]
      exact congrArg (JavaType.mk · []) (referenceTypeName_registry name).symm
  | foreign yields there outside =>
      rw [winningName?_eq_none_iff.mpr yields, there]
      exact congrArg (JavaType.mk · []) (referenceTypeName_of_foreign outside).symm
  | date string date absent => simp [winningName?, textType, string, date, absent]
  | dateTime string dateTime absent => simp [winningName?, textType, string, dateTime, absent]
  | text yields absent noFormat =>
      rw [winningName?_eq_none_iff.mpr yields, absent]
      by_cases string : schema.type = some "string"
      · obtain ⟨noDate, noDateTime⟩ := noFormat string
        simp [textType, noDate, noDateTime]
      · simp [textType, string]

theorem hasPlainType_iff {type : JavaType} :
    schema.HasPlainType type ↔ type = schema.plainType := by
  constructor
  · exact HasPlainType.eq_plainType
  · rintro rfl
    exact schema.hasPlainType_plainType

end Plain

theorem hasType_iff {schema : Schema} {type : JavaType} :
    schema.HasType type ↔ type = JavaType.ofSchema schema := by
  by_cases isArray : schema.type = some "array"
  · rw [JavaType.ofSchema_of_array isArray]
    constructor
    · intro hasType
      cases hasType with
      | plain noArray _ => exact absurd isArray noArray
      | objects _ noItems =>
          rw [noItems]
          rfl
      | list _ hasItems isElement =>
          rw [hasItems, JavaType.item_some, isElement.eq_plainType]
          rfl
    · rintro rfl
      cases hasItems : schema.items with
      | none => exact .objects isArray hasItems
      | some items =>
          rw [JavaType.item_some]
          exact .list isArray hasItems items.hasPlainType_plainType
  · rw [JavaType.ofSchema_of_not_array isArray, ← hasPlainType_iff]
    constructor
    · intro hasType
      cases hasType with
      | plain _ isPlain => exact isPlain
      | objects array _ => exact absurd array isArray
      | list array _ _ => exact absurd array isArray
    · exact .plain isArray

/-! ## What the rules look at -/

/-- The schemas have the same type, format and reference. -/
structure SameFace (first second : Schema) : Prop where
  type : second.type = first.type
  format : second.format = first.format
  reference : second.reference = first.reference

theorem SameFace.hasPlainType {first second : Schema} (same : SameFace first second)
    {type : JavaType} (hasType : first.HasPlainType type) :
    second.HasPlainType type := by
  obtain ⟨sameType, sameFormat, sameReference⟩ := same
  rw [hasPlainType_iff] at hasType ⊢
  rw [hasType]
  unfold plainType winningName? textType
  rw [sameType, sameFormat, sameReference]

theorem hasType_of_sameFace {first second : Schema} (same : SameFace first second)
    (sameItems : Option.Rel SameFace first.items second.items) {type : JavaType}
    (hasType : first.HasType type) :
    second.HasType type := by
  cases hasType with
  | plain noArray isPlain =>
      exact .plain (same.type ▸ noArray) (same.hasPlainType isPlain)
  | objects isArray noItems =>
      rw [noItems] at sameItems
      cases hasItems : second.items with
      | none => exact .objects (same.type.trans isArray) hasItems
      | some items =>
          rw [hasItems] at sameItems
          cases sameItems
  | list isArray hasItems isElement =>
      rw [hasItems] at sameItems
      cases hasOthers : second.items with
      | none =>
          rw [hasOthers] at sameItems
          cases sameItems
      | some others =>
          rw [hasOthers] at sameItems
          cases sameItems with
          | some sameElement =>
              exact .list (same.type.trans isArray) hasOthers (sameElement.hasPlainType isElement)

/-- A schema has the type that the rules give it and no other. Schemas that agree on type, format
and reference, and on those of their items, have the same type, whatever else they hold. -/
theorem type_follows_rules (schema : Schema) :
    (∀ type, JavaType.ofSchema schema = type ↔ schema.HasType type) ∧
      ∀ other, SameFace schema other → Option.Rel SameFace schema.items other.items →
        JavaType.ofSchema other = JavaType.ofSchema schema := by
  constructor
  · intro type
    rw [hasType_iff, eq_comm]
  · intro other same sameItems
    have hasType : schema.HasType (JavaType.ofSchema schema) := hasType_iff.mpr rfl
    exact (hasType_iff.mp (hasType_of_sameFace same sameItems hasType)).symm

end Schema

/-- A row of a table, with whatever stands in it. -/
def rowOf (cells : Option Schema) (properties : List (String × Schema)) : Schema :=
  { type := some "array", format := some "date", reference := none, items := cells
    properties := properties, description := properties.head?.map Prod.fst }

/-- A list of rows. -/
def tableOf (cells : Option Schema) (properties : List (String × Schema)) : Schema :=
  { type := some "array", format := none, reference := some "#/components/schemas/Table"
    items := some (rowOf cells properties), properties := properties, description := none }

/-- What stands in the rows of a table does not matter: the rows are texts. -/
theorem tableOf_has_type :
    JavaType.ofSchema (tableOf (some (rowOf none [])) [("cell", rowOf none [])]) =
        JavaType.ofSchema (tableOf none []) ∧
      JavaType.ofSchema (tableOf none []) = ⟨"List<String>", [.list]⟩ := by
  obtain ⟨rules, alike⟩ := Schema.type_follows_rules (tableOf none [])
  have yields : ¬ TypeKind.WinsOverReference (rowOf none []).type := by
    simp [TypeKind.WinsOverReference, rowOf]
  have isText : (rowOf none []).HasPlainType ⟨"String", []⟩ :=
    .text yields rfl (by simp [rowOf])
  have sameItems : Option.Rel Schema.SameFace (tableOf none []).items
      (tableOf (some (rowOf none [])) [("cell", rowOf none [])]).items :=
    .some ⟨rfl, rfl, rfl⟩
  exact ⟨alike _ ⟨rfl, rfl, rfl⟩ sameItems, (rules _).mpr (.list rfl rfl isText)⟩

end OpenApiJava
