import OpenApiJava.Dto

/-!
# References behind types

A type is taken from a reference where neither the schema nor, in a list, the items have a type that
wins. Main statements: a type that is taken from a reference has the name that the reference leads
to, alone or in a list, and all other types have names that do not depend on the document.
-/

namespace OpenApiJava

/-! ## Kinds that are references -/

namespace TypeKind

/-- The type is one that wins over a reference wherever it stands. -/
def WinsOverReference (type : Option String) : Prop :=
  type = some "integer" ∨ type = some "number" ∨ type = some "boolean"

theorem fits_firstOf (kinds : List TypeKind) (schema : Schema) :
    fits schema (firstOf kinds schema) = true := by
  unfold firstOf
  cases found : kinds.find? (fits schema) with
  | none => rfl
  | some kind => exact List.find?_some found

theorem ofSchema_eq_list_iff {schema : Schema} :
    ofSchema schema = .list ↔ schema.type = some "array" := by
  constructor
  · intro isList
    have fitting : fits schema (ofSchema schema) = true := fits_firstOf all schema
    rw [isList] at fitting
    simpa [fits] using fitting
  · intro isArray
    simp [ofSchema, firstOf, all, fits, isArray]

/-- A schema is read as a reference if it has one and no type that wins over it. -/
theorem ofSchema_eq_reference_iff {schema : Schema} :
    ofSchema schema = .reference ↔
      ¬ WinsOverReference schema.type ∧ schema.type ≠ some "array" ∧
        schema.reference.isSome = true := by
  constructor
  · intro isReference
    have fitting : fits schema (ofSchema schema) = true := fits_firstOf all schema
    rw [isReference] at fitting
    refine ⟨?_, ?_, fitting⟩
    · rintro (integer | number | boolean)
      · simp [ofSchema, firstOf, all, fits, List.find?_cons, integer] at isReference
        split at isReference <;> cases isReference
      · simp [ofSchema, firstOf, all, fits, List.find?_cons, number] at isReference
        split at isReference <;> cases isReference
      · simp [ofSchema, firstOf, all, fits, boolean] at isReference
    · intro isArray
      rw [ofSchema_eq_list_iff.mpr isArray] at isReference
      cases isReference
  · rintro ⟨yields, noArray, there⟩
    simp only [WinsOverReference, not_or] at yields
    simp [ofSchema, firstOf, all, fits, yields, noArray, there]

/-- The kind of a schema that is not looked at as a list is the first of these that fits. -/
theorem ofItem_eq (schema : Schema) :
    ofItem schema =
      firstOf [long, integer, float, double, boolean, reference, date, dateTime, string] schema := by
  have kinds : all.filter (· != list) =
      [long, integer, float, double, boolean, reference, date, dateTime, string] := by
    decide
  rw [ofItem, kinds]

/-- The items of a list are read as a reference even if they are lists themselves. -/
theorem ofItem_eq_reference_iff {items : Schema} :
    ofItem items = .reference ↔
      ¬ WinsOverReference items.type ∧ items.reference.isSome = true := by
  constructor
  · intro isReference
    have fitting : fits items (ofItem items) = true := fits_firstOf _ items
    rw [isReference] at fitting
    refine ⟨?_, fitting⟩
    rw [ofItem_eq] at isReference
    rintro (integer | number | boolean)
    · simp [firstOf, fits, List.find?_cons, integer] at isReference
      split at isReference <;> cases isReference
    · simp [firstOf, fits, List.find?_cons, number] at isReference
      split at isReference <;> cases isReference
    · simp [firstOf, fits, boolean] at isReference
  · rintro ⟨yields, there⟩
    simp only [WinsOverReference, not_or] at yields
    rw [ofItem_eq]
    simp [firstOf, fits, yields, there]

end TypeKind

/-! ## Types that are taken from references -/

/-- The type of a schema, or of its items if it is a list, is taken from a reference. -/
inductive Schema.TypedBy (schema : Schema) : String → Prop
  | itself {reference : String} :
      ¬ TypeKind.WinsOverReference schema.type →
      schema.type ≠ some "array" →
      schema.reference = some reference →
      TypedBy schema reference
  | items {items : Schema} {reference : String} :
      schema.type = some "array" →
      schema.items = some items →
      ¬ TypeKind.WinsOverReference items.type →
      items.reference = some reference →
      TypedBy schema reference

namespace JavaType

theorem scalar_of_ne_reference {schema : Schema} {kind : TypeKind} (other : kind ≠ .reference) :
    scalar schema kind = ⟨kind.name, kind.imports⟩ := by
  unfold scalar
  split
  · exact absurd rfl other
  · rfl

theorem scalar_reference {schema : Schema} {reference : String}
    (there : schema.reference = some reference) :
    scalar schema .reference = ⟨referenceTypeName reference, []⟩ := by
  unfold scalar
  rw [there]

theorem ofSchema_of_ne_list {schema : Schema} (noList : TypeKind.ofSchema schema ≠ .list) :
    ofSchema schema = scalar schema (TypeKind.ofSchema schema) := by
  unfold ofSchema
  split
  · rename_i isList
    exact absurd isList noList
  · rfl

theorem ofSchema_of_list {schema : Schema} (isList : TypeKind.ofSchema schema = .list) :
    ofSchema schema = listOf (item schema.items) := by
  unfold ofSchema
  rw [isList]

def Holds (type : JavaType) (element : String) : Prop :=
  type.name = element ∨ type.name = "List<" ++ element ++ ">"

theorem holds_of_typedBy {schema : Schema} {reference : String}
    (typed : schema.TypedBy reference) :
    (ofSchema schema).Holds (referenceTypeName reference) := by
  cases typed with
  | itself yields noArray there =>
      have isReference : TypeKind.ofSchema schema = .reference :=
        TypeKind.ofSchema_eq_reference_iff.mpr ⟨yields, noArray, by rw [there]; rfl⟩
      left
      rw [ofSchema_of_ne_list (by simp [isReference]), isReference, scalar_reference there]
  | items isArray hasItems yields there =>
      have isReference := TypeKind.ofItem_eq_reference_iff.mpr ⟨yields, by rw [there]; rfl⟩
      right
      rw [ofSchema_of_list (TypeKind.ofSchema_eq_list_iff.mpr isArray), hasItems]
      simp only [listOf, item, isReference, scalar_reference there]

/-- The name of a type is fixed, or it is taken from a reference. -/
theorem exists_holds_ofSchema (schema : Schema) :
    ∃ element, (ofSchema schema).Holds element ∧
      (element = objectType ∨ (∃ kind : TypeKind, element = kind.name) ∨
        ∃ reference, schema.TypedBy reference ∧ element = referenceTypeName reference) := by
  by_cases isList : TypeKind.ofSchema schema = .list
  · rw [ofSchema_of_list isList]
    have isArray := TypeKind.ofSchema_eq_list_iff.mp isList
    cases hasItems : schema.items with
    | none => exact ⟨objectType, Or.inr rfl, Or.inl rfl⟩
    | some items =>
        by_cases isReference : TypeKind.ofItem items = .reference
        · obtain ⟨yields, there⟩ := TypeKind.ofItem_eq_reference_iff.mp isReference
          obtain ⟨reference, there⟩ := Option.isSome_iff_exists.mp there
          refine ⟨referenceTypeName reference, Or.inr ?_, Or.inr (Or.inr ⟨reference, ?_, rfl⟩)⟩
          · simp only [listOf, item, isReference, scalar_reference there]
          · exact .items isArray hasItems yields there
        · refine ⟨(TypeKind.ofItem items).name, Or.inr ?_, Or.inr (Or.inl ⟨_, rfl⟩)⟩
          simp only [listOf, item, scalar_of_ne_reference isReference]
  · rw [ofSchema_of_ne_list isList]
    by_cases isReference : TypeKind.ofSchema schema = .reference
    · obtain ⟨yields, noArray, there⟩ := TypeKind.ofSchema_eq_reference_iff.mp isReference
      obtain ⟨reference, there⟩ := Option.isSome_iff_exists.mp there
      refine ⟨referenceTypeName reference, Or.inl ?_, Or.inr (Or.inr ⟨reference, ?_, rfl⟩)⟩
      · rw [isReference, scalar_reference there]
      · exact .itself yields noArray there
    · refine ⟨(TypeKind.ofSchema schema).name, Or.inl ?_, Or.inr (Or.inl ⟨_, rfl⟩)⟩
      rw [scalar_of_ne_reference isReference]

end JavaType

/-! ## References into the registry -/

theorem referenceTypeName_registry (target : String) :
    referenceTypeName (schemaRegistry ++ target) = target := by
  have inRegistry : Text.startsWith schemaRegistry (schemaRegistry ++ target) = true := by
    simp [Text.startsWith]
  have behind : (schemaRegistry ++ target).toList.drop schemaRegistry.length = target.toList := by
    rw [String.toList_append, ← String.length_toList, List.drop_left]
  unfold referenceTypeName schemaName?
  rw [if_pos inRegistry, behind, String.ofList_toList]
  rfl

theorem registry_append_inj {first second : String}
    (same : schemaRegistry ++ first = schemaRegistry ++ second) :
    first = second := by
  rw [← referenceTypeName_registry first, same, referenceTypeName_registry]

end OpenApiJava
