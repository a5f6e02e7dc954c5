import OpenApiJava.Proofs.ExactImports
import OpenApiJava.Proofs.PackageClosure
import OpenApiJava.Proofs.TypeRules

/-!
# Classes of schemas

The classes of a document stand in the order of its schemas. Main statement: a schema whose name
asks for a response has one class, and every other schema has a request class and right behind it a
response class that differs in its variant and its package alone; each class has one field for each
property, in their order; and no two classes have the same place, if no two schemas have the same
name.
-/

namespace OpenApiJava

/-- The field stands for the property, under the name as it is spelled. -/
structure DtoField.IsOf (property : String × Schema) (field : DtoField) : Prop where
  name : field.name = property.1
  baseName : field.baseName = property.1
  description : field.description = property.2.description
  type : property.2.HasType field.type

namespace Dto

/-- The class is that of the schema, as a response or as a request. -/
structure IsVariant (settings : Settings) (asResponse : Bool) (entry : String × Schema)
    (dto : Dto) : Prop where
  packageName : dto.packageName =
    if asResponse then settings.responsePackage else settings.requestPackage
  className : dto.className = entry.1
  description : dto.description = entry.2.description
  isResponse : dto.isResponse = asResponse
  fields : List.Forall₂ DtoField.IsOf entry.2.properties dto.fields
  imports : ∀ needed, needed ∈ dto.imports ↔ ∃ field ∈ dto.fields, needed ∈ field.type.imports
  importedOnce : dto.imports.Nodup

/-- The classes differ in their variant and their package, and in nothing else. -/
structure DifferInVariant (first second : Dto) : Prop where
  className : second.className = first.className
  description : second.description = first.description
  fields : second.fields = first.fields
  imports : second.imports = first.imports
  isResponse : second.isResponse ≠ first.isResponse
  packageName : second.packageName ≠ first.packageName

/-- The classes of schemas one after the other: one response, or a request and a response. -/
inductive AreOf (settings : Settings) : List (String × Schema) → List Dto → Prop
  | nil : AreOf settings [] []
  | response {entry : String × Schema} {rest : List (String × Schema)} {response : Dto}
      {others : List Dto} :
      "ResponseDTO".toList <:+ entry.1.toList →
      response.IsVariant settings true entry →
      AreOf settings rest others →
      AreOf settings (entry :: rest) (response :: others)
  | both {entry : String × Schema} {rest : List (String × Schema)} {request response : Dto}
      {others : List Dto} :
      ¬ "ResponseDTO".toList <:+ entry.1.toList →
      request.IsVariant settings false entry →
      response.IsVariant settings true entry →
      request.DifferInVariant response →
      AreOf settings rest others →
      AreOf settings (entry :: rest) (request :: response :: others)

variable {name : String} {schema : Schema} {asResponse : Bool} {settings : Settings}

theorem isResponseName_iff : isResponseName name = true ↔ "ResponseDTO".toList <:+ name.toList :=
  List.isSuffixOf_iff_suffix

/-! ## The class of one schema -/

theorem isOf_field (property : String × Schema) : (field property).IsOf property where
  name := rfl
  baseName := rfl
  description := rfl
  type := Schema.hasType_iff.mpr rfl

theorem forall₂_isOf_fields (properties : List (String × Schema)) :
    List.Forall₂ DtoField.IsOf properties (properties.map field) := by
  induction properties with
  | nil => exact .nil
  | cons property rest inductionHypothesis =>
      exact .cons (isOf_field property) inductionHypothesis

/-- The class that is built for a schema is of the variant that was asked for, or a response if the
name of the schema asks for it. -/
theorem isVariant_ofSchema (name : String) (schema : Schema) (asResponse : Bool)
    (settings : Settings) :
    (ofSchema name schema asResponse settings).IsVariant settings
      (asResponse || isResponseName name) (name, schema) where
  packageName := rfl
  className := rfl
  description := rfl
  isResponse := rfl
  fields := forall₂_isOf_fields schema.properties
  imports := fun _ => mem_importsOf_iff
  importedOnce := by
    have nodup : Import.all.Nodup := by decide
    exact nodup.sublist (importsOf_sublist _)

theorem isVariant_of_mem_variants (isBuilt : asResponse ∈ variants name) (schema : Schema)
    (settings : Settings) :
    (ofSchema name schema asResponse settings).IsVariant settings asResponse (name, schema) := by
  have variant := isVariant_ofSchema name schema asResponse settings
  have same : (asResponse || isResponseName name) = asResponse :=
    isResponse_of_variant isBuilt schema settings
  rwa [same] at variant

theorem differInVariant_ofSchema (isRequest : isResponseName name = false) (schema : Schema)
    (settings : Settings) :
    (ofSchema name schema false settings).DifferInVariant (ofSchema name schema true settings) where
  className := rfl
  description := rfl
  fields := rfl
  imports := rfl
  isResponse := by
    rw [isResponse_of_variant (mem_variants_true name),
      isResponse_of_variant (mem_variants_false_iff.mpr isRequest)]
    decide
  packageName := by
    rw [packageName_ofSchema, packageName_ofSchema,
      isResponse_of_variant (mem_variants_true name),
      isResponse_of_variant (mem_variants_false_iff.mpr isRequest)]
    exact (requestPackage_ne_responsePackage settings).symm

/-! ## The classes of all schemas -/

theorem ofSchemas_cons (entry : String × Schema) (rest : List (String × Schema))
    (settings : Settings) :
    ofSchemas (entry :: rest) settings =
      (variants entry.1).map (ofSchema entry.1 entry.2 · settings) ++ ofSchemas rest settings :=
  List.flatMap_cons

theorem areOf_ofSchemas (schemas : List (String × Schema)) (settings : Settings) :
    AreOf settings schemas (ofSchemas schemas settings) := by
  induction schemas with
  | nil => exact .nil
  | cons entry rest inductionHypothesis =>
      obtain ⟨name, schema⟩ := entry
      rw [ofSchemas_cons]
      cases response : isResponseName name with
      | true =>
          have variantsOf : variants name = [true] := by simp [variants, response]
          rw [variantsOf]
          exact .response (isResponseName_iff.mp response)
            (isVariant_of_mem_variants (mem_variants_true name) schema settings)
            inductionHypothesis
      | false =>
          have variantsOf : variants name = [false, true] := by simp [variants, response]
          have isRequest : ¬ "ResponseDTO".toList <:+ name.toList := by
            rw [← isResponseName_iff, response]
            decide
          rw [variantsOf]
          exact .both isRequest
            (isVariant_of_mem_variants (mem_variants_false_iff.mpr response) schema settings)
            (isVariant_of_mem_variants (mem_variants_true name) schema settings)
            (differInVariant_ofSchema response schema settings)
            inductionHypothesis

/-- Where a class stands: its package and its name. -/
def place (dto : Dto) : String × String :=
  (dto.packageName, dto.className)

theorem isResponse_iff_of_mem {schemas : List (String × Schema)} {dto : Dto}
    (member : dto ∈ ofSchemas schemas settings) :
    dto.isResponse = true ↔ dto.packageName = settings.responsePackage := by
  obtain ⟨name, schema, asResponse, _, variant, rfl⟩ := mem_ofSchemas_iff.mp member
  rw [packageName_ofSchema, isResponse_of_variant variant]
  cases asResponse with
  | true => simp
  | false => simp [requestPackage_ne_responsePackage settings]

theorem nodup_places_of_variants (name : String) (schema : Schema) (settings : Settings) :
    ((variants name).map fun asResponse =>
      (ofSchema name schema asResponse settings).place).Nodup := by
  unfold variants
  cases response : isResponseName name with
  | true => exact List.nodup_singleton _
  | false =>
      have different := (differInVariant_ofSchema response schema settings).packageName
      have apart : (ofSchema name schema false settings).place ≠
          (ofSchema name schema true settings).place :=
        fun same => different (congrArg Prod.fst same).symm
      simpa using apart

/-- Two classes have the same place only if their schemas have the same name. -/
theorem nodup_places_iff (schemas : List (String × Schema)) (settings : Settings) :
    ((ofSchemas schemas settings).map place).Nodup ↔ (schemas.map Prod.fst).Nodup := by
  have places : (ofSchemas schemas settings).map place =
      schemas.flatMap fun entry => (variants entry.1).map fun asResponse =>
        (ofSchema entry.1 entry.2 asResponse settings).place := by
    simp [ofSchemas, List.map_flatMap, Function.comp_def]
  have names : (schemas.map Prod.fst).Nodup ↔
      schemas.Pairwise fun first second => first.1 ≠ second.1 := List.pairwise_map
  rw [places, List.nodup_flatMap, names]
  constructor
  · rintro ⟨_, apart⟩
    refine apart.imp fun {first second} disjoint same => ?_
    -- Every schema has a response class, so that schemas of one name would share a place.
    have inFirst : (settings.responsePackage, first.1) ∈ (variants first.1).map fun asResponse =>
        (ofSchema first.1 first.2 asResponse settings).place :=
      List.mem_map.mpr ⟨true, mem_variants_true first.1, rfl⟩
    have inSecond : (settings.responsePackage, first.1) ∈ (variants second.1).map fun asResponse =>
        (ofSchema second.1 second.2 asResponse settings).place :=
      List.mem_map.mpr ⟨true, mem_variants_true second.1, by rw [same]; rfl⟩
    exact disjoint inFirst inSecond
  · intro different
    refine ⟨fun entry _ => nodup_places_of_variants entry.1 entry.2 settings, ?_⟩
    refine different.imp fun {first second} differ place inFirst inSecond => ?_
    obtain ⟨_, _, rfl⟩ := List.mem_map.mp inFirst
    obtain ⟨_, _, same⟩ := List.mem_map.mp inSecond
    exact differ (congrArg Prod.snd same).symm

end Dto

/-- The classes of a document follow its schemas one by one. A class is a response exactly if it
stands in the package of responses, and no two classes have the same place exactly if no two schemas
have the same name. -/
theorem classes_follow_schemas (schemas : List (String × Schema)) (settings : Settings) :
    Dto.AreOf settings schemas (Dto.ofSchemas schemas settings) ∧
      (((Dto.ofSchemas schemas settings).map Dto.place).Nodup ↔ (schemas.map Prod.fst).Nodup) ∧
      ∀ dto ∈ Dto.ofSchemas schemas settings,
        dto.isResponse = true ↔ dto.packageName = settings.responsePackage :=
  ⟨Dto.areOf_ofSchemas schemas settings, Dto.nodup_places_iff schemas settings,
    fun _ member => Dto.isResponse_iff_of_mem member⟩

/-- Pets have a request and a response, owners only a response. -/
theorem ownedPets_classes_follow :
    (Dto.ofSchemas ownedPets.schemas ownedSettings).map Dto.place =
        [("com.example.dto.RequestDTO", "Pet"), ("com.example.dto.ResponseDTO", "Pet"),
          ("com.example.dto.ResponseDTO", "OwnerResponseDTO")] ∧
      ((Dto.ofSchemas ownedPets.schemas ownedSettings).map Dto.place).Nodup ∧
      (Dto.ofSchema "Pet" ownedPet true ownedSettings).isResponse = true := by
  obtain ⟨_, distinct, variants⟩ := classes_follow_schemas ownedPets.schemas ownedSettings
  have isClass : Dto.ofSchema "Pet" ownedPet true ownedSettings ∈
      Dto.ofSchemas ownedPets.schemas ownedSettings :=
    Dto.mem_ofSchemas_iff.mpr
      ⟨"Pet", ownedPet, true, List.mem_cons_self, Dto.mem_variants_true "Pet", rfl⟩
  exact ⟨by decide, distinct.mpr (by decide), (variants _ isClass).mpr (by decide)⟩

end OpenApiJava
