import OpenApiJava.Document.Basic
import OpenApiJava.Proofs.TypeReferences

/-!
# Classes that fields refer to

Data classes import no other generated package, so that the class that a field refers to has to
stand in the package of the field. Main statement: it always does in the package of responses, and
in the package of requests unless its name is one that has only a response class.
-/

namespace OpenApiJava

/-! ## Classes of a document -/

namespace Dto

theorem mem_ofSchemas_iff {schemas : List (String × Schema)} {settings : Settings} {dto : Dto} :
    dto ∈ ofSchemas schemas settings ↔
      ∃ name schema asResponse, (name, schema) ∈ schemas ∧ asResponse ∈ variants name ∧
        dto = ofSchema name schema asResponse settings := by
  unfold ofSchemas
  simp only [List.mem_flatMap, List.mem_map, Prod.exists]
  constructor
  · rintro ⟨name, schema, inSchemas, asResponse, variant, rfl⟩
    exact ⟨name, schema, asResponse, inSchemas, variant, rfl⟩
  · rintro ⟨name, schema, asResponse, inSchemas, variant, rfl⟩
    exact ⟨name, schema, inSchemas, asResponse, variant, rfl⟩

theorem mem_variants_true (name : String) : true ∈ variants name := by
  unfold variants
  split <;> simp

theorem mem_variants_false_iff {name : String} :
    false ∈ variants name ↔ isResponseName name = false := by
  unfold variants
  cases isResponseName name <;> simp

theorem requestPackage_ne_responsePackage (settings : Settings) :
    settings.requestPackage ≠ settings.responsePackage := by
  intro same
  have tails := String.append_right_inj settings.basePackage |>.mp same
  exact absurd tails (by decide)

theorem packageName_ofSchema (name : String) (schema : Schema) (asResponse : Bool)
    (settings : Settings) :
    (ofSchema name schema asResponse settings).packageName =
      if (ofSchema name schema asResponse settings).isResponse then settings.responsePackage
      else settings.requestPackage :=
  rfl

theorem isResponse_of_variant {name : String} {asResponse : Bool}
    (variant : asResponse ∈ variants name) (schema : Schema) (settings : Settings) :
    (ofSchema name schema asResponse settings).isResponse = asResponse := by
  cases asResponse with
  | true => rfl
  | false => exact mem_variants_false_iff.mp variant

end Dto

/-! ## References between classes -/

namespace Document

/-- The reference leads to a schema of the document. -/
def Declares (document : Document) (reference : String) : Prop :=
  ∃ target ∈ document.schemas.map Prod.fst, reference = schemaRegistry ++ target

/-- Every reference of a property, or of the items of a list, leads to a schema of the document. -/
def DeclaresReferences (document : Document) : Prop :=
  ∀ entry ∈ document.schemas, ∀ property ∈ entry.2.properties,
    (∀ reference, property.2.reference = some reference → document.Declares reference) ∧
      ∀ items reference, property.2.type = some "array" → property.2.items = some items →
        items.reference = some reference → document.Declares reference

/-- A field of a data class takes its type, or that of its elements, from a reference to a name. -/
def Refers (document : Document) (settings : Settings) (dto : Dto) (field : DtoField)
    (target : String) : Prop :=
  ∃ name schema asResponse property,
    (name, schema) ∈ document.schemas ∧ asResponse ∈ Dto.variants name ∧
      dto = Dto.ofSchema name schema asResponse settings ∧
      property ∈ schema.properties ∧ field = Dto.field property ∧
      property.2.TypedBy (schemaRegistry ++ target)

def HasClass (document : Document) (settings : Settings) (packageName className : String) : Prop :=
  ∃ dto ∈ Dto.ofSchemas document.schemas settings,
    dto.className = className ∧ dto.packageName = packageName

variable {document : Document} {settings : Settings} {target : String}

theorem declares_of_typedBy (declared : document.DeclaresReferences)
    {entry : String × Schema} (inSchemas : entry ∈ document.schemas)
    {property : String × Schema} (isProperty : property ∈ entry.2.properties)
    {reference : String} (typed : property.2.TypedBy reference) :
    document.Declares reference := by
  obtain ⟨own, ofItems⟩ := declared entry inSchemas property isProperty
  cases typed with
  | itself _ _ there => exact own reference there
  | items isArray hasItems _ there => exact ofItems _ reference isArray hasItems there

/-- Every schema has a response class. -/
theorem hasClass_responsePackage_iff :
    document.HasClass settings settings.responsePackage target ↔
      target ∈ document.schemas.map Prod.fst := by
  constructor
  · rintro ⟨dto, member, rfl, _⟩
    obtain ⟨name, schema, asResponse, inSchemas, _, rfl⟩ := Dto.mem_ofSchemas_iff.mp member
    exact List.mem_map_of_mem inSchemas
  · intro isName
    obtain ⟨⟨name, schema⟩, inSchemas, rfl⟩ := List.mem_map.mp isName
    refine ⟨Dto.ofSchema name schema true settings, ?_, rfl, rfl⟩
    exact Dto.mem_ofSchemas_iff.mpr
      ⟨name, schema, true, inSchemas, Dto.mem_variants_true name, rfl⟩

theorem hasClass_requestPackage_iff :
    document.HasClass settings settings.requestPackage target ↔
      target ∈ document.schemas.map Prod.fst ∧ isResponseName target = false := by
  constructor
  · rintro ⟨dto, member, rfl, package⟩
    obtain ⟨name, schema, asResponse, inSchemas, variant, rfl⟩ := Dto.mem_ofSchemas_iff.mp member
    refine ⟨List.mem_map_of_mem inSchemas, ?_⟩
    rw [Dto.packageName_ofSchema, Dto.isResponse_of_variant variant] at package
    cases asResponse with
    | true => exact absurd package.symm (Dto.requestPackage_ne_responsePackage settings)
    | false => exact Dto.mem_variants_false_iff.mp variant
  · rintro ⟨isName, noResponse⟩
    obtain ⟨⟨name, schema⟩, inSchemas, rfl⟩ := List.mem_map.mp isName
    have variant : false ∈ Dto.variants name := Dto.mem_variants_false_iff.mpr noResponse
    refine ⟨Dto.ofSchema name schema false settings, ?_, rfl, ?_⟩
    · exact Dto.mem_ofSchemas_iff.mpr ⟨name, schema, false, inSchemas, variant, rfl⟩
    · rw [Dto.packageName_ofSchema, Dto.isResponse_of_variant variant]
      rfl

end Document

/-- Where all references lead to schemas, the class that a field refers to stands in the package of
the field, unless the field is one of a request and the class is only a response. -/
theorem hasClass_of_refers_iff {document : Document} (declared : document.DeclaresReferences)
    (settings : Settings) {dto : Dto} {field : DtoField} {target : String}
    (refers : document.Refers settings dto field target) :
    dto ∈ Dto.ofSchemas document.schemas settings ∧ field ∈ dto.fields ∧
      field.type.Holds target ∧
      (document.HasClass settings dto.packageName target ↔
        dto.isResponse = true ∨ isResponseName target = false) := by
  obtain ⟨name, schema, asResponse, property, inSchemas, variant, rfl, isProperty, rfl, typed⟩ :=
    refers
  obtain ⟨named, isName, same⟩ := Document.declares_of_typedBy declared inSchemas isProperty typed
  rw [← registry_append_inj same] at isName
  have holds := JavaType.holds_of_typedBy typed
  rw [referenceTypeName_registry] at holds
  refine
    ⟨Dto.mem_ofSchemas_iff.mpr ⟨name, schema, asResponse, inSchemas, variant, rfl⟩,
      List.mem_map_of_mem isProperty, holds, ?_⟩
  rw [Dto.packageName_ofSchema, Dto.isResponse_of_variant variant]
  cases asResponse with
  | true => simp [Document.hasClass_responsePackage_iff, isName]
  | false => simp [Document.hasClass_requestPackage_iff, isName]

/-! ## Owners of pets -/

def Schema.ofTarget (target : String) : Schema :=
  ⟨none, none, some (schemaRegistry ++ target), none, [], none⟩

def petFriends : String × Schema :=
  ("friends", ⟨some "array", none, none, some (.ofTarget "Pet"), [], none⟩)

def petOwner : String × Schema :=
  ("owner", .ofTarget "OwnerResponseDTO")

def ownedPet : Schema :=
  ⟨some "object", none, none, none, [petFriends, petOwner], none⟩

/-- Pets have other pets as friends, and an owner, who has only a response class. -/
def ownedPets : Document where
  title := none
  version := none
  schemas := [
    ("Pet", ownedPet),
    ("OwnerResponseDTO", ⟨some "object", none, none, none, [], none⟩)]
  paths := []
  servers := []

def ownedSettings : Settings :=
  ⟨.here, defaultBasePackage⟩

theorem declaresReferences_ownedPets : ownedPets.DeclaresReferences := by
  intro entry inSchemas property isProperty
  simp only [ownedPets, List.mem_cons, List.not_mem_nil, or_false] at inSchemas
  rcases inSchemas with rfl | rfl
  · simp only [ownedPet, List.mem_cons, List.not_mem_nil, or_false] at isProperty
    rcases isProperty with rfl | rfl
    · refine ⟨nofun, ?_⟩
      intro items reference _ hasItems there
      cases hasItems
      cases there
      exact ⟨"Pet", List.mem_cons_self, rfl⟩
    · refine ⟨?_, nofun⟩
      intro reference there
      cases there
      exact ⟨"OwnerResponseDTO", List.mem_cons_of_mem _ List.mem_cons_self, rfl⟩
  · cases isProperty

theorem refers_petFriends :
    ownedPets.Refers ownedSettings (Dto.ofSchema "Pet" ownedPet false ownedSettings)
      (Dto.field petFriends) "Pet" :=
  ⟨"Pet", ownedPet, false, petFriends, List.mem_cons_self, by decide, rfl, List.mem_cons_self, rfl,
    .items rfl rfl (by simp [TypeKind.WinsOverReference, Schema.ofTarget]) rfl⟩

theorem refers_petOwner :
    ownedPets.Refers ownedSettings (Dto.ofSchema "Pet" ownedPet false ownedSettings)
      (Dto.field petOwner) "OwnerResponseDTO" :=
  ⟨"Pet", ownedPet, false, petOwner, List.mem_cons_self, by decide, rfl,
    List.mem_cons_of_mem _ List.mem_cons_self, rfl,
    .itself (by simp [TypeKind.WinsOverReference, petOwner, Schema.ofTarget])
      (by simp [petOwner, Schema.ofTarget]) rfl⟩

theorem petFriends_hasClass :
    ownedPets.Refers ownedSettings (Dto.ofSchema "Pet" ownedPet false ownedSettings)
        (Dto.field petFriends) "Pet" ∧
      (Dto.field petFriends).type.name = "List<Pet>" ∧
      ownedPets.HasClass ownedSettings "com.example.dto.RequestDTO" "Pet" := by
  obtain ⟨_, _, _, found⟩ :=
    hasClass_of_refers_iff declaresReferences_ownedPets ownedSettings refers_petFriends
  exact ⟨refers_petFriends, by decide, found.mpr (Or.inr (by decide))⟩

/-- The request class of a pet does not find the class of its owner in its package. -/
theorem not_forall_hasClass_ownedPets :
    ownedPets.DeclaresReferences ∧
      ¬ ∀ dto field target, ownedPets.Refers ownedSettings dto field target →
        ownedPets.HasClass ownedSettings dto.packageName target := by
  refine ⟨declaresReferences_ownedPets, ?_⟩
  intro closed
  have found := closed _ _ _ refers_petOwner
  have requested : ownedPets.HasClass ownedSettings ownedSettings.requestPackage
      "OwnerResponseDTO" := found
  have noResponse := (Document.hasClass_requestPackage_iff.mp requested).2
  exact absurd noResponse (by decide)

end OpenApiJava
