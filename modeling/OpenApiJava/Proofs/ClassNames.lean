import OpenApiJava.Proofs.ArtifactPaths
import OpenApiJava.Proofs.LegalNames
import OpenApiJava.Proofs.PackageClosure
import OpenApiJava.Proofs.ServiceComments

/-!
# Names of classes

Classes are named by schemas and tags without becoming identifiers. Main statement: the names of
data classes are legal exactly if those of their schemas are, and the names of services are exactly
if what the tags become has word characters only and no digit in front.
-/

namespace OpenApiJava

open OpenApiJava.Java OpenApiJava.Text

theorem Java.isLegal_serviceClassName_iff (tag : String) :
    IsLegal (serviceClassName tag).toList ↔
      (∀ character ∈ (serviceBaseName tag).toList, isWord character = true) ∧
        ∀ first ∈ (serviceBaseName tag).toList.head?, isDigit first = false := by
  unfold serviceClassName
  rw [String.toList_append]
  exact isLegal_append_iff (by decide) (by decide) (by decide) (by decide)

namespace Dto

/-- Each schema gives its name to a class. -/
theorem forall_className_iff {schemas : List (String × Schema)} {settings : Settings}
    (property : String → Prop) :
    (∀ dto ∈ ofSchemas schemas settings, property dto.className) ↔
      ∀ entry ∈ schemas, property entry.1 := by
  constructor
  · intro each entry isEntry
    have isVariant : true ∈ variants entry.1 := mem_variants_true entry.1
    have isClass : ofSchema entry.1 entry.2 true settings ∈ ofSchemas schemas settings :=
      mem_ofSchemas_iff.mpr ⟨entry.1, entry.2, true, isEntry, isVariant, rfl⟩
    exact each _ isClass
  · intro each dto isClass
    obtain ⟨name, schema, _, isEntry, _, rfl⟩ := mem_ofSchemas_iff.mp isClass
    exact each (name, schema) isEntry

end Dto

namespace Document

theorem className_mem_services_iff {document : Document} {name : String}
    (served : document.servers = [] → document.endpoints = []) :
    (∃ service ∈ document.services, service.className = name) ↔
      ∃ tag ∈ document.tags, Java.serviceClassName tag = name := by
  have sameNames : name ∈ document.services.map (·.className) ↔
      name ∈ (distinct document.tags).map Java.serviceClassName := by
    rw [map_className_services served]
  rw [List.mem_map, List.mem_map] at sameNames
  simp only [mem_distinct] at sameNames
  exact sameNames

/-- The tags give their names to the classes of the services. -/
theorem forall_className_iff {document : Document} {services : List Service}
    (planned : Service.ofDocument document = .ok services) (property : String → Prop) :
    (∀ service ∈ services, property service.className) ↔
      ∀ tag ∈ document.tags, property (Java.serviceClassName tag) := by
  rcases Service.ofDocument_cases document with ⟨_, _, fails⟩ | ⟨served, succeeds⟩
  · rw [planned] at fails
    cases fails
  · rw [planned] at succeeds
    cases succeeds
    constructor
    · intro each tag isTag
      obtain ⟨service, isService, same⟩ :=
        (className_mem_services_iff served).mpr ⟨tag, isTag, rfl⟩
      rw [← same]
      exact each service isService
    · intro each service isService
      obtain ⟨tag, isTag, same⟩ :=
        (className_mem_services_iff served).mp ⟨service, isService, rfl⟩
      rw [← same]
      exact each tag isTag

end Document

/-- The name of a data class is legal exactly if that of its schema is. That of a service is legal
exactly if what its tag becomes has word characters only and no digit in front. -/
theorem classNames_legal_iff (document : Document) (settings : Settings) :
    ((∀ dto ∈ Dto.ofSchemas document.schemas settings,
        identifier dto.className = dto.className) ↔
      ∀ entry ∈ document.schemas, IsLegal entry.1.toList) ∧
    ∀ services, Service.ofDocument document = .ok services →
      ((∀ service ∈ services, identifier service.className = service.className) ↔
        ∀ tag ∈ document.tags,
          (∀ character ∈ (serviceBaseName tag).toList, isWord character = true) ∧
            ∀ first ∈ (serviceBaseName tag).toList.head?, isDigit first = false) := by
  constructor
  · simp only [identifier_eq_self_iff]
    exact Dto.forall_className_iff fun name => IsLegal name.toList
  · intro services planned
    simp only [identifier_eq_self_iff, ← isLegal_serviceClassName_iff]
    exact Document.forall_className_iff planned fun name => IsLegal name.toList

theorem petShop_classNames_legal :
    Service.ofDocument petShop = .ok petShop.services ∧
      (∀ dto ∈ Dto.ofSchemas petShop.schemas petSettings,
        identifier dto.className = dto.className) ∧
      ∀ service ∈ petShop.services, identifier service.className = service.className := by
  have planned : Service.ofDocument petShop = .ok petShop.services :=
    Document.ofDocument_eq_services rfl
  obtain ⟨ofSchemas, ofTags⟩ := classNames_legal_iff petShop petSettings
  refine ⟨planned, ofSchemas.mpr ?_, (ofTags petShop.services planned).mpr ?_⟩
  · intro entry isEntry
    rw [← identifier_eq_self_iff]
    revert entry
    decide +kernel
  · intro tag isTag
    rw [← isLegal_serviceClassName_iff, ← identifier_eq_self_iff]
    revert tag
    decide +kernel

/-- A shop whose schema and whose tag have dots in their names. -/
def dottedShop : Document :=
  { petShop with
    schemas := [("Pet.Item", ⟨some "object", none, none, none, [], none⟩)]
    paths := [("/pets", ⟨some ⟨none, none, none, ["pets.v2"], [], none⟩, none, none, none, []⟩)] }

/-- The classes of the shop have dots in their names as well. -/
theorem dottedShop_classNames_illegal :
    (∃ dto ∈ Dto.ofSchemas dottedShop.schemas petSettings,
      dto.className = "Pet.Item" ∧ identifier dto.className = "Pet_Item") ∧
      ∃ services, Service.ofDocument dottedShop = .ok services ∧
        ∃ service ∈ services, service.className = "Pets.v2Service" ∧
          identifier service.className = "Pets_v2Service" := by
  constructor
  · decide +kernel
  · refine ⟨dottedShop.services, Document.ofDocument_eq_services rfl, ?_⟩
    decide +kernel

end OpenApiJava
