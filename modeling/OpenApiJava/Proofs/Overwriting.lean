import OpenApiJava.Proofs.ArtifactPaths
import OpenApiJava.Proofs.Completion
import OpenApiJava.Proofs.DistinctNames

/-!
# Artifacts that share a file

Different tags may name the same service class, since case, hyphens and spaces do not count. Then
the service that is written later stands in place of the one before. Main statement: nothing else in
a run overwrites what the run has written, and as long as no two tags meet, every call is described
by the file of its service.
-/

namespace OpenApiJava

/-! ## Reported paths as places -/

theorem flatMap_filter_nonempty (lists : List (String × List FilePath)) :
    (lists.filter fun entry => !entry.2.isEmpty).flatMap Prod.snd = lists.flatMap Prod.snd := by
  induction lists with
  | nil => rfl
  | cons entry rest inductionHypothesis =>
      obtain ⟨name, paths⟩ := entry
      cases paths with
      | nil => simpa using inductionHypothesis
      | cons path more => simpa using inductionHypothesis

section

variable {document : Document} {settings : Settings} {workspace : Workspace} {run : Run}

/-- The reported paths are those of the plan. -/
theorem flatMap_written_of_generate
    (succeeded : generate document settings workspace = .ok () run) :
    run.report.written.flatMap Prod.snd =
      Category.all.flatMap fun category => category.paths document settings := by
  rw [written_of_generate succeeded, flatMap_filter_nonempty, Category.lists, List.flatMap_map]

/-- The reported paths differ if and only if the class names of the services do. -/
theorem nodup_written_iff_services (plain : document.HasPlainNames)
    (distinctNames : document.HasDistinctNames)
    (succeeded : generate document settings workspace = .ok () run) :
    (run.report.written.flatMap Prod.snd).Nodup ↔
      (document.services.map (·.className)).Nodup := by
  have asPlaces : run.report.written.flatMap Prod.snd =
      document.places.map settings.baseFolder.below := by
    rw [flatMap_written_of_generate succeeded, Document.places, List.map_flatMap]
    simp only [Category.paths_eq settings plain]
  have injective : Function.Injective settings.baseFolder.below :=
    fun _ _ same => FilePath.below_inj.mp same
  rw [asPlaces, List.nodup_map_iff injective]
  exact Document.nodup_places_iff distinctNames.1

/-! ## The files of the services -/

theorem Service.location_artifact (plain : document.HasPlainNames) {service : Service}
    (member : service ∈ document.services) (home : Location) :
    (service.artifact settings).location home =
      settings.baseFolder.location home ++ ["service", service.className ++ ".java"] := by
  have path : (service.artifact settings).path =
      settings.baseFolder.below ["service", service.className ++ ".java"] :=
    Settings.classFile_eq settings.packageFolder_service
      (Document.slash_not_mem_className plain member)
  have isPlace :
      ["service", service.className ++ ".java"] ∈ Category.services.places document := by
    unfold Category.places
    exact List.mem_map.mpr ⟨service, member, rfl⟩
  calc
    (service.artifact settings).location home
        = (settings.baseFolder.below ["service", service.className ++ ".java"]).location home :=
        congrArg (FilePath.location · home) path
    _ = settings.baseFolder.location home ++ ["service", service.className ++ ".java"] :=
        FilePath.location_below _ home (Category.ne_parent_of_mem_places isPlace)

theorem Service.content_artifact (settings : Settings) (service : Service) :
    (service.artifact settings).content = service.source settings := by
  simp only [Service.artifact]

/-- The file of a service class holds the last service of that class. -/
theorem fileContent_service_of_generate (plain : document.HasPlainNames)
    (succeeded : generate document settings workspace = .ok () run)
    {earlier later : List Service} {service : Service}
    (split : document.services = earlier ++ service :: later)
    (last : ∀ other ∈ later, other.className ≠ service.className) :
    run.workspace.fileContent (service.artifact settings).path =
      .ok (service.source settings).toUTF8 := by
  have member : service ∈ document.services := by simp [split]
  have shape : plannedArtifacts document settings =
      (Category.dtos.artifacts document settings ++
          (Category.basePaths.artifacts document settings ++
            earlier.map (Service.artifact settings))) ++
        service.artifact settings ::
          (later.map (Service.artifact settings) ++
            Category.relativeUrls.artifacts document settings) := by
    have services : Category.services.artifacts document settings =
        earlier.map (Service.artifact settings) ++
          service.artifact settings :: later.map (Service.artifact settings) := by
      simp [Category.artifacts, split]
    simp [plannedArtifacts, Category.all, services]
  have differs : ∀ other ∈ later.map (Service.artifact settings) ++
      Category.relativeUrls.artifacts document settings,
      other.location workspace.home ≠ (service.artifact settings).location workspace.home := by
    intro other isLater
    rcases List.mem_append.mp isLater with isService | isRelative
    · obtain ⟨second, inLater, rfl⟩ := List.mem_map.mp isService
      have isMember : second ∈ document.services := by simp [split, inLater]
      rw [Service.location_artifact plain isMember, Service.location_artifact plain member]
      intro same
      have sameNames := List.append_cancel_left same
      simp only [List.cons.injEq, String.append_left_inj] at sameNames
      exact last second inLater sameNames.2.1
    · have isServices :
          service.artifact settings ∈ Category.services.artifacts document settings :=
        List.mem_map_of_mem member
      exact Category.location_ne plain _ (by decide) isRelative isServices
  have held := (did_of_generate succeeded).wrote.fileContent_eq shape differs
  rw [Service.content_artifact] at held
  exact held

/-- Every call belongs to the service of its tag. -/
theorem Document.exists_service_of_mem_endpoints
    (served : document.servers = [] → document.endpoints = [])
    {endpoint : Endpoint} (member : endpoint ∈ document.endpoints) :
    ∃ service ∈ document.services, endpoint ∈ service.endpoints := by
  have tagged : endpoint.tag ∈ document.tags := List.mem_map_of_mem member
  cases servers : document.servers with
  | nil =>
      rw [served servers] at member
      cases member
  | cons server others =>
      have isService : document.serviceOfTag server endpoint.tag ∈ document.services :=
        mem_services_iff.mpr ⟨server, others, endpoint.tag, servers, tagged, rfl⟩
      exact ⟨_, isService, List.mem_filter.mpr ⟨member, beq_self_eq_true endpoint.tag⟩⟩

end

/-- The reported paths differ if and only if different tags have different class names. The file of
a service class holds the last service of that class, so that every call is described where the
paths differ. -/
theorem nodup_written_iff
    {specification : Specification} {document : Document} {settings : Settings}
    {workspace : Workspace} {run : Run}
    (described : Document.ofSpecification specification = .ok document)
    (plain : document.HasPlainNames)
    (succeeded : generate document settings workspace = .ok () run) :
    ((run.report.written.flatMap Prod.snd).Nodup ↔
        ∀ first ∈ document.tags, ∀ second ∈ document.tags,
          Java.serviceClassName first = Java.serviceClassName second → first = second) ∧
      (∀ earlier service later,
        document.services = earlier ++ service :: later →
        (∀ other ∈ later, other.className ≠ service.className) →
        run.workspace.fileContent (service.artifact settings).path =
          .ok (service.source settings).toUTF8) ∧
      ((run.report.written.flatMap Prod.snd).Nodup →
        ∀ endpoint ∈ document.endpoints, ∃ service ∈ document.services,
          endpoint ∈ service.endpoints ∧
            run.workspace.fileContent (service.artifact settings).path =
              .ok (service.source settings).toUTF8) := by
  have served := served_of_generate succeeded
  have byServices :=
    nodup_written_iff_services plain (Document.hasDistinctNames_of_ofSpecification described)
      succeeded
  refine ⟨byServices.trans (Document.nodup_className_services_iff served), ?_, ?_⟩
  · intro earlier service later split last
    exact fileContent_service_of_generate plain succeeded split last
  · intro distinctPaths endpoint member
    obtain ⟨service, isService, belongs⟩ :=
      Document.exists_service_of_mem_endpoints served member
    obtain ⟨earlier, later, split⟩ := List.append_of_mem isService
    refine ⟨service, isService, belongs,
      fileContent_service_of_generate plain succeeded split ?_⟩
    -- A later service of the same class would repeat the class name.
    intro other inLater same
    have distinctServices := byServices.mp distinctPaths
    rw [split, List.map_append, List.map_cons] at distinctServices
    have notLater := (List.nodup_cons.mp (List.nodup_append.mp distinctServices).2.1).1
    exact notLater (same ▸ List.mem_map_of_mem inLater)

/-! ## Two pet shops -/

def petItem (tag : String) : Tree :=
  .mapping [(.text "get", .mapping [(.text "tags", .list [.text tag])])]

/-- The specification of a pet shop. -/
def petEntries (tag : String) : Entries := [
  (.text "components", .mapping [
    (.text "schemas", .mapping [
      (.text "Pet", .mapping [(.text "type", .text "object")]),
      (.text "PetResponseDTO", .mapping [(.text "type", .text "object")])])]),
  (.text "paths", .mapping [
    (.text "/pets", petItem "pet-store"),
    (.text "/shops", petItem tag)]),
  (.text "servers", .list [.mapping [(.text "url", .text "https://pets.example/v1")]])]

set_option maxRecDepth 100000 in
/-- A shop with tags of different classes has a file for each of its calls. -/
theorem petShop_describes_calls :
    Document.ofSpecification (.plain (petEntries "toys")) = .ok (petShopWith "toys") ∧
      (petShopWith "toys").HasPlainNames ∧
      ∃ run, generate (petShopWith "toys") petSettings petWorkspace = .ok () run ∧
        (run.report.written.flatMap Prod.snd).Nodup ∧
        ∀ endpoint ∈ (petShopWith "toys").endpoints, ∃ service ∈ (petShopWith "toys").services,
          endpoint ∈ service.endpoints ∧
            run.workspace.fileContent (service.artifact petSettings).path =
              .ok (service.source petSettings).toUTF8 := by
  have described :
      Document.ofSpecification (.plain (petEntries "toys")) = .ok (petShopWith "toys") := rfl
  have plain : (petShopWith "toys").HasPlainNames := by decide +kernel
  have ended : Run.fault? (generate (petShopWith "toys") petSettings petWorkspace) = none := by
    decide +kernel
  obtain ⟨run, generated⟩ := Run.exists_of_fault?_eq_none ended
  obtain ⟨distinct, _, calls⟩ := nodup_written_iff described plain generated
  have distinctPaths := distinct.mpr (by decide +kernel)
  exact ⟨described, plain, run, generated, distinctPaths, calls distinctPaths⟩

set_option maxRecDepth 100000 in
/-- A shop with two tags of one class has one file for both, and its first call is lost. -/
theorem petShop_loses_call :
    Document.ofSpecification (.plain (petEntries "pet store")) = .ok petShop ∧
      petShop.HasPlainNames ∧
      ∃ run, generate petShop petSettings petWorkspace = .ok () run ∧
        ¬ (run.report.written.flatMap Prod.snd).Nodup ∧
        ∃ endpoint ∈ petShop.endpoints, ∀ service ∈ petShop.services,
          endpoint ∈ service.endpoints →
            run.workspace.fileContent (service.artifact petSettings).path ≠
              .ok (service.source petSettings).toUTF8 := by
  have described :
      Document.ofSpecification (.plain (petEntries "pet store")) = .ok petShop := rfl
  have plain : petShop.HasPlainNames := by decide +kernel
  have ended : Run.fault? (generate petShop petSettings petWorkspace) = none := by
    decide +kernel
  obtain ⟨run, generated⟩ := Run.exists_of_fault?_eq_none ended
  have names := Document.hasDistinctNames_of_ofSpecification described
  have repeated := (nodup_written_iff_services plain names generated).not.mpr (by decide +kernel)
  have split : petShop.services =
      [petShop.serviceOfTag petServer "pet-store"] ++ petService :: [] :=
    services_petShop
  have last := fileContent_service_of_generate plain generated split (by simp)
  refine ⟨described, plain, run, generated, repeated, petShop.endpoints.head (by decide +kernel),
    List.head_mem _, ?_⟩
  intro service isService belongs held
  rw [services_petShop] at isService
  rcases List.mem_cons.mp isService with rfl | isSecond
  · have samePath : ((petShop.serviceOfTag petServer "pet-store").artifact petSettings).path =
        (petService.artifact petSettings).path := by
      decide +kernel
    rw [samePath, last] at held
    revert held
    decide +kernel
  · rw [List.mem_singleton.mp isSecond] at belongs
    revert belongs
    decide +kernel

end OpenApiJava
