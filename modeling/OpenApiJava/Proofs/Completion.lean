import OpenApiJava.Proofs.Running

/-!
# Runs that end

A run that ends without a fault has written the plan of its document and its settings, artifact by
artifact. Main statement: the files that it leaves are the files that it found with the plan written
over them, and its report lists the plan.
-/

namespace OpenApiJava

/-! ## Looking up reported paths -/

theorem Report.lookup_filter_nonempty
    {lists : List (String × List FilePath)} (different : (lists.map Prod.fst).Nodup)
    {name : String} {paths : List FilePath} (member : (name, paths) ∈ lists) :
    ((lists.filter fun entry => !entry.2.isEmpty).lookup name).getD [] = paths := by
  induction lists with
  | nil => cases member
  | cons entry rest inductionHypothesis =>
      obtain ⟨first, others⟩ := List.nodup_cons.mp different
      rcases List.mem_cons.mp member with same | inRest
      · subst same
        cases paths with
        | nil =>
            have absent :
                (rest.filter fun entry => !entry.2.isEmpty).lookup name = none := by
              rw [List.lookup_eq_none_iff]
              intro other kept
              have isOther : other.1 ∈ rest.map Prod.fst :=
                List.mem_map_of_mem (List.mem_filter.mp kept).1
              have different : name ≠ other.1 := fun same => first (same ▸ isOther)
              simpa using different
            simp [absent]
        | cons path more => simp
      · have different : (name == entry.1) = false := by
          rw [beq_eq_false_iff_ne]
          intro same
          exact first (same ▸ List.mem_map_of_mem inRest)
        cases nonempty : !entry.2.isEmpty with
        | false =>
            rw [List.filter_cons_of_neg (by simp [nonempty])]
            exact inductionHypothesis others inRest
        | true =>
            rw [List.filter_cons_of_pos (by simpa using nonempty), List.lookup_cons, different]
            exact inductionHypothesis others inRest

/-! ## What a run leaves -/

namespace Category

theorem mem_all (category : Category) : category ∈ all := by
  cases category <;> decide

/-- The paths of all categories, each under the name of its category. -/
def lists (document : Document) (settings : Settings) : List (String × List FilePath) :=
  all.map fun category => (category.name, category.paths document settings)

theorem nodup_lists (document : Document) (settings : Settings) :
    ((lists document settings).map Prod.fst).Nodup := by
  simp only [lists, List.map_map, Function.comp_def]
  decide

end Category

theorem flatMap_planned_plan (document : Document) (settings : Settings) :
    (Batch.plan document settings).flatMap Batch.planned = plannedArtifacts document settings := by
  have planned := congrArg (List.flatMap Prod.snd) (Batch.plan_eq document settings)
  simp only [List.flatMap_map] at planned
  exact planned

theorem map_listed_plan (document : Document) (settings : Settings) :
    (Batch.plan document settings).map Batch.listed = Category.lists document settings := by
  have listed :=
    congrArg (List.map fun entry : Category × List Artifact =>
      (entry.1.name, entry.2.map (·.path))) (Batch.plan_eq document settings)
  simp only [List.map_map] at listed
  exact listed

variable {document : Document} {settings : Settings} {workspace : Workspace} {run : Run}

/-- A document whose generation ends has a server if it has a call. -/
theorem served_of_generate (succeeded : generate document settings workspace = .ok () run) :
    document.servers = [] → document.endpoints = [] := by
  have planned := (Run.did_of_performAll succeeded).1 (Batch.services document settings)
    (by simp [Batch.plan])
  rcases Service.ofDocument_cases document with ⟨_, _, failed⟩ | ⟨served, _⟩
  · simp [Batch.services, failed, Except.map] at planned
  · exact served

/-- A run that ends wrote the plan and reported it. -/
theorem did_of_generate (succeeded : generate document settings workspace = .ok () run) :
    (Run.start workspace).Did (plannedArtifacts document settings)
      (Category.lists document settings) run := by
  rw [← flatMap_planned_plan, ← map_listed_plan]
  exact (Run.did_of_performAll succeeded).2

theorem written_of_generate (succeeded : generate document settings workspace = .ok () run) :
    run.report.written =
      (Category.lists document settings).filter fun entry => !entry.2.isEmpty := by
  rw [(did_of_generate succeeded).written_eq]
  exact Report.addAll_of_disjoint (Category.nodup_lists document settings) (by simp [Run.start,
    Report.empty])

theorem paths_of_generate (succeeded : generate document settings workspace = .ok () run)
    (category : Category) :
    run.report.paths category.name = category.paths document settings := by
  unfold Report.paths
  rw [written_of_generate succeeded]
  exact
    Report.lookup_filter_nonempty (Category.nodup_lists document settings)
      (List.mem_map_of_mem (f := fun category : Category =>
        (category.name, category.paths document settings)) category.mem_all)

/-- The files that a run leaves are those that it found with the plan written over them, and its
report lists the plan. -/
theorem generate_writes_plan (succeeded : generate document settings workspace = .ok () run) :
    run.workspace.disk.file? =
        FileTable.writeAll workspace.home workspace.disk.file?
          (plannedArtifacts document settings) ∧
      (∀ earlier artifact later,
        plannedArtifacts document settings = earlier ++ artifact :: later →
        (∀ other ∈ later,
          other.location workspace.home ≠ artifact.location workspace.home) →
        run.workspace.disk.file? (artifact.location workspace.home) =
            some artifact.content.toUTF8 ∧
          run.workspace.fileContent artifact.path = .ok artifact.content.toUTF8) ∧
      (∀ location,
        (∀ artifact ∈ plannedArtifacts document settings,
          artifact.location workspace.home ≠ location) →
        run.workspace.disk.file? location = workspace.disk.file? location) ∧
      run.report.written =
        (Category.all.map fun category =>
          (category.name, category.paths document settings)).filter
            (fun entry => !entry.2.isEmpty) ∧
      (∀ category : Category,
        run.report.paths category.name = category.paths document settings) ∧
      run.report.count Category.dtos.name =
        2 * document.schemas.countP (fun entry => !isResponseName entry.1) +
          document.schemas.countP (fun entry => isResponseName entry.1) ∧
      run.report.count Category.basePaths.name = 1 ∧
      run.report.count Category.services.name = document.tags.toFinset.card ∧
      run.report.count Category.relativeUrls.name = 1 := by
  have wrote := (did_of_generate succeeded).wrote
  have counted : ∀ category : Category,
      run.report.count category.name = (category.artifacts document settings).length := by
    intro category
    unfold Report.count
    rw [paths_of_generate succeeded, Category.paths, List.length_map]
  refine
    ⟨wrote.files_eq, ?_, ?_, written_of_generate succeeded, paths_of_generate succeeded,
      ?_, counted .basePaths, ?_, counted .relativeUrls⟩
  · intro earlier artifact later split last
    constructor
    · rw [wrote.files_eq, split]
      exact FileTable.writeAll_last workspace.home workspace.disk.file? earlier artifact last
    · exact wrote.fileContent_eq split last
  · intro location elsewhere
    rw [wrote.files_eq]
    exact FileTable.writeAll_of_forall_ne workspace.home workspace.disk.file? elsewhere
  · rw [counted, Category.length_dtos]
  · rw [counted, Category.length_services settings (served_of_generate succeeded)]

/-! ## A pet shop -/

def petServer : Server :=
  ⟨"https://pets.example/v1", none⟩

/-- A document with two schemas, and with calls under the tag `pet-store` and another one. -/
def petShopWith (tag : String) : Document where
  title := none
  version := none
  schemas := [
    ("Pet", ⟨some "object", none, none, none, [], none⟩),
    ("PetResponseDTO", ⟨some "object", none, none, none, [], none⟩)]
  paths := [
    ("/pets", ⟨some ⟨none, none, none, ["pet-store"], [], none⟩, none, none, none, []⟩),
    ("/shops", ⟨some ⟨none, none, none, [tag], [], none⟩, none, none, none, []⟩)]
  servers := [petServer]

/-- A pet shop whose two tags name one class. -/
def petShop : Document :=
  petShopWith "pet store"

/-- The service of the second tag. -/
def petService : Service :=
  petShop.serviceOfTag petServer "pet store"

def petSettings : Settings :=
  ⟨.ofString "out", "shop"⟩

/-- A workspace with a file of someone else. -/
def petWorkspace : Workspace :=
  Workspace.empty.put ["tmp", "work", "notes"] (.file "keep".toUTF8)

theorem services_petShop :
    petShop.services = [petShop.serviceOfTag petServer "pet-store", petService] := by
  have tags : distinct petShop.tags = ["pet-store", "pet store"] := by decide +kernel
  change (distinct petShop.tags).map (petShop.serviceOfTag petServer) = _
  rw [tags]
  rfl

set_option maxRecDepth 100000 in
/-- The file that two services share holds the second one, and the file of someone else stays. -/
theorem petShop_writes_plan :
    ∃ run, generate petShop petSettings petWorkspace = .ok () run ∧
      run.workspace.fileContent (petService.artifact petSettings).path =
        .ok (petService.source petSettings).toUTF8 ∧
      run.workspace.disk.file? ["tmp", "work", "notes"] = some "keep".toUTF8 ∧
      run.report.count "DTOs" = 3 ∧
      run.report.count "services" = 2 := by
  have ended : Run.fault? (generate petShop petSettings petWorkspace) = none := by
    decide +kernel
  obtain ⟨run, generated⟩ := Run.exists_of_fault?_eq_none ended
  obtain ⟨_, last, elsewhere, _, _, dtos, _, services, _⟩ := generate_writes_plan generated
  have shape : plannedArtifacts petShop petSettings =
      Category.dtos.artifacts petShop petSettings ++
          Category.basePaths.artifacts petShop petSettings ++
          [(petShop.serviceOfTag petServer "pet-store").artifact petSettings] ++
        petService.artifact petSettings ::
          Category.relativeUrls.artifacts petShop petSettings := by
    have written : Category.services.artifacts petShop petSettings =
        petShop.services.map (Service.artifact petSettings) := rfl
    simp [plannedArtifacts, Category.all, written, services_petShop]
  have service := last _ _ _ shape (by decide +kernel)
  have notes := elsewhere ["tmp", "work", "notes"] (by decide +kernel)
  refine ⟨run, generated, service.2, notes.trans (by decide +kernel), dtos, ?_⟩
  exact services.trans (by decide +kernel)

end OpenApiJava
