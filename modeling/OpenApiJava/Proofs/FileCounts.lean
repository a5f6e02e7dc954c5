import OpenApiJava.CommandLine.Command
import OpenApiJava.Proofs.Overwriting
import OpenApiJava.Proofs.SchemaOrder

/-!
# Counting new files

Whether a file is new is asked right before it is written, when the run may have written it already
for another class of the same name. Main statement: what a run reports as created are the paths that
it wrote, each once, where nothing stood before the run, so that their number is the number of files
by which the disk has grown.
-/

namespace OpenApiJava

/-! ## First occurrences -/

section FirstOccurrences

variable {α : Type} [BEq α] [LawfulBEq α]

/-- One more item adds to the first occurrences if it has not occurred. -/
theorem eraseDups_append_singleton (items : List α) (item : α) :
    (items ++ [item]).eraseDups =
      items.eraseDups ++ if items.contains item then [] else [item] := by
  rw [List.eraseDups_append]
  congr 1
  by_cases occurred : item ∈ items
  · simp [List.removeAll, occurred]
  · simp [List.removeAll, occurred, List.eraseDups_cons]

theorem nodup_eraseDups (items : List α) : items.eraseDups.Nodup := by
  induction items using List.reverseRecOn with
  | nil => exact List.nodup_nil
  | append_singleton items item inductionHypothesis =>
      rw [eraseDups_append_singleton]
      by_cases occurred : item ∈ items
      · simpa [occurred] using inductionHypothesis
      · simpa [occurred, List.nodup_append] using
          ⟨inductionHypothesis, fun other member same => occurred (same ▸ member)⟩

end FirstOccurrences

/-! ## The files of a disk -/

namespace Disk

/-- The locations of all files. -/
def fileLocations (disk : Disk) : List Location :=
  (disk.entries.map Prod.fst).filter fun location => (disk.file? location).isSome

/-- The number of files. -/
def fileCount (disk : Disk) : Nat :=
  disk.fileLocations.length

theorem mem_fileLocations_iff {disk : Disk} {location : Location} :
    location ∈ disk.fileLocations ↔ (disk.file? location).isSome = true := by
  unfold fileLocations
  rw [List.mem_filter, and_iff_right_iff_imp]
  intro isFile
  obtain ⟨content, held⟩ := Option.isSome_iff_exists.mp isFile
  obtain ⟨earlier, later, split, _⟩ := List.lookup_eq_some_iff.mp (file?_eq_some_iff.mp held)
  simp [split]

theorem nodup_fileLocations (disk : Disk) : disk.fileLocations.Nodup :=
  disk.distinct.filter _

/-- Files that come at locations of their own, where no file was, are counted one by one. -/
theorem fileCount_eq_add {earlier later : Disk} {added : List Location} (distinct : added.Nodup)
    (added_iff : ∀ location, location ∈ added ↔
      (later.file? location).isSome = true ∧ earlier.file? location = none)
    (kept : ∀ location, (earlier.file? location).isSome = true →
      (later.file? location).isSome = true) :
    later.fileCount = earlier.fileCount + added.length := by
  have apart : (earlier.fileLocations ++ added).Nodup := by
    refine List.nodup_append'.mpr ⟨earlier.nodup_fileLocations, distinct, ?_⟩
    intro location isFile isAdded
    rw [mem_fileLocations_iff, ((added_iff location).mp isAdded).2] at isFile
    cases isFile
  have same : later.fileLocations.Perm (earlier.fileLocations ++ added) := by
    rw [List.perm_ext_iff_of_nodup later.nodup_fileLocations apart]
    intro location
    rw [List.mem_append, mem_fileLocations_iff, mem_fileLocations_iff, added_iff]
    cases before : earlier.file? location with
    | none => simp
    | some content => simp [kept location (by rw [before]; rfl)]
  rw [fileCount, same.length_eq, List.length_append, fileCount]

/-- Where a file is later on, no folder was before. -/
theorem KeepsFolders.find?_eq_none_iff {earlier later : Disk} (kept : earlier.KeepsFolders later)
    {location : Location} (isFile : (later.file? location).isSome = true) :
    earlier.find? location = none ↔ earlier.file? location = none := by
  cases found : earlier.find? location with
  | none => simp [file?, found]
  | some entry =>
      cases entry with
      | file content => simp [file?, found]
      | folder =>
          have folder := kept location found
          simp [file?, folder] at isFile

end Disk

/-! ## Disks that are trees, checked entry by entry -/

theorem Disk.isTree_iff {disk : Disk} :
    disk.IsTree ↔ ∀ entry ∈ disk.entries, disk.StandsInFolders entry.1 := by
  constructor
  · intro tree entry member
    have listed : (disk.find? entry.1).isSome = true := by
      rw [find?, List.lookup_isSome_iff]
      exact ⟨entry, member, beq_self_eq_true entry.1⟩
    obtain ⟨held, found⟩ := Option.isSome_iff_exists.mp listed
    exact tree entry.1 held found
  · intro each location held found
    obtain ⟨earlier, later, split, _⟩ := List.lookup_eq_some_iff.mp found
    exact each (location, held) (by simp [split])

instance (disk : Disk) : Decidable disk.IsTree :=
  decidable_of_iff _ Disk.isTree_iff.symm

/-! ## What a plan creates -/

namespace FileTable

variable {home : Location} {artifacts : List Artifact}

theorem isSome_writeAll_iff (files : FileTable) {location : Location} :
    (writeAll home files artifacts location).isSome = true ↔
      (files location).isSome = true ∨
        ∃ artifact ∈ artifacts, artifact.location home = location := by
  constructor
  · intro held
    obtain ⟨content, held⟩ := Option.isSome_iff_exists.mp held
    rcases exists_artifact_of_writeAll home files held with before | ⟨artifact, member, here, _⟩
    · exact Or.inl (Option.isSome_iff_exists.mpr ⟨content, before⟩)
    · exact Or.inr ⟨artifact, member, here⟩
  · rintro (before | ⟨artifact, member, rfl⟩)
    · exact isSome_writeAll home artifacts before
    · obtain ⟨earlier, later, rfl⟩ := List.append_of_mem member
      rw [writeAll_append]
      refine isSome_writeAll home later ?_
      have held : write home (writeAll home files earlier) artifact (artifact.location home) =
          some artifact.content.toUTF8 :=
        if_pos rfl
      rw [held]
      rfl

/-- The paths that are new when artifacts are written one after the other are the paths of the
artifacts, each once, where no file was at the start. -/
theorem created_eq_filter_eraseDups
    (spelled : ∀ first ∈ artifacts, ∀ second ∈ artifacts,
      first.location home = second.location home → first.path = second.path)
    (files : FileTable) :
    created home files artifacts =
      (artifacts.map (·.path)).eraseDups.filter fun path =>
        (files (path.location home)).isNone := by
  induction artifacts using List.reverseRecOn with
  | nil => rfl
  | append_singleton artifacts artifact inductionHypothesis =>
      have earlier := inductionHypothesis fun first isFirst second isSecond =>
        spelled first (List.mem_append_left _ isFirst) second (List.mem_append_left _ isSecond)
      have last : artifact ∈ artifacts ++ [artifact] := by simp
      rw [created_append, earlier, List.map_append, List.map_singleton, eraseDups_append_singleton,
        List.filter_append]
      congr 1
      by_cases occurred : artifact.path ∈ artifacts.map (·.path)
      · obtain ⟨other, member, samePath⟩ := List.mem_map.mp occurred
        have held : (writeAll home files artifacts (artifact.location home)).isSome = true :=
          (isSome_writeAll_iff files).mpr
            (Or.inr ⟨other, member, congrArg (FilePath.location · home) samePath⟩)
        have noneNew : (writeAll home files artifacts (artifact.location home)).isNone = false := by
          rw [← Option.not_isSome, held, Bool.not_true]
        have contained := List.contains_iff_mem.mpr occurred
        rw [created, created, noneNew, contained]
        rfl
      · have elsewhere : ∀ other ∈ artifacts, other.location home ≠ artifact.location home :=
          fun other member same => occurred (List.mem_map.mpr
            ⟨other, member, spelled other (List.mem_append_left _ member) artifact last same⟩)
        have untouched := writeAll_of_forall_ne home files elsewhere
        have absent : (artifacts.map (·.path)).contains artifact.path = false := by
          simpa using occurred
        rw [created, created, untouched, absent, List.append_nil, if_neg Bool.false_ne_true,
          List.filter_singleton, Bool.cond_eq_ite]
        rfl

section Spelled

variable (spelled : ∀ first ∈ artifacts, ∀ second ∈ artifacts,
  first.location home = second.location home → first.path = second.path)

include spelled

theorem mem_created_iff (files : FileTable) {path : FilePath} :
    path ∈ created home files artifacts ↔
      (∃ artifact ∈ artifacts, artifact.path = path) ∧ files (path.location home) = none := by
  rw [created_eq_filter_eraseDups spelled, List.mem_filter, List.mem_eraseDups, List.mem_map,
    Option.isNone_iff_eq_none]

theorem mem_locations_created_iff (files : FileTable) (location : Location) :
    location ∈ (created home files artifacts).map (·.location home) ↔
      (writeAll home files artifacts location).isSome = true ∧ files location = none := by
  rw [isSome_writeAll_iff, List.mem_map]
  constructor
  · rintro ⟨path, isCreated, rfl⟩
    obtain ⟨⟨artifact, member, rfl⟩, absent⟩ := (mem_created_iff spelled files).mp isCreated
    exact ⟨Or.inr ⟨artifact, member, rfl⟩, absent⟩
  · rintro ⟨before | ⟨artifact, member, rfl⟩, absent⟩
    · rw [absent] at before
      cases before
    · have isCreated := (mem_created_iff spelled files).mpr ⟨⟨artifact, member, rfl⟩, absent⟩
      exact ⟨artifact.path, isCreated, rfl⟩

theorem nodup_locations_created (files : FileTable) :
    ((created home files artifacts).map (·.location home)).Nodup := by
  have distinct : (created home files artifacts).Nodup := by
    rw [created_eq_filter_eraseDups spelled]
    exact (nodup_eraseDups _).filter _
  refine List.Nodup.map_on ?_ distinct
  intro first isFirst second isSecond same
  obtain ⟨⟨artifact, member, rfl⟩, _⟩ := (mem_created_iff spelled files).mp isFirst
  obtain ⟨⟨other, otherMember, rfl⟩, _⟩ := (mem_created_iff spelled files).mp isSecond
  exact spelled artifact member other otherMember same

end Spelled

end FileTable

/-! ## What a run creates -/

section

variable {document : Document} {settings : Settings} {workspace : Workspace} {run : Run}

/-- Planned artifacts at one location have one path. -/
theorem path_eq_of_location_eq (settings : Settings) (plain : document.HasPlainNames)
    (home : Location) :
    ∀ first ∈ plannedArtifacts document settings, ∀ second ∈ plannedArtifacts document settings,
      first.location home = second.location home → first.path = second.path := by
  have placed : ∀ artifact ∈ plannedArtifacts document settings,
      ∃ place, artifact.path = settings.baseFolder.below place ∧
        artifact.location home = settings.baseFolder.location home ++ place := by
    intro artifact planned
    obtain ⟨category, _, inCategory⟩ := List.mem_flatMap.mp planned
    have isPath : artifact.path ∈ category.paths document settings :=
      List.mem_map_of_mem inCategory
    rw [Category.paths_eq settings plain] at isPath
    obtain ⟨place, isPlace, same⟩ := List.mem_map.mp isPath
    refine ⟨place, same.symm, ?_⟩
    unfold Artifact.location
    rw [← same, FilePath.location_below _ home (Category.ne_parent_of_mem_places isPlace)]
  intro first isFirst second isSecond same
  obtain ⟨place, path, located⟩ := placed first isFirst
  obtain ⟨other, otherPath, otherLocated⟩ := placed second isSecond
  rw [located, otherLocated] at same
  rw [path, otherPath, List.append_cancel_left same]

theorem paths_eq_of_generate (succeeded : generate document settings workspace = .ok () run) :
    run.report.written.flatMap Prod.snd =
      (plannedArtifacts document settings).map (·.path) := by
  rw [flatMap_written_of_generate succeeded, plannedArtifacts, List.map_flatMap]
  rfl

section Created

variable (plain : document.HasPlainNames) (direct : settings.output.IsDirect)
  (sound : workspace.IsSound) (succeeded : generate document settings workspace = .ok () run)

include plain direct sound succeeded

theorem created_eq_of_generate :
    run.report.created =
      (run.report.written.flatMap Prod.snd).eraseDups.filter fun path =>
        (workspace.disk.find? (path.location workspace.home)).isNone := by
  have spelled := path_eq_of_location_eq settings plain workspace.home
  have wrote := (did_of_generate succeeded).wrote
  rw [created_of_generate succeeded sound (isDirect_of_mem_plannedArtifacts plain direct),
    FileTable.created_eq_filter_eraseDups spelled, paths_eq_of_generate succeeded]
  refine List.filter_congr fun path listed => ?_
  obtain ⟨artifact, planned, rfl⟩ := List.mem_map.mp (List.mem_eraseDups.mp listed)
  have isFile :
      (run.workspace.disk.file? (artifact.path.location workspace.home)).isSome = true := by
    rw [wrote.files_eq]
    exact (FileTable.isSome_writeAll_iff _).mpr (Or.inr ⟨artifact, planned, rfl⟩)
  have same := wrote.keepsFolders.find?_eq_none_iff isFile
  rw [Bool.eq_iff_iff, Option.isNone_iff_eq_none, Option.isNone_iff_eq_none]
  exact same.symm

theorem nodup_locations_created_of_generate :
    (run.report.created.map (·.location workspace.home)).Nodup := by
  rw [created_of_generate succeeded sound (isDirect_of_mem_plannedArtifacts plain direct)]
  exact FileTable.nodup_locations_created (path_eq_of_location_eq settings plain _) _

theorem mem_locations_created_of_generate_iff (location : Location) :
    location ∈ run.report.created.map (·.location workspace.home) ↔
      (run.workspace.disk.file? location).isSome = true ∧
        workspace.disk.file? location = none := by
  rw [created_of_generate succeeded sound (isDirect_of_mem_plannedArtifacts plain direct),
    FileTable.mem_locations_created_iff (path_eq_of_location_eq settings plain _),
    (did_of_generate succeeded).wrote.files_eq]
  rfl

theorem fileCount_of_generate :
    run.workspace.disk.fileCount = workspace.disk.fileCount + run.report.created.length := by
  have distinct := nodup_locations_created_of_generate plain direct sound succeeded
  have locations := mem_locations_created_of_generate_iff plain direct sound succeeded
  have grown := Disk.fileCount_eq_add distinct locations fun location before => by
    rw [(did_of_generate succeeded).wrote.files_eq]
    exact FileTable.isSome_writeAll _ _ before
  rwa [List.length_map] at grown

end Created

/-- What a run reports as created are the paths that it wrote, each once and in the order in which
they were first written, where nothing stood before the run. On the disk these are the files where
nothing stood before, so that the number of created files, which the command prints, is the number
of files by which the disk has grown. -/
theorem created_counts_new_files (plain : document.HasPlainNames)
    (direct : settings.output.IsDirect) (sound : workspace.IsSound)
    (succeeded : generate document settings workspace = .ok () run) :
    run.report.created =
        (run.report.written.flatMap Prod.snd).eraseDups.filter (fun path =>
          (workspace.disk.find? (path.location workspace.home)).isNone) ∧
      (run.report.created.map (·.location workspace.home)).Nodup ∧
      (∀ location, location ∈ run.report.created.map (·.location workspace.home) ↔
        (run.workspace.disk.file? location).isSome = true ∧
          workspace.disk.find? location = none) ∧
      run.workspace.disk.fileCount = workspace.disk.fileCount + run.report.created.length ∧
      CommandLine.summary settings run.report =
        Text.withoutCodes ("Generated " ++ run.report.summary ++ " in " ++ settings.output.text ++
          " (" ++ toString (run.workspace.disk.fileCount - workspace.disk.fileCount) ++
          " new files)") ++ "\n" := by
  have counted := fileCount_of_generate plain direct sound succeeded
  refine ⟨created_eq_of_generate plain direct sound succeeded,
    nodup_locations_created_of_generate plain direct sound succeeded, ?_, counted, ?_⟩
  · intro location
    have keepsFolders := (did_of_generate succeeded).wrote.keepsFolders
    rw [mem_locations_created_of_generate_iff plain direct sound succeeded]
    exact and_congr_right fun isFile => (keepsFolders.find?_eq_none_iff isFile).symm
  · rw [counted, Nat.add_sub_cancel_left]
    rfl

end

/-! ## A shop on a stocked disk -/

/-- The folders that lead to the constants of the pet shop. -/
def constantsFolders : List Location := [
  ["tmp", "work", "out"],
  ["tmp", "work", "out", "src"],
  ["tmp", "work", "out", "src", "main"],
  ["tmp", "work", "out", "src", "main", "java"],
  ["tmp", "work", "out", "src", "main", "java", "shop"],
  ["tmp", "work", "out", "src", "main", "java", "shop", "constants"]]

/-- A workspace that has the file of the base paths already. -/
def stockedWorkspace : Workspace :=
  (constantsFolders.foldl (fun workspace folder => workspace.put folder .folder) petWorkspace).put
    ["tmp", "work", "out", "src", "main", "java", "shop", "constants", "BasePathURLs.java"]
    (.file "old".toUTF8)

set_option maxRecDepth 100000 in
/-- Two services share a file and the file of the base paths is not new: five of seven written paths
are counted. -/
theorem petShop_counts_new_files :
    petShop.HasPlainNames ∧ petSettings.output.IsDirect ∧ stockedWorkspace.IsSound ∧
      ∃ run, generate petShop petSettings stockedWorkspace = .ok () run ∧
        (run.report.written.flatMap Prod.snd).length = 7 ∧
        run.report.created.length = 5 ∧
        run.workspace.disk.fileCount = stockedWorkspace.disk.fileCount + 5 := by
  have plain : petShop.HasPlainNames := by decide +kernel
  have direct : petSettings.output.IsDirect := by decide
  have sound : stockedWorkspace.IsSound := ⟨by decide +kernel, by decide +kernel⟩
  have ended : Run.fault? (generate petShop petSettings stockedWorkspace) = none := by
    decide +kernel
  obtain ⟨run, generated⟩ := Run.exists_of_fault?_eq_none ended
  obtain ⟨created, _, _, counted, _⟩ := created_counts_new_files plain direct sound generated
  have written := flatMap_written_of_generate generated
  have seven : (run.report.written.flatMap Prod.snd).length = 7 := by
    rw [written]
    decide +kernel
  have five : run.report.created.length = 5 := by
    rw [created, written]
    decide +kernel
  exact ⟨plain, direct, sound, run, generated, seven, five, five ▸ counted⟩

end OpenApiJava
