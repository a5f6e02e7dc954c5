import OpenApiJava.Proofs.MissingServers
import OpenApiJava.Proofs.NewFiles

/-!
# Running again

Where a run has written a path, the path leads to a file in a folder. On such a workspace nothing
has to be made for the file to be written once more: it is written over. Main statement: a run that
ends can be run again, and the second run leaves everything as it is and creates nothing.
-/

namespace OpenApiJava

/-! ## Folders at paths -/

namespace Workspace

theorem hasFolder_iff {workspace : Workspace} {path : FilePath} :
    workspace.hasFolder path = true ↔
      ∃ location, workspace.locate path = .ok location ∧
        workspace.disk.find? location = some .folder := by
  unfold hasFolder find?
  cases workspace.locate path with
  | error fault => simp [Except.map]
  | ok location =>
      cases found : workspace.disk.find? location with
      | none => simp [Except.map, found]
      | some entry => cases entry <;> simp [Except.map, found]

theorem hasFolder_of_keepsFolders {earlier later : Workspace}
    (sameHome : later.home = earlier.home) (kept : earlier.disk.KeepsFolders later.disk)
    {path : FilePath} (has : earlier.hasFolder path = true) :
    later.hasFolder path = true := by
  obtain ⟨location, located, folder⟩ := hasFolder_iff.mp has
  exact hasFolder_iff.mpr
    ⟨location, locate_of_keepsFolders sameHome kept located, kept location folder⟩

theorem hasFolder_of_withNewFolder {workspace later : Workspace} {path : FilePath}
    (made : workspace.withNewFolder path = .ok later) :
    later.hasFolder path = true := by
  have growth := grows_withNewFolder made
  unfold withNewFolder at made
  cases located : workspace.locate path with
  | error fault =>
      rw [located] at made
      cases made
  | ok location =>
      rw [located] at made
      simp only [bind, Except.bind] at made
      split at made
      · cases made
      · cases made
        refine hasFolder_iff.mpr ⟨location, ?_, Disk.find?_put_self _ _ _⟩
        exact locate_of_keepsFolders growth.home_eq growth.disk.keepsFolders located

theorem hasFolder_of_withFolder {workspace later : Workspace} {path : FilePath}
    (made : workspace.withFolder path = .ok later) :
    later.hasFolder path = true := by
  unfold withFolder at made
  split at made
  · rename_i new
    cases made
    exact hasFolder_of_withNewFolder new
  · split at made
    · rename_i has
      cases made
      exact has
    · cases made

theorem withNewFolder_of_hasFolder {workspace : Workspace} {path : FilePath}
    (has : workspace.hasFolder path = true) :
    workspace.withNewFolder path = .error (.refused .occupied path) := by
  obtain ⟨location, located, folder⟩ := hasFolder_iff.mp has
  unfold withNewFolder
  rw [located]
  simp [bind, Except.bind, folder]

end Workspace

namespace DiskAction

theorem of_ofChange_eq_ok {change : Workspace → Except DiskFault Workspace}
    {workspace later : Workspace} (changed : ofChange change workspace = .ok () later) :
    change workspace = .ok later := by
  unfold ofChange at changed
  split at changed
  · rename_i same
    cases changed
    exact same
  · cases changed

theorem hasFolder_of_ensureWithin {depth : Nat} {path : FilePath} {workspace later : Workspace}
    (ensured : ensureWithin depth path workspace = .ok () later) :
    later.hasFolder path = true := by
  cases depth with
  | zero => exact Workspace.hasFolder_of_withFolder (of_ofChange_eq_ok ensured)
  | succ depth =>
      unfold ensureWithin at ensured
      split at ensured
      · simp only [bind, EStateM.bind] at ensured
        split at ensured
        · exact Workspace.hasFolder_of_withFolder (of_ofChange_eq_ok ensured)
        · cases ensured
      · exact Workspace.hasFolder_of_withFolder (of_ofChange_eq_ok ensured)

theorem ensureWithin_of_hasFolder {path : FilePath} {workspace : Workspace}
    (has : workspace.hasFolder path = true) (depth : Nat) :
    ensureWithin depth path workspace = .ok () workspace := by
  have refused := Workspace.withNewFolder_of_hasFolder has
  have unchanged : ofChange (·.withFolder path) workspace = .ok () workspace := by
    unfold ofChange Workspace.withFolder
    simp [refused, has]
  cases depth with
  | zero => exact unchanged
  | succ depth =>
      unfold ensureWithin
      rw [refused]
      exact unchanged

end DiskAction

/-! ## Files that stand in their folders -/

/-- A path leads to a file, and its folder stands. -/
structure Workspace.Holds (workspace : Workspace) (path : FilePath) : Prop where
  folder : workspace.hasFolder path.parent = true
  located : workspace.locate path = .ok (path.location workspace.home)
  isFile : (workspace.disk.file? (path.location workspace.home)).isSome = true

theorem FileTable.isSome_writeAll (home : Location) {files : FileTable} (artifacts : List Artifact)
    {location : Location} (held : (files location).isSome = true) :
    (writeAll home files artifacts location).isSome = true := by
  induction artifacts generalizing files with
  | nil => exact held
  | cons artifact rest inductionHypothesis =>
      have heldNext : (write home files artifact location).isSome = true := by
        unfold write
        split
        · rfl
        · exact held
      exact inductionHypothesis heldNext

namespace Workspace

variable {earlier later : Workspace} {entries : List (Artifact × Bool)}

theorem Holds.of_wrote {path : FilePath} (holds : earlier.Holds path) {artifacts : List Artifact}
    (wrote : earlier.Wrote artifacts later) :
    later.Holds path where
  folder := hasFolder_of_keepsFolders wrote.home_eq wrote.keepsFolders holds.folder
  located := by
    rw [wrote.home_eq]
    exact locate_of_keepsFolders wrote.home_eq wrote.keepsFolders holds.located
  isFile := by
    rw [wrote.home_eq, wrote.files_eq]
    exact FileTable.isSome_writeAll earlier.home artifacts holds.isFile

theorem Holds.exists_file {path : FilePath} (holds : earlier.Holds path) :
    ∃ content, earlier.disk.find? (path.location earlier.home) = some (.file content) := by
  have isFile := holds.isFile
  unfold Disk.file? at isFile
  split at isFile
  · rename_i content found
    exact ⟨content, found⟩
  · cases isFile

theorem holds_of_write {artifact : Artifact} {isNew : Bool}
    (written : (artifact.write earlier).result = .ok isNew later) :
    later.Holds artifact.path := by
  have wrote := Artifact.wrote_of_write written
  have located := wrote.located artifact List.mem_cons_self
  refine ⟨?_, ?_, ?_⟩
  · unfold Artifact.write at written
    split at written
    · cases written
    · simp only at written
      split at written
      · rename_i changed stored
        cases written
        simp only [DiskAction.store, DiskAction.ensureFolder, bind, EStateM.bind] at stored
        split at stored
        · rename_i middle ensured
          obtain ⟨_, noFolder, same⟩ :=
            eq_put_of_withFile (DiskAction.of_ofChange_eq_ok stored)
          have has := DiskAction.hasFolder_of_ensureWithin ensured
          have kept : middle.disk.KeepsFolders later.disk := by
            rw [same]
            exact Disk.keepsFolders_put noFolder
          have sameHome : later.home = middle.home := by
            rw [same]
            rfl
          exact hasFolder_of_keepsFolders sameHome kept has
        · cases stored
      · cases written
  · rw [wrote.home_eq]
    exact located
  · have held :
        FileTable.writeAll earlier.home earlier.disk.file? [artifact]
            (artifact.location earlier.home) = some artifact.content.toUTF8 :=
      FileTable.writeAll_last earlier.home earlier.disk.file? [] artifact (by simp)
    rw [wrote.home_eq, wrote.files_eq]
    exact Option.isSome_iff_exists.mpr ⟨_, held⟩

theorem Writes.holds (writes : earlier.Writes entries later) :
    ∀ entry ∈ entries, later.Holds entry.1.path := by
  induction writes with
  | nil => simp
  | cons written writesRest inductionHypothesis =>
      intro entry member
      rcases List.mem_cons.mp member with rfl | member
      · exact (holds_of_write written).of_wrote writesRest.wrote
      · exact inductionHypothesis entry member

/-- A file that stands is written over, and nothing else is touched. -/
theorem Holds.write_eq {artifact : Artifact} (holds : earlier.Holds artifact.path) :
    (artifact.write earlier).result =
      .ok false
        (earlier.put (artifact.location earlier.home) (.file artifact.content.toUTF8)) := by
  obtain ⟨content, found⟩ := holds.exists_file
  have known : earlier.has artifact.path = .ok true := by
    unfold has find?
    rw [holds.located]
    simp [Except.map, found]
  have stored : DiskAction.store artifact.path artifact.content.toUTF8 earlier =
      .ok () (earlier.put (artifact.location earlier.home) (.file artifact.content.toUTF8)) := by
    simp only [DiskAction.store, DiskAction.ensureFolder, bind, EStateM.bind,
      DiskAction.ensureWithin_of_hasFolder holds.folder, DiskAction.ofChange, withFile,
      holds.located, Except.bind, found]
    rfl
  unfold Artifact.write
  rw [known]
  simp only [stored]
  rfl

/-- A workspace takes files once more that stand in their folders. -/
theorem takesAll_of_holds {artifacts : List Artifact}
    (holds : ∀ artifact ∈ artifacts, earlier.Holds artifact.path) :
    earlier.takesAll artifacts = true := by
  induction artifacts generalizing earlier with
  | nil => rfl
  | cons artifact rest inductionHypothesis =>
      have written := (holds artifact List.mem_cons_self).write_eq
      unfold takesAll
      rw [written]
      refine inductionHypothesis fun other member => ?_
      exact (holds other (List.mem_cons_of_mem artifact member)).of_wrote
        (Artifact.wrote_of_write written)

/-- Files that stand in their folders are written over: none of them is new, and no folder is. -/
theorem Writes.of_holds (writes : earlier.Writes entries later)
    (holds : ∀ entry ∈ entries, earlier.Holds entry.1.path) :
    newPaths entries = [] ∧
      ∀ location,
        later.disk.find? location = some .folder ↔ earlier.disk.find? location = some .folder := by
  induction writes with
  | nil => exact ⟨rfl, fun _ => Iff.rfl⟩
  | @cons earlier next later artifact isNew rest written _ inductionHypothesis =>
      have first := holds _ List.mem_cons_self
      obtain ⟨content, found⟩ := first.exists_file
      have wrote := Artifact.wrote_of_write written
      obtain ⟨noneNew, folders⟩ := inductionHypothesis fun entry member =>
        (holds entry (List.mem_cons_of_mem _ member)).of_wrote wrote
      rw [first.write_eq] at written
      cases written
      refine ⟨noneNew, fun location => ?_⟩
      rw [folders]
      by_cases here : location = artifact.location earlier.home
      · subst here
        have before : earlier.disk.find? (artifact.location earlier.home) = some (.file content) :=
          found
        simp [put, before]
      · rw [put, Disk.find?_put_of_ne _ _ here]

end Workspace

/-! ## Writing a plan twice -/

namespace FileTable

/-- Where some artifact is meant for, it does not matter what was there before. -/
theorem writeAll_congr (home : Location) (files others : FileTable) {artifacts : List Artifact}
    {location : Location} (meant : ∃ artifact ∈ artifacts, artifact.location home = location) :
    writeAll home files artifacts location = writeAll home others artifacts location := by
  induction artifacts generalizing files others with
  | nil =>
      obtain ⟨artifact, member, _⟩ := meant
      cases member
  | cons artifact rest inductionHypothesis =>
      by_cases inRest : ∃ other ∈ rest, other.location home = location
      · exact inductionHypothesis (write home files artifact) (write home others artifact) inRest
      · have elsewhere : ∀ other ∈ rest, other.location home ≠ location :=
          fun other member same => inRest ⟨other, member, same⟩
        have here : artifact.location home = location := by
          obtain ⟨other, member, same⟩ := meant
          rcases List.mem_cons.mp member with rfl | member
          · exact same
          · exact absurd same (elsewhere other member)
        subst here
        exact
          (writeAll_last home files [] artifact elsewhere).trans
            (writeAll_last home others [] artifact elsewhere).symm

/-- Writing the same artifacts once more changes nothing, even if several are meant for one
location. -/
theorem writeAll_writeAll (home : Location) (files : FileTable) (artifacts : List Artifact) :
    writeAll home (writeAll home files artifacts) artifacts = writeAll home files artifacts := by
  funext location
  by_cases meant : ∃ artifact ∈ artifacts, artifact.location home = location
  · exact writeAll_congr home _ _ meant
  · have elsewhere : ∀ artifact ∈ artifacts, artifact.location home ≠ location :=
      fun artifact member same => meant ⟨artifact, member, same⟩
    rw [writeAll_of_forall_ne home _ elsewhere]

end FileTable

theorem Disk.find?_eq_of_file?_eq {first second : Disk} (files : first.file? = second.file?)
    (folders : ∀ location,
      first.find? location = some .folder ↔ second.find? location = some .folder)
    (location : Location) :
    first.find? location = second.find? location := by
  have sameFile := congrFun files location
  have sameFolder := folders location
  unfold file? at sameFile
  cases found : first.find? location with
  | none =>
      cases other : second.find? location with
      | none => rfl
      | some entry => cases entry <;> simp_all
  | some entry =>
      cases entry with
      | folder => exact (sameFolder.mp found).symm
      | file content =>
          cases other : second.find? location with
          | none => simp_all
          | some entry => cases entry <;> simp_all

theorem Batch.attempted_of_planned {batches : List Batch}
    (planned : ∀ batch ∈ batches, batch.artifacts = .ok batch.planned) :
    attempted batches = batches.flatMap Batch.planned := by
  induction batches with
  | nil => rfl
  | cons batch rest inductionHypothesis =>
      unfold attempted
      rw [planned batch List.mem_cons_self, List.flatMap_cons]
      simp only
      rw [inductionHypothesis fun other member => planned other (List.mem_cons_of_mem batch member)]

theorem Batch.findSome?_fault?_of_planned {batches : List Batch}
    (planned : ∀ batch ∈ batches, batch.artifacts = .ok batch.planned) :
    batches.findSome? Batch.fault? = none := by
  rw [List.findSome?_eq_none_iff]
  intro batch member
  unfold fault?
  rw [planned batch member]
  rfl

/-! ## Runs on what a run has left -/

section Again

variable {document : Document} {settings : Settings} {workspace : Workspace} {run again : Run}

theorem holds_of_generate (succeeded : generate document settings workspace = .ok () run) :
    ∀ artifact ∈ plannedArtifacts document settings, run.workspace.Holds artifact.path := by
  obtain ⟨entries, sameEntries, writes, _⟩ := exists_writes_of_generate succeeded
  rw [← sameEntries]
  intro artifact member
  obtain ⟨entry, isEntry, rfl⟩ := List.mem_map.mp member
  exact writes.holds entry isEntry

/-- A second run finds all its files in their folders and therefore ends. -/
theorem exists_generate_again (succeeded : generate document settings workspace = .ok () run) :
    ∃ again, generate document settings run.workspace = .ok () again := by
  have planned := (Run.did_of_performAll succeeded).1
  have takes : run.workspace.takesAll (Batch.attempted (Batch.plan document settings)) = true := by
    rw [Batch.attempted_of_planned planned, flatMap_planned_plan]
    exact Workspace.takesAll_of_holds (holds_of_generate succeeded)
  have stops : Run.fault? (generate document settings run.workspace) =
      (Batch.plan document settings).findSome? Batch.fault? :=
    Run.fault?_performAll takes
  rw [Batch.findSome?_fault?_of_planned planned] at stops
  exact Run.exists_of_fault?_eq_none stops

theorem file?_eq_of_generate_again (succeeded : generate document settings workspace = .ok () run)
    (repeated : generate document settings run.workspace = .ok () again) :
    again.workspace.disk.file? = run.workspace.disk.file? := by
  have wrote := (did_of_generate succeeded).wrote
  have wroteAgain := (did_of_generate repeated).wrote
  calc
    again.workspace.disk.file?
        = FileTable.writeAll run.workspace.home run.workspace.disk.file?
            (plannedArtifacts document settings) := wroteAgain.files_eq
    _ = FileTable.writeAll workspace.home
          (FileTable.writeAll workspace.home workspace.disk.file?
            (plannedArtifacts document settings))
          (plannedArtifacts document settings) := by
        rw [wrote.home_eq, wrote.files_eq]
        rfl
    _ = FileTable.writeAll workspace.home workspace.disk.file?
          (plannedArtifacts document settings) :=
        FileTable.writeAll_writeAll workspace.home _ _
    _ = run.workspace.disk.file? := wrote.files_eq.symm

end Again

/-- A run that ends can be run again on what it leaves. The second run ends too, leaves every file
and every folder as it is, reports the same files and creates none. -/
theorem generate_again {document : Document} {settings : Settings} {workspace : Workspace}
    {run : Run} (succeeded : generate document settings workspace = .ok () run) :
    ∃ again, generate document settings run.workspace = .ok () again ∧
      again.workspace.home = run.workspace.home ∧
      (∀ location,
        again.workspace.disk.find? location = run.workspace.disk.find? location) ∧
      again.report.written = run.report.written ∧
      again.report.created = [] := by
  obtain ⟨again, repeated⟩ := exists_generate_again succeeded
  obtain ⟨entries, sameEntries, writes, created⟩ := exists_writes_of_generate repeated
  have stand : ∀ entry ∈ entries, run.workspace.Holds entry.1.path := by
    intro entry member
    apply holds_of_generate succeeded
    rw [← sameEntries]
    exact List.mem_map_of_mem member
  obtain ⟨noneNew, folders⟩ := writes.of_holds stand
  have sameHome := (did_of_generate repeated).wrote.home_eq
  have files := file?_eq_of_generate_again succeeded repeated
  refine
    ⟨again, repeated, sameHome, Disk.find?_eq_of_file?_eq files folders, ?_,
      created.trans noneNew⟩
  rw [written_of_generate repeated, written_of_generate succeeded]

/-- A pet shop with two schemas whose classes share a file, one of them by a way through the folder
of another class. -/
def crossedShop : Document :=
  { petShop with
    schemas := [
      ("Pet/../Shop", ⟨some "object", none, none, none, [], some "first"⟩),
      ("Shop", ⟨some "object", none, none, none, [], some "second"⟩)] }

def crossedPlace : Location :=
  ["tmp", "work", "out", "src", "main", "java", "shop", "dto", "RequestDTO", "Shop.java"]

set_option maxRecDepth 100000 in
/-- The second run writes both classes of a shared file again and leaves the file as it is. -/
theorem crossedShop_again :
    ∃ run again, generate crossedShop petSettings petWorkspace = .ok () run ∧
      generate crossedShop petSettings run.workspace = .ok () again ∧
      ((Dto.ofSchemas crossedShop.schemas petSettings).map fun dto =>
        (dto.artifact petSettings).location petWorkspace.home).count crossedPlace = 2 ∧
      again.workspace.disk.find? crossedPlace = run.workspace.disk.find? crossedPlace ∧
      again.report.written = run.report.written ∧
      again.report.created = [] := by
  have ended : Run.fault? (generate crossedShop petSettings petWorkspace) = none := by
    decide +kernel
  obtain ⟨run, generated⟩ := Run.exists_of_fault?_eq_none ended
  obtain ⟨again, repeated, _, sameDisk, written, created⟩ := generate_again generated
  exact
    ⟨run, again, generated, repeated, by decide +kernel, sameDisk crossedPlace, written, created⟩

end OpenApiJava
