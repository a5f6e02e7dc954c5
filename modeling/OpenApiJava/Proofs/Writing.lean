import OpenApiJava.Generation
import OpenApiJava.Proofs.DiskGrowth

/-!
# What writing leaves

A table of files is what a disk holds when folders do not count, and writing an artifact updates it
at one location. Main statements: a run that ends has updated the table with all artifacts of its
batches one after the other, and a run that stops has done so with a front part of them, which ends
before the artifact that could not be written.
-/

namespace OpenApiJava

/-! ## Tables of files -/

/-- The contents of files by location. -/
abbrev FileTable : Type := Location → Option ByteArray

/-- The location that an artifact is meant for, from a working folder. -/
def Artifact.location (artifact : Artifact) (home : Location) : Location :=
  artifact.path.location home

namespace FileTable

/-- The table once an artifact stands at its location. -/
def write (home : Location) (files : FileTable) (artifact : Artifact) : FileTable :=
  fun location =>
    if location = artifact.location home then some artifact.content.toUTF8 else files location

/-- The table once artifacts are written one after the other. -/
def writeAll (home : Location) (files : FileTable) (artifacts : List Artifact) : FileTable :=
  artifacts.foldl (write home) files

theorem writeAll_append
    (home : Location) (files : FileTable) (first second : List Artifact) :
    writeAll home files (first ++ second) = writeAll home (writeAll home files first) second := by
  simp only [writeAll, List.foldl_append]

/-- A location that no artifact is meant for keeps what it has. -/
theorem writeAll_of_forall_ne
    (home : Location) (files : FileTable) {artifacts : List Artifact} {location : Location}
    (elsewhere : ∀ artifact ∈ artifacts, artifact.location home ≠ location) :
    writeAll home files artifacts location = files location := by
  induction artifacts generalizing files with
  | nil => rfl
  | cons artifact rest inductionHypothesis =>
      have different : location ≠ artifact.location home :=
        (elsewhere artifact List.mem_cons_self).symm
      have others : ∀ other ∈ rest, other.location home ≠ location :=
        fun other member => elsewhere other (List.mem_cons_of_mem artifact member)
      calc
        writeAll home files (artifact :: rest) location
            = writeAll home (write home files artifact) rest location := rfl
        _ = write home files artifact location :=
            inductionHypothesis (write home files artifact) others
        _ = files location := if_neg different

/-- A location holds the text of the last artifact that is meant for it. -/
theorem writeAll_last
    (home : Location) (files : FileTable)
    (earlier : List Artifact) (artifact : Artifact) {later : List Artifact}
    (last : ∀ other ∈ later, other.location home ≠ artifact.location home) :
    writeAll home files (earlier ++ artifact :: later) (artifact.location home) =
      some artifact.content.toUTF8 := by
  rw [writeAll_append]
  calc
    writeAll home (writeAll home files earlier) (artifact :: later) (artifact.location home)
        = writeAll home (write home (writeAll home files earlier) artifact) later
            (artifact.location home) := rfl
    _ = write home (writeAll home files earlier) artifact (artifact.location home) :=
        writeAll_of_forall_ne home _ last
    _ = some artifact.content.toUTF8 := if_pos rfl

/-- What a location holds was there before or is the whole text of an artifact. -/
theorem exists_artifact_of_writeAll
    (home : Location) (files : FileTable) {artifacts : List Artifact} {location : Location}
    {content : ByteArray} (held : writeAll home files artifacts location = some content) :
    files location = some content ∨
      ∃ artifact ∈ artifacts,
        artifact.location home = location ∧ artifact.content.toUTF8 = content := by
  induction artifacts generalizing files with
  | nil => exact Or.inl held
  | cons artifact rest inductionHypothesis =>
      have heldRest : writeAll home (write home files artifact) rest location = some content :=
        held
      rcases inductionHypothesis _ heldRest with before | ⟨other, member, found⟩
      · unfold write at before
        split at before
        · rename_i here
          exact
            Or.inr ⟨artifact, List.mem_cons_self, here.symm, Option.some.inj before⟩
        · exact Or.inl before
      · exact Or.inr ⟨other, List.mem_cons_of_mem artifact member, found⟩

end FileTable

/-! ## Written artifacts -/

theorem Disk.file?_put
    (disk : Disk) (location other : Location) (content : ByteArray) :
    (disk.put location (.file content)).file? other =
      if other = location then some content else disk.file? other := by
  by_cases same : other = location
  · subst same
    simp [file?]
  · simp [file?, same, disk.find?_put_of_ne (.file content) same]

theorem Disk.keepsFolders_put
    {disk : Disk} {location : Location} {content : ByteArray}
    (noFolder : disk.find? location ≠ some .folder) :
    disk.KeepsFolders (disk.put location (.file content)) := by
  intro other folder
  have different : other ≠ location := by
    intro same
    exact noFolder (same ▸ folder)
  exact (disk.find?_put_of_ne (.file content) different).trans folder

namespace Workspace

/-- The later workspace is the earlier one with artifacts written one after the other. -/
structure Wrote (earlier : Workspace) (artifacts : List Artifact) (later : Workspace) :
    Prop where
  home_eq : later.home = earlier.home
  files_eq :
    later.disk.file? = FileTable.writeAll earlier.home earlier.disk.file? artifacts
  /-- The path of every artifact leads to the location that the artifact is meant for. -/
  located : ∀ artifact ∈ artifacts,
    later.locate artifact.path = .ok (artifact.location earlier.home)
  keepsFolders : earlier.disk.KeepsFolders later.disk
  /-- Where no artifact is meant for, nothing is new but folders. -/
  growsElsewhere : ∀ location,
    (∀ artifact ∈ artifacts, artifact.location earlier.home ≠ location) →
      earlier.disk.GrowsAt later.disk location

namespace Wrote

theorem of_grows {earlier later : Workspace} (growth : earlier.Grows later) :
    earlier.Wrote [] later where
  home_eq := growth.home_eq
  files_eq := growth.disk.file?_eq
  located := by simp
  keepsFolders := growth.disk.keepsFolders
  growsElsewhere location _ := growth.disk location

theorem append {first second third : Workspace} {artifacts more : List Artifact}
    (wrote : first.Wrote artifacts second) (wroteMore : second.Wrote more third) :
    first.Wrote (artifacts ++ more) third where
  home_eq := wroteMore.home_eq.trans wrote.home_eq
  files_eq := by
    rw [wroteMore.files_eq, wrote.files_eq, wrote.home_eq, FileTable.writeAll_append]
  located := by
    intro artifact member
    rcases List.mem_append.mp member with member | member
    · exact
        locate_of_keepsFolders wroteMore.home_eq wroteMore.keepsFolders
          (wrote.located artifact member)
    · rw [← wrote.home_eq]
      exact wroteMore.located artifact member
  keepsFolders location folder :=
    wroteMore.keepsFolders location (wrote.keepsFolders location folder)
  growsElsewhere := by
    intro location elsewhere
    have growth := wrote.growsElsewhere location fun artifact member =>
      elsewhere artifact (List.mem_append_left more member)
    have moreGrowth := wroteMore.growsElsewhere location fun artifact member => by
      rw [wrote.home_eq]
      exact elsewhere artifact (List.mem_append_right artifacts member)
    exact growth.trans moreGrowth

/-- The content of the last artifact that is meant for a location can be read at its path. -/
theorem fileContent_eq {before after : Workspace} {artifacts : List Artifact}
    (wrote : before.Wrote artifacts after)
    {earlier later : List Artifact} {artifact : Artifact}
    (split : artifacts = earlier ++ artifact :: later)
    (last : ∀ other ∈ later, other.location before.home ≠ artifact.location before.home) :
    after.fileContent artifact.path = .ok artifact.content.toUTF8 := by
  have located := wrote.located artifact (by simp [split])
  have held : after.disk.file? (artifact.location before.home) = some artifact.content.toUTF8 := by
    rw [wrote.files_eq, split]
    exact FileTable.writeAll_last before.home before.disk.file? earlier artifact last
  have found : after.disk.find? (artifact.location before.home) =
      some (.file artifact.content.toUTF8) := by
    unfold Disk.file? at held
    split at held
    · rename_i content entry
      cases held
      exact entry
    · cases held
  unfold fileContent find?
  rw [located]
  simp only [Except.map, bind, Except.bind, found]

end Wrote

/-- A file that is put where its path leads, after folders were made, is a written artifact. -/
theorem wrote_put {earlier middle : Workspace} {artifact : Artifact}
    (growth : earlier.Grows middle)
    (located : middle.locate artifact.path = .ok (artifact.location earlier.home))
    (noFolder : middle.disk.find? (artifact.location earlier.home) ≠ some .folder) :
    earlier.Wrote [artifact]
      (middle.put (artifact.location earlier.home) (.file artifact.content.toUTF8)) where
  home_eq := growth.home_eq
  files_eq := by
    funext location
    calc
      (middle.put (artifact.location earlier.home) (.file artifact.content.toUTF8)).disk.file?
            location
          = if location = artifact.location earlier.home then some artifact.content.toUTF8
            else middle.disk.file? location :=
          middle.disk.file?_put (artifact.location earlier.home) location artifact.content.toUTF8
      _ = FileTable.writeAll earlier.home earlier.disk.file? [artifact] location := by
          rw [growth.disk.file?_eq]
          rfl
  located := by
    intro other member
    rw [List.mem_singleton] at member
    subst member
    refine locate_of_keepsFolders ?_ (Disk.keepsFolders_put noFolder) located
    rfl
  keepsFolders location folder :=
    Disk.keepsFolders_put noFolder location (growth.disk.keepsFolders location folder)
  growsElsewhere := by
    intro location elsewhere
    have different : location ≠ artifact.location earlier.home :=
      (elsewhere artifact List.mem_cons_self).symm
    have unchanged := middle.disk.find?_put_of_ne (.file artifact.content.toUTF8) different
    rcases growth.disk location with same | ⟨absent, folder⟩
    · exact Or.inl (unchanged.trans same)
    · exact Or.inr ⟨absent, unchanged.trans folder⟩

end Workspace

namespace Artifact

/-- An artifact that is written stands at its location. -/
theorem wrote_of_write
    {artifact : Artifact} {workspace later : Workspace} {isNew : Bool}
    (written : (artifact.write workspace).result = .ok isNew later) :
    workspace.Wrote [artifact] later := by
  unfold write at written
  split at written
  · cases written
  · simp only at written
    split at written
    · rename_i changed stored
      cases written
      obtain ⟨middle, growth, located, noFolder, same⟩ :=
        DiskAction.exists_grows_put_of_store stored
      subst same
      exact Workspace.wrote_put growth located noFolder
    · cases written

/-- An artifact that cannot be written leaves no more than folders. -/
theorem grows_of_write_error
    {artifact : Artifact} {workspace later : Workspace} {fault : DiskFault}
    (failed : (artifact.write workspace).result = .error fault later) :
    workspace.Grows later := by
  unfold write at failed
  split at failed
  · cases failed
    exact Workspace.Grows.refl workspace
  · simp only at failed
    split at failed
    · cases failed
    · rename_i stored
      cases failed
      exact DiskAction.grows_of_store_error stored

end Artifact

end OpenApiJava
