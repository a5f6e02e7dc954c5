import OpenApiJava.Proofs.ArtifactPaths
import OpenApiJava.Proofs.NewFiles

/-!
# Created files

On a disk that is a tree, every entry stands in folders that lead to it from the root. There a path
without double dots leads to every file that stands at its location, so that a file is new exactly
if nothing stands there. Main statement: what a run on such a disk reports as created depends on the
plan and on the table of files that it finds alone.
-/

namespace OpenApiJava

/-! ## Trees of folders -/

namespace Disk

/-- All folders around a location are there. -/
def StandsInFolders (disk : Disk) (location : Location) : Prop :=
  ∀ length < location.length, disk.find? (location.take length) = some .folder

instance (disk : Disk) (location : Location) : Decidable (disk.StandsInFolders location) :=
  inferInstanceAs (Decidable (∀ length < location.length, _))

/-- Every entry stands in folders, as on any file system. -/
def IsTree (disk : Disk) : Prop :=
  ∀ location entry, disk.find? location = some entry → disk.StandsInFolders location

variable {disk earlier later : Disk} {place location : Location} {names : List String}

theorem StandsInFolders.of_keepsFolders (stands : earlier.StandsInFolders location)
    (kept : earlier.KeepsFolders later) :
    later.StandsInFolders location :=
  fun length shorter => kept _ (stands length shorter)

theorem standsInFolders_append_iff :
    disk.StandsInFolders (place ++ names) ↔
      disk.StandsInFolders place ∧
        ∀ length < names.length, disk.find? (place ++ names.take length) = some .folder := by
  constructor
  · intro stands
    constructor
    · intro length shorter
      have inside := stands length (by rw [List.length_append]; omega)
      rwa [List.take_append_of_le_length (Nat.le_of_lt shorter)] at inside
    · intro length shorter
      have inside := stands (place.length + length) (by rw [List.length_append]; omega)
      rwa [List.take_length_add_append] at inside
  · rintro ⟨outside, inside⟩ length shorter
    rw [List.length_append] at shorter
    by_cases here : length < place.length
    · rw [List.take_append_of_le_length (Nat.le_of_lt here)]
      exact outside length here
    · obtain ⟨more, rfl⟩ := Nat.exists_eq_add_of_le (Nat.le_of_not_lt here)
      rw [List.take_length_add_append]
      exact inside more (by omega)

/-- Names without double dots are followed through folders only. -/
theorem reach_eq_ok_iff (noParent : ".." ∉ names) :
    disk.reach place names = .ok location ↔
      location = place ++ names ∧ (∀ name ∈ names, name.utf8ByteSize ≤ longestName) ∧
        ∀ length < names.length, disk.find? (place ++ names.take length) = some .folder := by
  induction names generalizing place with
  | nil => simp [reach, eq_comm]
  | cons name rest inductionHypothesis =>
      have isChild : (name == "..") = false := by
        rw [beq_eq_false_iff_ne]
        exact (List.ne_of_not_mem_cons noParent).symm
      have inner := @inductionHypothesis (place ++ [name]) (List.not_mem_of_not_mem_cons noParent)
      have folders : (∀ length < (name :: rest).length,
          disk.find? (place ++ (name :: rest).take length) = some .folder) ↔
            disk.find? place = some .folder ∧ ∀ length < rest.length,
              disk.find? (place ++ [name] ++ rest.take length) = some .folder := by
        rw [List.length_cons, Nat.forall_lt_succ_left]
        simp
      rw [folders, List.forall_mem_cons, reach]
      cases found : disk.find? place with
      | none => simp
      | some entry =>
          cases entry with
          | file content => simp
          | folder =>
              simp only [isChild, Bool.false_eq_true, if_false, true_and]
              by_cases long : longestName < name.utf8ByteSize
              · simp [long, Nat.not_le.mpr long]
              · simp [long, Nat.le_of_not_lt long, inner]

theorem file?_eq_some_iff {content : ByteArray} :
    disk.file? location = some content ↔ disk.find? location = some (.file content) := by
  unfold file?
  split
  · rename_i held found
    simp [found]
  · rename_i noFile
    constructor
    · intro absent
      cases absent
    · intro found
      exact absurd found (noFile content)

theorem isTree_empty : IsTree empty := by
  intro location entry found
  by_cases root : location = []
  · rw [root]
    intro length shorter
    exact absurd shorter (Nat.not_lt_zero length)
  · rw [find?, empty, lookup_cons_if, if_neg root] at found
    cases found

/-- What is put in folders, and not in place of one, leaves a tree. -/
theorem IsTree.put (tree : disk.IsTree) (inFolders : disk.StandsInFolders location)
    (noFolder : disk.find? location ≠ some .folder) (entry : Entry) :
    (disk.put location entry).IsTree := by
  have kept : disk.KeepsFolders (disk.put location entry) := by
    intro other folder
    have different : other ≠ location := by
      intro same
      exact noFolder (same ▸ folder)
    exact (disk.find?_put_of_ne entry different).trans folder
  intro other held found
  by_cases same : other = location
  · rw [same]
    exact inFolders.of_keepsFolders kept
  · rw [disk.find?_put_of_ne entry same] at found
    exact (tree other held found).of_keepsFolders kept

end Disk

/-! ## Direct paths -/

/-- The path has no double dots, so that it leads through the folders that it names. -/
def FilePath.IsDirect (path : FilePath) : Prop :=
  ".." ∉ path.names

instance (path : FilePath) : Decidable path.IsDirect :=
  inferInstanceAs (Decidable (_ ∉ _))

theorem FilePath.IsDirect.location_eq {path : FilePath} (direct : path.IsDirect)
    (home : Location) :
    path.location home = (if path.absolute then [] else home) ++ path.names := by
  unfold location
  refine Location.follow_of_no_parent _ fun name member => ?_
  rintro rfl
  exact direct member

/-- The disk is a tree, and the working folder is one of its folders. -/
structure Workspace.IsSound (workspace : Workspace) : Prop where
  tree : workspace.disk.IsTree
  home : workspace.disk.find? workspace.home = some .folder

namespace Workspace

variable {first earlier later : Workspace} {path : FilePath}

theorem IsSound.standsInFolders_start (sound : first.IsSound) (path : FilePath) :
    first.disk.StandsInFolders (if path.absolute then [] else first.home) := by
  by_cases absolute : path.absolute = true
  · rw [if_pos absolute]
    intro length shorter
    exact absurd shorter (Nat.not_lt_zero length)
  · rw [if_neg absolute]
    exact sound.tree first.home .folder sound.home

/-- A location that a direct path leads to stands in folders. -/
theorem standsInFolders_of_locate (direct : path.IsDirect)
    (start : later.disk.StandsInFolders (if path.absolute then [] else later.home))
    (located : later.locate path = .ok (path.location later.home)) :
    later.disk.StandsInFolders (path.location later.home) := by
  obtain ⟨_, _, reached⟩ := locate_eq_ok_iff.mp located
  obtain ⟨_, _, inside⟩ := (Disk.reach_eq_ok_iff direct).mp reached
  rw [direct.location_eq]
  exact Disk.standsInFolders_append_iff.mpr ⟨start, inside⟩

/-- A direct path that leads to its location later on does so as soon as the folders are there. -/
theorem locate_of_standsInFolders (direct : path.IsDirect) (sameHome : later.home = earlier.home)
    (located : later.locate path = .ok (path.location earlier.home))
    (stands : earlier.disk.StandsInFolders (path.location earlier.home)) :
    earlier.locate path = .ok (path.location earlier.home) := by
  obtain ⟨noNull, fits, reached⟩ := locate_eq_ok_iff.mp located
  rw [sameHome] at reached
  obtain ⟨same, short, _⟩ := (Disk.reach_eq_ok_iff direct).mp reached
  rw [direct.location_eq] at stands
  have inside := (Disk.standsInFolders_append_iff.mp stands).2
  exact locate_eq_ok_iff.mpr
    ⟨noNull, fits, (Disk.reach_eq_ok_iff direct).mpr ⟨same, short, inside⟩⟩

/-- Where direct paths were written on a tree, every file stands in folders. -/
theorem Wrote.standsInFolders {artifacts : List Artifact} (wrote : first.Wrote artifacts later)
    (sound : first.IsSound) (direct : ∀ artifact ∈ artifacts, artifact.path.IsDirect)
    {location : Location} {content : ByteArray}
    (held : later.disk.file? location = some content) :
    later.disk.StandsInFolders location := by
  rw [wrote.files_eq] at held
  rcases FileTable.exists_artifact_of_writeAll first.home first.disk.file? held with
    before | ⟨artifact, written, placed, _⟩
  · have found := Disk.file?_eq_some_iff.mp before
    exact (sound.tree location _ found).of_keepsFolders wrote.keepsFolders
  · have start : later.disk.StandsInFolders
        (if artifact.path.absolute then [] else later.home) := by
      rw [wrote.home_eq]
      exact (sound.standsInFolders_start artifact.path).of_keepsFolders wrote.keepsFolders
    have located : later.locate artifact.path = .ok (artifact.path.location later.home) := by
      rw [wrote.home_eq]
      exact wrote.located artifact written
    have stands := standsInFolders_of_locate (direct artifact written) start located
    rw [wrote.home_eq] at stands
    rw [← placed]
    exact stands

end Workspace

theorem Workspace.has_eq_true_iff {workspace : Workspace} {path : FilePath} :
    workspace.has path = .ok true ↔
      ∃ location entry, workspace.locate path = .ok location ∧
        workspace.disk.find? location = some entry := by
  unfold has find?
  cases workspace.locate path with
  | error fault =>
      cases fault with
      | nullInName => simp [Except.map]
      | refused problem place => cases problem <;> simp [Except.map]
  | ok location => simp [Except.map, Option.isSome_iff_exists]

namespace Artifact

variable {artifact : Artifact} {earlier later : Workspace} {isNew : Bool}

theorem has_of_write (written : (artifact.write earlier).result = .ok isNew later) :
    earlier.has artifact.path = .ok (!isNew) := by
  unfold write at written
  split at written
  · cases written
  · rename_i found has
    simp only at written
    split at written
    · cases written
      rw [has, Bool.not_not]
    · cases written

/-- Where files stand in folders, a file is new exactly if there is none at its location. -/
theorem isNew_eq (written : (artifact.write earlier).result = .ok isNew later)
    (direct : artifact.path.IsDirect)
    (stands : ∀ content, earlier.disk.file? (artifact.location earlier.home) = some content →
      earlier.disk.StandsInFolders (artifact.location earlier.home)) :
    isNew = (earlier.disk.file? (artifact.location earlier.home)).isNone := by
  have wrote := wrote_of_write written
  have has := has_of_write written
  cases held : earlier.disk.file? (artifact.location earlier.home) with
  | some content =>
      have located := wrote.located artifact List.mem_cons_self
      have leads := Workspace.locate_of_standsInFolders direct wrote.home_eq located
        (stands content held)
      have known := Workspace.has_eq_true_iff.mpr
        ⟨_, _, leads, Disk.file?_eq_some_iff.mp held⟩
      rw [known] at has
      simpa using has
  | none =>
      cases isNew with
      | true => rfl
      | false =>
          obtain ⟨location, entry, located, found⟩ := Workspace.has_eq_true_iff.mp has
          have spelled : location = artifact.location earlier.home :=
            Workspace.eq_location_of_locate located
          rw [spelled] at found
          cases entry with
          | file content =>
              rw [Disk.file?_eq_some_iff.mpr found] at held
              cases held
          | folder =>
              -- No file can be put in place of a folder.
              have folder := wrote.keepsFolders _ found
              have put : later.disk.file? (artifact.location earlier.home) =
                  some artifact.content.toUTF8 := by
                rw [wrote.files_eq]
                exact FileTable.writeAll_last earlier.home earlier.disk.file? [] artifact (by simp)
              rw [Disk.file?_eq_some_iff.mp put] at folder
              cases folder

end Artifact

/-! ## The files that a plan creates -/

namespace FileTable

/-- The paths of the artifacts that are new when they are written one after the other. -/
def created (home : Location) : FileTable → List Artifact → List FilePath
  | _, [] => []
  | files, artifact :: rest =>
      (if (files (artifact.location home)).isNone then [artifact.path] else []) ++
        created home (files.write home artifact) rest

theorem created_append (home : Location) (files : FileTable) (artifacts more : List Artifact) :
    created home files (artifacts ++ more) =
      created home files artifacts ++ created home (writeAll home files artifacts) more := by
  induction artifacts generalizing files with
  | nil => rfl
  | cons artifact rest inductionHypothesis =>
      rw [List.cons_append, created, inductionHypothesis, created, List.append_assoc]
      rfl

end FileTable

/-- A chain of writes on a tree finds new what its table of files tells. -/
theorem Workspace.Writes.newPaths_eq {first earlier later : Workspace} {artifacts : List Artifact}
    {entries : List (Artifact × Bool)} (writes : earlier.Writes entries later)
    (sound : first.IsSound) (wrote : first.Wrote artifacts earlier)
    (direct : ∀ artifact ∈ artifacts, artifact.path.IsDirect)
    (directEntries : ∀ entry ∈ entries, entry.1.path.IsDirect) :
    newPaths entries =
      FileTable.created first.home earlier.disk.file? (entries.map Prod.fst) := by
  -- Only the first workspace is known to be a tree; what was written since grows with every step.
  induction writes generalizing artifacts with
  | nil => rfl
  | @cons earlier next later artifact isNew rest written _ inductionHypothesis =>
      obtain ⟨directHere, directRest⟩ := List.forall_mem_cons.mp directEntries
      have isNew_eq := Artifact.isNew_eq written directHere fun content held =>
        wrote.standsInFolders sound direct held
      have wroteNext := wrote.append (Artifact.wrote_of_write written)
      have directAll : ∀ other ∈ artifacts ++ [artifact], other.path.IsDirect :=
        List.forall_mem_append.mpr ⟨direct, List.forall_mem_singleton.mpr directHere⟩
      have table : next.disk.file? = FileTable.write first.home earlier.disk.file? artifact := by
        rw [(Artifact.wrote_of_write written).files_eq, wrote.home_eq]
        rfl
      have others := inductionHypothesis wroteNext directAll directRest
      rw [table] at others
      rw [wrote.home_eq] at isNew_eq
      rw [List.map_cons, FileTable.created, ← others, ← isNew_eq]
      cases isNew with
      | true => rfl
      | false => rfl

/-- What a run creates on a tree depends on its plan and on the files that it finds. -/
theorem created_of_generate {document : Document} {settings : Settings} {workspace : Workspace}
    {run : Run} (succeeded : generate document settings workspace = .ok () run)
    (sound : workspace.IsSound)
    (direct : ∀ artifact ∈ plannedArtifacts document settings, artifact.path.IsDirect) :
    run.report.created =
      FileTable.created workspace.home workspace.disk.file?
        (plannedArtifacts document settings) := by
  obtain ⟨entries, same, writes, created⟩ := exists_writes_of_generate succeeded
  have directEntries : ∀ entry ∈ entries, entry.1.path.IsDirect := by
    intro entry member
    apply direct
    rw [← same]
    exact List.mem_map_of_mem member
  rw [created, ← same]
  exact writes.newPaths_eq sound (Workspace.Wrote.of_grows (Workspace.Grows.refl workspace))
    (by simp) directEntries

end OpenApiJava
