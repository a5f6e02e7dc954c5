import OpenApiJava.Disk.Artifact

/-!
# Growth of workspaces

Folders are made without regard to what else stands on a disk, so that the making of folders may
stop half-way: all that it leaves are folders where nothing stood. Storing a file adds the file to
that. Main statements: whatever becomes of an action, the workspace has only grown, and an action
that succeeds has put its file at the location that the names of its path spell.
-/

namespace OpenApiJava

/-! ## Locations -/

/-- The location that names lead to from a place if every folder on the way is there. -/
def Location.follow (place : Location) : List String → Location
  | [] => place
  | name :: rest =>
      if name == ".." then Location.follow place.dropLast rest
      else Location.follow (place ++ [name]) rest

/-- The location that a path spells, from a working folder. -/
def FilePath.location (path : FilePath) (home : Location) : Location :=
  Location.follow (if path.absolute then [] else home) path.names

namespace Disk

/-- The content of the file at a location. -/
def file? (disk : Disk) (location : Location) : Option ByteArray :=
  match disk.find? location with
  | some (.file content) => some content
  | _ => none

/-- The folders of a disk are folders of another one. -/
def KeepsFolders (earlier later : Disk) : Prop :=
  ∀ location, earlier.find? location = some .folder → later.find? location = some .folder

/-- What is reached is the location that the names spell. -/
theorem eq_follow_of_reach
    {disk : Disk} {place location : Location} {names : List String}
    (reached : disk.reach place names = .ok location) :
    location = Location.follow place names := by
  induction names generalizing place with
  | nil =>
      simp only [reach, Except.ok.injEq] at reached
      exact reached.symm
  | cons name rest inductionHypothesis =>
      unfold reach at reached
      unfold Location.follow
      split at reached
      · cases reached
      · cases reached
      · split at reached
        · rename_i isParent
          rw [if_pos isParent]
          exact inductionHypothesis reached
        · rename_i isChild
          rw [if_neg isChild]
          split at reached
          · cases reached
          · exact inductionHypothesis reached

/-- What is reached stays in reach as long as the folders stay. -/
theorem reach_of_keepsFolders
    {earlier later : Disk} (kept : earlier.KeepsFolders later)
    {place location : Location} {names : List String}
    (reached : earlier.reach place names = .ok location) :
    later.reach place names = .ok location := by
  induction names generalizing place with
  | nil => simpa only [reach] using reached
  | cons name rest inductionHypothesis =>
      unfold reach at reached ⊢
      split at reached
      · cases reached
      · cases reached
      · rename_i folder
        rw [kept place folder]
        split at reached
        · rename_i isParent
          simp only [isParent, if_true]
          exact inductionHypothesis reached
        · rename_i isChild
          simp only [isChild]
          split at reached
          · cases reached
          · rename_i fits
            simp only [fits, if_false]
            exact inductionHypothesis reached

/-- At a location the two disks hold the same, or a folder has come where nothing stood. -/
def GrowsAt (earlier later : Disk) (location : Location) : Prop :=
  later.find? location = earlier.find? location ∨
    earlier.find? location = none ∧ later.find? location = some .folder

theorem GrowsAt.trans {first second third : Disk} {location : Location}
    (growth : first.GrowsAt second location) (more : second.GrowsAt third location) :
    first.GrowsAt third location := by
  rcases growth with same | ⟨absent, folder⟩
  · unfold GrowsAt
    rw [← same]
    exact more
  · rcases more with unchanged | ⟨missing, _⟩
    · exact Or.inr ⟨absent, unchanged.trans folder⟩
    · rw [folder] at missing
      cases missing

/-- The later disk is the earlier one, but for folders where nothing stood. -/
def Grows (earlier later : Disk) : Prop :=
  ∀ location, earlier.GrowsAt later location

namespace Grows

theorem refl (disk : Disk) : disk.Grows disk :=
  fun _ => Or.inl rfl

theorem trans {first second third : Disk}
    (growth : first.Grows second) (more : second.Grows third) :
    first.Grows third :=
  fun location => (growth location).trans (more location)

theorem keepsFolders {earlier later : Disk} (growth : earlier.Grows later) :
    earlier.KeepsFolders later := by
  intro location folder
  rcases growth location with same | ⟨absent, _⟩
  · rw [same, folder]
  · rw [absent] at folder
    cases folder

/-- No file comes, goes or changes when a disk grows. -/
theorem file?_eq {earlier later : Disk} (growth : earlier.Grows later) :
    later.file? = earlier.file? := by
  funext location
  unfold file?
  rcases growth location with same | ⟨absent, folder⟩
  · rw [same]
  · rw [absent, folder]

end Grows

theorem grows_put_folder {disk : Disk} {location : Location}
    (absent : disk.find? location = none) :
    disk.Grows (disk.put location .folder) := by
  intro other
  by_cases same : other = location
  · subst same
    exact Or.inr ⟨absent, disk.find?_put_self other .folder⟩
  · exact Or.inl (disk.find?_put_of_ne .folder same)

end Disk

/-! ## Workspaces -/

namespace Workspace

/-- The later workspace has the same working folder, and its disk has only grown. -/
structure Grows (earlier later : Workspace) : Prop where
  home_eq : later.home = earlier.home
  disk : earlier.disk.Grows later.disk

namespace Grows

theorem refl (workspace : Workspace) : workspace.Grows workspace :=
  ⟨rfl, Disk.Grows.refl workspace.disk⟩

theorem trans {first second third : Workspace}
    (growth : first.Grows second) (more : second.Grows third) :
    first.Grows third :=
  ⟨more.home_eq.trans growth.home_eq, growth.disk.trans more.disk⟩

end Grows

/-- A path leads somewhere if no name holds the null character, its text is short enough, and its
names are in reach. -/
theorem locate_eq_ok_iff
    {workspace : Workspace} {path : FilePath} {location : Location} :
    workspace.locate path = .ok location ↔
      path.hasNull = false ∧ path.text.utf8ByteSize < longestPath ∧
        workspace.disk.reach (if path.absolute then [] else workspace.home) path.names =
          .ok location := by
  unfold locate
  by_cases null : path.hasNull
  · simp [null]
  · by_cases long : longestPath ≤ path.text.utf8ByteSize
    · simp [null, long, Nat.not_lt.mpr long]
    · simp only [null, long, Bool.false_eq_true, if_false, Nat.lt_of_not_le long, true_and]
      cases workspace.disk.reach (if path.absolute then [] else workspace.home) path.names with
      | error problem => simp
      | ok reached => simp

/-- Where a path leads, if anywhere, is the location that it spells. -/
theorem eq_location_of_locate
    {workspace : Workspace} {path : FilePath} {location : Location}
    (located : workspace.locate path = .ok location) :
    location = path.location workspace.home :=
  Disk.eq_follow_of_reach (locate_eq_ok_iff.mp located).2.2

/-- A path leads to the same place as long as the folders stay. -/
theorem locate_of_keepsFolders
    {earlier later : Workspace} (sameHome : later.home = earlier.home)
    (kept : earlier.disk.KeepsFolders later.disk)
    {path : FilePath} {location : Location}
    (located : earlier.locate path = .ok location) :
    later.locate path = .ok location := by
  obtain ⟨noNull, fits, reached⟩ := locate_eq_ok_iff.mp located
  refine locate_eq_ok_iff.mpr ⟨noNull, fits, ?_⟩
  rw [sameHome]
  exact Disk.reach_of_keepsFolders kept reached

theorem grows_withNewFolder
    {workspace later : Workspace} {path : FilePath}
    (made : workspace.withNewFolder path = .ok later) :
    workspace.Grows later := by
  unfold withNewFolder at made
  cases located : workspace.locate path with
  | error fault =>
      rw [located] at made
      cases made
  | ok location =>
      rw [located] at made
      simp only [bind, Except.bind] at made
      split at made
      · cases made
      · rename_i vacant
        cases made
        exact ⟨rfl, Disk.grows_put_folder (by simpa using vacant)⟩

theorem grows_withFolder
    {workspace later : Workspace} {path : FilePath}
    (made : workspace.withFolder path = .ok later) :
    workspace.Grows later := by
  unfold withFolder at made
  split at made
  · rename_i new
    cases made
    exact grows_withNewFolder new
  · split at made
    · cases made
      exact Grows.refl workspace
    · cases made

/-- A file is put at the location that its path spells, and never in place of a folder. -/
theorem eq_put_of_withFile
    {workspace later : Workspace} {path : FilePath} {content : ByteArray}
    (put : workspace.withFile path content = .ok later) :
    workspace.locate path = .ok (path.location workspace.home) ∧
      workspace.disk.find? (path.location workspace.home) ≠ some .folder ∧
      later = workspace.put (path.location workspace.home) (.file content) := by
  unfold withFile at put
  cases located : workspace.locate path with
  | error fault =>
      rw [located] at put
      cases put
  | ok location =>
      rw [located] at put
      simp only [bind, Except.bind] at put
      split at put
      · cases put
      · rename_i noFolder
        cases put
        have spelled := eq_location_of_locate located
        subst spelled
        exact ⟨rfl, noFolder, rfl⟩

end Workspace

/-! ## Actions -/

namespace DiskAction

/-- The workspace that an action leaves, whether or not it succeeds. -/
def left {α : Type} : EStateM.Result DiskFault Workspace α → Workspace
  | .ok _ workspace => workspace
  | .error _ workspace => workspace

/-- Whatever becomes of the action, the workspace has only grown. -/
def OnlyGrows (action : DiskAction Unit) : Prop :=
  ∀ workspace : Workspace, workspace.Grows (left (action workspace))

theorem onlyGrows_ofChange
    {change : Workspace → Except DiskFault Workspace}
    (grows : ∀ {workspace later : Workspace},
      change workspace = .ok later → workspace.Grows later) :
    OnlyGrows (ofChange change) := by
  intro workspace
  unfold ofChange
  split
  · rename_i changed
    exact grows changed
  · exact Workspace.Grows.refl workspace

theorem onlyGrows_bind
    {first second : DiskAction Unit}
    (firstGrows : OnlyGrows first) (secondGrows : OnlyGrows second) :
    OnlyGrows (do first; second) := by
  intro workspace
  have growth := firstGrows workspace
  simp only [bind, EStateM.bind]
  split
  · rename_i reached
    rw [reached] at growth
    exact growth.trans (secondGrows _)
  · rename_i stopped
    rw [stopped] at growth
    exact growth

theorem onlyGrows_withFolder (path : FilePath) :
    OnlyGrows (ofChange (·.withFolder path)) :=
  onlyGrows_ofChange Workspace.grows_withFolder

theorem onlyGrows_ensureWithin (depth : Nat) (path : FilePath) :
    OnlyGrows (ensureWithin depth path) := by
  induction depth generalizing path with
  | zero => exact onlyGrows_withFolder path
  | succ depth inductionHypothesis =>
      -- Only where the folder around is missing does the action have two parts.
      intro workspace
      unfold ensureWithin
      split
      · exact
          onlyGrows_bind (inductionHypothesis path.parent)
            (onlyGrows_withFolder path) workspace
      · exact onlyGrows_withFolder path workspace

/-- The folders around a file grow, and then the file is put at the location that its path
spells. -/
theorem exists_grows_put_of_store
    {path : FilePath} {content : ByteArray} {workspace later : Workspace}
    (stored : store path content workspace = .ok () later) :
    ∃ middle : Workspace,
      workspace.Grows middle ∧
        middle.locate path = .ok (path.location workspace.home) ∧
        middle.disk.find? (path.location workspace.home) ≠ some .folder ∧
        later = middle.put (path.location workspace.home) (.file content) := by
  have growth := onlyGrows_ensureWithin path.parent.names.length path.parent workspace
  simp only [store, ensureFolder, bind, EStateM.bind] at stored
  split at stored
  · rename_i middle reached
    rw [reached] at growth
    simp only [left] at growth
    unfold ofChange at stored
    split at stored
    · rename_i changed
      cases stored
      obtain ⟨located, noFolder, same⟩ := Workspace.eq_put_of_withFile changed
      rw [growth.home_eq] at located noFolder same
      exact ⟨middle, growth, located, noFolder, same⟩
    · cases stored
  · cases stored

/-- A file that is not stored leaves no more than folders. -/
theorem grows_of_store_error
    {path : FilePath} {content : ByteArray} {workspace later : Workspace} {fault : DiskFault}
    (failed : store path content workspace = .error fault later) :
    workspace.Grows later := by
  have growth := onlyGrows_ensureWithin path.parent.names.length path.parent workspace
  simp only [store, ensureFolder, bind, EStateM.bind] at failed
  split at failed
  · rename_i middle reached
    rw [reached] at growth
    unfold ofChange at failed
    split at failed
    · cases failed
    · cases failed
      exact growth
  · rename_i stopped
    rw [stopped] at growth
    cases failed
    exact growth

end DiskAction

end OpenApiJava
