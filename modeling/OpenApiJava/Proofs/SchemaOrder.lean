import OpenApiJava.Proofs.CreatedFiles
import OpenApiJava.Proofs.PackageFolders

/-!
# The order of schemas

Each data class is written from its own schema to a location of its own, so that it does not matter
in which order the schemas come. Main statement: documents that differ in the order of their schemas
alone leave the same files, and what they report as created differs in order alone.
-/

namespace OpenApiJava

/-! ## Artifacts in another order -/

namespace FileTable

variable {home : Location} {artifacts others : List Artifact}

theorem write_comm {first second : Artifact} (files : FileTable)
    (different : first.location home ≠ second.location home) :
    write home (write home files first) second = write home (write home files second) first := by
  funext location
  by_cases here : location = first.location home
  · have elsewhere : location ≠ second.location home := fun same => different (here.symm.trans same)
    simp [write, here, different]
  · simp [write, here]

theorem writeAll_eq_of_perm (reordered : artifacts.Perm others)
    (apart : (artifacts.map (·.location home)).Nodup) (files : FileTable) :
    writeAll home files artifacts = writeAll home files others := by
  refine reordered.foldl_eq' (fun first isFirst second isSecond table => ?_) files
  by_cases same : first = second
  · rw [same]
  · apply write_comm
    intro sameLocation
    exact same (List.inj_on_of_nodup_map apart isFirst isSecond sameLocation)

/-- Artifacts with locations of their own are new if there is nothing at their locations. -/
theorem created_of_nodup (files : FileTable) (apart : (artifacts.map (·.location home)).Nodup) :
    created home files artifacts =
      (artifacts.filter fun artifact => (files (artifact.location home)).isNone).map (·.path) := by
  induction artifacts generalizing files with
  | nil => rfl
  | cons artifact rest inductionHypothesis =>
      obtain ⟨absent, apartRest⟩ := List.nodup_cons.mp apart
      -- No other file is at the location of the first, so that the table at the start tells.
      have untouched : ∀ other ∈ rest,
          ((files.write home artifact) (other.location home)).isNone =
            (files (other.location home)).isNone := by
        intro other member
        have different : other.location home ≠ artifact.location home := by
          intro same
          exact absent (List.mem_map.mpr ⟨other, member, same⟩)
        rw [write, if_neg different]
      rw [created, inductionHypothesis _ apartRest, List.filter_congr untouched, List.filter_cons]
      split
      · rfl
      · rfl

theorem created_perm_of_perm (reordered : artifacts.Perm others)
    (apart : (artifacts.map (·.location home)).Nodup) (files : FileTable) :
    (created home files artifacts).Perm (created home files others) := by
  have apartOthers : (others.map (·.location home)).Nodup :=
    (reordered.map (·.location home)).nodup_iff.mp apart
  rw [created_of_nodup files apart, created_of_nodup files apartOthers]
  exact (reordered.filter _).map _

end FileTable

/-! ## Direct paths of artifacts -/

namespace FilePath

theorem IsDirect.append {first second : FilePath} (direct : first.IsDirect)
    (directSecond : second.IsDirect) :
    (first ++ second).IsDirect := by
  change ".." ∉ (FilePath.append first second).names
  unfold FilePath.append
  by_cases absolute : second.absolute = true
  · rw [if_pos absolute]
    exact directSecond
  · rw [if_neg absolute]
    exact fun member => (List.mem_append.mp member).elim direct directSecond

theorem isDirect_ofString {text : String} (noDot : '.' ∉ text.toList) :
    (ofString text).IsDirect := by
  intro member
  have listed : ".." ∈ (Text.pieces '/' text.toList).map String.ofList :=
    List.mem_of_mem_filter member
  obtain ⟨piece, isPiece, dots⟩ := List.mem_map.mp listed
  have inPiece : '.' ∈ piece := by
    rw [← String.toList_ofList (l := piece), dots]
    decide
  exact noDot (Text.mem_of_mem_pieces isPiece inPiece)

theorem isDirect_foldl_child {path : FilePath} {names : List String} (direct : path.IsDirect)
    (noDots : ∀ name ∈ names, '.' ∉ name.toList) :
    (names.foldl child path).IsDirect := by
  induction names generalizing path with
  | nil => exact direct
  | cons name rest inductionHypothesis =>
      obtain ⟨noDot, others⟩ := List.forall_mem_cons.mp noDots
      exact inductionHypothesis (direct.append (isDirect_ofString noDot)) others

end FilePath

/-- The names of a package have no dots, whatever else is in them. -/
theorem Settings.isDirect_packageFolder {settings : Settings} (direct : settings.output.IsDirect)
    (package : String) :
    (settings.packageFolder package).IsDirect := by
  have root : sourceRoot.IsDirect := by decide
  have here : FilePath.here.IsDirect := by decide
  have noDots : ∀ name ∈ (Text.pieces '.' package.toList).map String.ofList,
      '.' ∉ name.toList := by
    intro name isName
    obtain ⟨piece, isPiece, rfl⟩ := List.mem_map.mp isName
    rw [String.toList_ofList]
    exact Text.not_mem_of_mem_pieces isPiece
  exact (direct.append root).append (FilePath.isDirect_foldl_child here noDots)

theorem isDirect_of_mem_plannedArtifacts {document : Document} {settings : Settings}
    (plain : document.HasPlainNames) (direct : settings.output.IsDirect) :
    ∀ artifact ∈ plannedArtifacts document settings, artifact.path.IsDirect := by
  intro artifact planned
  obtain ⟨category, _, inCategory⟩ := List.mem_flatMap.mp planned
  have isPath : artifact.path ∈ category.paths document settings := List.mem_map_of_mem inCategory
  rw [Category.paths_eq settings plain] at isPath
  obtain ⟨place, isPlace, same⟩ := List.mem_map.mp isPath
  rw [← same]
  intro member
  rcases List.mem_append.mp member with inBase | inPlace
  · exact settings.isDirect_packageFolder direct settings.basePackage inBase
  · exact Category.ne_parent_of_mem_places isPlace _ inPlace rfl

/-! ## Schemas in another order -/

section Reordered

variable {document : Document} {schemas : List (String × Schema)} {settings : Settings}

/-- All artifacts but the data classes. -/
def furtherArtifacts (document : Document) (settings : Settings) : List Artifact :=
  [Category.basePaths, Category.services, Category.relativeUrls].flatMap
    (Category.artifacts document settings)

theorem plannedArtifacts_eq (document : Document) (settings : Settings) :
    plannedArtifacts document settings =
      Category.dtos.artifacts document settings ++ furtherArtifacts document settings :=
  rfl

theorem dtos_perm (reordered : document.schemas.Perm schemas) :
    (Category.dtos.artifacts document settings).Perm
      (Category.dtos.artifacts { document with schemas } settings) :=
  (reordered.flatMap_right _).map _

theorem nodup_locations_dtos (different : (document.schemas.map Prod.fst).Nodup)
    (plain : document.HasPlainNames) (settings : Settings) (home : Location) :
    ((Category.dtos.artifacts document settings).map (·.location home)).Nodup := by
  rw [Category.map_location_artifacts settings plain home]
  exact (Category.nodup_places_dtos different).map fun _ _ same => List.append_cancel_left same

theorem Document.HasPlainNames.reordered (plain : document.HasPlainNames)
    (reordered : document.schemas.Perm schemas) :
    { document with schemas }.HasPlainNames :=
  ⟨fun entry member => plain.1 entry (reordered.mem_iff.mpr member), plain.2⟩

end Reordered

/-- Documents that differ in the order of their schemas alone leave the same files, and what they
report as created differs in order alone. -/
theorem generate_reordered {document : Document} {schemas : List (String × Schema)}
    {settings : Settings} {workspace : Workspace} {run other : Run}
    (reordered : document.schemas.Perm schemas)
    (different : (document.schemas.map Prod.fst).Nodup) (plain : document.HasPlainNames)
    (direct : settings.output.IsDirect) (sound : workspace.IsSound)
    (succeeded : generate document settings workspace = .ok () run)
    (succeededOther : generate { document with schemas } settings workspace = .ok () other) :
    run.workspace.disk.file? = other.workspace.disk.file? ∧
      run.report.created.Perm other.report.created := by
  have dtos : (Category.dtos.artifacts document settings).Perm
      (Category.dtos.artifacts { document with schemas } settings) := dtos_perm reordered
  have further : furtherArtifacts { document with schemas } settings =
      furtherArtifacts document settings := rfl
  have apart := nodup_locations_dtos different plain settings workspace.home
  have sameTable := FileTable.writeAll_eq_of_perm dtos apart workspace.disk.file?
  constructor
  · rw [(did_of_generate succeeded).wrote.files_eq, (did_of_generate succeededOther).wrote.files_eq,
      plannedArtifacts_eq, plannedArtifacts_eq, FileTable.writeAll_append,
      FileTable.writeAll_append, further]
    exact congrArg (FileTable.writeAll _ · _) sameTable
  · have plainOther : { document with schemas }.HasPlainNames := plain.reordered reordered
    rw [created_of_generate succeeded sound (isDirect_of_mem_plannedArtifacts plain direct),
      created_of_generate succeededOther sound (isDirect_of_mem_plannedArtifacts plainOther direct),
      plannedArtifacts_eq, plannedArtifacts_eq, FileTable.created_append, FileTable.created_append,
      further, sameTable]
    exact (FileTable.created_perm_of_perm dtos apart workspace.disk.file?).append_right _

theorem isSound_petWorkspace : petWorkspace.IsSound where
  tree := by
    have outer : (Disk.empty.put ["tmp"] .folder).IsTree :=
      Disk.isTree_empty.put (by decide) (by decide) .folder
    have inner : Workspace.empty.disk.IsTree := outer.put (by decide) (by decide) .folder
    exact inner.put (by decide) (by decide) _
  home := by decide

set_option maxRecDepth 100000 in
/-- A pet shop with its schemas the other way round leaves the same files. -/
theorem petShop_reordered :
    ∃ run other, generate petShop petSettings petWorkspace = .ok () run ∧
      generate { petShop with schemas := petShop.schemas.reverse } petSettings petWorkspace =
        .ok () other ∧
      petShop.schemas.reverse ≠ petShop.schemas ∧
      run.workspace.disk.file? = other.workspace.disk.file? ∧
      run.report.created.Perm other.report.created := by
  have ended : Run.fault? (generate petShop petSettings petWorkspace) = none := by
    decide +kernel
  have endedOther : Run.fault? (generate { petShop with schemas := petShop.schemas.reverse }
      petSettings petWorkspace) = none := by
    decide +kernel
  obtain ⟨run, generated⟩ := Run.exists_of_fault?_eq_none ended
  obtain ⟨other, generatedOther⟩ := Run.exists_of_fault?_eq_none endedOther
  have names : petShop.schemas.map Prod.fst = ["Pet", "PetResponseDTO"] := rfl
  have moved : petShop.schemas.reverse ≠ petShop.schemas := by
    intro same
    have sameNames := congrArg (List.map Prod.fst) same
    rw [List.map_reverse, names] at sameNames
    exact absurd sameNames (by decide)
  obtain ⟨files, created⟩ := generate_reordered (List.reverse_perm petShop.schemas).symm
    (by decide) (by decide +kernel) (by decide) isSound_petWorkspace generated generatedOther
  exact ⟨run, other, generated, generatedOther, moved, files, created⟩

end OpenApiJava
