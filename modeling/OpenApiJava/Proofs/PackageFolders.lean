import OpenApiJava.Proofs.Interruption
import OpenApiJava.Proofs.PackageClosure
import OpenApiJava.Proofs.Regeneration

/-!
# Folders of packages

A file goes to the folder of its package, followed by whatever path the name of its class spells. A
name with slashes may lead out of that folder. Main statement: a file stands in the folder of the
package that its text names if and only if the names in front of the last slash lead back to that
folder, and only such a file is known to stand among the sources.
-/

namespace OpenApiJava

/-! ## Paths after paths -/

namespace Text

/-- The last piece of a text ends as the text does, up to the separator. -/
theorem exists_pieces_append {separator : Char} {ending : List Char} (absent : separator ∉ ending)
    (text : List Char) :
    ∃ front last, pieces separator (text ++ ending) = front ++ [last ++ ending] := by
  induction text with
  | nil => exact ⟨[], [], pieces_of_not_mem absent⟩
  | cons character rest inductionHypothesis =>
      obtain ⟨front, last, cut⟩ := inductionHypothesis
      rw [List.cons_append, pieces, cut]
      by_cases same : character = separator
      · exact ⟨[] :: front, last, by simp [same]⟩
      · cases front with
        | nil => exact ⟨[], character :: last, by simp [same]⟩
        | cons piece others => exact ⟨(character :: piece) :: others, last, by simp [same]⟩

end Text

namespace FilePath

theorem location_append (first second : FilePath) (home : Location) :
    (first ++ second).location home = second.location (first.location home) := by
  change (append first second).location home = _
  unfold append location
  by_cases absolute : second.absolute
  · simp [absolute]
  · simp only [absolute, Bool.false_eq_true, if_false]
    exact Location.follow_append _ first.names second.names

/-- The path that leads to the file of a class from the folder of its package. -/
def ofClass (className : String) : FilePath :=
  ofString (className ++ ".java")

/-- The last name of the file of a class ends as the names of such files do. -/
theorem exists_names_ofClass (className : String) :
    ∃ outer base, (ofClass className).names = outer ++ [base ++ ".java"] := by
  have noSlash : '/' ∉ ".java".toList := by decide
  obtain ⟨front, last, cut⟩ := Text.exists_pieces_append noSlash className.toList
  have named : String.ofList (last ++ ".java".toList) = String.ofList last ++ ".java" := by
    rw [String.ofList_append, String.ofList_toList]
  have plain : '/' ∉ (String.ofList last).toList := by
    have isPiece : last ++ ".java".toList ∈
        Text.pieces '/' (className.toList ++ ".java".toList) := by
      rw [cut]
      exact List.mem_append_right _ (List.mem_singleton_self _)
    rw [String.toList_ofList]
    exact fun inLast => Text.not_mem_of_mem_pieces isPiece (List.mem_append_left _ inLast)
  obtain ⟨_, notEmpty, noDot⟩ := isName_java plain
  refine ⟨(front.map String.ofList).filter fun name => name != "" && name != ".",
    String.ofList last, ?_⟩
  change ((Text.pieces '/' (className ++ ".java").toList).map String.ofList).filter _ = _
  rw [String.toList_append, cut, List.map_append, List.map_singleton, named, List.filter_append]
  simp [notEmpty, noDot]

/-- The file of a class stands where the names in front of its last one lead. -/
theorem exists_location_ofClass (className : String) (place : Location) :
    ∃ name, (ofClass className).location place =
      (ofClass className).parent.location place ++ [name] := by
  obtain ⟨outer, base, spelled⟩ := exists_names_ofClass className
  have isChild : ((base ++ ".java") == "..") = false :=
    beq_eq_false_iff_ne.mpr (java_ne_parent base)
  refine ⟨base ++ ".java", ?_⟩
  unfold location parent
  rw [spelled, Location.follow_append, List.dropLast_concat]
  simp only [Location.follow, isChild, Bool.false_eq_true, if_false]

end FilePath

/-! ## Packages -/

namespace Settings

/-- The packages that classes are generated in. -/
def packages (settings : Settings) : List String :=
  [settings.requestPackage, settings.responsePackage, settings.servicePackage,
    settings.constantsPackage]

/-- No name of the base package is empty or has a slash. -/
def HasPlainPackage (settings : Settings) : Prop :=
  ∀ name ∈ Text.pieces '.' settings.basePackage.toList, name ≠ [] ∧ '/' ∉ name

instance (settings : Settings) : Decidable settings.HasPlainPackage :=
  inferInstanceAs (Decidable (∀ _ ∈ _, _))

/-- The packages within the base package. -/
def innerPackages : List String :=
  [".dto.RequestDTO", ".dto.ResponseDTO", ".service", ".constants"]

theorem packages_eq (settings : Settings) :
    settings.packages = innerPackages.map (settings.basePackage ++ ·) :=
  rfl

end Settings

/-- The first line of the text names the package. -/
def Artifact.NamesPackage (artifact : Artifact) (package : String) : Prop :=
  ("package " ++ package ++ ";\n").toList <+: artifact.content.toList

/-- The artifact is meant for the folder of the package that its text names. -/
def Artifact.StandsInPackage (artifact : Artifact) (settings : Settings) (home : Location) : Prop :=
  ∃ package ∈ settings.packages, artifact.NamesPackage package ∧
    (artifact.location home).dropLast = (settings.packageFolder package).location home

/-- The names in front of the last slash of a class name lead from the folder back to it. -/
def LeadsBack (folder : Location) (className : String) : Prop :=
  (FilePath.ofClass className).parent.location folder = folder

instance (folder : Location) (className : String) : Decidable (LeadsBack folder className) :=
  inferInstanceAs (Decidable (_ = _))

/-- A class name without slashes stays in the folder. -/
theorem leadsBack_of_plain (folder : Location) {className : String}
    (plain : '/' ∉ className.toList) :
    LeadsBack folder className := by
  unfold LeadsBack FilePath.ofClass
  rw [FilePath.ofString_of_isName (FilePath.isName_java plain)]
  rfl

namespace Settings

/-- The line of one package does not begin as that of another one does. -/
theorem eq_of_namesPackage {settings : Settings} {artifact : Artifact} {first second : String}
    (isPackage : first ∈ settings.packages) (isOther : second ∈ settings.packages)
    (named : artifact.NamesPackage first) (namedAlso : artifact.NamesPackage second) :
    first = second := by
  rw [packages_eq] at isPackage isOther
  obtain ⟨inner, isInner, rfl⟩ := List.mem_map.mp isPackage
  obtain ⟨other, otherInner, rfl⟩ := List.mem_map.mp isOther
  have apart : ∀ inner ∈ innerPackages, ∀ other ∈ innerPackages,
      (inner ++ ";\n").toList <+: (other ++ ";\n").toList → inner = other := by
    decide
  -- The base package stands in front of both, so that only what follows it can differ.
  have shift : ∀ inner other : String,
      ("package " ++ (settings.basePackage ++ inner) ++ ";\n").toList <+:
          ("package " ++ (settings.basePackage ++ other) ++ ";\n").toList →
        (inner ++ ";\n").toList <+: (other ++ ";\n").toList := by
    intro inner other begins
    simpa [String.toList_append] using begins
  rcases List.prefix_or_prefix_of_prefix named namedAlso with begins | begins
  · rw [apart inner isInner other otherInner (shift inner other begins)]
  · rw [apart other otherInner inner isInner (shift other inner begins)]

theorem exists_location_classFile (settings : Settings) (package className : String)
    (home : Location) :
    ∃ name, (settings.classFile package className).location home =
      (FilePath.ofClass className).parent.location
        ((settings.packageFolder package).location home) ++ [name] := by
  change ∃ name, (settings.packageFolder package ++ FilePath.ofClass className).location home = _
  rw [FilePath.location_append]
  exact FilePath.exists_location_ofClass className _

theorem parent_classFile (settings : Settings) (package : String) {className : String}
    (plain : '/' ∉ className.toList) :
    (settings.classFile package className).parent = settings.packageFolder package := by
  unfold classFile
  rw [FilePath.child_eq_below (FilePath.isName_java plain)]
  simp [FilePath.parent, FilePath.below]

/-- A file stands in the folder of its package if and only if the name of its class leads back
there. -/
theorem standsInPackage_iff {settings : Settings} {artifact : Artifact} {package className : String}
    (path : artifact.path = settings.classFile package className)
    (isPackage : package ∈ settings.packages) (named : artifact.NamesPackage package)
    (home : Location) :
    artifact.StandsInPackage settings home ↔
      LeadsBack ((settings.packageFolder package).location home) className := by
  have around : (artifact.location home).dropLast =
      (FilePath.ofClass className).parent.location
        ((settings.packageFolder package).location home) := by
    obtain ⟨name, located⟩ := settings.exists_location_classFile package className home
    unfold Artifact.location
    rw [path, located, List.dropLast_concat]
  unfold Artifact.StandsInPackage LeadsBack
  rw [around]
  constructor
  · rintro ⟨other, isOther, namedOther, same⟩
    rwa [eq_of_namesPackage isOther isPackage namedOther named] at same
  · intro same
    exact ⟨package, isPackage, named, same⟩

/-- The names of a plain base package are folders below the sources. -/
theorem exists_location_baseFolder {settings : Settings} (plain : settings.HasPlainPackage)
    (home : Location) :
    ∃ names, settings.baseFolder.location home =
      (settings.output ++ sourceRoot).location home ++ names := by
  have areNames : ∀ name ∈ (Text.pieces '.' settings.basePackage.toList).map String.ofList,
      FilePath.IsName name ∧ name ≠ ".." := by
    intro name isName
    obtain ⟨piece, isPiece, rfl⟩ := List.mem_map.mp isName
    obtain ⟨notEmpty, noSlash⟩ := plain piece isPiece
    have noDot : '.' ∉ (String.ofList piece).toList := by
      rw [String.toList_ofList]
      exact Text.not_mem_of_mem_pieces isPiece
    refine ⟨⟨?_, ?_, ?_⟩, ?_⟩
    · rwa [String.toList_ofList]
    · intro empty
      exact notEmpty (String.ofList_eq_empty_iff.mp empty)
    · intro dot
      exact noDot (dot ▸ by decide)
    · intro dots
      exact noDot (dots ▸ by decide)
  have spelled : packagePath settings.basePackage = FilePath.here.below
      ((Text.pieces '.' settings.basePackage.toList).map String.ofList) :=
    FilePath.foldl_child fun name isName => (areNames name isName).1
  refine ⟨(Text.pieces '.' settings.basePackage.toList).map String.ofList, ?_⟩
  unfold baseFolder packageFolder
  rw [spelled, FilePath.append_below, FilePath.location_below _ home fun name isName =>
    (areNames name isName).2, FilePath.location_append]
  rfl

/-- The folder of a package stands among the sources. -/
theorem exists_location_packageFolder {settings : Settings} (plain : settings.HasPlainPackage)
    {package : String} (isPackage : package ∈ settings.packages) (home : Location) :
    ∃ names, (settings.packageFolder package).location home =
      (settings.output ++ sourceRoot).location home ++ names := by
  obtain ⟨outer, based⟩ := exists_location_baseFolder plain home
  have inside : ∃ inner, settings.packageFolder package = settings.baseFolder.below inner ∧
      ∀ name ∈ inner, name ≠ ".." := by
    simp only [packages, List.mem_cons, List.not_mem_nil, or_false] at isPackage
    rcases isPackage with rfl | rfl | rfl | rfl
    · exact ⟨_, settings.packageFolder_request, by decide⟩
    · exact ⟨_, settings.packageFolder_response, by decide⟩
    · exact ⟨_, settings.packageFolder_service, by decide⟩
    · exact ⟨_, settings.packageFolder_constants, by decide⟩
  obtain ⟨inner, placed, noParent⟩ := inside
  refine ⟨outer ++ inner, ?_⟩
  rw [placed, FilePath.location_below _ home noParent, based, List.append_assoc]

end Settings

/-! ## Planned files -/

/-- The text of a file whose first line names a package. -/
theorem namesPackage_ofLines (path : FilePath) (package : String) (lines : List String) :
    Artifact.NamesPackage ⟨path, Source.ofLines (("package " ++ package ++ ";") :: lines)⟩
      package := by
  unfold Artifact.NamesPackage
  rw [Source.toList_ofLines, List.flatMap_cons]
  refine ⟨_, congrArg (· ++ _) ?_⟩
  simp [String.toList_append]

/-- The artifact is the file of a class of a package: its path is that of the class, and its text
names the package. -/
structure Artifact.IsFileOf (artifact : Artifact) (settings : Settings)
    (entry : String × String) : Prop where
  path_eq : artifact.path = settings.classFile entry.1 entry.2
  isPackage : entry.1 ∈ settings.packages
  named : artifact.NamesPackage entry.1

namespace Category

/-- The classes of a category, each with its package in front. -/
def classes (document : Document) (settings : Settings) : Category → List (String × String)
  | dtos =>
      (Dto.ofSchemas document.schemas settings).map fun dto => (dto.packageName, dto.className)
  | basePaths => [(settings.constantsPackage, basePathsClass)]
  | services => document.services.map fun service => (settings.servicePackage, service.className)
  | relativeUrls => [(settings.constantsPackage, relativeUrlsClass)]

theorem isFileOf_classes (document : Document) (settings : Settings) (category : Category) :
    List.Forall₂ (fun artifact entry => artifact.IsFileOf settings entry)
      (category.artifacts document settings) (category.classes document settings) := by
  have isConstants : settings.constantsPackage ∈ settings.packages := by
    simp [Settings.packages]
  have isService : settings.servicePackage ∈ settings.packages := by
    simp [Settings.packages]
  cases category with
  | dtos =>
      unfold artifacts classes
      rw [List.forall₂_map_left_iff, List.forall₂_map_right_iff, List.forall₂_same]
      intro dto member
      obtain ⟨name, schema, asResponse, _, _, rfl⟩ := Dto.mem_ofSchemas_iff.mp member
      refine ⟨rfl, ?_, namesPackage_ofLines _ _ _⟩
      rw [Dto.packageName_ofSchema]
      split <;> simp [Settings.packages]
  | basePaths => exact .cons ⟨rfl, isConstants, namesPackage_ofLines _ _ _⟩ .nil
  | services =>
      unfold artifacts classes
      rw [List.forall₂_map_left_iff, List.forall₂_map_right_iff, List.forall₂_same]
      intro service _
      exact ⟨rfl, isService, namesPackage_ofLines _ _ _⟩
  | relativeUrls => exact .cons ⟨rfl, isConstants, namesPackage_ofLines _ _ _⟩ .nil

end Category

/-- The classes that a document becomes, each with its package in front. -/
def Document.classes (document : Document) (settings : Settings) : List (String × String) :=
  Category.all.flatMap (Category.classes document settings)

theorem isFileOf_plannedArtifacts (document : Document) (settings : Settings) :
    List.Forall₂ (fun artifact entry => artifact.IsFileOf settings entry)
      (plannedArtifacts document settings) (document.classes settings) := by
  have sameCategories : List.Forall₂ Eq Category.all Category.all :=
    List.forall₂_same.mpr fun _ _ => rfl
  refine List.rel_flatMap sameCategories ?_
  rintro category _ rfl
  exact category.isFileOf_classes document settings

theorem exists_of_mem_forall₂ {α β : Type} {relation : α → β → Prop} {items : List α}
    {others : List β} (related : List.Forall₂ relation items others) {item : α}
    (member : item ∈ items) :
    ∃ other ∈ others, relation item other := by
  induction related with
  | nil => cases member
  | cons here _ inductionHypothesis =>
      rcases List.mem_cons.mp member with rfl | inRest
      · exact ⟨_, List.mem_cons_self, here⟩
      · obtain ⟨other, isOther, related⟩ := inductionHypothesis inRest
        exact ⟨other, List.mem_cons_of_mem _ isOther, related⟩

/-- Where the names are plain, so are the names of all classes. -/
theorem Document.HasPlainNames.slash_not_mem {document : Document} (plain : document.HasPlainNames)
    {settings : Settings} {entry : String × String} (member : entry ∈ document.classes settings) :
    '/' ∉ entry.2.toList := by
  obtain ⟨category, _, inCategory⟩ := List.mem_flatMap.mp member
  cases category with
  | dtos =>
      obtain ⟨dto, isDto, rfl⟩ := List.mem_map.mp inCategory
      obtain ⟨name, schema, _, inSchemas, _, rfl⟩ := Dto.mem_ofSchemas_iff.mp isDto
      exact plain.1 (name, schema) inSchemas
  | basePaths =>
      rw [List.mem_singleton.mp inCategory]
      exact (by decide : '/' ∉ basePathsClass.toList)
  | services =>
      obtain ⟨service, isService, rfl⟩ := List.mem_map.mp inCategory
      exact slash_not_mem_className plain isService
  | relativeUrls =>
      rw [List.mem_singleton.mp inCategory]
      exact (by decide : '/' ∉ relativeUrlsClass.toList)

/-- A planned file in the folder of its package stands among the sources. -/
theorem exists_location_of_standsInPackage {document : Document} {settings : Settings}
    (plain : settings.HasPlainPackage) {artifact : Artifact}
    (planned : artifact ∈ plannedArtifacts document settings) {home : Location}
    (stands : artifact.StandsInPackage settings home) :
    ∃ names, names ≠ [] ∧
      artifact.location home = (settings.output ++ sourceRoot).location home ++ names := by
  obtain ⟨package, isPackage, _, around⟩ := stands
  obtain ⟨names, among⟩ := Settings.exists_location_packageFolder plain isPackage home
  obtain ⟨entry, _, isFile⟩ :=
    exists_of_mem_forall₂ (isFileOf_plannedArtifacts document settings) planned
  obtain ⟨name, located⟩ := settings.exists_location_classFile entry.1 entry.2 home
  rw [← isFile.path_eq] at located
  refine ⟨names ++ [name], by simp, ?_⟩
  have outer := congrArg List.dropLast located
  rw [List.dropLast_concat] at outer
  calc
    artifact.location home = artifact.path.location home := rfl
    _ = (artifact.path.location home).dropLast ++ [name] := by rw [outer, ← located]
    _ = (settings.output ++ sourceRoot).location home ++ (names ++ [name]) := by
        rw [← List.append_assoc, ← among, ← around]
        rfl

/-! ## Written files -/

/-- The run that a generation leaves, however it ends. -/
def Run.left : EStateM.Result GenerationFault Run Unit → Run
  | .ok _ run => run
  | .error _ run => run

theorem exists_wrote_left (document : Document) (settings : Settings) (workspace : Workspace) :
    ∃ written, written ⊆ plannedArtifacts document settings ∧
      workspace.Wrote written (Run.left (generate document settings workspace)).workspace := by
  cases generated : generate document settings workspace with
  | ok _ run => exact ⟨_, List.Subset.refl _, (did_of_generate generated).wrote⟩
  | error fault run =>
      obtain ⟨done, isPrefix, wrote, _⟩ := exists_wrote_of_generate generated
      refine ⟨_, ?_, wrote⟩
      intro artifact member
      rcases List.mem_append.mp member with inEarlier | inDone
      · obtain ⟨category, _, inCategory⟩ := List.mem_flatMap.mp inEarlier
        exact List.mem_flatMap.mpr ⟨category, category.mem_all, inCategory⟩
      · exact List.mem_flatMap.mpr ⟨fault.category, fault.category.mem_all, isPrefix.subset inDone⟩

/-- A file that is new or changed after a run holds an artifact of its plan. -/
theorem exists_artifact_of_changed {document : Document} {settings : Settings}
    {workspace : Workspace} {location : Location}
    (changed :
      (Run.left (generate document settings workspace)).workspace.disk.file? location ≠
        workspace.disk.file? location) :
    ∃ artifact ∈ plannedArtifacts document settings,
      artifact.location workspace.home = location ∧
        (Run.left (generate document settings workspace)).workspace.disk.file? location =
          some artifact.content.toUTF8 := by
  obtain ⟨written, planned, wrote⟩ := exists_wrote_left document settings workspace
  cases held : (Run.left (generate document settings workspace)).workspace.disk.file? location with
  | none =>
      have nothingBefore : workspace.disk.file? location = none := by
        -- A run deletes no file.
        by_contra something
        have stays := FileTable.isSome_writeAll workspace.home written
          (Option.isSome_iff_ne_none.mpr something)
        rw [← wrote.files_eq, held] at stays
        cases stays
      exact absurd (held.trans nothingBefore.symm) changed
  | some content =>
      have heldAfter := held
      rw [wrote.files_eq] at heldAfter
      rcases FileTable.exists_artifact_of_writeAll _ _ heldAfter with
        before | ⟨artifact, member, here, same⟩
      · exact absurd (held.trans before.symm) changed
      · exact ⟨artifact, planned member, here, congrArg some same.symm⟩

/-- A file stands in the folder of the package that its text names if and only if the names in front
of the last slash of its class name lead back to that folder; names without slashes never leave it.
Whatever becomes of a run, the files that it writes are planned ones, and those in the folder of
their package stand among the sources. -/
theorem files_stand_in_packages (document : Document) (settings : Settings)
    (workspace : Workspace) :
    List.Forall₂
        (fun artifact entry =>
          artifact.path = settings.classFile entry.1 entry.2 ∧ entry.1 ∈ settings.packages ∧
            artifact.NamesPackage entry.1 ∧
            (artifact.StandsInPackage settings workspace.home ↔
              LeadsBack ((settings.packageFolder entry.1).location workspace.home) entry.2))
        (plannedArtifacts document settings) (document.classes settings) ∧
      (document.HasPlainNames →
        ∀ artifact ∈ plannedArtifacts document settings,
          artifact.StandsInPackage settings workspace.home ∧
            ∃ package ∈ settings.packages, artifact.NamesPackage package ∧
              artifact.path.parent = settings.packageFolder package) ∧
      ∀ location,
        (Run.left (generate document settings workspace)).workspace.disk.file? location ≠
            workspace.disk.file? location →
        ∃ artifact ∈ plannedArtifacts document settings,
          artifact.location workspace.home = location ∧
            (Run.left (generate document settings workspace)).workspace.disk.file? location =
              some artifact.content.toUTF8 ∧
            (settings.HasPlainPackage → artifact.StandsInPackage settings workspace.home →
              ∃ names, names ≠ [] ∧
                location = (settings.output ++ sourceRoot).location workspace.home ++ names) := by
  refine ⟨?_, ?_, ?_⟩
  · refine (isFileOf_plannedArtifacts document settings).imp ?_
    intro artifact entry isFile
    exact ⟨isFile.path_eq, isFile.isPackage, isFile.named,
      Settings.standsInPackage_iff isFile.path_eq isFile.isPackage isFile.named workspace.home⟩
  · intro plain artifact planned
    obtain ⟨entry, isClass, isFile⟩ :=
      exists_of_mem_forall₂ (isFileOf_plannedArtifacts document settings) planned
    have noSlash := plain.slash_not_mem isClass
    constructor
    · exact (Settings.standsInPackage_iff isFile.path_eq isFile.isPackage isFile.named
        workspace.home).mpr (leadsBack_of_plain _ noSlash)
    · refine ⟨entry.1, isFile.isPackage, isFile.named, ?_⟩
      rw [isFile.path_eq]
      exact Settings.parent_classFile settings entry.1 noSlash
  · intro location changed
    obtain ⟨artifact, planned, rfl, held⟩ := exists_artifact_of_changed changed
    refine ⟨artifact, planned, rfl, held, ?_⟩
    intro plainPackage stands
    exact exists_location_of_standsInPackage plainPackage planned stands

/-! ## Shops with slashes -/

set_option maxRecDepth 100000 in
/-- The shop whose class leads out of a folder and back stays among the sources, and so does the one
without slashes. -/
theorem crossedShop_stands_in_packages :
    petSettings.HasPlainPackage ∧
      (∀ artifact ∈ plannedArtifacts crossedShop petSettings,
        artifact.StandsInPackage petSettings petWorkspace.home) ∧
      (∃ names, names ≠ [] ∧
        crossedPlace =
          (petSettings.output ++ sourceRoot).location petWorkspace.home ++ names) ∧
      petShop.HasPlainNames ∧
      ∀ artifact ∈ plannedArtifacts petShop petSettings, ∃ package ∈ petSettings.packages,
        artifact.path.parent = petSettings.packageFolder package := by
  have plainPackage : petSettings.HasPlainPackage := by decide
  have plainNames : petShop.HasPlainNames := by decide +kernel
  obtain ⟨each, _, written⟩ := files_stand_in_packages crossedShop petSettings petWorkspace
  obtain ⟨_, plain, _⟩ := files_stand_in_packages petShop petSettings petWorkspace
  have back : ∀ entry ∈ crossedShop.classes petSettings,
      LeadsBack ((petSettings.packageFolder entry.1).location petWorkspace.home) entry.2 := by
    decide +kernel
  have stand : ∀ artifact ∈ plannedArtifacts crossedShop petSettings,
      artifact.StandsInPackage petSettings petWorkspace.home := by
    intro artifact planned
    obtain ⟨entry, isClass, _, _, _, stands⟩ := exists_of_mem_forall₂ each planned
    exact stands.mpr (back entry isClass)
  have changed :
      (Run.left (generate crossedShop petSettings petWorkspace)).workspace.disk.file?
          crossedPlace ≠
        petWorkspace.disk.file? crossedPlace := by
    decide +kernel
  obtain ⟨artifact, planned, _, _, among⟩ := written crossedPlace changed
  refine ⟨plainPackage, stand, among plainPackage (stand artifact planned), plainNames, ?_⟩
  intro artifact planned
  obtain ⟨_, package, isPackage, _, around⟩ := plain plainNames artifact planned
  exact ⟨package, isPackage, around⟩

/-- A pet shop with a schema whose name leads out of the folder of every package. -/
def strayShop : Document :=
  { petShop with
    schemas := [("../../../../Pet", ⟨some "object", none, none, none, [], none⟩)] }

def strayPlace : Location :=
  ["tmp", "work", "out", "src", "main", "Pet.java"]

set_option maxRecDepth 100000 in
/-- A run writes a class to a place that is none of the sources. -/
theorem strayShop_leaves_sources :
    petSettings.HasPlainPackage ∧
      Run.fault? (generate strayShop petSettings petWorkspace) = none ∧
      (∃ artifact ∈ plannedArtifacts strayShop petSettings,
        artifact.location petWorkspace.home = strayPlace ∧
          ¬ artifact.StandsInPackage petSettings petWorkspace.home) ∧
      (Run.left (generate strayShop petSettings petWorkspace)).workspace.disk.file? strayPlace ≠
        petWorkspace.disk.file? strayPlace ∧
      ∀ names,
        strayPlace ≠ (petSettings.output ++ sourceRoot).location petWorkspace.home ++ names := by
  have plainPackage : petSettings.HasPlainPackage := by decide
  have among : ∀ names,
      strayPlace ≠ (petSettings.output ++ sourceRoot).location petWorkspace.home ++ names := by
    intro names same
    have root : (petSettings.output ++ sourceRoot).location petWorkspace.home =
        ["tmp", "work", "out", "src", "main", "java"] := by
      decide +kernel
    rw [root] at same
    simp [strayPlace] at same
  have changed :
      (Run.left (generate strayShop petSettings petWorkspace)).workspace.disk.file? strayPlace ≠
        petWorkspace.disk.file? strayPlace := by
    decide +kernel
  obtain ⟨artifact, planned, placed, _⟩ := exists_artifact_of_changed changed
  refine ⟨plainPackage, by decide +kernel, ⟨artifact, planned, placed, ?_⟩, changed, among⟩
  intro stands
  obtain ⟨names, _, located⟩ := exists_location_of_standsInPackage plainPackage planned stands
  exact among names (placed.symm.trans located)

end OpenApiJava
