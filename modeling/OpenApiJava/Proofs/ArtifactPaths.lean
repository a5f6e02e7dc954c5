import OpenApiJava.Proofs.CaseForms
import OpenApiJava.Proofs.Planning

/-!
# Where artifacts go

All artifacts of a run go below the folder of the base package, each to a place that the document
alone decides: the kind of its class and the name of its class. A name without slashes is a single
name of a path, so that different places are different paths and different locations.
-/

namespace OpenApiJava

/-! ## Paths below a path -/

namespace FilePath

/-- The path with more names after it. -/
def below (path : FilePath) (names : List String) : FilePath :=
  ⟨path.absolute, path.names ++ names⟩

theorem below_below (path : FilePath) (first second : List String) :
    (path.below first).below second = path.below (first ++ second) := by
  simp [below]

theorem append_below (path other : FilePath) (names : List String) :
    path ++ other.below names = (path ++ other).below names := by
  change append path (other.below names) = (append path other).below names
  unfold append below
  split <;> simp

@[simp]
theorem below_inj {path : FilePath} {first second : List String} :
    path.below first = path.below second ↔ first = second := by
  simp [below]

/-- A text that is one name of a path: it has no slash and is neither empty nor a dot. -/
def IsName (text : String) : Prop :=
  '/' ∉ text.toList ∧ text ≠ "" ∧ text ≠ "."

instance (text : String) : Decidable (IsName text) :=
  inferInstanceAs (Decidable (_ ∧ _ ∧ _))

theorem ofString_of_isName {name : String} (isName : IsName name) :
    ofString name = ⟨false, [name]⟩ := by
  obtain ⟨plain, proper, noDot⟩ := isName
  have relative : Text.startsWith "/" name = false := by
    unfold Text.startsWith
    cases characters : name.toList with
    | nil => rfl
    | cons first rest =>
        rw [characters] at plain
        have different : '/' ≠ first := List.ne_of_not_mem_cons plain
        simp [List.isPrefixOf, different]
  simp [ofString, relative, Text.pieces_of_not_mem plain, proper, noDot]

theorem child_eq_below {path : FilePath} {name : String} (isName : IsName name) :
    path.child name = path.below [name] := by
  unfold child
  rw [ofString_of_isName isName]
  rfl

theorem foldl_child {path : FilePath} {names : List String}
    (areNames : ∀ name ∈ names, IsName name) :
    names.foldl child path = path.below names := by
  induction names generalizing path with
  | nil => simp [below]
  | cons name rest inductionHypothesis =>
      rw [List.foldl_cons, child_eq_below (areNames name List.mem_cons_self),
        inductionHypothesis fun other member => areNames other (List.mem_cons_of_mem name member),
        below_below, List.singleton_append]

/-- The file name of a class without slashes is one name. -/
theorem isName_java {className : String} (plain : '/' ∉ className.toList) :
    IsName (className ++ ".java") := by
  have long : 2 ≤ (className ++ ".java").length := by
    rw [String.length_append]
    exact Nat.le_trans (by decide) (Nat.le_add_left ".java".length className.length)
  refine ⟨?_, ?_, ?_⟩
  · rw [String.toList_append, List.mem_append]
    rintro (inName | inEnding)
    · exact plain inName
    · exact absurd inEnding (by decide)
  · intro empty
    rw [empty] at long
    exact absurd long (by decide)
  · intro dot
    rw [dot] at long
    exact absurd long (by decide)

end FilePath

/-! ## Places -/

namespace Settings

/-- The folder of the base package. -/
def baseFolder (settings : Settings) : FilePath :=
  settings.packageFolder settings.basePackage

/-- A package within the base package has its folders within the folder of the base package. -/
theorem packageFolder_inner (settings : Settings) {inner : String} {names : List String}
    (spelled : (Text.pieces '.' inner.toList).map String.ofList = names)
    (areNames : ∀ name ∈ names, FilePath.IsName name) :
    settings.packageFolder (settings.basePackage ++ "." ++ inner) =
      settings.baseFolder.below names := by
  have cut : (settings.basePackage ++ "." ++ inner).toList =
      settings.basePackage.toList ++ '.' :: inner.toList := by
    simp
  have inside : packagePath (settings.basePackage ++ "." ++ inner) =
      (packagePath settings.basePackage).below names := by
    unfold packagePath
    rw [cut, Text.pieces_append_separator, List.map_append, List.foldl_append, spelled,
      FilePath.foldl_child areNames]
  unfold baseFolder packageFolder
  rw [inside, FilePath.append_below]

theorem packageFolder_request (settings : Settings) :
    settings.packageFolder settings.requestPackage =
      settings.baseFolder.below ["dto", "RequestDTO"] := by
  have spelled : settings.requestPackage = settings.basePackage ++ "." ++ "dto.RequestDTO" := by
    rw [String.append_assoc]
    rfl
  rw [spelled]
  exact settings.packageFolder_inner rfl (by decide)

theorem packageFolder_response (settings : Settings) :
    settings.packageFolder settings.responsePackage =
      settings.baseFolder.below ["dto", "ResponseDTO"] := by
  have spelled : settings.responsePackage = settings.basePackage ++ "." ++ "dto.ResponseDTO" := by
    rw [String.append_assoc]
    rfl
  rw [spelled]
  exact settings.packageFolder_inner rfl (by decide)

theorem packageFolder_service (settings : Settings) :
    settings.packageFolder settings.servicePackage = settings.baseFolder.below ["service"] := by
  have spelled : settings.servicePackage = settings.basePackage ++ "." ++ "service" := by
    rw [String.append_assoc]
    rfl
  rw [spelled]
  exact settings.packageFolder_inner rfl (by decide)

theorem packageFolder_constants (settings : Settings) :
    settings.packageFolder settings.constantsPackage =
      settings.baseFolder.below ["constants"] := by
  have spelled : settings.constantsPackage = settings.basePackage ++ "." ++ "constants" := by
    rw [String.append_assoc]
    rfl
  rw [spelled]
  exact settings.packageFolder_inner rfl (by decide)

/-- A class without slashes in its name has a file of its own in the folder of its package. -/
theorem classFile_eq {settings : Settings} {package className : String} {names : List String}
    (inside : settings.packageFolder package = settings.baseFolder.below names)
    (plain : '/' ∉ className.toList) :
    settings.classFile package className =
      settings.baseFolder.below (names ++ [className ++ ".java"]) := by
  unfold classFile
  rw [inside, FilePath.child_eq_below (FilePath.isName_java plain), FilePath.below_below]

end Settings

namespace Document

/-- No schema and no tag has a slash in its name. -/
def HasPlainNames (document : Document) : Prop :=
  (∀ entry ∈ document.schemas, '/' ∉ entry.1.toList) ∧ ∀ tag ∈ document.tags, '/' ∉ tag.toList

instance (document : Document) : Decidable document.HasPlainNames :=
  inferInstanceAs (Decidable (_ ∧ _))

theorem map_className_services {document : Document}
    (served : document.servers = [] → document.endpoints = []) :
    document.services.map (·.className) = (distinct document.tags).map Java.serviceClassName := by
  unfold services
  cases servers : document.servers with
  | nil => simp [tags, served servers, distinct]
  | cons server others =>
      simp only [List.map_map]
      rfl

theorem slash_not_mem_className {document : Document} (plain : document.HasPlainNames)
    {service : Service} (member : service ∈ document.services) :
    '/' ∉ service.className.toList := by
  obtain ⟨_, _, tag, _, isTag, rfl⟩ := mem_services_iff.mp member
  exact Java.slash_not_mem_serviceClassName (plain.2 tag isTag)

end Document

namespace Category

/-- The names that lead from the folder of the base package to the files of a category. -/
def places (document : Document) : Category → List (List String)
  | dtos => document.schemas.flatMap fun entry =>
      (Dto.variants entry.1).map fun asResponse =>
        ["dto", if asResponse then "ResponseDTO" else "RequestDTO", entry.1 ++ ".java"]
  | basePaths => [["constants", "BasePathURLs.java"]]
  | services => document.services.map fun service => ["service", service.className ++ ".java"]
  | relativeUrls => [["constants", "RelativeURLs.java"]]

theorem path_dto {settings : Settings} {name : String} {schema : Schema} {asResponse : Bool}
    (plain : '/' ∉ name.toList) (variant : asResponse ∈ Dto.variants name) :
    (Dto.artifact settings (Dto.ofSchema name schema asResponse settings)).path =
      settings.baseFolder.below
        ["dto", if asResponse then "ResponseDTO" else "RequestDTO", name ++ ".java"] := by
  cases asResponse with
  | true => exact Settings.classFile_eq settings.packageFolder_response plain
  | false =>
      have isRequest : isResponseName name = false := by
        cases response : isResponseName name with
        | false => rfl
        | true => simp [Dto.variants, response] at variant
      simp only [Dto.artifact, Dto.ofSchema, isRequest, Bool.or_self, Bool.false_eq_true, if_false]
      exact Settings.classFile_eq settings.packageFolder_request plain

theorem paths_dtos {document : Document} (settings : Settings)
    (plain : document.HasPlainNames) :
    paths document settings dtos =
      (places document dtos).map settings.baseFolder.below := by
  simp only [paths, artifacts, places, Dto.ofSchemas, List.map_flatMap, List.map_map]
  rw [List.flatMap_def, List.flatMap_def]
  congr 1
  apply List.map_congr_left
  intro entry member
  apply List.map_congr_left
  intro asResponse variant
  exact path_dto (plain.1 entry member) variant

/-- Where the names are plain, the paths of a category lead to its places. -/
theorem paths_eq {document : Document} (settings : Settings)
    (plain : document.HasPlainNames) (category : Category) :
    category.paths document settings =
      (category.places document).map settings.baseFolder.below := by
  cases category with
  | dtos => exact paths_dtos settings plain
  | basePaths =>
      exact congrArg (fun path => [path])
        (Settings.classFile_eq settings.packageFolder_constants (by decide))
  | relativeUrls =>
      exact congrArg (fun path => [path])
        (Settings.classFile_eq settings.packageFolder_constants (by decide))
  | services =>
      simp only [paths, artifacts, places, List.map_map]
      apply List.map_congr_left
      intro service member
      exact
        Settings.classFile_eq settings.packageFolder_service
          (Document.slash_not_mem_className plain member)

/-! ## Different places -/

theorem nodup_places_dtos {document : Document}
    (different : (document.schemas.map Prod.fst).Nodup) :
    (places document dtos).Nodup := by
  refine List.nodup_flatMap.mpr ⟨?_, ?_⟩
  · intro entry _
    unfold Dto.variants
    split
    · exact List.nodup_singleton _
    · simp
  · refine (List.pairwise_map.mp different).imp ?_
    intro first second differentNames place inFirst inSecond
    obtain ⟨_, _, rfl⟩ := List.mem_map.mp inFirst
    obtain ⟨_, _, same⟩ := List.mem_map.mp inSecond
    simp only [List.cons.injEq, String.append_left_inj] at same
    exact differentNames same.2.2.1.symm

theorem nodup_places_services (document : Document) :
    (places document services).Nodup ↔ (document.services.map (·.className)).Nodup := by
  have injective : Function.Injective fun name : String => ["service", name ++ ".java"] := by
    intro first second same
    simpa using same
  rw [← List.nodup_map_iff injective, List.map_map]
  rfl

/-- The first name of a place below the folder of the base package. -/
def folder : Category → String
  | dtos => "dto"
  | basePaths => "constants"
  | services => "service"
  | relativeUrls => "constants"

theorem head?_of_mem_places {document : Document} {category : Category} {place : List String}
    (member : place ∈ category.places document) :
    place.head? = some category.folder := by
  cases category with
  | dtos =>
      obtain ⟨entry, _, inVariants⟩ := List.mem_flatMap.mp member
      obtain ⟨asResponse, _, rfl⟩ := List.mem_map.mp inVariants
      rfl
  | services =>
      obtain ⟨service, _, rfl⟩ := List.mem_map.mp member
      rfl
  | basePaths =>
      rw [List.mem_singleton.mp member]
      rfl
  | relativeUrls =>
      rw [List.mem_singleton.mp member]
      rfl

theorem ne_of_folder_ne {document : Document} {first second : Category}
    (different : first.folder ≠ second.folder) {place other : List String}
    (inFirst : place ∈ first.places document) (inSecond : other ∈ second.places document) :
    place ≠ other := by
  intro same
  have sameHead := (head?_of_mem_places inFirst).symm.trans
    (same ▸ head?_of_mem_places inSecond)
  exact different (Option.some.inj sameHead)

/-- No place belongs to two categories. -/
theorem ne_of_mem_places {document : Document} {first second : Category}
    (different : first ≠ second) {place other : List String}
    (inFirst : place ∈ first.places document) (inSecond : other ∈ second.places document) :
    place ≠ other := by
  by_cases sameFolder : first.folder = second.folder
  · have constants :
        first = basePaths ∧ second = relativeUrls ∨ first = relativeUrls ∧ second = basePaths := by
      revert different sameFolder
      cases first <;> cases second <;> decide
    rcases constants with ⟨rfl, rfl⟩ | ⟨rfl, rfl⟩
    · rw [List.mem_singleton.mp inFirst, List.mem_singleton.mp inSecond]
      decide
    · rw [List.mem_singleton.mp inFirst, List.mem_singleton.mp inSecond]
      decide
  · exact ne_of_folder_ne sameFolder inFirst inSecond

end Category

/-- The places of all categories. -/
def Document.places (document : Document) : List (List String) :=
  Category.all.flatMap (Category.places document)

/-- The places of all artifacts differ if and only if the class names of the services do. -/
theorem Document.nodup_places_iff {document : Document}
    (different : (document.schemas.map Prod.fst).Nodup) :
    document.places.Nodup ↔ (document.services.map (·.className)).Nodup := by
  unfold Document.places
  rw [List.nodup_flatMap, ← Category.nodup_places_services]
  constructor
  · rintro ⟨each, _⟩
    exact each .services (by decide)
  · intro distinctServices
    constructor
    · intro category _
      cases category with
      | dtos => exact Category.nodup_places_dtos different
      | basePaths => exact List.nodup_singleton _
      | services => exact distinctServices
      | relativeUrls => exact List.nodup_singleton _
    · have distinctCategories : Category.all.Pairwise (· ≠ ·) := by decide
      refine distinctCategories.imp ?_
      intro first second differentCategories place inFirst inSecond
      exact Category.ne_of_mem_places differentCategories inFirst inSecond rfl

/-- Class names of services differ if and only if different tags have different ones. -/
theorem Document.nodup_className_services_iff {document : Document}
    (served : document.servers = [] → document.endpoints = []) :
    (document.services.map (·.className)).Nodup ↔
      ∀ first ∈ document.tags, ∀ second ∈ document.tags,
        Java.serviceClassName first = Java.serviceClassName second → first = second := by
  rw [Document.map_className_services served,
    List.nodup_map_iff_inj_on (nodup_distinct document.tags)]
  simp only [mem_distinct]

/-! ## Locations of places -/

theorem Location.follow_append (place : Location) (first second : List String) :
    Location.follow place (first ++ second) =
      Location.follow (Location.follow place first) second := by
  induction first generalizing place with
  | nil => rfl
  | cons name rest inductionHypothesis =>
      simp only [List.cons_append, Location.follow]
      split <;> exact inductionHypothesis _

theorem Location.follow_of_no_parent (place : Location) {names : List String}
    (noParent : ∀ name ∈ names, name ≠ "..") :
    Location.follow place names = place ++ names := by
  induction names generalizing place with
  | nil => simp [Location.follow]
  | cons name rest inductionHypothesis =>
      have isChild : (name == "..") = false :=
        beq_eq_false_iff_ne.mpr (noParent name List.mem_cons_self)
      simp only [Location.follow, isChild, Bool.false_eq_true, if_false]
      rw [inductionHypothesis (place ++ [name]) fun other member =>
        noParent other (List.mem_cons_of_mem name member)]
      simp

theorem FilePath.location_below (path : FilePath) (home : Location) {names : List String}
    (noParent : ∀ name ∈ names, name ≠ "..") :
    (path.below names).location home = path.location home ++ names := by
  unfold location below
  rw [Location.follow_append, Location.follow_of_no_parent _ noParent]

theorem java_ne_parent (className : String) : className ++ ".java" ≠ ".." := by
  intro same
  have sameLength := congrArg String.length same
  rw [String.length_append] at sameLength
  have long : ".java".length = 5 := by decide
  have short : "..".length = 2 := by decide
  omega

/-- No place leads out of a folder. -/
theorem Category.ne_parent_of_mem_places {document : Document} {category : Category}
    {place : List String} (member : place ∈ category.places document) :
    ∀ name ∈ place, name ≠ ".." := by
  intro name inPlace
  cases category with
  | dtos =>
      obtain ⟨entry, _, inVariants⟩ := List.mem_flatMap.mp member
      obtain ⟨asResponse, _, rfl⟩ := List.mem_map.mp inVariants
      simp only [List.mem_cons, List.not_mem_nil, or_false] at inPlace
      rcases inPlace with rfl | rfl | rfl
      · decide
      · cases asResponse <;> decide
      · exact java_ne_parent entry.1
  | services =>
      obtain ⟨service, _, rfl⟩ := List.mem_map.mp member
      simp only [List.mem_cons, List.not_mem_nil, or_false] at inPlace
      rcases inPlace with rfl | rfl
      · decide
      · exact java_ne_parent service.className
  | basePaths =>
      rw [List.mem_singleton.mp member] at inPlace
      revert name
      decide
  | relativeUrls =>
      rw [List.mem_singleton.mp member] at inPlace
      revert name
      decide

/-- The artifacts of a category go to its places, below one folder. -/
theorem Category.map_location_artifacts {document : Document} (settings : Settings)
    (plain : document.HasPlainNames) (home : Location) (category : Category) :
    (category.artifacts document settings).map (·.location home) =
      (category.places document).map (settings.baseFolder.location home ++ ·) :=
  calc
    (category.artifacts document settings).map (·.location home)
        = (category.paths document settings).map (·.location home) := by
        simp only [Category.paths, List.map_map]
        rfl
    _ = ((category.places document).map settings.baseFolder.below).map (·.location home) := by
        rw [Category.paths_eq settings plain]
    _ = (category.places document).map (settings.baseFolder.location home ++ ·) := by
        rw [List.map_map]
        apply List.map_congr_left
        intro place member
        exact FilePath.location_below _ home (Category.ne_parent_of_mem_places member)

/-- Artifacts of different categories are meant for different locations. -/
theorem Category.location_ne {document : Document} {settings : Settings}
    (plain : document.HasPlainNames) (home : Location) {first second : Category}
    (different : first ≠ second) {artifact other : Artifact}
    (inFirst : artifact ∈ first.artifacts document settings)
    (inSecond : other ∈ second.artifacts document settings) :
    artifact.location home ≠ other.location home := by
  have atPlace : ∀ {category : Category} {artifact : Artifact},
      artifact ∈ category.artifacts document settings →
      ∃ place ∈ category.places document,
        settings.baseFolder.location home ++ place = artifact.location home := by
    intro category artifact member
    have located : artifact.location home ∈
        (category.artifacts document settings).map (·.location home) :=
      List.mem_map_of_mem member
    rw [Category.map_location_artifacts settings plain home] at located
    exact List.mem_map.mp located
  obtain ⟨place, inPlaces, placed⟩ := atPlace inFirst
  obtain ⟨otherPlace, otherInPlaces, otherPlaced⟩ := atPlace inSecond
  intro same
  rw [← placed, ← otherPlaced] at same
  exact Category.ne_of_mem_places different inPlaces otherInPlaces (List.append_cancel_left same)

end OpenApiJava
