import OpenApiJava.Proofs.BareLines
import OpenApiJava.Proofs.Completion
import OpenApiJava.Proofs.Rendering
import OpenApiJava.Proofs.TypeReferences

/-!
# Descriptions

A description stands in a comment and nowhere else. Main statement: data classes and classes of
constants that differ only in descriptions have the same bare text.
-/

namespace OpenApiJava

open OpenApiJava.Java OpenApiJava.Text

namespace Source

/-! ## Data classes -/

namespace Member

def undescribed (member : Member) : Member :=
  { member with description := "" }

theorem sameCode_declaration {member : Member} (plainType : StaysCode member.typeName) :
    SameCode member.declaration member.undescribed.declaration := by
  have comments := SameCode.of_comments
    (reads_lineIf (reads_lineComment (isChain_commentText member.description))
      (!member.description.isEmpty))
    (reads_lineIf (reads_lineComment (isChain_commentText "")) (!"".isEmpty))
  have opens : Reads .code "    @JsonProperty(\"".toList "@JsonProperty(\"".toList .literal :=
    fun _ => rfl
  have closes : Reads .literal "\")".toList "\")".toList .code := fun _ => rfl
  have annotation := (opens.append (Reads.literalBody member.baseName)).append closes
  rw [← String.toList_append, ← String.toList_append] at annotation
  have plainName : StaysCode member.fieldName := staysCode_identifier member.name
  refine .append comments (.cons_of_reads annotation (.cons ?field (.cons (by decide) .nil)))
  case field => simp +decide [plainType, plainName]

theorem staysCode_accessors {className : String} {member : Member}
    (plainClass : StaysCode className) (plainType : StaysCode member.typeName) :
    ∀ line ∈ member.accessors className, StaysCode line := by
  have plainName : StaysCode member.fieldName := staysCode_identifier member.name
  have plainCapital : StaysCode member.capitalName := staysCode_upperFirst plainName
  simp +decide [accessors, plainClass, plainType, plainName, plainCapital]

end Member

namespace DataClass

def undescribed (data : DataClass) : DataClass :=
  { data with description := "", members := data.members.map Member.undescribed }

/-- The names that a data class is written from stay in the code. -/
structure IsPlain (data : DataClass) : Prop where
  packageName : StaysCode data.packageName
  className : StaysCode data.className
  imports : ∀ needed ∈ data.imports, StaysCode needed
  typeNames : ∀ member ∈ data.members, StaysCode member.typeName

theorem sameCode_lines {data : DataClass} (plain : data.IsPlain) :
    SameCode data.lines data.undescribed.lines := by
  have comments := SameCode.of_comments
    (reads_blockComment (isChain_commentText data.headline))
    (reads_blockComment (isChain_commentText data.undescribed.headline))
  have imports : ∀ line ∈ data.imports.map fun needed => "import " ++ needed ++ ";",
      StaysCode line := by
    intro line isLine
    obtain ⟨needed, isNeeded, rfl⟩ := List.mem_map.mp isLine
    simp +decide [plain.imports needed isNeeded]
  have declarations : SameCode (data.members.flatMap Member.declaration)
      (data.undescribed.members.flatMap Member.declaration) := by
    unfold undescribed
    rw [List.flatMap_map]
    exact .flatMap fun member isMember =>
      Member.sameCode_declaration (plain.typeNames member isMember)
  have accessors : SameCode (data.members.flatMap (Member.accessors data.className))
      (data.undescribed.members.flatMap (Member.accessors data.className)) := by
    unfold undescribed
    rw [List.flatMap_map]
    exact .flatMap fun member isMember =>
      .of_staysCode (Member.staysCode_accessors plain.className (plain.typeNames member isMember))
  -- Part by part in the order of the lines, of which only the comments are others.
  refine .append (.append (.append (.append (.append (.append (.append (.append
    (.append ?package (.of_staysCode imports)) ?jackson) ?comment) ?ignoring) ?head)
    declarations) ?build) accessors) ?brace
  case package => exact .of_staysCode (by simp +decide [plain.packageName])
  case jackson => exact .of_staysCode (staysCode_lineIf (by decide) data.isResponse)
  case comment => exact .cons (by decide) (.cons (by decide) comments)
  case ignoring => exact .of_staysCode (staysCode_lineIf (by decide) data.isResponse)
  case head => exact .of_staysCode (by simp +decide [plain.className])
  case build => exact .of_staysCode (by simp +decide [plain.className])
  case brace => exact .of_staysCode (by decide)

theorem bareText_source_eq {first second : DataClass} (plainFirst : first.IsPlain)
    (plainSecond : second.IsPlain) (same : first.undescribed = second.undescribed) :
    bareText first.source = bareText second.source := by
  have left : bareText first.source = bareText first.undescribed.source :=
    (sameCode_lines plainFirst).bareText_eq
  have right : bareText second.source = bareText second.undescribed.source :=
    (sameCode_lines plainSecond).bareText_eq
  rw [left, right, same]

end DataClass

/-! ## Classes of constants -/

theorem sameCode_constantLines {name : String} (plain : StaysCode name) (constant : UrlConstant)
    (description : String) :
    SameCode (constantLines name constant)
      (constantLines name { constant with description }) := by
  have comments := SameCode.of_comments
    (reads_lineComment (isChain_commentText constant.description))
    (reads_lineComment (isChain_commentText description))
  have front : StaysCode ("    public static final String " ++ name) := by
    simp +decide [plain]
  have opens : Reads .code " = \"".toList "=\"".toList .literal := fun _ => rfl
  have closes : Reads .literal "\";".toList "\";".toList .code := fun _ => rfl
  have line :=
    (((Reads.code front).append opens).append (Reads.literalBody constant.value)).append closes
  rw [← String.toList_append, ← String.toList_append, ← String.toList_append] at line
  exact .cons (by decide) (comments.append (.cons_of_reads line .nil))

end Source

def UrlConstant.undescribed (constant : UrlConstant) : UrlConstant :=
  { constant with description := "" }

namespace Source.ConstantsClass

def undescribed (table : ConstantsClass) : ConstantsClass :=
  { table with constants := table.constants.map UrlConstant.undescribed }

structure IsPlain (naming : String → String) (table : ConstantsClass) : Prop where
  packageName : StaysCode table.packageName
  className : StaysCode table.className
  names : ∀ constant ∈ table.constants, StaysCode (naming constant.name)

theorem sameCode_lines {headline : String} {naming : String → String} {table : ConstantsClass}
    (stays : headline.toList.IsChain StaysOpen) (plain : table.IsPlain naming) :
    SameCode (table.lines headline naming) (table.undescribed.lines headline naming) := by
  have comment := SameCode.of_comments (reads_blockComment stays) (reads_blockComment stays)
  have constants : SameCode
      (table.constants.flatMap fun constant => constantLines (naming constant.name) constant)
      (table.undescribed.constants.flatMap fun constant =>
        constantLines (naming constant.name) constant) := by
    unfold undescribed
    rw [List.flatMap_map]
    exact .flatMap fun constant isConstant =>
      sameCode_constantLines (plain.names constant isConstant) constant ""
  refine .append (.append ?front constants) ?brace
  case front =>
    have package : StaysCode ("package " ++ table.packageName ++ ";") := by
      simp +decide [plain.packageName]
    exact .cons package (.cons (by decide) (comment.append
      (.of_staysCode (by simp +decide [plain.className]))))
  case brace => exact .of_staysCode (by decide)

theorem bareText_eq {headline : String} {naming : String → String} {first second : ConstantsClass}
    (stays : headline.toList.IsChain StaysOpen) (plainFirst : first.IsPlain naming)
    (plainSecond : second.IsPlain naming) (same : first.undescribed = second.undescribed) :
    bareText (ofLines (first.lines headline naming)) =
      bareText (ofLines (second.lines headline naming)) := by
  have left := (sameCode_lines stays plainFirst).bareText_eq
  have right := (sameCode_lines stays plainSecond).bareText_eq
  rw [left, right, same]

end Source.ConstantsClass

/-! ## Plain names -/

/-- The text has only letters and digits of ASCII, dots, underscores and dashes. -/
def IsPlainName (text : String) : Prop :=
  ∀ character ∈ text.toList, character.isAlphanum = true ∨ character ∈ ['.', '_', '-']

instance (text : String) : Decidable (IsPlainName text) :=
  List.decidableBAll
    (fun character : Char => character.isAlphanum = true ∨ character ∈ ['.', '_', '-']) text.toList

open Source

theorem IsPlainName.staysCode {text : String} (plain : IsPlainName text) : StaysCode text :=
  staysCode_of_forall plain (by decide) (by decide)

theorem isPlainName_serverName (position : Nat) :
    IsPlainName (UrlConstant.serverName position) := by
  unfold UrlConstant.serverName
  split
  · decide
  · have front : IsPlainName "SERVER_" := by decide
    intro character member
    rw [String.toList_append] at member
    rcases List.mem_append.mp member with inFront | inNumeral
    · exact front character inFront
    · rw [Nat.toString_eq_repr, Nat.toList_repr] at inNumeral
      have digit : character.isDigit = true :=
        Nat.isDigit_of_mem_toDigits (by decide) (by decide) inNumeral
      exact Or.inl (by simp [Char.isAlphanum, digit])

theorem isPlainName_of_mem_ofServersFrom {position : Nat} {servers : List Server}
    {constant : UrlConstant} (member : constant ∈ UrlConstant.ofServersFrom position servers) :
    IsPlainName constant.name := by
  induction servers generalizing position with
  | nil => cases member
  | cons server others inductionHypothesis =>
      rcases List.mem_cons.mp member with rfl | member
      · exact isPlainName_serverName position
      · exact inductionHypothesis member

/-! ## Data classes of schemas -/

theorem staysCode_ofSchema {schema : Schema}
    (plain : ∀ reference, schema.TypedBy reference → StaysCode (referenceTypeName reference)) :
    StaysCode (JavaType.ofSchema schema).name := by
  obtain ⟨element, held, origin⟩ := JavaType.exists_holds_ofSchema schema
  have plainElement : StaysCode element := by
    rcases origin with rfl | ⟨kind, rfl⟩ | ⟨reference, typed, rfl⟩
    · decide
    · cases kind <;> decide
    · exact plain reference typed
  rcases held with same | same
  · rw [same]
    exact plainElement
  · rw [same]
    simp +decide [plainElement]

/-- The schema without its description and those of its properties. -/
def Schema.undescribed (schema : Schema) : Schema :=
  { schema with
    description := none
    properties := schema.properties.map fun property =>
      (property.1, { property.2 with description := none }) }

theorem Dto.undescribed_toDataClass (name : String) (schema : Schema) (asResponse : Bool)
    (settings : Settings) :
    (ofSchema name schema asResponse settings).toDataClass.undescribed =
      (ofSchema name schema.undescribed asResponse settings).toDataClass := by
  have fields : schema.undescribed.properties.map field =
      schema.properties.map fun property => { field property with description := none } := by
    unfold Schema.undescribed
    rw [List.map_map]
    rfl
  -- Imports depend on the types of the fields alone.
  have imports : importsOf (schema.undescribed.properties.map field) =
      importsOf (schema.properties.map field) := by
    rw [fields]
    simp only [importsOf, List.any_map, Function.comp_def]
  have members : (schema.undescribed.properties.map field).map DtoField.toMember =
      ((schema.properties.map field).map DtoField.toMember).map Member.undescribed := by
    rw [fields, List.map_map, List.map_map, List.map_map]
    rfl
  simp only [ofSchema, toDataClass, DataClass.undescribed, imports, members]
  rfl

/-- The types of the properties have plain names where they are taken from references. -/
def Schema.HasPlainReferences (schema : Schema) : Prop :=
  ∀ property ∈ schema.properties, ∀ reference,
    property.2.TypedBy reference → IsPlainName (referenceTypeName reference)

theorem Schema.typedBy_redescribed_iff {schema : Schema} {description : Option String}
    {reference : String} :
    { schema with description }.TypedBy reference ↔ schema.TypedBy reference := by
  -- Schemas nest, so that a schema is not by definition what its fields make up.
  constructor
  · intro typed
    cases typed with
    | itself yields noArray there => exact .itself yields noArray there
    | items isArray hasItems yields there => exact .items isArray hasItems yields there
  · intro typed
    cases typed with
    | itself yields noArray there => exact .itself yields noArray there
    | items isArray hasItems yields there => exact .items isArray hasItems yields there

theorem Schema.hasPlainReferences_undescribed_iff {schema : Schema} :
    schema.undescribed.HasPlainReferences ↔ schema.HasPlainReferences := by
  constructor
  · intro plain property isProperty reference typed
    exact plain _ (List.mem_map_of_mem isProperty) reference (typedBy_redescribed_iff.mpr typed)
  · intro plain property isProperty reference typed
    obtain ⟨given, isGiven, rfl⟩ := List.mem_map.mp isProperty
    exact plain given isGiven reference (typedBy_redescribed_iff.mp typed)

theorem Dto.isPlain_toDataClass {name : String} {schema : Schema} {settings : Settings}
    (plainPackage : IsPlainName settings.basePackage) (plainName : IsPlainName name)
    (plainReferences : schema.HasPlainReferences) (asResponse : Bool) :
    (ofSchema name schema asResponse settings).toDataClass.IsPlain where
  packageName := by
    change StaysCode (if asResponse || isResponseName name then settings.responsePackage
      else settings.requestPackage)
    split
    · exact staysCode_append.mpr ⟨plainPackage.staysCode, by decide⟩
    · exact staysCode_append.mpr ⟨plainPackage.staysCode, by decide⟩
  className := plainName.staysCode
  imports := by
    intro needed isNeeded
    obtain ⟨neededImport, _, rfl⟩ := List.mem_map.mp isNeeded
    cases neededImport <;> decide
  typeNames := by
    intro member isMember
    obtain ⟨field, isField, rfl⟩ := List.mem_map.mp isMember
    obtain ⟨property, isProperty, rfl⟩ := List.mem_map.mp isField
    exact staysCode_ofSchema fun reference typed =>
      (plainReferences property isProperty reference typed).staysCode

/-! ## Sources from templates -/

/-- The template can be written from both contexts, and the sources have the same bare text. -/
def Source.Template.SameBareText (template : Template) (first second : Tree) : Prop :=
  ∃ firstSource secondSource,
    template.render first = .ok firstSource ∧ template.render second = .ok secondSource ∧
      bareText firstSource = bareText secondSource

theorem Dto.sameBareText {name : String} {first second : Schema} {settings : Settings}
    (plainPackage : IsPlainName settings.basePackage) (plainName : IsPlainName name)
    (plainReferences : first.HasPlainReferences) (same : first.undescribed = second.undescribed)
    (asResponse : Bool) :
    Template.dataClass.SameBareText (ofSchema name first asResponse settings).context
      (ofSchema name second asResponse settings).context := by
  have plainFirst := isPlain_toDataClass plainPackage plainName plainReferences asResponse
  have plainSecond : second.HasPlainReferences := by
    rw [← Schema.hasPlainReferences_undescribed_iff, ← same,
      Schema.hasPlainReferences_undescribed_iff]
    exact plainReferences
  have undescribed : (ofSchema name first asResponse settings).toDataClass.undescribed =
      (ofSchema name second asResponse settings).toDataClass.undescribed := by
    rw [undescribed_toDataClass, undescribed_toDataClass, same]
  exact ⟨_, _, Template.render_dataClass _, Template.render_dataClass _,
    DataClass.bareText_source_eq plainFirst
      (isPlain_toDataClass plainPackage plainName plainSecond asResponse) undescribed⟩

def Settings.constantsClass (settings : Settings) (className : String)
    (constants : List UrlConstant) : Source.ConstantsClass :=
  ⟨settings.constantsPackage, className, constants⟩

theorem Source.ConstantsClass.IsPlain.of_plainPackage {settings : Settings}
    {naming : String → String} {className : String} {constants : List UrlConstant}
    (plainPackage : IsPlainName settings.basePackage) (plainClass : StaysCode className)
    (plainNames : ∀ constant ∈ constants, StaysCode (naming constant.name)) :
    (settings.constantsClass className constants).IsPlain naming where
  packageName := staysCode_append.mpr ⟨plainPackage.staysCode, by decide⟩
  className := plainClass
  names := plainNames

theorem staysCode_of_undescribed_eq {first second : List UrlConstant}
    (plain : ∀ constant ∈ second, StaysCode constant.name)
    (same : first.map UrlConstant.undescribed = second.map UrlConstant.undescribed) :
    ∀ constant ∈ first, StaysCode constant.name := by
  intro constant member
  have listed : constant.undescribed ∈ second.map UrlConstant.undescribed := by
    rw [← same]
    exact List.mem_map_of_mem member
  obtain ⟨other, isOther, sameConstant⟩ := List.mem_map.mp listed
  have sameName : other.undescribed.name = constant.undescribed.name := by
    rw [sameConstant]
  change other.name = constant.name at sameName
  rw [← sameName]
  exact plain other isOther

theorem UrlConstant.sameBareText_basePaths {settings : Settings} {servers : List Server}
    {first second : List UrlConstant} (plainPackage : IsPlainName settings.basePackage)
    (sameFirst : first.map undescribed = (ofServers servers).map undescribed)
    (sameSecond : second.map undescribed = (ofServers servers).map undescribed) :
    Template.basePaths.SameBareText
      ((settings.constantsClass basePathsClass first).context "servers")
      ((settings.constantsClass basePathsClass second).context "servers") := by
  have plain : ∀ constant ∈ ofServers servers, StaysCode constant.name :=
    fun _ member => (isPlainName_of_mem_ofServersFrom member).staysCode
  have plainClass : StaysCode basePathsClass := by decide
  have plainFirst : (settings.constantsClass basePathsClass first).IsPlain id :=
    .of_plainPackage plainPackage plainClass (staysCode_of_undescribed_eq plain sameFirst)
  have plainSecond : (settings.constantsClass basePathsClass second).IsPlain id :=
    .of_plainPackage plainPackage plainClass (staysCode_of_undescribed_eq plain sameSecond)
  have same : (settings.constantsClass basePathsClass first).undescribed =
      (settings.constantsClass basePathsClass second).undescribed := by
    simp only [Settings.constantsClass, ConstantsClass.undescribed, sameFirst, sameSecond]
  exact ⟨_, _, Template.render_basePaths _, Template.render_basePaths _,
    ConstantsClass.bareText_eq (isChain_staysOpen_iff.mpr (by decide)) plainFirst plainSecond same⟩

theorem UrlConstant.sameBareText_relativeUrls {settings : Settings}
    {first second : List UrlConstant} (plainPackage : IsPlainName settings.basePackage)
    (same : first.map undescribed = second.map undescribed) :
    Template.relativeUrls.SameBareText
      ((settings.constantsClass relativeUrlsClass first).context "paths")
      ((settings.constantsClass relativeUrlsClass second).context "paths") := by
  have plain : ∀ constants : List UrlConstant,
      (settings.constantsClass relativeUrlsClass constants).IsPlain identifier :=
    fun constants => .of_plainPackage plainPackage (by decide)
      fun constant _ => staysCode_identifier constant.name
  have sameClass : (settings.constantsClass relativeUrlsClass first).undescribed =
      (settings.constantsClass relativeUrlsClass second).undescribed := by
    simp only [Settings.constantsClass, ConstantsClass.undescribed, same]
  exact ⟨_, _, Template.render_relativeUrls _, Template.render_relativeUrls _,
    ConstantsClass.bareText_eq (isChain_staysOpen_iff.mpr (by decide)) (plain first)
      (plain second) sameClass⟩

/-- A description changes nothing but comments: where schemas, the constants of servers or any other
constants differ in descriptions alone, their sources have the same bare text. -/
theorem descriptions_stay_in_comments (settings : Settings)
    (plainPackage : IsPlainName settings.basePackage) :
    (∀ (name : String) (asResponse : Bool) (first second : Schema), IsPlainName name →
      first.HasPlainReferences → first.undescribed = second.undescribed →
        Template.dataClass.SameBareText (Dto.ofSchema name first asResponse settings).context
          (Dto.ofSchema name second asResponse settings).context) ∧
    (∀ (servers : List Server) (first second : List UrlConstant),
      first.map UrlConstant.undescribed =
          (UrlConstant.ofServers servers).map UrlConstant.undescribed →
        second.map UrlConstant.undescribed =
          (UrlConstant.ofServers servers).map UrlConstant.undescribed →
        Template.basePaths.SameBareText
          ((settings.constantsClass basePathsClass first).context "servers")
          ((settings.constantsClass basePathsClass second).context "servers")) ∧
    ∀ first second : List UrlConstant,
      first.map UrlConstant.undescribed = second.map UrlConstant.undescribed →
        Template.relativeUrls.SameBareText
          ((settings.constantsClass relativeUrlsClass first).context "paths")
          ((settings.constantsClass relativeUrlsClass second).context "paths") := by
  refine ⟨?schemas, ?servers, ?others⟩
  case schemas =>
    intro name asResponse first second plainName plainReferences same
    exact Dto.sameBareText plainPackage plainName plainReferences same asResponse
  case servers =>
    intro servers first second sameFirst sameSecond
    exact UrlConstant.sameBareText_basePaths plainPackage sameFirst sameSecond
  case others =>
    intro first second same
    exact UrlConstant.sameBareText_relativeUrls plainPackage same

/-- An animal that has a keeper, with descriptions for the two. -/
def keptPet (whole keeper : Option String) : Schema :=
  ⟨some "object", none, none, none,
    [("keeper", ⟨none, none, some (schemaRegistry ++ "Keeper"), none, [], keeper⟩)], whole⟩

theorem hasPlainReferences_keptPet (whole keeper : Option String) :
    (keptPet whole keeper).HasPlainReferences := by
  intro property isProperty reference typed
  rw [List.mem_singleton.mp isProperty] at typed
  cases typed with
  | itself _ _ there =>
      rw [← Option.some.inj there, referenceTypeName_registry]
      decide
  | items isArray => cases isArray

/-- Descriptions that try to close their comments and to open others do not get out of them. -/
theorem keptPet_stays_in_comments :
    Template.dataClass.SameBareText
        (Dto.ofSchema "Pet" (keptPet (some "A pet */ class Cat {} /*") (some "\"*/\""))
          false petSettings).context
        (Dto.ofSchema "Pet" (keptPet none none) false petSettings).context ∧
      Template.basePaths.SameBareText
        ((petSettings.constantsClass basePathsClass (UrlConstant.ofServers [petServer])).context
          "servers")
        ((petSettings.constantsClass basePathsClass [⟨"DEFAULT", "/v1", "*/ int x; /*"⟩]).context
          "servers") ∧
      Template.relativeUrls.SameBareText
        ((petSettings.constantsClass relativeUrlsClass [⟨"PETS", "/pets", "*/*/"⟩]).context "paths")
        ((petSettings.constantsClass relativeUrlsClass [⟨"PETS", "/pets", "All"⟩]).context
          "paths") := by
  obtain ⟨schemas, servers, others⟩ := descriptions_stay_in_comments petSettings (by decide)
  refine ⟨?pet, ?bases, ?urls⟩
  case pet =>
    exact schemas "Pet" false _ _ (by decide) (hasPlainReferences_keptPet _ _) rfl
  case bases =>
    have split : UrlConstant.ofServers [petServer] = [⟨"DEFAULT", "/v1", "Default server"⟩] := by
      decide +kernel
    exact servers [petServer] _ _ rfl (by rw [split]; rfl)
  case urls => exact others _ _ rfl

end OpenApiJava
