import OpenApiJava.Proofs.MethodNames
import OpenApiJava.Proofs.ServiceUrls
import OpenApiJava.Proofs.SharedNames
import OpenApiJava.Proofs.WordForms

/-!
# Declared names

Path parameters, the properties of a schema and the constants of paths give their names to what a
class declares. Main statements: two declared names are the same exactly if the texts that they
stand for share their name; two accessors are the same exactly if the names of their fields do not
differ once their first characters are in upper case.
-/

namespace OpenApiJava

open OpenApiJava.Java OpenApiJava.Text

namespace Source

/-! ## Lines with one front -/

theorem filter_flatMap_startsWith {α : Type} {front : String} {inner : α → List String}
    {kept : α → List String} (each : ∀ item, (inner item).filter (startsWith front) = kept item)
    (items : List α) :
    (items.flatMap inner).filter (startsWith front) = items.flatMap kept := by
  induction items with
  | nil => rfl
  | cons item others inductionHypothesis =>
      rw [List.flatMap_cons, List.filter_append, each, inductionHypothesis, List.flatMap_cons]

namespace ConstantsClass

/-- What the line of a constant starts with. -/
def constantFront : String := "    public static final String "

def constantLine (name : String) (constant : UrlConstant) : String :=
  constantFront ++ name ++ " = \"" ++ literalBody constant.value ++ "\";"

/-- A class of constants declares its constants and no others. -/
theorem filter_lines (headline : String) (naming : String → String) (table : ConstantsClass) :
    (table.lines headline naming).filter (startsWith constantFront) =
      table.constants.map fun constant => constantLine (naming constant.name) constant := by
  have each : ∀ constant : UrlConstant,
      (constantLines (naming constant.name) constant).filter (startsWith constantFront) =
        [constantLine (naming constant.name) constant] := by
    intro constant
    simp [constantLines, constantLine, constantFront, startsWith, String.append_assoc]
  unfold lines
  rw [List.filter_append, List.filter_append, filter_flatMap_startsWith each,
    ← List.map_eq_flatMap]
  simp [constantFront, startsWith, String.append_assoc]

end ConstantsClass

namespace Call

/-- The names of the parameters of the method that builds the URL. -/
def parameterNames (call : Call) : List String :=
  call.parameters.map fun parameter => identifier parameter.name

/-- The name under which the method keeps the path. -/
def pathVariable : String := "path"

/-- The names that the method declares: those of its parameters and that of the path. -/
def declaredNames (call : Call) : List String :=
  call.parameterNames ++ [pathVariable]

theorem signature_eq (call : Call) :
    call.signature = String.ofList (joined [',', ' ']
      (call.parameterNames.map fun name => ("Object " ++ name).toList)) := by
  rw [signature, parameterNames, List.map_map]
  rfl

theorem pathLineFront_eq : pathLineFront = "        String " ++ pathVariable ++ " = " := by
  decide

end Call

namespace Member

def getterName (member : Member) : String :=
  "get" ++ member.capitalName

def setterName (member : Member) : String :=
  "set" ++ member.capitalName

/-- What the line of a field starts with. -/
def fieldFront : String := "    private "

def fieldLine (member : Member) : String :=
  fieldFront ++ member.typeName ++ " " ++ member.fieldName ++ ";"

/-- What the line of an accessor starts with. -/
def accessorFront : String := "    public "

/-- The lines that declare the getter and the setter. -/
def accessorLines (className : String) (member : Member) : List String := [
  accessorFront ++ member.typeName ++ " " ++ member.getterName ++ "() \x7b",
  accessorFront ++ className ++ " " ++ member.setterName ++ "(" ++ member.typeName ++ " " ++
    member.fieldName ++ ") \x7b"]

theorem filter_declaration_field (member : Member) :
    member.declaration.filter (startsWith fieldFront) = [member.fieldLine] := by
  unfold declaration lineIf
  split <;> simp [fieldLine, fieldFront, startsWith, String.append_assoc]

theorem filter_accessors_field (className : String) (member : Member) :
    (member.accessors className).filter (startsWith fieldFront) = [] := by
  simp [accessors, fieldFront, startsWith, String.append_assoc]

theorem filter_declaration_accessor (member : Member) :
    member.declaration.filter (startsWith accessorFront) = [] := by
  unfold declaration lineIf
  split <;> simp [accessorFront, startsWith, String.append_assoc]

theorem filter_accessors_accessor (className : String) (member : Member) :
    (member.accessors className).filter (startsWith accessorFront) =
      member.accessorLines className := by
  simp [accessors, accessorLines, accessorFront, getterName, setterName, startsWith,
    ← String.toList_inj]

end Member

namespace DataClass

/-- A data class declares its fields and no others. -/
theorem filter_lines_field (data : DataClass) :
    data.lines.filter (startsWith Member.fieldFront) = data.members.map Member.fieldLine := by
  have noImport : (data.imports.map fun needed => "import " ++ needed ++ ";").filter
      (startsWith Member.fieldFront) = [] :=
    filter_map_startsWith fun needed => by
      simp [Member.fieldFront, startsWith, String.append_assoc, List.isPrefixOf]
  unfold lines lineIf
  simp only [List.filter_append, noImport,
    filter_flatMap_startsWith Member.filter_declaration_field,
    filter_flatMap_startsWith (Member.filter_accessors_field data.className)]
  rw [← List.map_eq_flatMap]
  split <;> simp [Member.fieldFront, startsWith, String.append_assoc]

/-- A data class declares its constructor and the accessors of its fields, and no others. -/
theorem filter_lines_accessor (data : DataClass) :
    data.lines.filter (startsWith Member.accessorFront) =
      (Member.accessorFront ++ data.className ++ "() \x7b") ::
        data.members.flatMap (Member.accessorLines data.className) := by
  have noImport : (data.imports.map fun needed => "import " ++ needed ++ ";").filter
      (startsWith Member.accessorFront) = [] :=
    filter_map_startsWith fun needed => by
      simp [Member.accessorFront, startsWith, String.append_assoc, List.isPrefixOf]
  unfold lines lineIf
  simp only [List.filter_append, noImport,
    filter_flatMap_startsWith Member.filter_declaration_accessor,
    filter_flatMap_startsWith (Member.filter_accessors_accessor data.className)]
  split <;> simp [Member.accessorFront, startsWith, String.append_assoc]

end DataClass

end Source

open Source

/-! ## Constants of paths -/

/-- A constant that has a reserved word for a name is called by the underscore: all other reserved
words have small letters. -/
theorem wordForm_constantWord_of_isReserved {path : List Char}
    (reserved : isReserved (wordForm (constantWord path)) = true) :
    wordForm (constantWord path) = ['_'] := by
  have small : ∀ word ∈ reservedWords,
      word.toList.all (fun character => !character.isLower) = true → word = "_" := by
    decide
  have capital : ∀ character ∈ wordForm (constantWord path), character.isLower = false := by
    intro character member
    obtain ⟨given, inWord, rfl⟩ := List.mem_map.mp member
    unfold nameCharacter
    split
    · exact not_isLower_of_mem_upper inWord
    · decide
  obtain ⟨word, isListed, same⟩ := isReserved_iff.mp reserved
  have underscore : word = "_" := by
    apply small word isListed
    rw [same, List.all_eq_true]
    intro character member
    rw [capital character member]
    rfl
  rw [← same, underscore]
  rfl

/-- The constants of paths are declared under names of their own exactly if no two share their name.
Of the words that are no names only the underscore is the name of a constant. -/
theorem relativeUrlNames_nodup_iff (paths : List (String × PathItem)) :
    (((UrlConstant.ofPaths paths).map fun constant => identifier constant.name).Nodup ↔
        ((UrlConstant.ofPaths paths).map fun constant => constant.name.toList).Pairwise
          fun first second => ¬ SharesName first second) ∧
      ∀ constant ∈ UrlConstant.ofPaths paths,
        isReserved (wordForm constant.name.toList) = true →
          wordForm constant.name.toList = ['_'] := by
  constructor
  · exact nodup_map_iff_pairwise_map (fun _ _ => identifier_eq_identifier_iff) _
  · intro constant member reserved
    obtain ⟨⟨path, item⟩, _, rfl⟩ := List.mem_map.mp member
    have spelled : (UrlConstant.ofPath path item).name.toList = constantWord path.toList :=
      toList_onString constantWord path
    rw [spelled] at reserved ⊢
    exact wordForm_constantWord_of_isReserved reserved

/-- A path without operations. -/
def PathItem.bare : PathItem :=
  ⟨none, none, none, none, []⟩

/-- The path of a dash has the underscore for its constant, which is declared apart from that of the
empty path. -/
theorem dashPath_declared_apart :
    let paths := [("/-", PathItem.bare), ("/", PathItem.bare)]
    ((UrlConstant.ofPaths paths).map fun constant => identifier constant.name).Nodup ∧
      UrlConstant.ofPath "/-" PathItem.bare ∈ UrlConstant.ofPaths paths ∧
      isReserved (wordForm (UrlConstant.ofPath "/-" PathItem.bare).name.toList) = true ∧
      wordForm (UrlConstant.ofPath "/-" PathItem.bare).name.toList = ['_'] := by
  intro paths
  obtain ⟨apart, underscore⟩ := relativeUrlNames_nodup_iff paths
  have listed : UrlConstant.ofPath "/-" PathItem.bare ∈ UrlConstant.ofPaths paths :=
    List.mem_cons_self
  have reserved :
      isReserved (wordForm (UrlConstant.ofPath "/-" PathItem.bare).name.toList) = true := by
    decide
  exact ⟨apart.mpr (by decide), listed, reserved, underscore _ listed reserved⟩

/-- Two paths whose constants differ in a dot. -/
def dottedPaths : List (String × PathItem) :=
  [("/pets.all", PathItem.bare), ("/pets/all", PathItem.bare)]

/-- The constants of both paths have names of their own, but one identifier. -/
theorem dottedPaths_repeat_constant :
    ((UrlConstant.ofPaths dottedPaths).map (·.name)).Nodup ∧
      ¬ ((UrlConstant.ofPaths dottedPaths).map fun constant => identifier constant.name).Nodup := by
  have names : (UrlConstant.ofPaths dottedPaths).map (·.name) = ["PETS.ALL", "PETS_ALL"] := by
    decide
  have identifiers : (UrlConstant.ofPaths dottedPaths).map (fun constant =>
      identifier constant.name) = ["PETS_ALL", "PETS_ALL"] := by
    decide
  rw [names, identifiers]
  decide

/-! ## Parameters of paths -/

/-- Only the name of the path itself has it for an identifier. -/
theorem identifier_eq_pathVariable_iff {text : String} :
    identifier text = Call.pathVariable ↔ text = Call.pathVariable := by
  have legal : IsLegal Call.pathVariable.toList := by
    rw [← identifier_eq_self_iff]
    decide
  rw [← String.toList_inj, identifier, toList_onString,
    nameOf_eq_iff_of_underscore_not_mem (by decide) legal (by decide), String.toList_inj]

/-- The parameters of the method for a path have names of their own exactly if no two of them share
their name. With none that is called like the path, no name is declared twice. -/
theorem declaredNames_nodup_iff (operation : Operation) (path method : String) :
    let call := (Endpoint.ofOperation operation path method).toCall
    let given := (PathParameter.ofPath path).map fun parameter => parameter.name.toList
    (call.parameterNames.Nodup ↔
        given.Pairwise fun first second => ¬ SharesName first second) ∧
      (Call.pathVariable.toList ∉ given →
        (call.declaredNames.Nodup ↔
          given.Pairwise fun first second => ¬ SharesName first second)) := by
  intro call given
  have apart : call.parameterNames.Nodup ↔
      given.Pairwise fun first second => ¬ SharesName first second :=
    nodup_map_iff_pairwise_map (fun _ _ => identifier_eq_identifier_iff) _
  refine ⟨apart, fun noPath => ?_⟩
  have fresh : Call.pathVariable ∉ call.parameterNames := by
    intro member
    obtain ⟨parameter, isParameter, same⟩ := List.mem_map.mp member
    apply noPath
    rw [← identifier_eq_pathVariable_iff.mp same]
    exact List.mem_map_of_mem isParameter
  have disjoint : call.declaredNames.Nodup ↔ call.parameterNames.Nodup := by
    rw [Call.declaredNames, List.nodup_append_comm, List.singleton_append, List.nodup_cons]
    exact and_iff_right fresh
  exact disjoint.trans apart

theorem shopPath_declares_once :
    let call := (Endpoint.ofOperation (.bare none) "/shops/{shopId}/pets/{class}" "GET").toCall
    Call.pathVariable.toList ∉
        (PathParameter.ofPath "/shops/{shopId}/pets/{class}").map (·.name.toList) ∧
      call.declaredNames.Nodup := by
  intro call
  have noPath : Call.pathVariable.toList ∉
      (PathParameter.ofPath "/shops/{shopId}/pets/{class}").map (·.name.toList) := by
    decide
  have once := (declaredNames_nodup_iff (.bare none) "/shops/{shopId}/pets/{class}" "GET").2 noPath
  exact ⟨noPath, once.mpr (by decide)⟩

/-- Two parameters that differ in a dash are declared under one name. -/
theorem dashedPath_declares_twice :
    let call := (Endpoint.ofOperation (.bare none) "/shops/{shop-id}/pets/{shop_id}" "GET").toCall
    ((PathParameter.ofPath "/shops/{shop-id}/pets/{shop_id}").map (·.name)).Nodup ∧
      call.declaredNames = ["shop_id", "shop_id", "path"] ∧ ¬ call.declaredNames.Nodup := by
  intro call
  have names : (PathParameter.ofPath "/shops/{shop-id}/pets/{shop_id}").map (·.name) =
      ["shop-id", "shop_id"] := by
    decide
  have declared : call.declaredNames = ["shop_id", "shop_id", "path"] := by decide
  rw [names, declared]
  decide

/-! ## Names in upper case -/

namespace Text

/-- The form of the second text's first character is that of the first text's with what its rest has
more: nothing, unless a letter has several in upper case. -/
inductive ContinuesCapital : List Char → List Char → Prop
  | intro {first second : Char} {more : List Char} (rest : List Char)
      (forms : upperChar second = upperChar first ++ more) :
      ContinuesCapital (first :: (more ++ rest)) (second :: rest)

/-- The texts do not differ once their first characters are in upper case. -/
def SharesCapital (first second : List Char) : Prop :=
  ContinuesCapital first second ∨ ContinuesCapital second first

theorem ContinuesCapital.upperFirst_eq {first second : List Char}
    (continues : ContinuesCapital first second) : upperFirst first = upperFirst second := by
  obtain ⟨rest, forms⟩ := continues
  rw [upperFirst, upperFirst, forms, List.append_assoc]

theorem upperFirst_eq_upperFirst_iff {first second : List Char} (nonempty : first ≠ [])
    (alsoNonempty : second ≠ []) :
    upperFirst first = upperFirst second ↔ SharesCapital first second := by
  constructor
  · obtain ⟨front, rest, rfl⟩ := List.exists_cons_of_ne_nil nonempty
    obtain ⟨other, others, rfl⟩ := List.exists_cons_of_ne_nil alsoNonempty
    intro same
    rw [upperFirst, upperFirst, List.append_eq_append_iff] at same
    rcases same with ⟨more, forms, rfl⟩ | ⟨more, forms, rfl⟩
    · exact Or.inl (.intro others forms)
    · exact Or.inr (.intro rest forms)
  · rintro (continues | continues)
    · exact continues.upperFirst_eq
    · exact continues.upperFirst_eq.symm

end Text

/-! ## Data classes -/

/-- The identifiers of the texts do not differ once their first characters are in upper case. -/
def Java.SharesAccessor (first second : List Char) : Prop :=
  SharesCapital (nameOf first) (nameOf second)

theorem Source.Member.capitalName_eq_capitalName_iff {first second : Member} :
    first.capitalName = second.capitalName ↔
      SharesAccessor first.name.toList second.name.toList := by
  have proper : ∀ text, nameOf text ≠ [] := fun text => (isLegal_nameOf text).nonempty
  rw [SharesAccessor, ← upperFirst_eq_upperFirst_iff (proper _) (proper _), ← String.toList_inj]
  simp [capitalName, fieldName, identifier]

/-- The fields of a data class have names of their own exactly if no two properties share their
name, and so have the accessors exactly if no two properties share them. -/
theorem memberNames_nodup_iff (name : String) (schema : Schema) (asResponse : Bool)
    (settings : Settings) :
    let members := (Dto.ofSchema name schema asResponse settings).toDataClass.members
    let properties := schema.properties.map fun property => property.1.toList
    ((members.map Member.fieldName).Nodup ↔
        properties.Pairwise fun first second => ¬ SharesName first second) ∧
      ((members.map Member.getterName).Nodup ↔
        properties.Pairwise fun first second => ¬ SharesAccessor first second) ∧
      ((members.map Member.setterName).Nodup ↔
        properties.Pairwise fun first second => ¬ SharesAccessor first second) := by
  intro members properties
  have texts : members.map (fun member => member.name.toList) = properties := by
    simp [members, properties, Dto.toDataClass, Dto.ofSchema, Dto.field, DtoField.toMember]
  have sameGetter : ∀ first second : Member, first.getterName = second.getterName ↔
      SharesAccessor first.name.toList second.name.toList := by
    intro first second
    rw [← Member.capitalName_eq_capitalName_iff, Member.getterName, Member.getterName,
      String.append_right_inj]
  have sameSetter : ∀ first second : Member, first.setterName = second.setterName ↔
      SharesAccessor first.name.toList second.name.toList := by
    intro first second
    rw [← Member.capitalName_eq_capitalName_iff, Member.setterName, Member.setterName,
      String.append_right_inj]
  rw [← texts]
  exact ⟨nodup_map_iff_pairwise_map (fun _ _ => identifier_eq_identifier_iff) members,
    nodup_map_iff_pairwise_map sameGetter members, nodup_map_iff_pairwise_map sameSetter members⟩

/-- A schema whose properties differ in a dash. -/
def dashedPet : Schema :=
  { type := some "object", format := none, reference := none, items := none, description := none
    properties := [("pet-name", ⟨some "string", none, none, none, [], none⟩),
      ("pet_name", ⟨some "string", none, none, none, [], none⟩)] }

/-- Both properties of the schema have one field with one getter and one setter. -/
theorem dashedPet_repeats_members :
    let members := (Dto.ofSchema "PetResponseDTO" dashedPet true petSettings).toDataClass.members
    (dashedPet.properties.map (·.1)).Nodup ∧
      ¬ (members.map Member.fieldName).Nodup ∧
      ¬ (members.map Member.getterName).Nodup ∧
      ¬ (members.map Member.setterName).Nodup := by
  intro members
  have fields : members.map Member.fieldName = ["pet_name", "pet_name"] := by decide
  have getters : members.map Member.getterName = ["getPet_name", "getPet_name"] := by decide
  have setters : members.map Member.setterName = ["setPet_name", "setPet_name"] := by decide
  rw [fields, getters, setters]
  decide

end OpenApiJava
