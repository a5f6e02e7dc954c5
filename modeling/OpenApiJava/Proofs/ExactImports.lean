import OpenApiJava.Proofs.DeclaredNames
import OpenApiJava.Proofs.Rendering
import OpenApiJava.Proofs.TypePriorities

/-!
# Imports of data classes

A data class imports the classes that the types of its fields need. Main statement: these are lists
if some property is a list, and dates and moments if some property, or the items of some list, is a
text of that format without a reference; and the source imports each of them in one line, in
strictly increasing order.
-/

namespace OpenApiJava

namespace Schema

/-- The schema is a text of the format, and no reference stands in its way. -/
def IsFormatted (schema : Schema) (format : String) : Prop :=
  schema.type = some "string" ∧ schema.format = some format ∧ schema.reference = none

/-- The schema is a text of the format, or a list of such texts. -/
def BearsFormat (schema : Schema) (format : String) : Prop :=
  schema.IsFormatted format ∨
    schema.type = some "array" ∧ ∃ items, schema.items = some items ∧ items.IsFormatted format

/-- The data class of the schema needs the class, for one of the properties. -/
inductive NeedsImport (schema : Schema) : String → Prop
  | list {property : String × Schema} :
      property ∈ schema.properties → property.2.type = some "array" →
      NeedsImport schema "java.util.List"
  | date {property : String × Schema} :
      property ∈ schema.properties → property.2.BearsFormat "date" →
      NeedsImport schema "java.time.LocalDate"
  | dateTime {property : String × Schema} :
      property ∈ schema.properties → property.2.BearsFormat "date-time" →
      NeedsImport schema "java.time.LocalDateTime"

end Schema

/-- The class stands for the texts of a format. -/
inductive Import.StandsFor : Import → String → Prop
  | date : StandsFor .localDate "date"
  | dateTime : StandsFor .localDateTime "date-time"

/-! ## Imports of a type -/

section Types

variable {schema : Schema} {needed : Import}

theorem Schema.mem_imports_textType_iff (absent : schema.reference = none) :
    needed ∈ schema.textType.imports ↔
      ∃ format, needed.StandsFor format ∧ schema.IsFormatted format := by
  unfold textType IsFormatted
  constructor
  · intro member
    split at member
    · rename_i date
      obtain rfl := List.mem_singleton.mp member
      exact ⟨"date", .date, date.1, date.2, absent⟩
    · split at member
      · rename_i dateTime
        obtain rfl := List.mem_singleton.mp member
        exact ⟨"date-time", .dateTime, dateTime.1, dateTime.2, absent⟩
      · cases member
  · rintro ⟨format, stands, string, formatted, _⟩
    cases stands with
    | date => simp [string, formatted]
    | dateTime => simp [string, formatted]

theorem Schema.mem_imports_plainType_iff :
    needed ∈ schema.plainType.imports ↔
      ∃ format, needed.StandsFor format ∧ schema.IsFormatted format := by
  unfold plainType
  cases wins : schema.winningName? with
  | some name =>
      have noText : schema.type ≠ some "string" := by
        intro string
        simp [winningName?, string] at wins
      simp [IsFormatted, noText]
  | none =>
      cases there : schema.reference with
      | some reference => simp [IsFormatted, there]
      | none => exact mem_imports_textType_iff there

theorem JavaType.mem_imports_listOf_iff {element : JavaType} :
    needed ∈ (listOf element).imports ↔ needed ∈ element.imports ∨ needed = .list := by
  have imports : (listOf element).imports = element.imports ++ [.list] := rfl
  rw [imports, List.mem_append, List.mem_singleton]

/-- A list needs the class of lists and what its items need, and any other schema what its format
stands for. -/
theorem JavaType.mem_imports_ofSchema_iff :
    needed ∈ (ofSchema schema).imports ↔
      needed = .list ∧ schema.type = some "array" ∨
        ∃ format, needed.StandsFor format ∧ schema.BearsFormat format := by
  unfold Schema.BearsFormat
  by_cases isArray : schema.type = some "array"
  · have notFormatted : ∀ format, ¬ schema.IsFormatted format := by
      rintro format ⟨string, _⟩
      rw [isArray] at string
      exact absurd string (by decide)
    rw [ofSchema_of_array isArray, mem_imports_listOf_iff, or_comm]
    simp only [isArray, and_true, notFormatted, true_and, false_or]
    refine or_congr Iff.rfl ?_
    cases hasItems : schema.items with
    | none => simp [item]
    | some items => simp [item_some, Schema.mem_imports_plainType_iff]
  · rw [ofSchema_of_not_array isArray, Schema.mem_imports_plainType_iff]
    simp [isArray]

end Types

/-! ## Imports of a class -/

namespace Dto

theorem mem_importsOf_iff {fields : List DtoField} {needed : Import} :
    needed ∈ importsOf fields ↔ ∃ field ∈ fields, needed ∈ field.type.imports := by
  have isImport : needed ∈ Import.all := by cases needed <;> decide
  simp only [importsOf, List.mem_filter, isImport, true_and, List.any_eq_true,
    List.contains_iff_mem]

theorem importsOf_sublist (fields : List DtoField) : (importsOf fields).Sublist Import.all := by
  unfold importsOf
  exact List.filter_sublist

theorem mem_imports_ofSchema_iff {name : String} {schema : Schema} {asResponse : Bool}
    {settings : Settings} {needed : Import} :
    needed ∈ (ofSchema name schema asResponse settings).imports ↔
      ∃ property ∈ schema.properties, needed ∈ (JavaType.ofSchema property.2).imports := by
  have imports : (ofSchema name schema asResponse settings).imports =
      importsOf (schema.properties.map field) := rfl
  rw [imports, mem_importsOf_iff]
  simp only [List.mem_map, exists_exists_and_eq_and, field]

theorem name_mem_imports_iff {name : String} {schema : Schema} {asResponse : Bool}
    {settings : Settings} {needed : String} :
    needed ∈ (ofSchema name schema asResponse settings).imports.map Import.name ↔
      schema.NeedsImport needed := by
  simp only [List.mem_map, mem_imports_ofSchema_iff, JavaType.mem_imports_ofSchema_iff]
  constructor
  · rintro ⟨_, ⟨property, isProperty, ⟨rfl, isArray⟩ | ⟨format, stands, bears⟩⟩, rfl⟩
    · exact .list isProperty isArray
    · cases stands with
      | date => exact .date isProperty bears
      | dateTime => exact .dateTime isProperty bears
  · intro needs
    cases needs with
    | @list property isProperty isArray =>
        exact ⟨.list, ⟨property, isProperty, .inl ⟨rfl, isArray⟩⟩, rfl⟩
    | @date property isProperty bears =>
        exact ⟨.localDate, ⟨property, isProperty, .inr ⟨_, .date, bears⟩⟩, rfl⟩
    | @dateTime property isProperty bears =>
        exact ⟨.localDateTime, ⟨property, isProperty, .inr ⟨_, .dateTime, bears⟩⟩, rfl⟩

end Dto

/-! ## Lines that import -/

namespace Source

/-- What a line starts with that imports a class of the platform. -/
def importFront : String := "import java."

/-- The line that imports a class. -/
def importLine (needed : String) : String :=
  "import " ++ needed ++ ";"

theorem startsWith_importLine (needed : Import) :
    Text.startsWith importFront (importLine needed.name) = true := by
  cases needed <;> decide

/-- A data class imports the classes that it is written with, and no others of the platform. -/
theorem DataClass.filter_lines_import (data : DataClass) :
    data.lines.filter (Text.startsWith importFront) =
      (data.imports.map importLine).filter (Text.startsWith importFront) := by
  have declarations : ∀ member : Member,
      member.declaration.filter (Text.startsWith importFront) = [] := by
    intro member
    unfold Member.declaration lineIf
    split <;> simp [importFront, Text.startsWith, String.append_assoc]
  have accessors : ∀ member : Member,
      (member.accessors data.className).filter (Text.startsWith importFront) = [] := by
    intro member
    simp [Member.accessors, importFront, Text.startsWith, String.append_assoc]
  have imports : (data.imports.map fun needed => "import " ++ needed ++ ";") =
      data.imports.map importLine := rfl
  unfold lines lineIf
  simp only [List.filter_append, imports, filter_flatMap_startsWith declarations,
    filter_flatMap_startsWith accessors]
  split <;> simp [importFront, Text.startsWith, String.append_assoc]

end Source

open Source

theorem Import.pairwise_importLine :
    Import.all.Pairwise fun first second => importLine first.name < importLine second.name := by
  decide

theorem Dto.filter_lines_import (dto : Dto) :
    dto.toDataClass.lines.filter (Text.startsWith importFront) =
      dto.imports.map fun needed => importLine needed.name := by
  have imports : dto.toDataClass.imports.map importLine =
      dto.imports.map fun needed => importLine needed.name :=
    List.map_map
  rw [DataClass.filter_lines_import, imports, List.filter_eq_self]
  intro line member
  obtain ⟨needed, _, rfl⟩ := List.mem_map.mp member
  exact startsWith_importLine needed

/-- A data class imports what its properties need and nothing else. In the source that is rendered,
the lines that import classes of the platform are those of these classes, in strictly increasing
order. -/
theorem imports_exact (name : String) (schema : Schema) (asResponse : Bool)
    (settings : Settings) :
    let dto := Dto.ofSchema name schema asResponse settings
    let rendered := dto.toDataClass.lines.filter (Text.startsWith importFront)
    (∀ needed, needed ∈ dto.imports.map Import.name ↔ schema.NeedsImport needed) ∧
      Template.render .dataClass dto.context = .ok (ofLines dto.toDataClass.lines) ∧
      rendered.Pairwise (· < ·) ∧
      ∀ line, line ∈ rendered ↔ ∃ needed, schema.NeedsImport needed ∧ line = importLine needed := by
  intro dto rendered
  have lines : rendered = dto.imports.map fun needed => importLine needed.name :=
    dto.filter_lines_import
  refine ⟨fun needed => Dto.name_mem_imports_iff, Template.render_dataClass dto, ?_, ?_⟩
  · have inOrder : dto.imports.Sublist Import.all := Dto.importsOf_sublist dto.fields
    rw [lines, List.pairwise_map]
    exact Import.pairwise_importLine.sublist inOrder
  · intro line
    rw [lines, List.mem_map]
    constructor
    · rintro ⟨needed, member, rfl⟩
      exact ⟨needed.name, Dto.name_mem_imports_iff.mp (List.mem_map_of_mem member), rfl⟩
    · rintro ⟨_, needs, rfl⟩
      obtain ⟨needed, member, rfl⟩ := List.mem_map.mp (Dto.name_mem_imports_iff.mpr needs)
      exact ⟨needed, member, rfl⟩

end OpenApiJava
