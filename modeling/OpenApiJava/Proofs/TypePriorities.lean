import OpenApiJava.Proofs.TypeReferences

/-!
# Priorities of types

What decides on the type of a schema. Main statement: of a schema that is no list, a number or a
truth value wins over a reference, a reference wins over everything else, and a format counts for a
text only.
-/

namespace OpenApiJava

namespace Schema

/-- The name of a type that wins over a reference. -/
def winningName? (schema : Schema) : Option String :=
  if schema.type = some "integer" then
    some (if schema.format = some "int64" then "Long" else "Integer")
  else if schema.type = some "number" then
    some (if schema.format = some "float" then "Float" else "Double")
  else if schema.type = some "boolean" then some "Boolean"
  else none

/-- The type of what is neither a number, a truth value, a list nor a reference. -/
def textType (schema : Schema) : JavaType :=
  if schema.type = some "string" ∧ schema.format = some "date" then
    ⟨"LocalDate", [.localDate]⟩
  else if schema.type = some "string" ∧ schema.format = some "date-time" then
    ⟨"LocalDateTime", [.localDateTime]⟩
  else ⟨"String", []⟩

/-- The type of a schema that is not looked at as a list. -/
def plainType (schema : Schema) : JavaType :=
  match schema.winningName?, schema.reference with
  | some name, _ => ⟨name, []⟩
  | none, some reference => ⟨referenceTypeName reference, []⟩
  | none, none => schema.textType

theorem winningName?_eq_none_iff {schema : Schema} :
    schema.winningName? = none ↔ ¬ TypeKind.WinsOverReference schema.type := by
  unfold winningName? TypeKind.WinsOverReference
  by_cases integer : schema.type = some "integer"
  · simp [integer]
  · by_cases number : schema.type = some "number"
    · simp [number]
    · by_cases boolean : schema.type = some "boolean"
      · simp [boolean]
      · simp [integer, number, boolean]

end Schema

namespace TypeKind

theorem ofSchema_eq_ofItem {schema : Schema} (noArray : schema.type ≠ some "array") :
    ofSchema schema = ofItem schema := by
  have noList : fits schema list = false := by simpa [fits] using noArray
  unfold ofSchema ofItem firstOf
  rw [List.find?_filter]
  congr 2
  funext kind
  by_cases isList : kind = list
  · rw [isList, noList]
    rfl
  · simp [isList]

theorem firstOf_cons (kind : TypeKind) (others : List TypeKind) (schema : Schema) :
    firstOf (kind :: others) schema =
      if fits schema kind then kind else firstOf others schema := by
  unfold firstOf
  rw [List.find?_cons]
  by_cases fitting : fits schema kind <;> simp [fitting]

end TypeKind

namespace JavaType

variable {schema : Schema}

theorem scalar_of_winningName? {name : String} (wins : schema.winningName? = some name) :
    scalar schema (TypeKind.ofItem schema) = ⟨name, []⟩ := by
  rw [TypeKind.ofItem_eq]
  simp only [TypeKind.firstOf_cons, TypeKind.fits]
  unfold Schema.winningName? at wins
  by_cases integer : schema.type = some "integer"
  · rw [if_pos integer] at wins
    cases wins
    by_cases long : schema.format = some "int64" <;>
      simp [integer, long, scalar, TypeKind.name, TypeKind.imports]
  · rw [if_neg integer] at wins
    by_cases number : schema.type = some "number"
    · rw [if_pos number] at wins
      cases wins
      by_cases float : schema.format = some "float" <;>
        simp [number, float, scalar, TypeKind.name, TypeKind.imports]
    · rw [if_neg number] at wins
      by_cases boolean : schema.type = some "boolean"
      · rw [if_pos boolean] at wins
        cases wins
        simp [boolean, scalar, TypeKind.name, TypeKind.imports]
      · rw [if_neg boolean] at wins
        cases wins

theorem scalar_of_reference {reference : String} (yields : schema.winningName? = none)
    (there : schema.reference = some reference) :
    scalar schema (TypeKind.ofItem schema) = ⟨referenceTypeName reference, []⟩ := by
  have noWin := Schema.winningName?_eq_none_iff.mp yields
  have isReference : TypeKind.ofItem schema = .reference :=
    TypeKind.ofItem_eq_reference_iff.mpr ⟨noWin, by rw [there]; rfl⟩
  rw [isReference, scalar_reference there]

theorem scalar_of_no_reference (yields : schema.winningName? = none)
    (absent : schema.reference = none) :
    scalar schema (TypeKind.ofItem schema) = schema.textType := by
  have noWin := Schema.winningName?_eq_none_iff.mp yields
  simp only [TypeKind.WinsOverReference, not_or] at noWin
  obtain ⟨noInteger, noNumber, noBoolean⟩ := noWin
  rw [TypeKind.ofItem_eq]
  simp only [TypeKind.firstOf_cons, TypeKind.fits]
  unfold Schema.textType
  by_cases string : schema.type = some "string"
  · by_cases date : schema.format = some "date"
    · simp [string, date, absent, scalar, TypeKind.name, TypeKind.imports]
    · by_cases dateTime : schema.format = some "date-time"
      · simp [string, dateTime, absent, scalar, TypeKind.name, TypeKind.imports]
      · simp [string, date, dateTime, absent, scalar, TypeKind.name, TypeKind.imports]
  · simp [string, noInteger, noNumber, noBoolean, absent, scalar, TypeKind.name, TypeKind.imports]

theorem scalar_ofItem (schema : Schema) :
    scalar schema (TypeKind.ofItem schema) = schema.plainType := by
  unfold Schema.plainType
  cases wins : schema.winningName? with
  | some name => exact scalar_of_winningName? wins
  | none =>
      cases there : schema.reference with
      | some reference => exact scalar_of_reference wins there
      | none => exact scalar_of_no_reference wins there

theorem ofSchema_of_not_array (noArray : schema.type ≠ some "array") :
    ofSchema schema = schema.plainType := by
  have noList : TypeKind.ofSchema schema ≠ .list :=
    fun isList => noArray (TypeKind.ofSchema_eq_list_iff.mp isList)
  rw [ofSchema_of_ne_list noList, TypeKind.ofSchema_eq_ofItem noArray, scalar_ofItem]

theorem ofSchema_of_array (isArray : schema.type = some "array") :
    ofSchema schema = listOf (item schema.items) :=
  ofSchema_of_list (TypeKind.ofSchema_eq_list_iff.mpr isArray)

theorem item_some (items : Schema) : item (some items) = items.plainType :=
  scalar_ofItem items

end JavaType

end OpenApiJava
