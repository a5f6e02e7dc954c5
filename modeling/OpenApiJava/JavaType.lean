import OpenApiJava.Document.Schema
import OpenApiJava.Notice
import OpenApiJava.Text.Basic

/-!
# Types of schemas

Every schema has a type, and the type may need imports. The kinds of types are tried in a fixed
order; a schema that fits none is a string. A list looks one level deep: its items are never lists.
-/

namespace OpenApiJava

/-- The kinds of types, in the order in which they are tried. -/
inductive TypeKind where
  | long
  | integer
  | float
  | double
  | boolean
  | list
  | reference
  | date
  | dateTime
  | string
deriving DecidableEq, Repr

/-- A class that a type needs. -/
inductive Import where
  | localDate
  | localDateTime
  | list
deriving DecidableEq, Repr

/-- All imports in the order of their names. -/
def Import.all : List Import := [.localDate, .localDateTime, .list]

def Import.name : Import → String
  | localDate => "java.time.LocalDate"
  | localDateTime => "java.time.LocalDateTime"
  | list => "java.util.List"

/-- The type of a schema with the imports it needs, in the order of their names. -/
structure JavaType where
  name : String
  imports : List Import
deriving DecidableEq, Repr, Inhabited

namespace TypeKind

def name : TypeKind → String
  | long => "Long"
  | integer => "Integer"
  | float => "Float"
  | double => "Double"
  | boolean => "Boolean"
  | list => "List"
  | reference => "Reference"
  | date => "LocalDate"
  | dateTime => "LocalDateTime"
  | string => "String"

/-- All kinds in the order in which they are tried. -/
def all : List TypeKind :=
  [long, integer, float, double, boolean, list, reference, date, dateTime, string]

/-- The schema is of this kind, as far as no earlier kind fits. -/
def fits (schema : Schema) : TypeKind → Bool
  | long => schema.type == some "integer" && schema.format == some "int64"
  | integer => schema.type == some "integer"
  | float => schema.type == some "number" && schema.format == some "float"
  | double => schema.type == some "number"
  | boolean => schema.type == some "boolean"
  | list => schema.type == some "array"
  | reference => schema.reference.isSome
  | date => schema.type == some "string" && schema.format == some "date"
  | dateTime => schema.type == some "string" && schema.format == some "date-time"
  | string => true

/-- The first kind of a list that fits. -/
def firstOf (kinds : List TypeKind) (schema : Schema) : TypeKind :=
  (kinds.find? (fits schema)).getD string

def ofSchema (schema : Schema) : TypeKind :=
  firstOf all schema

/-- The kind of a schema that is not looked at as a list. -/
def ofItem (schema : Schema) : TypeKind :=
  firstOf (all.filter (· != list)) schema

/-- The imports of a kind that stands for one class. -/
def imports : TypeKind → List Import
  | date => [.localDate]
  | dateTime => [.localDateTime]
  | _ => []

end TypeKind

/-- The schema name that a reference into the registry ends in. -/
def schemaName? (reference : String) : Option String :=
  if Text.startsWith schemaRegistry reference then
    some (String.ofList (reference.toList.drop schemaRegistry.length))
  else none

/-- The type that a reference stands for. -/
def referenceTypeName (reference : String) : String :=
  (schemaName? reference).getD objectType

/-- What is told when a reference is read as a type. -/
def referenceNotices (reference : String) : List Notice :=
  if (schemaName? reference).isSome then [] else [.foreignReference reference]

namespace JavaType

/-- The type of a schema of a kind that is no list. -/
def scalar (schema : Schema) (kind : TypeKind) : JavaType :=
  match kind, schema.reference with
  | .reference, some reference => ⟨referenceTypeName reference, []⟩
  | kind, _ => ⟨kind.name, kind.imports⟩

/-- The type of the items of a list. -/
def item : Option Schema → JavaType
  | none => ⟨objectType, []⟩
  | some schema => scalar schema (TypeKind.ofItem schema)

/-- The type of a list with items of a type. -/
def listOf (element : JavaType) : JavaType :=
  ⟨"List<" ++ element.name ++ ">", element.imports ++ [.list]⟩

def ofSchema (schema : Schema) : JavaType :=
  match TypeKind.ofSchema schema with
  | .list => listOf (item schema.items)
  | kind => scalar schema kind

/-- What is told when a schema of a kind that is no list is typed. -/
def scalarNotices (schema : Schema) (kind : TypeKind) : List Notice :=
  match kind, schema.reference with
  | .reference, some reference => referenceNotices reference
  | _, _ => []

/-- What is told when a schema is typed. -/
def notices (schema : Schema) : List Notice :=
  match TypeKind.ofSchema schema with
  | .list =>
      match schema.items with
      | none => []
      | some element => scalarNotices element (TypeKind.ofItem element)
  | kind => scalarNotices schema kind

end JavaType

end OpenApiJava
