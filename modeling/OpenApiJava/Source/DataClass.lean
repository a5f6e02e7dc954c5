import OpenApiJava.Dto
import OpenApiJava.Java.Comment
import OpenApiJava.Java.Identifier
import OpenApiJava.Java.Literal
import OpenApiJava.Source.Lines
import OpenApiJava.Text.Case

/-!
# The source of a data class

A data class has one private field for each of its members, with a getter and a setter that returns
the object.
-/

namespace OpenApiJava.Source

open OpenApiJava.Java

structure Member where
  name : String
  baseName : String
  description : String
  typeName : String
deriving DecidableEq, Repr, Inhabited

/-- What the source of a data class is written from. A member without a description has no comment,
and a class without one is described by its name. -/
structure DataClass where
  packageName : String
  className : String
  description : String
  isResponse : Bool
  imports : List String
  members : List Member
deriving DecidableEq, Repr, Inhabited

namespace Member

def fieldName (member : Member) : String :=
  identifier member.name

/-- The name of the field after a verb. -/
def capitalName (member : Member) : String :=
  Text.onString Text.upperFirst member.fieldName

/-- The declaration of the field, with a blank line after it. -/
def declaration (member : Member) : List String :=
  lineIf (!member.description.isEmpty) ("    /** " ++ commentText member.description ++ " */") ++ [
    "    @JsonProperty(\"" ++ literalBody member.baseName ++ "\")",
    "    private " ++ member.typeName ++ " " ++ member.fieldName ++ ";",
    ""]

/-- The getter and the setter of the field in a class, each with a blank line before it. -/
def accessors (className : String) (member : Member) : List String := [
  "",
  "    public " ++ member.typeName ++ " get" ++ member.capitalName ++ "() \x7b",
  "        return " ++ member.fieldName ++ ";",
  "    \x7d",
  "",
  "    public " ++ className ++ " set" ++ member.capitalName ++ "(" ++ member.typeName ++ " " ++
    member.fieldName ++ ") \x7b",
  "        this." ++ member.fieldName ++ " = " ++ member.fieldName ++ ";",
  "        return this;",
  "    \x7d"]

end Member

namespace DataClass

/-- The text that describes the class. -/
def headline (data : DataClass) : String :=
  if data.description.isEmpty then data.className else data.description

def lines (data : DataClass) : List String :=
  ["package " ++ data.packageName ++ ";", ""] ++
    (data.imports.map fun needed => "import " ++ needed ++ ";") ++
    lineIf data.isResponse "import com.fasterxml.jackson.annotation.JsonIgnoreProperties;" ++ [
      "import com.fasterxml.jackson.annotation.JsonProperty;",
      "",
      "/**",
      " * " ++ commentText data.headline,
      " */"] ++
    lineIf data.isResponse "@JsonIgnoreProperties(ignoreUnknown = true)" ++
    ["public class " ++ data.className ++ " \x7b", ""] ++
    data.members.flatMap Member.declaration ++
    ["    public " ++ data.className ++ "() \x7b", "    \x7d"] ++
    data.members.flatMap (Member.accessors data.className) ++
    ["\x7d"]

def source (data : DataClass) : String :=
  ofLines data.lines

end DataClass

end OpenApiJava.Source

namespace OpenApiJava

/-- The member that a field becomes. -/
def DtoField.toMember (field : DtoField) : Source.Member :=
  { name := field.name
    baseName := field.baseName
    description := field.description.getD ""
    typeName := field.type.name }

/-- What the source of a data class is written from. -/
def Dto.toDataClass (dto : Dto) : Source.DataClass :=
  { packageName := dto.packageName
    className := dto.className
    description := dto.description.getD ""
    isResponse := dto.isResponse
    imports := dto.imports.map Import.name
    members := dto.fields.map DtoField.toMember }

def Dto.source (dto : Dto) : String :=
  dto.toDataClass.source

end OpenApiJava
