import OpenApiJava.Java.Comment
import OpenApiJava.Java.Identifier
import OpenApiJava.Java.Literal
import OpenApiJava.Settings
import OpenApiJava.Source.Lines
import OpenApiJava.UrlConstant

/-!
# The source of a class of constants

A class of constants has no instances and one public text for each constant.
-/

namespace OpenApiJava.Source

open OpenApiJava.Java

/-- What the source of a class of constants is written from. -/
structure ConstantsClass where
  packageName : String
  className : String
  constants : List UrlConstant
deriving DecidableEq, Repr, Inhabited

/-- A constant under the name given, with a blank line before it. -/
def constantLines (name : String) (constant : UrlConstant) : List String := [
  "",
  "    /** " ++ commentText constant.description ++ " */",
  "    public static final String " ++ name ++ " = \"" ++ literalBody constant.value ++ "\";"]

namespace ConstantsClass

/-- The lines of a class of constants with a headline and a rule for the names of constants. -/
def lines (headline : String) (naming : String → String) (table : ConstantsClass) :
    List String :=
  ["package " ++ table.packageName ++ ";",
    "",
    "/**",
    " * " ++ headline,
    " */",
    "public final class " ++ table.className ++ " \x7b",
    "",
    "    private " ++ table.className ++ "() \x7b",
    "    \x7d"] ++
    (table.constants.flatMap fun constant => constantLines (naming constant.name) constant) ++
    ["\x7d"]

/-- The source of the base paths; constants keep their names. -/
def basePathSource (table : ConstantsClass) : String :=
  ofLines (table.lines "Base paths of the API servers." id)

/-- The source of the relative URLs; constants are named by identifiers. -/
def relativeUrlSource (table : ConstantsClass) : String :=
  ofLines (table.lines "Relative URLs of the API paths." identifier)

end ConstantsClass

end OpenApiJava.Source

namespace OpenApiJava

def basePathsClass : String := "BasePathURLs"

def relativeUrlsClass : String := "RelativeURLs"

def basePathsSource (document : Document) (settings : Settings) : String :=
  Source.ConstantsClass.basePathSource
    ⟨settings.constantsPackage, basePathsClass, UrlConstant.ofServers document.servers⟩

def relativeUrlsSource (document : Document) (settings : Settings) : String :=
  Source.ConstantsClass.relativeUrlSource
    ⟨settings.constantsPackage, relativeUrlsClass, UrlConstant.ofPaths document.paths⟩

end OpenApiJava
