import OpenApiJava.FilePath

/-!
# Reports

A report lists the files that were written, by category and in order, and the files among them that
were new.
-/

namespace OpenApiJava

/-- The categories of files, in the order in which they are written. -/
inductive Category where
  | dtos
  | basePaths
  | services
  | relativeUrls
deriving DecidableEq, Repr

namespace Category

def name : Category → String
  | dtos => "DTOs"
  | basePaths => "BasePathURLs"
  | services => "services"
  | relativeUrls => "RelativeURLs"

/-- All categories in order. -/
def all : List Category := [dtos, basePaths, services, relativeUrls]

end Category

/-- What was written, by the names of categories, and what was new. -/
structure Report where
  written : List (String × List FilePath)
  created : List FilePath
deriving DecidableEq, Repr, Inhabited

namespace Report

/-- A report of nothing. -/
def empty : Report := ⟨[], []⟩

/-- The lists with one more path under a category; a category that is new comes last. -/
def addPath (category : String) (path : FilePath) :
    List (String × List FilePath) → List (String × List FilePath)
  | [] => [(category, [path])]
  | (name, paths) :: rest =>
      if name = category then (name, paths ++ [path]) :: rest
      else (name, paths) :: addPath category path rest

/-- The report with one more file. -/
def record (report : Report) (category : String) (path : FilePath) (isNew : Bool) : Report :=
  { written := addPath category path report.written
    created := if isNew then report.created ++ [path] else report.created }

/-- The files of a category. -/
def paths (report : Report) (category : String) : List FilePath :=
  (report.written.lookup category).getD []

/-- The number of files of a category. -/
def count (report : Report) (category : String) : Nat :=
  (report.paths category).length

/-- The numbers of files of all categories in words. -/
def summary (report : Report) : String :=
  let counts := Category.all.map fun category =>
    toString (report.count category.name) ++ " " ++ category.name
  String.intercalate ", " counts

end Report

end OpenApiJava
