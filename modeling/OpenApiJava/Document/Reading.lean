import OpenApiJava.Document.Basic
import OpenApiJava.Document.Reference
import OpenApiJava.Graph.Reference

/-!
# Reading a document

From a specification to its document: references are replaced first, then the tree is checked.
-/

namespace OpenApiJava

/-- Why a tree is no document. -/
inductive DocumentFault where
  | reference (fault : ReferenceFault)
  /-- What stands in place of a reference has no text. -/
  | unprintableReference
  | issues (list : List Issue)
  /-- A section is there and is no mapping. -/
  | brokenSection (part : Section)
deriving Repr

/-- The fault of a document whose references are not replaced. -/
def DocumentFault.ofReplacement : ReplacementFault → DocumentFault
  | .reference fault => .reference fault
  | .notPrintable => .unprintableReference

/-- What is said about a tree whose parts do not fit. -/
def structureMessage : String := "spec does not match the expected structure"

namespace Document

/-- The document that a tree describes, with its issues as a fault. -/
def ofTree (tree : Tree) : Except DocumentFault Document :=
  match check tree with
  | .error part => .error (.brokenSection part)
  | .ok (.invalid issues) => .error (.issues issues)
  | .ok (.valid document) => .ok document

def read (specification : Entries) : Except DocumentFault Document :=
  match Reference.replaceAll specification with
  | .error fault => .error (.ofReplacement fault)
  | .ok entries => ofTree (.mapping entries)

/-- The document of a specification whose parts may be shared. -/
def readGraph (graph : Graph) : Except DocumentFault Document :=
  match graph.replaceAll with
  | .error fault => .error (.ofReplacement fault)
  | .ok replaced => ofTree replaced.tree

end Document

end OpenApiJava
