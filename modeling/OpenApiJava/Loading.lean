import OpenApiJava.Specification

/-!
# Loading

A document is loaded from the specification at a source. Most faults are reported in words; the
others break the program off.
-/

namespace OpenApiJava

/-- A fault that has no words for the user. -/
inductive Crash where
  /-- A section is there and is no mapping. -/
  | brokenSection (part : Section)
  /-- A scalar has no value of the kind that its tag asks for. -/
  | value (fault : Yaml.ValueFault)
  /-- A text spells no address of the web. -/
  | invalidAddress
  /-- The charset of a page is a way to pack bytes. -/
  | packingCharset
  /-- The charset of a page is a way to change letters. -/
  | letteringCharset
  /-- What stands in place of a reference has no text. -/
  | unprintableReference
  /-- A path holds the null character. -/
  | nullInName
deriving DecidableEq, Repr

/-- What is said about a specification that is not there. -/
def SpecificationFault.report : SpecificationFault → Except Crash String
  | unreadable source problem path =>
      .ok ("could not read spec " ++ source ++ ": " ++ problem.message path)
  | unparsable source => .ok ("could not parse spec " ++ source)
  | unfetched source => .ok ("could not fetch spec from " ++ source)
  | notMapping source => .ok ("spec " ++ source ++ " is not a mapping at the top level")
  | invalidAddress => .error .invalidAddress
  | packingCharset => .error .packingCharset
  | letteringCharset => .error .letteringCharset
  | value fault => .error (.value fault)

/-- What is said about a specification that is no document. -/
def DocumentFault.report : DocumentFault → Except Crash String
  | reference fault => .ok fault.message
  | unprintableReference => .error .unprintableReference
  | issues _ => .ok structureMessage
  | brokenSection part => .error (.brokenSection part)

/-- Why no document is loaded. -/
inductive LoadFault where
  | specification (fault : SpecificationFault)
  | document (fault : DocumentFault)
deriving Repr

/-- What is said about a document that is not loaded. -/
def LoadFault.report : LoadFault → Except Crash String
  | specification fault => fault.report
  | document fault => fault.report

namespace Document

def ofSpecification : Specification → Except DocumentFault Document
  | .plain entries => read entries
  | .shared graph => readGraph graph

/-- The document in a specification that was looked for. -/
def ofReading (found : Except SpecificationFault Specification) : Except LoadFault Document :=
  match found with
  | .error fault => .error (.specification fault)
  | .ok specification =>
      match ofSpecification specification with
      | .error fault => .error (.document fault)
      | .ok document => .ok document

end Document

end OpenApiJava
