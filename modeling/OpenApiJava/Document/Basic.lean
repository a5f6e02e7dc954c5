import OpenApiJava.Document.PathItem

/-!
# Documents

The part of a specification that the generator reads. A tree describes a document in one of two
ways: with the sections of a specification, whose parts are lifted out first, or, if it has schemas
at the top, with the fields of the document itself.
-/

namespace OpenApiJava

/-- A server that answers the operations. -/
structure Server where
  url : String
  description : Option String
deriving DecidableEq, Repr, Inhabited

/-- A specification as the generator sees it. -/
structure Document where
  title : Option String
  version : Option String
  schemas : List (String × Schema)
  paths : List (String × PathItem)
  servers : List Server
deriving Inhabited

/-- A section of a specification that parts are lifted out of. -/
inductive Section where
  | info
  | components
deriving DecidableEq, Repr

def Section.name : Section → String
  | info => "info"
  | components => "components"

/-- The server that a tree describes. -/
def Server.check : Tree → Checked Server
  | .mapping entries =>
      Server.mk <$> Entries.requiredText entries "url"
        <*> Entries.optionalText entries "description"
  | _ => .fault .notRecord

namespace Document

/-- The entries of a section. What is null or empty counts as no entries; anything else that is no
mapping has none to give. -/
def sectionEntries (entries : Entries) (part : Section) : Except Section Entries :=
  match entries.find? part.name with
  | none => .ok []
  | some (.mapping members) => .ok members
  | some other => if other.isTruthy then .error part else .ok []

/-- A part that counts as the given one if it is absent, null or empty. -/
def orElse (found : Option Tree) (fallback : Tree) : Tree :=
  match found with
  | some tree => if tree.isTruthy then tree else fallback
  | none => fallback

/-- The text that a version counts as. -/
def versionTree : Option Tree → Tree
  | none => .null
  | some .null => .null
  | some tree => .text tree.display

/-- The version that is lifted has a text, if there is one. -/
def hasPrintableVersion (entries : Entries) : Bool :=
  match entries.has "schemas", sectionEntries entries .info with
  | false, .ok info => ((info.find? "version").map Tree.isPrintable).getD true
  | _, _ => true

/-- The fields of a document, lifted out of the sections of a specification. -/
def lift (entries : Entries) : Except Section Entries :=
  if entries.has "schemas" then .ok entries
  else do
    let info ← sectionEntries entries .info
    let components ← sectionEntries entries .components
    return [
      (.text "title", (info.find? "title").getD .null),
      (.text "version", versionTree (info.find? "version")),
      (.text "schemas", orElse (components.find? "schemas") (.mapping [])),
      (.text "paths", orElse (entries.find? "paths") (.mapping [])),
      (.text "servers", orElse (entries.find? "servers") (.list []))]

/-- The servers; unlike other lists they may not be null. -/
def checkServers (entries : Entries) : Checked (List Server) :=
  match (entries.find? "servers").map Tree.items? with
  | none => .valid []
  | some (some items) => (Checked.eachFrom 0 Server.check items).under (.key "servers")
  | some none => (Checked.fault .notList).under (.key "servers")

/-- The document that its own fields describe. -/
def checkFields (entries : Entries) : Checked Document :=
  Document.mk <$> entries.optionalText "title"
    <*> entries.optionalText "version"
    <*> entries.named "schemas" Schema.check
    <*> entries.named "paths" PathItem.check
    <*> checkServers entries

/-- The document that a tree describes. -/
def check : Tree → Except Section (Checked Document)
  | .mapping entries =>
      if hasPrintableVersion entries then return checkFields (← lift entries)
      else return .fault .notPrintable
  | _ => return .fault .notRecord

end Document

end OpenApiJava
