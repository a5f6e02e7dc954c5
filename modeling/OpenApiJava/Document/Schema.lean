import OpenApiJava.Document.Issue

/-!
# Schemas

A schema describes a scalar, a list, a record, or refers to another schema. Only what the generator
reads is kept; other fields are ignored. A reference may be written under either of two names.
-/

namespace OpenApiJava

structure Schema where
  type : Option String
  format : Option String
  reference : Option String
  items : Option Schema
  properties : List (String × Schema)
  description : Option String
deriving Repr, Inhabited

/-- A text and nothing else. Bytes that encode a text count as that text. -/
def checkPlainText (tree : Tree) : Checked String :=
  match tree.asText?, tree with
  | some value, _ => .valid value
  | none, .binary _ => .fault .notEncoded
  | none, _ => .fault .notText

/-- A text or nothing; an absent field and null are nothing. -/
def checkText : Option Tree → Checked (Option String)
  | none => .valid none
  | some .null => .valid none
  | some tree => some <$> checkPlainText tree

/-- A text that may be left out, at its field. -/
def Entries.optionalText (entries : Entries) (name : String) : Checked (Option String) :=
  (checkText (entries.find? name)).under (.key name)

/-- The name under which a field with two names is read: the first one if it is there at all. -/
def Entries.spelling (entries : Entries) (first second : String) : String :=
  if entries.has first then first else second

/-- A key of a mapping with free keys. -/
def checkKey (key : Tree) : Checked String :=
  ((checkPlainText key).under (.key "[key]")).under (Step.ofKey key)

/-- One more named value in front. A name that comes again keeps its place and takes the later
value. -/
def consNamed {α : Type} (name : String) (value : α) (others : List (String × α)) :
    List (String × α) :=
  match others.lookup name with
  | some later => (name, later) :: others.filter (·.1 != name)
  | none => (name, value) :: others

namespace Schema

/-- The type that a field names. Of a list of types the first one counts that is not `null`. -/
def typeOf : Option Tree → Option Tree
  | some (.list types) => types.find? fun type =>
      match type with
      | .text name => name != "null"
      | _ => true
  | other => other

mutual

/-- The schema that a tree describes. -/
def check : Tree → Checked Schema
  | .mapping entries =>
      Schema.mk <$> (checkText (typeOf (Entries.find? "type" entries))).under (.key "type")
        <*> Entries.optionalText entries "format"
        <*> Entries.optionalText entries (Entries.spelling entries "$ref" "reference")
        <*> checkItems entries
        <*> checkProperties entries
        <*> Entries.optionalText entries "description"
  | _ => .fault .notRecord

/-- The schema of the items among the fields of a schema. A list of schemas counts as none. -/
def checkItems : List (Tree × Tree) → Checked (Option Schema)
  | [] => .valid none
  | (.text name, value) :: rest =>
      if name = "items" then
        match value with
        | .null => .valid none
        | .list _ => .valid none
        | other => (some <$> check other).under (.key "items")
      else checkItems rest
  | _ :: rest => checkItems rest

/-- The properties among the fields of a schema. Null and whatever is empty count as none. -/
def checkProperties : List (Tree × Tree) → Checked (List (String × Schema))
  | [] => .valid []
  | (.text name, value) :: rest =>
      if name = "properties" then
        match value with
        | .mapping entries => (checkEach entries).under (.key "properties")
        | other =>
            if other.isTruthy then (Checked.fault .notMapping).under (.key "properties")
            else .valid []
      else checkProperties rest
  | _ :: rest => checkProperties rest

/-- The named schemas of a mapping. -/
def checkEach : List (Tree × Tree) → Checked (List (String × Schema))
  | [] => .valid []
  | (key, value) :: rest =>
      consNamed <$> checkKey key <*> (check value).under (Step.ofKey key)
        <*> checkEach rest

end

end Schema

end OpenApiJava
