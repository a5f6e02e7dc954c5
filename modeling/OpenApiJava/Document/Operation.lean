import OpenApiJava.Document.Schema

/-!
# Operations

What one method of one path does: its tags, its parameters and its request body.
-/

namespace OpenApiJava

structure Parameter where
  name : String
  location : Option String
  description : Option String
  required : Bool
deriving Repr, Inhabited

/-- One representation of a request body. -/
structure MediaType where
  schema : Option Schema
deriving Repr, Inhabited

/-- A request body with its representations by media type. -/
structure RequestBody where
  description : Option String
  content : List (String × MediaType)
deriving Repr, Inhabited

structure Operation where
  operationId : Option String
  summary : Option String
  description : Option String
  tags : List String
  parameters : List Parameter
  requestBody : Option RequestBody
deriving Repr, Inhabited

def Entries.requiredText (entries : Entries) (name : String) : Checked String :=
  match entries.find? name with
  | none => (Checked.fault .missing).under (.key name)
  | some tree => (checkPlainText tree).under (.key name)

/-- A field that may be left out or null. -/
def Entries.optional {α : Type} (entries : Entries) (name : String)
    (check : Tree → Checked α) : Checked (Option α) :=
  match entries.find? name with
  | none => .valid none
  | some .null => .valid none
  | some value => (some <$> check value).under (.key name)

/-- A list that may be left out; null and whatever is empty count as no items. A set counts as the
list of its items. -/
def Entries.listed {α : Type} (entries : Entries) (name : String)
    (check : Tree → Checked α) : Checked (List α) :=
  match entries.find? name with
  | none => .valid []
  | some tree =>
      match tree.items? with
      | some items => (Checked.eachFrom 0 check items).under (.key name)
      | none => if tree.isTruthy then (Checked.fault .notList).under (.key name) else .valid []

/-- The named values of a mapping with free keys. -/
def checkNamed {α : Type} (check : Tree → Checked α) :
    List (Tree × Tree) → Checked (List (String × α))
  | [] => .valid []
  | (key, value) :: rest =>
      consNamed <$> checkKey key <*> (check value).under (Step.ofKey key)
        <*> checkNamed check rest

/-- A mapping with free keys that may be left out. -/
def Entries.named {α : Type} (entries : Entries) (name : String)
    (check : Tree → Checked α) : Checked (List (String × α)) :=
  match entries.find? name with
  | none => .valid []
  | some (.mapping members) => (checkNamed check members).under (.key name)
  | some _ => (Checked.fault .notMapping).under (.key name)

/-- The parameter that a tree describes. -/
def Parameter.check : Tree → Checked Parameter
  | .mapping entries =>
      Parameter.mk <$> Entries.requiredText entries "name"
        <*> Entries.optionalText entries (Entries.spelling entries "in" "location")
        <*> Entries.optionalText entries "description"
        <*> pure (((Entries.find? "required" entries).map Tree.isTruthy).getD false)
  | _ => .fault .notRecord

/-- The representation that a tree describes. -/
def MediaType.check : Tree → Checked MediaType
  | .mapping entries =>
      MediaType.mk <$>
        Entries.optional entries (Entries.spelling entries "schema" "schema_node") Schema.check
  | _ => .fault .notRecord

/-- The request body that a tree describes. -/
def RequestBody.check : Tree → Checked RequestBody
  | .mapping entries =>
      RequestBody.mk <$> Entries.optionalText entries "description"
        <*> Entries.named entries "content" MediaType.check
  | _ => .fault .notRecord

/-- The operation that a tree describes. -/
def Operation.check : Tree → Checked Operation
  | .mapping entries =>
      Operation.mk
        <$> Entries.optionalText entries (Entries.spelling entries "operationId" "operation_id")
        <*> Entries.optionalText entries "summary"
        <*> Entries.optionalText entries "description"
        <*> Entries.listed entries "tags" checkPlainText
        <*> Entries.listed entries "parameters" Parameter.check
        <*> Entries.optional entries (Entries.spelling entries "requestBody" "request_body")
          RequestBody.check
  | _ => .fault .notRecord

end OpenApiJava
