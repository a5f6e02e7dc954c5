import OpenApiJava.Proofs.DistinctNames
import OpenApiJava.Proofs.SchemaFields
import OpenApiJava.Source.Context

/-!
# Normal forms of documents

A document can be written out by the names of its fields, with null for what is absent. Main
statement: the check of a document accepts what is written out from a document that it has accepted,
and yields that document again.
-/

namespace OpenApiJava

variable {α : Type}

/-! ## Trees of field names -/

/-- The tree of a value, or null if there is none. -/
def Tree.ofOption (form : α → Tree) : Option α → Tree
  | some value => form value
  | none => .null

/-- The mapping of named values, in their order. -/
def Tree.ofNamed (form : α → Tree) (named : List (String × α)) : Tree :=
  .mapping (named.map fun entry => (.text entry.1, form entry.2))

mutual

/-- The schema by the names of its fields. -/
def Schema.normalForm : Schema → Tree
  | ⟨type, format, reference, items, properties, description⟩ =>
      .mapping [
        (.text "type", .ofText? type),
        (.text "format", .ofText? format),
        (.text "reference", .ofText? reference),
        (.text "items", Schema.itemsForm items),
        (.text "properties", .mapping (Schema.propertiesForm properties)),
        (.text "description", .ofText? description)]

def Schema.itemsForm : Option Schema → Tree
  | some items => Schema.normalForm items
  | none => .null

def Schema.propertiesForm : List (String × Schema) → Entries
  | [] => []
  | (name, property) :: rest =>
      (.text name, Schema.normalForm property) :: Schema.propertiesForm rest

end

/-- The fields of a schema by their names. -/
def Schema.fields (schema : Schema) : Entries :=
  [(.text "type", .ofText? schema.type),
    (.text "format", .ofText? schema.format),
    (.text "reference", .ofText? schema.reference),
    (.text "items", .ofOption normalForm schema.items),
    (.text "properties", .ofNamed normalForm schema.properties),
    (.text "description", .ofText? schema.description)]

/-- The fields of a parameter by their names. -/
def Parameter.fields (parameter : Parameter) : Entries :=
  [(.text "name", .text parameter.name),
    (.text "location", .ofText? parameter.location),
    (.text "description", .ofText? parameter.description),
    (.text "required", .boolean parameter.required)]

def Parameter.normalForm (parameter : Parameter) : Tree :=
  .mapping parameter.fields

/-- The field of a representation by its name. -/
def MediaType.fields (media : MediaType) : Entries :=
  [(.text "schema_node", .ofOption Schema.normalForm media.schema)]

def MediaType.normalForm (media : MediaType) : Tree :=
  .mapping media.fields

/-- The fields of a request body by their names. -/
def RequestBody.fields (body : RequestBody) : Entries :=
  [(.text "description", .ofText? body.description),
    (.text "content", .ofNamed MediaType.normalForm body.content)]

def RequestBody.normalForm (body : RequestBody) : Tree :=
  .mapping body.fields

/-- The fields of an operation by their names. -/
def Operation.fields (operation : Operation) : Entries :=
  [(.text "operation_id", .ofText? operation.operationId),
    (.text "summary", .ofText? operation.summary),
    (.text "description", .ofText? operation.description),
    (.text "tags", .list (operation.tags.map .text)),
    (.text "parameters", .list (operation.parameters.map Parameter.normalForm)),
    (.text "request_body", .ofOption RequestBody.normalForm operation.requestBody)]

def Operation.normalForm (operation : Operation) : Tree :=
  .mapping operation.fields

/-- The operations of a path item by their methods, and its extra entries. -/
def PathItem.fields (item : PathItem) : Entries :=
  (.text "get", .ofOption Operation.normalForm item.get) ::
    (.text "post", .ofOption Operation.normalForm item.post) ::
    (.text "put", .ofOption Operation.normalForm item.put) ::
    (.text "delete", .ofOption Operation.normalForm item.delete) ::
    item.extras.map fun entry => (.text entry.1, entry.2)

def PathItem.normalForm (item : PathItem) : Tree :=
  .mapping item.fields

/-- The fields of a server by their names. -/
def Server.fields (server : Server) : Entries :=
  [(.text "url", .text server.url),
    (.text "description", .ofText? server.description)]

def Server.normalForm (server : Server) : Tree :=
  .mapping server.fields

/-- The fields of a document by their names. -/
def Document.fields (document : Document) : Entries :=
  [(.text "title", .ofText? document.title),
    (.text "version", .ofText? document.version),
    (.text "schemas", .ofNamed Schema.normalForm document.schemas),
    (.text "paths", .ofNamed PathItem.normalForm document.paths),
    (.text "servers", .list (document.servers.map Server.normalForm))]

/-- The tree that writes a document out by the names of its fields. -/
def Document.normalForm (document : Document) : Tree :=
  .mapping document.fields

namespace Schema

theorem itemsForm_eq (items : Option Schema) : itemsForm items = .ofOption normalForm items := by
  cases items <;> rfl

theorem propertiesForm_eq (properties : List (String × Schema)) :
    .mapping (propertiesForm properties) = Tree.ofNamed normalForm properties := by
  unfold Tree.ofNamed
  congr 1
  induction properties with
  | nil => rfl
  | cons property rest inductionHypothesis =>
      obtain ⟨name, schema⟩ := property
      rw [propertiesForm, inductionHypothesis, List.map_cons]

theorem normalForm_eq (schema : Schema) : schema.normalForm = .mapping schema.fields := by
  cases schema
  rw [normalForm, itemsForm_eq, propertiesForm_eq, fields]

end Schema

/-! ## Fields -/

/-- What the check makes of the tree, it makes of its form again. -/
def Returns (check : Tree → Checked α) (form : α → Tree) (tree : Tree) : Prop :=
  ∀ value, check tree = .valid value → check (form value) = .valid value

section Fields

variable {entries other : Entries} {name field : String} {check : Tree → Checked α}
  {form : α → Tree}

theorem checkText_ofText? (text : Option String) :
    checkText (some (.ofText? text)) = .valid text := by
  cases text <;> rfl

theorem Entries.optionalText_form {text : Option String}
    (found : other.find? field = some (.ofText? text)) :
    other.optionalText field = .valid text := by
  rw [optionalText, found, checkText_ofText?]
  rfl

theorem Entries.requiredText_form {text : String} (found : other.find? field = some (.text text)) :
    other.requiredText field = .valid text := by
  rw [requiredText, found]
  rfl

theorem Entries.optional_of_find? {tree : Tree} (notNull : tree ≠ .null)
    (found : entries.find? name = some tree) :
    entries.optional name check = (some <$> check tree).under (.key name) := by
  unfold optional
  split
  · rename_i isAbsent
    cases found.symm.trans isAbsent
  · rename_i isNull
    exact absurd (Option.some.inj (found.symm.trans isNull)) notNull
  · rename_i other _ isFound
    rw [Option.some.inj (found.symm.trans isFound)]

/-- A form that is null would be read as an absent value. -/
theorem Entries.optional_form {value : Option α} (notNull : ∀ value, form value ≠ .null)
    (returns : ∀ tree, Returns check form tree) (valid : entries.optional name check = .valid value)
    (found : other.find? field = some (.ofOption form value)) :
    other.optional field check = .valid value := by
  cases value with
  | none =>
      rw [optional, found]
      rfl
  | some value =>
      have isChecked : ∃ tree, check tree = .valid value := by
        unfold optional at valid
        split at valid
        · cases valid
        · cases valid
        · rename_i tree _ _
          rw [Checked.under_eq_valid, Checked.map_eq_valid] at valid
          obtain ⟨_, valid, same⟩ := valid
          cases same
          exact ⟨tree, valid⟩
      obtain ⟨tree, valid⟩ := isChecked
      rw [optional_of_find? (notNull value) found, returns tree value valid]
      rfl

theorem Checked.eachFrom_form (returns : ∀ tree, Returns check form tree) {items : List Tree}
    {values : List α} {first position : Nat} (valid : eachFrom first check items = .valid values) :
    eachFrom position check (values.map form) = .valid values := by
  induction items generalizing values first position with
  | nil =>
      cases valid
      rfl
  | cons item rest inductionHypothesis =>
      simp only [eachFrom, seq_eq_valid, map_eq_valid, under_eq_valid] at valid
      obtain ⟨_, others, ⟨value, itemValid, rfl⟩, restValid, rfl⟩ := valid
      have again := returns item value itemValid
      have othersAgain : eachFrom (position + 1) check (others.map form) = .valid others :=
        inductionHypothesis restValid
      rw [List.map_cons, eachFrom, again, othersAgain]
      rfl

theorem Entries.listed_form {values : List α} (returns : ∀ tree, Returns check form tree)
    (valid : entries.listed name check = .valid values)
    (found : other.find? field = some (.list (values.map form))) :
    other.listed field check = .valid values := by
  have isChecked : ∃ first items, Checked.eachFrom first check items = .valid values := by
    unfold listed at valid
    split at valid
    · cases valid
      exact ⟨0, [], rfl⟩
    · split at valid
      · rename_i items _
        exact ⟨0, items, Checked.under_eq_valid.mp valid⟩
      · split at valid
        · cases valid
        · cases valid
          exact ⟨0, [], rfl⟩
  obtain ⟨first, items, valid⟩ := isChecked
  rw [listed, found]
  exact Checked.under_eq_valid.mpr (Checked.eachFrom_form returns valid)

/-- Of names that differ, none is put together with another. -/
theorem checkNamed_form_of_nodup {named : List (String × α)}
    (different : (named.map Prod.fst).Nodup)
    (again : ∀ entry ∈ named, check (form entry.2) = .valid entry.2) :
    checkNamed check (named.map fun entry => (.text entry.1, form entry.2)) = .valid named := by
  induction named with
  | nil => rfl
  | cons entry rest inductionHypothesis =>
      obtain ⟨name, value⟩ := entry
      obtain ⟨notLater, restDifferent⟩ := List.nodup_cons.mp different
      have restAgain := inductionHypothesis restDifferent fun entry inRest =>
        again entry (List.mem_cons_of_mem _ inRest)
      -- A name that came again would take the later value along to the front.
      have isFirst : consNamed name value rest = (name, value) :: rest := by
        have absent : rest.lookup name = none := by
          refine List.lookup_eq_none_iff.mpr fun entry inRest => ?_
          have isName := List.mem_map_of_mem (f := Prod.fst) inRest
          simpa using fun same : name = entry.1 => notLater (same ▸ isName)
        rw [consNamed, absent]
      rw [List.map_cons, checkNamed_cons_eq_valid_iff]
      exact ⟨name, value, rest, rfl, again _ List.mem_cons_self, restAgain, isFirst⟩

theorem checkNamed_form {members : List (Tree × Tree)} {named : List (String × α)}
    (returns : ∀ member ∈ members, Returns check form member.2)
    (valid : checkNamed check members = .valid named) :
    checkNamed check (named.map fun entry => (.text entry.1, form entry.2)) = .valid named := by
  refine checkNamed_form_of_nodup (nodup_of_checkNamed valid) fun entry isEntry => ?_
  obtain ⟨front, member, back, rfl, _, isValue, _⟩ := last_of_mem_checkNamed valid isEntry
  exact returns member (List.mem_append_right front List.mem_cons_self) entry.2 isValue

theorem Entries.named_form {named : List (String × α)} (returns : ∀ tree, Returns check form tree)
    (valid : entries.named name check = .valid named)
    (found : other.find? field = some (.ofNamed form named)) :
    other.named field check = .valid named := by
  have isChecked : ∃ members, checkNamed check members = .valid named := by
    unfold Entries.named at valid
    split at valid
    · cases valid
      exact ⟨[], rfl⟩
    · rename_i members _
      exact ⟨members, Checked.under_eq_valid.mp valid⟩
    · cases valid
  obtain ⟨members, valid⟩ := isChecked
  rw [Entries.named, found]
  exact Checked.under_eq_valid.mpr (checkNamed_form (fun member _ => returns member.2) valid)

end Fields

/-! ## Records -/

theorem Schema.normalForm_ne_null (schema : Schema) : schema.normalForm ≠ .null := by
  rw [normalForm_eq]
  exact nofun

theorem Schema.typeOf_ofText? (text : Option String) :
    typeOf (some (.ofText? text)) = some (.ofText? text) := by
  cases text <;> rfl

theorem Schema.check_of_checkItemsFound {found : Option Tree} {items : Schema}
    (valid : checkItemsFound found = .valid (some items)) :
    ∃ tree, found = some tree ∧ check tree = .valid items := by
  have isChecked {tree : Tree}
      (valid : (some <$> check tree).under (.key "items") = .valid (some items)) :
      check tree = .valid items := by
    rw [Checked.under_eq_valid, Checked.map_eq_valid] at valid
    obtain ⟨_, valid, same⟩ := valid
    cases same
    exact valid
  cases found with
  | none => cases valid
  | some tree =>
      cases tree with
      | null => cases valid
      | list _ => cases valid
      | _ => exact ⟨_, rfl, isChecked valid⟩

theorem Schema.checkItemsFound_form {found : Option Tree} {items : Option Schema}
    (returns : ∀ tree, found = some tree → Returns check normalForm tree)
    (valid : checkItemsFound found = .valid items) :
    checkItemsFound (some (.ofOption normalForm items)) = .valid items := by
  cases items with
  | none => rfl
  | some items =>
      obtain ⟨tree, isFound, valid⟩ := check_of_checkItemsFound valid
      have again := returns tree isFound items valid
      rw [normalForm_eq] at again
      calc checkItemsFound (some (.ofOption normalForm (some items)))
        _ = checkItemsFound (some (.mapping items.fields)) := by rw [Tree.ofOption, normalForm_eq]
        _ = (some <$> check (.mapping items.fields)).under (.key "items") := rfl
        _ = .valid (some items) := by rw [again]; rfl

theorem Schema.checkPropertiesFound_form {found : Option Tree}
    {properties : List (String × Schema)}
    (returns : ∀ members, found = some (.mapping members) →
      ∀ member ∈ members, Returns check normalForm member.2)
    (valid : checkPropertiesFound found = .valid properties) :
    checkPropertiesFound (some (.ofNamed normalForm properties)) = .valid properties := by
  unfold checkPropertiesFound at valid
  split at valid
  · cases valid
    rfl
  · rename_i members
    rw [Checked.under_eq_valid] at valid
    exact Checked.under_eq_valid.mpr (checkNamed_form (returns members rfl) valid)
  · split at valid
    · cases valid
    · cases valid
      rfl

theorem Schema.returns (tree : Tree) : Returns check normalForm tree := by
  induction tree using induction_on_tree with
  | mapping entries returnsItems returnsProperties =>
      intro schema valid
      simp only [check_fields, Checked.seq_eq_valid, Checked.map_eq_valid] at valid
      obtain ⟨_, description, ⟨_, properties, ⟨_, items, ⟨_, reference, ⟨_, format,
        ⟨type, _, rfl⟩, _, rfl⟩, _, rfl⟩, itemsValid, rfl⟩, propertiesValid, rfl⟩, _, rfl⟩ := valid
      let schema : Schema := ⟨type, format, reference, items, properties, description⟩
      have typeAgain :
          (checkText (typeOf (schema.fields.find? "type"))).under (.key "type") = .valid type := by
        have isType : schema.fields.find? "type" = some (.ofText? type) := rfl
        rw [isType, typeOf_ofText?, checkText_ofText?]
        rfl
      have formatAgain : schema.fields.optionalText "format" = .valid format :=
        Entries.optionalText_form rfl
      have referenceAgain :
          schema.fields.optionalText (schema.fields.spelling "$ref" "reference") =
            .valid reference :=
        Entries.optionalText_form rfl
      have itemsAgain : checkItemsFound (schema.fields.find? "items") = .valid items :=
        checkItemsFound_form returnsItems itemsValid
      have propertiesAgain :
          checkPropertiesFound (schema.fields.find? "properties") = .valid properties :=
        checkPropertiesFound_form returnsProperties propertiesValid
      have descriptionAgain : schema.fields.optionalText "description" = .valid description :=
        Entries.optionalText_form rfl
      rw [normalForm_eq, check_fields, typeAgain, formatAgain, referenceAgain, itemsAgain,
        propertiesAgain, descriptionAgain]
      rfl
  | other tree notMapping =>
      intro schema valid
      rw [check_of_not_mapping notMapping] at valid
      cases valid

theorem Parameter.check_normalForm (parameter : Parameter) :
    check parameter.normalForm = .valid parameter := by
  have name : parameter.fields.requiredText "name" = .valid parameter.name :=
    Entries.requiredText_form rfl
  have location : parameter.fields.optionalText (parameter.fields.spelling "in" "location") =
      .valid parameter.location :=
    Entries.optionalText_form rfl
  have description : parameter.fields.optionalText "description" = .valid parameter.description :=
    Entries.optionalText_form rfl
  rw [normalForm, check, name, location, description]
  rfl

theorem MediaType.returns (tree : Tree) : Returns check normalForm tree := by
  intro media valid
  cases tree with
  | mapping entries =>
      simp only [check, Checked.map_eq_valid] at valid
      obtain ⟨schema, schemaValid, rfl⟩ := valid
      let media : MediaType := ⟨schema⟩
      have schemaAgain :
          media.fields.optional (media.fields.spelling "schema" "schema_node") Schema.check =
            .valid schema :=
        Entries.optional_form Schema.normalForm_ne_null Schema.returns schemaValid rfl
      rw [normalForm, check, schemaAgain]
      rfl
  | _ => cases valid

theorem RequestBody.returns (tree : Tree) : Returns check normalForm tree := by
  intro body valid
  cases tree with
  | mapping entries =>
      simp only [check, Checked.seq_eq_valid, Checked.map_eq_valid] at valid
      obtain ⟨_, content, ⟨description, _, rfl⟩, contentValid, rfl⟩ := valid
      let body : RequestBody := ⟨description, content⟩
      have descriptionAgain : body.fields.optionalText "description" = .valid description :=
        Entries.optionalText_form rfl
      have contentAgain : body.fields.named "content" MediaType.check = .valid content :=
        Entries.named_form MediaType.returns contentValid rfl
      rw [normalForm, check, descriptionAgain, contentAgain]
      rfl
  | _ => cases valid

theorem RequestBody.normalForm_ne_null (body : RequestBody) : body.normalForm ≠ .null :=
  nofun

theorem Operation.returns (tree : Tree) : Returns check normalForm tree := by
  intro operation valid
  cases tree with
  | mapping entries =>
      simp only [check, Checked.seq_eq_valid, Checked.map_eq_valid] at valid
      obtain ⟨_, requestBody, ⟨_, parameters, ⟨_, tags, ⟨_, description, ⟨_, summary,
        ⟨operationId, _, rfl⟩, _, rfl⟩, _, rfl⟩, tagsValid, rfl⟩, parametersValid, rfl⟩,
        requestBodyValid, rfl⟩ := valid
      let operation : Operation :=
        ⟨operationId, summary, description, tags, parameters, requestBody⟩
      have operationIdAgain :
          operation.fields.optionalText (operation.fields.spelling "operationId" "operation_id") =
            .valid operationId :=
        Entries.optionalText_form rfl
      have summaryAgain : operation.fields.optionalText "summary" = .valid summary :=
        Entries.optionalText_form rfl
      have descriptionAgain :
          operation.fields.optionalText "description" = .valid description :=
        Entries.optionalText_form rfl
      have tagsAgain : operation.fields.listed "tags" checkPlainText = .valid tags :=
        Entries.listed_form (fun _ tag _ => rfl) tagsValid rfl
      have parametersAgain :
          operation.fields.listed "parameters" Parameter.check = .valid parameters :=
        Entries.listed_form (fun _ parameter _ => parameter.check_normalForm) parametersValid rfl
      have requestBodyAgain :
          operation.fields.optional (operation.fields.spelling "requestBody" "request_body")
            RequestBody.check = .valid requestBody :=
        Entries.optional_form RequestBody.normalForm_ne_null RequestBody.returns requestBodyValid
          rfl
      rw [normalForm, check, operationIdAgain, summaryAgain, descriptionAgain, tagsAgain,
        parametersAgain, requestBodyAgain]
      rfl
  | _ => cases valid

theorem Operation.normalForm_ne_null (operation : Operation) : operation.normalForm ≠ .null :=
  nofun

namespace PathItem

theorem checkMethod_form {entries other : Entries} {method : HttpMethod}
    {operation : Option Operation} (valid : checkMethod entries method = .valid operation)
    (found : other.find? method.key = some (.ofOption Operation.normalForm operation)) :
    checkMethod other method = .valid operation :=
  Entries.optional_form Operation.normalForm_ne_null Operation.returns valid found

/-- The extras are the entries of all keys but those of the four methods. -/
theorem mem_extras_iff {entries : Entries} {extras : List (String × Tree)}
    (valid : checkExtras entries = .valid extras) {key : String} {value : Tree} :
    (key, value) ∈ extras ↔ (.text key, value) ∈ entries ∧ isMethodKey key = false := by
  fun_induction checkExtras entries generalizing extras with
  | case1 =>
      cases valid
      simp
  | case2 name other rest isMethod inductionHypothesis =>
      rw [inductionHypothesis valid, List.mem_cons]
      constructor
      · rintro ⟨member, noMethod⟩
        exact ⟨Or.inr member, noMethod⟩
      · rintro ⟨same | member, noMethod⟩
        · cases same
          rw [isMethod] at noMethod
          cases noMethod
        · exact ⟨member, noMethod⟩
  | case3 name other rest noMethod inductionHypothesis =>
      obtain ⟨others, restValid, rfl⟩ := Checked.map_eq_valid.mp valid
      rw [List.mem_cons, List.mem_cons, inductionHypothesis restValid]
      constructor
      · rintro (same | ⟨member, isOther⟩)
        · cases same
          exact ⟨Or.inl rfl, Bool.eq_false_iff.mpr noMethod⟩
        · exact ⟨Or.inr member, isOther⟩
      · rintro ⟨same | member, isOther⟩
        · cases same
          exact Or.inl rfl
        · exact Or.inr ⟨member, isOther⟩
  | case4 name other rest notText inductionHypothesis =>
      simp only [Checked.seq_eq_valid, Checked.map_eq_valid, Checked.under_eq_valid] at valid
      obtain ⟨_, _, ⟨_, isFault, _⟩, _⟩ := valid
      cases isFault

theorem isMethodKey_of_checkExtras {entries : Entries} {extras : List (String × Tree)}
    (valid : checkExtras entries = .valid extras) :
    ∀ entry ∈ extras, isMethodKey entry.1 = false :=
  fun _ member => ((mem_extras_iff valid).mp member).2

theorem checkExtras_of_no_method {extras : List (String × Tree)}
    (noMethod : ∀ entry ∈ extras, isMethodKey entry.1 = false) :
    checkExtras (extras.map fun entry => (.text entry.1, entry.2)) = .valid extras := by
  induction extras with
  | nil => rfl
  | cons entry rest inductionHypothesis =>
      obtain ⟨name, value⟩ := entry
      obtain ⟨notMethod, restNotMethod⟩ := List.forall_mem_cons.mp noMethod
      rw [List.map_cons, checkExtras, notMethod, inductionHypothesis restNotMethod]
      rfl

theorem checkExtras_fields {item : PathItem}
    (noMethod : ∀ entry ∈ item.extras, isMethodKey entry.1 = false) :
    checkExtras item.fields = .valid item.extras := by
  -- The operations stand in front, each under a method, and are skipped one by one.
  have methodsSkipped : checkExtras item.fields =
      checkExtras (item.extras.map fun entry => (.text entry.1, entry.2)) := rfl
  rw [methodsSkipped, checkExtras_of_no_method noMethod]

end PathItem

theorem PathItem.returns (tree : Tree) : Returns check normalForm tree := by
  intro item valid
  cases tree with
  | mapping entries =>
      simp only [check, Checked.seq_eq_valid, Checked.map_eq_valid] at valid
      obtain ⟨_, extras, ⟨_, delete, ⟨_, put, ⟨_, post, ⟨get, getValid, rfl⟩, postValid, rfl⟩,
        putValid, rfl⟩, deleteValid, rfl⟩, extrasValid, rfl⟩ := valid
      let item : PathItem := ⟨get, post, put, delete, extras⟩
      have getAgain : checkMethod item.fields .get = .valid get := checkMethod_form getValid rfl
      have postAgain : checkMethod item.fields .post = .valid post :=
        checkMethod_form postValid rfl
      have putAgain : checkMethod item.fields .put = .valid put := checkMethod_form putValid rfl
      have deleteAgain : checkMethod item.fields .delete = .valid delete :=
        checkMethod_form deleteValid rfl
      have extrasAgain : checkExtras item.fields = .valid extras :=
        checkExtras_fields (isMethodKey_of_checkExtras extrasValid)
      rw [normalForm, check, getAgain, postAgain, putAgain, deleteAgain, extrasAgain]
      rfl
  | _ => cases valid

theorem Server.check_normalForm (server : Server) : check server.normalForm = .valid server := by
  have url : server.fields.requiredText "url" = .valid server.url :=
    Entries.requiredText_form rfl
  have description : server.fields.optionalText "description" = .valid server.description :=
    Entries.optionalText_form rfl
  rw [normalForm, check, url, description]
  rfl

namespace Document

theorem checkServers_form {entries other : Entries} {servers : List Server}
    (valid : checkServers entries = .valid servers)
    (found : other.find? "servers" = some (.list (servers.map Server.normalForm))) :
    checkServers other = .valid servers := by
  rw [checkServers, found]
  unfold checkServers at valid
  split at valid
  · cases valid
    rfl
  · exact Checked.under_eq_valid.mpr
      (Checked.eachFrom_form (fun _ server _ => server.check_normalForm)
        (Checked.under_eq_valid.mp valid))
  · cases valid

theorem checkFields_fields {entries : Entries} {document : Document}
    (valid : checkFields entries = .valid document) :
    checkFields document.fields = .valid document := by
  simp only [checkFields, Checked.seq_eq_valid, Checked.map_eq_valid] at valid
  obtain ⟨_, servers, ⟨_, paths, ⟨_, schemas, ⟨_, version, ⟨title, _, rfl⟩, _, rfl⟩, schemasValid,
    rfl⟩, pathsValid, rfl⟩, serversValid, rfl⟩ := valid
  let document : Document := ⟨title, version, schemas, paths, servers⟩
  have titleAgain : document.fields.optionalText "title" = .valid title :=
    Entries.optionalText_form rfl
  have versionAgain : document.fields.optionalText "version" = .valid version :=
    Entries.optionalText_form rfl
  have schemasAgain : document.fields.named "schemas" Schema.check = .valid schemas :=
    Entries.named_form Schema.returns schemasValid rfl
  have pathsAgain : document.fields.named "paths" PathItem.check = .valid paths :=
    Entries.named_form PathItem.returns pathsValid rfl
  have serversAgain : checkServers document.fields = .valid servers :=
    checkServers_form serversValid rfl
  rw [checkFields, titleAgain, versionAgain, schemasAgain, pathsAgain, serversAgain]
  rfl

/-- What is written out has schemas at the top, so that nothing is lifted out of it. -/
theorem check_normalForm_eq (document : Document) :
    check document.normalForm = .ok (checkFields document.fields) :=
  rfl

/-- The normal form of a document that a tree describes, describes the same document. -/
theorem check_normalForm_of_accepted {tree : Tree} {document : Document}
    (accepted : check tree = .ok (.valid document)) :
    check document.normalForm = .ok (.valid document) := by
  obtain ⟨_, _, _, _, valid⟩ := exists_lift_of_check accepted
  rw [check_normalForm_eq, checkFields_fields valid]

end Document

/-- A specification with a list of types, items in a list of properties, absent and null fields,
both names of a field, and a method that is skipped. -/
def toyShopTree : Tree :=
  .mapping [
    (.text "info", .mapping [(.text "title", .text "Toys"), (.text "version", .text "2")]),
    (.text "components", .mapping [
      (.text "schemas", .mapping [
        (.text "Toy", .mapping [
          (.text "type", .list [.text "null", .text "object"]),
          (.text "properties", .mapping [
            (.text "parts", .mapping [
              (.text "type", .text "array"),
              (.text "items", .mapping [
                (.text "$ref", .text "#/components/schemas/Toy"),
                (.text "reference", .boolean true),
                (.text "properties", .boolean false)])]),
            (.text "tags", .mapping [(.text "items", .list [.text "x"])])])])])]),
    (.text "paths", .mapping [
      (.text "/toys", .mapping [
        (.text "patch", .boolean true),
        (.text "get", .mapping [
          (.text "operationId", .text "listToys"),
          (.text "tags", .null),
          (.text "parameters", .list [
            .mapping [(.text "name", .text "limit"), (.text "in", .text "query")]]),
          (.text "requestBody", .mapping [
            (.text "content", .mapping [
              (.text "application/json", .mapping [(.text "schema", .null)])])])])])]),
    (.text "servers", .list [.mapping [(.text "url", .text "https://toys.example")]])]

/-- The document that the specification describes. -/
def toyShop : Document :=
  { title := some "Toys"
    version := some "2"
    schemas := [
      ("Toy", {
        type := some "object", format := none, reference := none, items := none
        properties := [
          ("parts", {
            type := some "array", format := none, reference := none
            items := some {
              type := none, format := none, reference := some "#/components/schemas/Toy"
              items := none, properties := [], description := none }
            properties := [], description := none }),
          ("tags", {
            type := none, format := none, reference := none, items := none, properties := []
            description := none })]
        description := none })]
    paths := [
      ("/toys", {
        get := some {
          operationId := some "listToys", summary := none, description := none, tags := []
          parameters := [
            { name := "limit", location := some "query", description := none, required := false }]
          requestBody := some {
            description := none, content := [("application/json", { schema := none })] } }
        post := none, put := none, delete := none
        extras := [("patch", .boolean true)] })]
    servers := [{ url := "https://toys.example", description := none }] }

theorem toyShop_check_normalForm :
    Document.check toyShopTree = .ok (.valid toyShop) ∧
      Document.check toyShop.normalForm = .ok (.valid toyShop) := by
  have accepted : Document.check toyShopTree = .ok (.valid toyShop) := rfl
  exact ⟨accepted, Document.check_normalForm_of_accepted accepted⟩

end OpenApiJava
