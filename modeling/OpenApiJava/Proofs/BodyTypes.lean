import OpenApiJava.Endpoint.Basic
import OpenApiJava.Proofs.TypePriorities

/-!
# Types of request bodies

The type of a request body is taken from a reference, of its schema or, in a list, of the items.
Main statement: this is the type that the schema has as any other schema exactly if no type wins
over the reference, or the one that does has the same name.
-/

namespace OpenApiJava

theorem JavaType.listOf_name_eq_iff {element : JavaType} {typeName : String} :
    (listOf element).name = "List<" ++ typeName ++ ">" ↔ element.name = typeName := by
  have names : (listOf element).name = "List<" ++ element.name ++ ">" := rfl
  rw [names, String.append_left_inj, String.append_right_inj]

theorem Schema.plainType_name_eq_iff {schema : Schema} {reference : String}
    (there : schema.reference = some reference) :
    schema.plainType.name = referenceTypeName reference ↔
      ∀ name, schema.winningName? = some name → name = referenceTypeName reference := by
  unfold plainType
  cases wins : schema.winningName? with
  | some name => simp
  | none => simp [there]

namespace BodyType

/-- The schema whose reference counts: the items of a list, and otherwise the schema itself. -/
def bearer? (schema : Schema) : Option Schema :=
  if schema.type = some "array" then schema.items else some schema

theorem exists_bearer_of_reference? {schema : Schema} {reference : String} {isList : Bool}
    (found : reference? schema = some (reference, isList)) :
    ∃ bearer, bearer? schema = some bearer ∧ bearer.reference = some reference ∧
      (isList = true ↔ schema.type = some "array") := by
  unfold reference? at found
  by_cases isArray : schema.type = some "array"
  · rw [if_pos (beq_iff_eq.mpr isArray)] at found
    cases hasItems : schema.items with
    | none =>
        rw [hasItems] at found
        cases found
    | some items =>
        rw [hasItems] at found
        obtain ⟨other, there, same⟩ := Option.map_eq_some_iff.mp found
        cases same
        exact ⟨items, by rw [bearer?, if_pos isArray, hasItems], there, by simp [isArray]⟩
  · rw [if_neg (by simpa using isArray)] at found
    obtain ⟨other, there, same⟩ := Option.map_eq_some_iff.mp found
    cases same
    exact ⟨schema, by rw [bearer?, if_neg isArray], there, by simp [isArray]⟩

theorem exists_reference_of_typeName? {schema : Schema} {typeName : String}
    (named : (ofSchema schema).typeName? = some typeName) :
    ∃ reference, reference? schema = some (reference, (ofSchema schema).isList) ∧
      referenceTypeName reference = typeName := by
  unfold ofSchema at named ⊢
  split at named
  · rename_i reference found
    cases named
    exact ⟨reference, found, rfl⟩
  · rename_i reference found
    cases named
    exact ⟨reference, found, rfl⟩
  · cases named

/-- A body and its schema agree on the type unless another type wins over the reference. -/
theorem ofSchema_name_eq_iff {schema bearer : Schema} {reference : String}
    {isList : Bool} (isBearer : bearer? schema = some bearer)
    (there : bearer.reference = some reference)
    (listed : isList = true ↔ schema.type = some "array") :
    (JavaType.ofSchema schema).name =
        (if isList then "List<" ++ referenceTypeName reference ++ ">"
          else referenceTypeName reference) ↔
      ∀ name, bearer.winningName? = some name → name = referenceTypeName reference := by
  unfold bearer? at isBearer
  by_cases isArray : schema.type = some "array"
  · rw [if_pos isArray] at isBearer
    rw [JavaType.ofSchema_of_array isArray, isBearer, if_pos (listed.mpr isArray),
      JavaType.listOf_name_eq_iff, JavaType.item_some]
    exact Schema.plainType_name_eq_iff there
  · rw [if_neg isArray] at isBearer
    cases isBearer
    have noList : isList ≠ true := fun isList => isArray (listed.mp isList)
    rw [JavaType.ofSchema_of_not_array isArray, if_neg noList]
    exact Schema.plainType_name_eq_iff there

/-- The type of a body is the type of its schema exactly if no other type wins over the reference
that it is taken from, or the one that does has the same name. -/
theorem bodyName_eq_schemaName_iff (operation : Operation) (path method : String)
    {type : BodyType} {typeName : String}
    (isBody : (Endpoint.ofOperation operation path method).body = some type)
    (named : type.typeName? = some typeName) :
    ∃ body schema bearer, operation.requestBody = some body ∧ body.jsonSchema? = some schema ∧
      bearer? schema = some bearer ∧
      ((JavaType.ofSchema schema).name =
          (if type.isList then "List<" ++ typeName ++ ">" else typeName) ↔
        ∀ name, bearer.winningName? = some name → name = typeName) := by
  obtain ⟨body, isRequest, rfl⟩ := Option.map_eq_some_iff.mp isBody
  unfold RequestBody.type at named ⊢
  cases hasSchema : body.jsonSchema? with
  | none =>
      rw [hasSchema] at named
      cases named
  | some schema =>
      rw [hasSchema] at named
      obtain ⟨reference, found, rfl⟩ := exists_reference_of_typeName? named
      obtain ⟨bearer, isBearer, there, listed⟩ := exists_bearer_of_reference? found
      exact ⟨body, schema, bearer, isRequest, hasSchema, isBearer,
        ofSchema_name_eq_iff isBearer there listed⟩

end BodyType

/-- An operation with a body of a schema. -/
def operationWith (schema : Schema) : Operation :=
  { operationId := none, summary := none, description := none, tags := [], parameters := []
    requestBody := some
      { description := none, content := [(jsonMediaType, { schema := some schema })] } }

/-- A list whose items are lists that refer to a schema. -/
def petRows : Schema :=
  { type := some "array", format := none, reference := none
    items := some {
      type := some "array", format := none, reference := some "#/components/schemas/Pet"
      items := none, properties := [], description := none }
    properties := [], description := none }

/-- An integer that refers to a schema. -/
def petCount : Schema :=
  { type := some "integer", format := none, reference := some "#/components/schemas/Count"
    items := none, properties := [], description := none }

theorem petRows_bodyName :
    (Endpoint.ofOperation (operationWith petRows) "/pets" "POST").body = some (.listOf "Pet") ∧
      (JavaType.ofSchema petRows).name = "List<Pet>" := by
  have isBody : (Endpoint.ofOperation (operationWith petRows) "/pets" "POST").body =
      some (.listOf "Pet") := by
    decide
  obtain ⟨body, schema, bearer, isRequest, isSchema, isBearer, agree⟩ :=
    BodyType.bodyName_eq_schemaName_iff (operationWith petRows) "/pets" "POST" isBody rfl
  cases isRequest
  cases isSchema
  cases isBearer
  refine ⟨isBody, agree.mpr ?_⟩
  intro name wins
  cases wins

theorem not_forall_bodyName_eq_schemaName :
    ¬ ∀ (operation : Operation) (path method : String) (type : BodyType) (typeName : String)
      (body : RequestBody) (schema : Schema),
      (Endpoint.ofOperation operation path method).body = some type →
      type.typeName? = some typeName →
      operation.requestBody = some body →
      body.jsonSchema? = some schema →
      (JavaType.ofSchema schema).name =
        if type.isList then "List<" ++ typeName ++ ">" else typeName := by
  intro agree
  have isBody : (Endpoint.ofOperation (operationWith petCount) "/counts" "POST").body =
      some (.single "Count") := by
    decide
  have same := agree (operationWith petCount) "/counts" "POST" (.single "Count") "Count" _ petCount
    isBody rfl rfl rfl
  exact absurd same (by decide)

end OpenApiJava
