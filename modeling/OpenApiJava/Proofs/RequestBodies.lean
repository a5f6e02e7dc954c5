import OpenApiJava.Proofs.BodyTypes
import OpenApiJava.Proofs.ServiceComments

/-!
# Request bodies

A call tells of its request body whether there is one, what its type is called and whether it is a
list. Main statement: a list has a type with a name, and a type with a name has a body; the name is
there exactly if the JSON form of the body has a schema that refers to a type; no other media type
is looked at; and a service has one line for a body, which names a type only if its name is there.
-/

namespace OpenApiJava

open OpenApiJava.Source

/-! ## Schemas that refer to a type -/

/-- The schema refers to a type: a list by its items, any other schema by itself. -/
inductive Schema.NamesType : Schema → Prop
  | items {schema items : Schema} {reference : String} (isArray : schema.type = some "array")
      (hasItems : schema.items = some items) (there : items.reference = some reference) :
      NamesType schema
  | self {schema : Schema} {reference : String} (noArray : schema.type ≠ some "array")
      (there : schema.reference = some reference) :
      NamesType schema

theorem BodyType.isSome_reference?_iff (schema : Schema) :
    (reference? schema).isSome = true ↔ schema.NamesType := by
  unfold reference?
  by_cases isArray : schema.type = some "array"
  · rw [if_pos (beq_iff_eq.mpr isArray)]
    constructor
    · intro found
      cases hasItems : schema.items with
      | none =>
          rw [hasItems] at found
          cases found
      | some items =>
          rw [hasItems, Option.isSome_map, Option.isSome_iff_exists] at found
          obtain ⟨reference, there⟩ := found
          exact .items isArray hasItems there
    · intro named
      cases named with
      | items _ hasItems there => simp [hasItems, there]
      | self noArray _ => exact absurd isArray noArray
  · rw [if_neg (by simpa using isArray), Option.isSome_map, Option.isSome_iff_exists]
    constructor
    · rintro ⟨reference, there⟩
      exact .self isArray there
    · intro named
      cases named with
      | items isArrayAfterAll _ _ => exact absurd isArrayAfterAll isArray
      | self _ there => exact ⟨_, there⟩

theorem BodyType.isSome_typeName?_iff (schema : Schema) :
    (ofSchema schema).typeName?.isSome = true ↔ schema.NamesType := by
  rw [← isSome_reference?_iff, ofSchema]
  rcases reference? schema with _ | ⟨reference, _ | _⟩ <;> simp [typeName?]

/-! ## The JSON form -/

theorem RequestBody.jsonSchema?_eq (body : RequestBody) :
    body.jsonSchema? = (body.content.lookup "application/json").bind MediaType.schema := by
  unfold jsonSchema?
  induction body.content with
  | nil => rfl
  | cons entry others inductionHypothesis =>
      rw [List.find?_cons, List.lookup_cons]
      by_cases isJson : entry.1 = "application/json"
      · have found : (entry.1 == jsonMediaType) = true := beq_iff_eq.mpr isJson
        have looked : ("application/json" == entry.1) = true := beq_iff_eq.mpr isJson.symm
        rw [found, looked]
        rfl
      · have missed : (entry.1 == jsonMediaType) = false := beq_eq_false_iff_ne.mpr isJson
        have passed : ("application/json" == entry.1) = false :=
          beq_eq_false_iff_ne.mpr fun same => isJson same.symm
        rw [missed, passed]
        exact inductionHypothesis

/-- The schema stands under the exact key of JSON in the request body. -/
def Operation.HasJsonSchema (operation : Operation) (schema : Schema) : Prop :=
  ∃ body media, operation.requestBody = some body ∧
    body.content.lookup "application/json" = some media ∧ media.schema = some schema

theorem Operation.hasJsonSchema_iff {operation : Operation} {schema : Schema} :
    operation.HasJsonSchema schema ↔
      operation.requestBody.bind RequestBody.jsonSchema? = some schema := by
  simp only [HasJsonSchema, Option.bind_eq_some_iff, RequestBody.jsonSchema?_eq,
    exists_and_left]

theorem RequestBody.typeName?_type (body : RequestBody) :
    body.type.typeName? =
      body.jsonSchema?.bind fun schema => (BodyType.ofSchema schema).typeName? := by
  unfold type
  cases body.jsonSchema? with
  | none => rfl
  | some schema => rfl

namespace Endpoint

/-- The name of the type of the body, if there is one. -/
def bodyTypeName? (call : Endpoint) : Option String :=
  call.body.bind BodyType.typeName?

def hasListBody (call : Endpoint) : Bool :=
  (call.body.map BodyType.isList).getD false

/-- These are the named values that tell of the body of a call. -/
structure TellsBody (call : Endpoint) (hasBody : Bool) (typeName : Option String)
    (isList : Bool) : Prop where
  hasBody : call.context.get? "has_request_body" = some (.boolean hasBody)
  typeName : call.context.get? "request_body_type_name" = some (.ofText? typeName)
  isList : call.context.get? "is_array_request_body" = some (.boolean isList)

theorem tellsBody (call : Endpoint) :
    call.TellsBody call.body.isSome call.bodyTypeName? call.hasListBody :=
  ⟨rfl, rfl, rfl⟩

variable {call : Endpoint}

theorem typeName_of_hasListBody (isList : call.hasListBody = true) :
    call.bodyTypeName?.isSome = true := by
  unfold hasListBody at isList
  unfold bodyTypeName?
  cases hasBody : call.body with
  | none =>
      rw [hasBody] at isList
      cases isList
  | some type =>
      rw [hasBody] at isList
      cases type with
      | listOf typeName => rfl
      | _ => cases isList

theorem isSome_body_of_typeName (named : call.bodyTypeName?.isSome = true) :
    call.body.isSome = true := by
  unfold bodyTypeName? at named
  cases hasBody : call.body with
  | none =>
      rw [hasBody] at named
      cases named
  | some type => rfl

variable (operation : Operation) (path method : String)

theorem isSome_body_ofOperation_iff :
    (ofOperation operation path method).body.isSome = true ↔
      operation.requestBody.isSome = true := by
  rw [ofOperation, Option.isSome_map]

theorem bodyTypeName?_ofOperation :
    (ofOperation operation path method).bodyTypeName? =
      (operation.requestBody.bind RequestBody.jsonSchema?).bind fun schema =>
        (BodyType.ofSchema schema).typeName? := by
  rw [bodyTypeName?, ofOperation, Option.bind_map, Option.bind_assoc]
  exact congrArg operation.requestBody.bind (funext RequestBody.typeName?_type)

theorem isSome_bodyTypeName?_ofOperation_iff :
    (ofOperation operation path method).bodyTypeName?.isSome = true ↔
      ∃ schema, operation.HasJsonSchema schema ∧ schema.NamesType := by
  rw [bodyTypeName?_ofOperation]
  constructor
  · intro named
    obtain ⟨typeName, found⟩ := Option.isSome_iff_exists.mp named
    obtain ⟨schema, isSchema, isName⟩ := Option.bind_eq_some_iff.mp found
    refine ⟨schema, Operation.hasJsonSchema_iff.mpr isSchema, ?_⟩
    exact (BodyType.isSome_typeName?_iff schema).mp (Option.isSome_of_eq_some isName)
  · rintro ⟨schema, isSchema, named⟩
    rw [Operation.hasJsonSchema_iff.mp isSchema]
    exact (BodyType.isSome_typeName?_iff schema).mpr named

end Endpoint

/-! ## The lines of a body -/

/-- What the comment of a call says of a body, line by line. -/
inductive BodyLines : Bool → Option String → Bool → List String → Prop
  | absent : BodyLines false none false []
  | unresolved : BodyLines true none false ["     * Request body: unresolved"]
  | unnamed : BodyLines true (some "") false ["     * Request body: unresolved"]
  | single {typeName : String} (nonempty : typeName ≠ "") :
      BodyLines true (some typeName) false ["     * Request body: " ++ typeName]
  | listOf (typeName : String) :
      BodyLines true (some typeName) true ["     * Request body: List<" ++ typeName ++ ">"]

theorem Endpoint.bodyLines_toCall (call : Endpoint) :
    BodyLines call.body.isSome call.bodyTypeName? call.hasListBody call.toCall.bodyLines := by
  unfold bodyTypeName? hasListBody Call.bodyLines toCall
  rcases call.body with _ | _ | typeName | typeName
  · exact .absent
  · exact .unresolved
  · by_cases empty : typeName = ""
    · subst empty
      exact .unnamed
    · have said : (BodyType.single typeName).text = typeName := by
        simp [BodyType.text, empty]
      simp only [Option.map_some, said]
      exact .single empty
  · have line : "     * Request body: " ++ (BodyType.listOf typeName).text =
        "     * Request body: List<" ++ typeName ++ ">" := by
      rw [BodyType.text, ← String.append_assoc, ← String.append_assoc]
      rfl
    simp only [Option.map_some, line]
    exact .listOf typeName

namespace Source

/-- A body adds its lines to a call right behind method and path, and changes no others. -/
theorem Call.exists_lines (relativeUrlsClass : String) (call : Call) :
    ∃ front back, front.getLast? = some ("     * " ++ call.requestLine) ∧
      call.lines relativeUrlsClass = front ++ call.bodyLines ++ back ∧
      ({ call with body := none } : Call).lines relativeUrlsClass = front ++ back := by
  refine ⟨(({ call with body := none } : Call).lines relativeUrlsClass).take 7,
    (({ call with body := none } : Call).lines relativeUrlsClass).drop 7, rfl, ?_,
    (List.take_append_drop 7 _).symm⟩
  obtain ⟨operationId, summary, path, method, constantName, parameters, queries, body⟩ := call
  cases body with
  | none => exact (List.take_append_drop 7 _).symm
  | some body => rfl

theorem ServiceClass.exists_lines (service : ServiceClass) (before after : List Call)
    (call : Call) :
    ∃ front back, front.getLast? = some ("     * " ++ call.requestLine) ∧
      ({ service with calls := before ++ call :: after } : ServiceClass).lines =
        front ++ call.bodyLines ++ back ∧
      ({ service with calls := before ++ { call with body := none } :: after } :
        ServiceClass).lines = front ++ back := by
  obtain ⟨front, back, behind, whole, bare⟩ := call.exists_lines service.relativeUrlsClass
  let head : List String :=
    service.lines.take 11 ++ before.flatMap (Call.lines service.relativeUrlsClass)
  let foot : List String :=
    after.flatMap (Call.lines service.relativeUrlsClass) ++ ["\x7d"]
  have around (own : Call) :
      ({ service with calls := before ++ own :: after } : ServiceClass).lines =
        head ++ own.lines service.relativeUrlsClass ++ foot := by
    calc ({ service with calls := before ++ own :: after } : ServiceClass).lines
        = service.lines.take 11 ++
            (before ++ own :: after).flatMap (Call.lines service.relativeUrlsClass) ++
              ["\x7d"] := rfl
      _ = head ++ own.lines service.relativeUrlsClass ++ foot := by
        rw [List.flatMap_append, List.flatMap_cons]
        simp only [head, foot, List.append_assoc]
  refine ⟨head ++ front, back ++ foot, ?_, ?_, ?_⟩
  · rw [List.getLast?_append, behind, Option.some_or]
  · rw [around, whole]
    simp only [List.append_assoc]
  · rw [around, bare]
    simp only [List.append_assoc]

end Source

/-- The lines are all that the body of a call adds to the source of a service, in which the call
stands between others. They follow the line with its method and path. -/
def Endpoint.BodyAdds (call : Endpoint) (service : Service) (settings : Settings)
    (before after : List Endpoint) (lines : List String) : Prop :=
  ∃ front back, front.getLast? = some ("     * " ++ (call.method ++ " " ++ call.path)) ∧
    Template.serviceClass.render
        (({ service with endpoints := before ++ call :: after } : Service).context settings) =
      .ok (ofLines (front ++ lines ++ back)) ∧
    Template.serviceClass.render
        (({ service with endpoints := before ++ { call with body := none } :: after } :
          Service).context settings) =
      .ok (ofLines (front ++ back))

theorem Endpoint.bodyAdds (call : Endpoint) (service : Service) (settings : Settings)
    (before after : List Endpoint) :
    call.BodyAdds service settings before after call.toCall.bodyLines := by
  obtain ⟨front, back, behind, whole, bare⟩ :=
    ServiceClass.exists_lines (service.toServiceClass settings) (before.map toCall)
      (after.map toCall) call.toCall
  have offered (own : Endpoint) :
      Template.serviceClass.render
          (({ service with endpoints := before ++ own :: after } : Service).context settings) =
        .ok (ofLines ({ service.toServiceClass settings with
          calls := before.map toCall ++ own.toCall :: after.map toCall } : ServiceClass).lines) := by
    rw [Template.render_serviceClass, ← List.map_cons, ← List.map_append]
    rfl
  refine ⟨front, back, behind, ?_, ?_⟩
  · rw [offered, whole]
  · rw [offered, ← bare]
    rfl

/-- What a call tells of its body is consistent and comes from the JSON form alone, and a service
has a line for it that names a type only if the name is there. -/
theorem body_is_described (operation : Operation) (path method : String) :
    ∃ hasBody typeName isList,
      (Endpoint.ofOperation operation path method).TellsBody hasBody typeName isList ∧
      (isList = true → typeName.isSome = true) ∧
      (typeName.isSome = true → hasBody = true) ∧
      (hasBody = true ↔ operation.requestBody.isSome = true) ∧
      (typeName.isSome = true ↔ ∃ schema, operation.HasJsonSchema schema ∧ schema.NamesType) ∧
      (∀ body other, operation.requestBody = some body →
        other.content.lookup "application/json" = body.content.lookup "application/json" →
        Endpoint.ofOperation { operation with requestBody := some other } path method =
          Endpoint.ofOperation operation path method) ∧
      ∃ lines, BodyLines hasBody typeName isList lines ∧
        ∀ service settings before after,
          (Endpoint.ofOperation operation path method).BodyAdds service settings before after
            lines := by
  refine ⟨_, _, _, Endpoint.tellsBody _, Endpoint.typeName_of_hasListBody,
    Endpoint.isSome_body_of_typeName, Endpoint.isSome_body_ofOperation_iff operation path method,
    Endpoint.isSome_bodyTypeName?_ofOperation_iff operation path method, ?_,
    _, Endpoint.bodyLines_toCall _, Endpoint.bodyAdds _⟩
  intro body other isBody sameJson
  have sameType : other.type = body.type := by
    unfold RequestBody.type
    rw [RequestBody.jsonSchema?_eq, RequestBody.jsonSchema?_eq, sameJson]
  unfold Endpoint.ofOperation
  rw [isBody, Option.map_some, Option.map_some, sameType]
  rfl

/-- The body of rows of pets with a form of another media type in front. -/
def mixedRows : RequestBody :=
  { description := none
    content := [("application/xml", { schema := some petCount }),
      (jsonMediaType, { schema := some petRows })] }

theorem petRows_are_described :
    let call := Endpoint.ofOperation (operationWith petRows) "/pets" "POST"
    call.TellsBody true (some "Pet") true ∧
      Endpoint.ofOperation { operationWith petRows with requestBody := some mixedRows } "/pets"
        "POST" = call ∧
      call.BodyAdds petService petSettings [] petService.endpoints
        ["     * Request body: List<Pet>"] := by
  intro call
  obtain ⟨hasBody, typeName, isList, told, isNamed, isThere, -, -, jsonOnly, lines, said, adds⟩ :=
    body_is_described (operationWith petRows) "/pets" "POST"
  have listed : isList = true := by
    have same : some (Tree.boolean true) = some (Tree.boolean isList) := told.isList
    cases same
    rfl
  obtain ⟨name, rfl⟩ := Option.isSome_iff_exists.mp (isNamed listed)
  have isPet : name = "Pet" := by
    have same : some (Tree.text "Pet") = some (Tree.text name) := told.typeName
    cases same
    rfl
  have present : hasBody = true := isThere rfl
  subst listed present
  cases said
  subst isPet
  exact ⟨told, jsonOnly _ mixedRows rfl rfl, adds petService petSettings [] _⟩

end OpenApiJava
