import OpenApiJava.Proofs.Faults
import OpenApiJava.Rendering

/-!
# Templates and their contexts

A template reads from a context what the context was written from, so that it always ends, with the
source of what it is the context of. Main statement: a run from templates is the run that writes the
sources.
-/

namespace OpenApiJava

open OpenApiJava.Source OpenApiJava.Source.Context

/-! ## Reading a value -/

theorem Tree.isTruthy_text {value : String} (nonempty : value ≠ "") :
    (text value).isTruthy = true := by
  simp [isTruthy, nonempty]

/-- A text counts as true unless it is missing or empty. -/
theorem Tree.isTruthy_ofText?_cases (given : Option String) :
    (∃ value, given = some value ∧ (ofText? given).isTruthy = true) ∨
      given.getD "" = "" ∧ (ofText? given).isTruthy = false := by
  cases given with
  | none => exact Or.inr ⟨rfl, rfl⟩
  | some value =>
      by_cases empty : value = ""
      · subst empty
        exact Or.inr ⟨rfl, rfl⟩
      · exact Or.inl ⟨value, rfl, isTruthy_text empty⟩

namespace Source.Context

variable {context : Tree} {name text : String} {found : Tree}

theorem need_eq_ok (there : context.get? name = some found) :
    need context name = .ok found := by
  unfold need
  rw [there]

theorem shown_eq_ok (there : context.get? name = some (.text text)) :
    shown context name = .ok text :=
  bind_eq_of_ok (need_eq_ok there)

theorem holds_eq_ok (there : context.get? name = some found) :
    holds context name = .ok found.isTruthy :=
  bind_eq_of_ok (need_eq_ok there)

theorem holds_eq_ok_of_boolean {value : Bool}
    (there : context.get? name = some (.boolean value)) :
    holds context name = .ok value :=
  holds_eq_ok there

theorem escapedText_eq_ok (there : context.get? name = some (.text text)) :
    escapedText context name = .ok text :=
  bind_eq_of_ok (need_eq_ok there)

theorem items_eq_ok {items : List Tree} (there : context.get? name = some (.list items)) :
    Context.items context name = .ok items :=
  bind_eq_of_ok (need_eq_ok there)

/-- A text that is not there and an empty one are read alike. -/
theorem optionalText_eq_ok {given : Option String}
    (there : context.get? name = some (.ofText? given)) :
    optionalText context name = .ok (given.getD "") := by
  unfold optionalText
  rw [bind_eq_of_ok (holds_eq_ok there)]
  rcases Tree.isTruthy_ofText?_cases given with ⟨value, rfl, truthy⟩ | ⟨empty, falsy⟩
  · rw [if_pos truthy]
    exact escapedText_eq_ok there
  · rw [if_neg (by simp [falsy]), empty]
    rfl

/-- One value is read from each item, if it is what the item was written from. -/
theorem mapM_map_eq_ok {α β : Type} {read : Tree → Except ContextFault β} {write : α → Tree}
    {image : α → β} (reads : ∀ item, read (write item) = .ok (image item)) (items : List α) :
    (items.map write).mapM read = .ok (items.map image) := by
  rw [List.mapM_map]
  exact mapM_eq_ok_map fun item _ => reads item

end Source.Context

/-! ## Data classes -/

theorem Source.Member.ofContext_context (field : DtoField) :
    Member.ofContext field.context = .ok field.toMember := by
  have description : optionalText field.context "description" =
      .ok (field.description.getD "") :=
    optionalText_eq_ok rfl
  have baseName : escapedText field.context "base_name" = .ok field.baseName :=
    escapedText_eq_ok rfl
  have type : need field.context "resolved_type" = .ok field.type.context :=
    need_eq_ok rfl
  have typeName : shown field.type.context "type_name" = .ok field.type.name :=
    shown_eq_ok rfl
  have name : nameText field.context "name" = .ok field.name := rfl
  unfold Member.ofContext
  rw [bind_eq_of_ok description, bind_eq_of_ok baseName, bind_eq_of_ok type,
    bind_eq_of_ok typeName, bind_eq_of_ok name]
  rfl

theorem Source.DataClass.ofContext_context (dto : Dto) :
    DataClass.ofContext dto.context = .ok dto.toDataClass := by
  have packageName : shown dto.context "package_name" = .ok dto.packageName :=
    shown_eq_ok rfl
  have imports : Context.items dto.context "imports" =
      .ok (dto.imports.map fun needed => .text needed.name) :=
    items_eq_ok rfl
  have isResponse : holds dto.context "is_response_variant" = .ok dto.isResponse :=
    holds_eq_ok_of_boolean rfl
  have description : optionalText dto.context "description" = .ok (dto.description.getD "") :=
    optionalText_eq_ok rfl
  have escapedName : escapedText dto.context "class_name" = .ok dto.className :=
    escapedText_eq_ok rfl
  have shownName : shown dto.context "class_name" = .ok dto.className :=
    shown_eq_ok rfl
  have fields : Context.items dto.context "fields" = .ok (dto.fields.map DtoField.context) :=
    items_eq_ok rfl
  unfold DataClass.ofContext
  rw [bind_eq_of_ok packageName, bind_eq_of_ok imports, bind_eq_of_ok isResponse,
    bind_eq_of_ok description, escapedName, shownName]
  -- The name is the same whether it stands for the description, and is escaped, or not.
  rw [ite_self, bind_eq_of_ok rfl]
  beta_reduce
  rw [bind_eq_of_ok fields, bind_eq_of_ok (mapM_map_eq_ok Member.ofContext_context dto.fields),
    List.map_map]
  rfl

/-! ## Services -/

theorem Source.Query.ofContext_context (query : QueryParameter) :
    Query.ofContext query.context =
      .ok ⟨query.name, query.description.getD "", query.required⟩ := by
  have name : shown query.context "name" = .ok query.name := shown_eq_ok rfl
  have required : holds query.context "required" = .ok query.required :=
    holds_eq_ok_of_boolean rfl
  have description : optionalText query.context "description" =
      .ok (query.description.getD "") :=
    optionalText_eq_ok rfl
  unfold Query.ofContext
  rw [bind_eq_of_ok name, bind_eq_of_ok required, bind_eq_of_ok description]
  rfl

theorem Source.parameterName_context (parameter : PathParameter) :
    parameterName parameter.context = .ok parameter.name :=
  rfl

theorem Source.parameterOfContext_context (parameter : PathParameter) :
    parameterOfContext parameter.context = .ok parameter := by
  have token : escapedText parameter.context "placeholder_token" = .ok parameter.token :=
    escapedText_eq_ok rfl
  unfold parameterOfContext
  rw [bind_eq_of_ok token, bind_eq_of_ok (parameterName_context parameter)]
  rfl

/-- What is said of a body depends on three values of the context, one of which may be null. -/
theorem Source.bodyOfContext_context (endpoint : Endpoint) :
    bodyOfContext endpoint.context = .ok (endpoint.body.map BodyType.text) := by
  have hasBody : holds endpoint.context "has_request_body" = .ok endpoint.body.isSome :=
    holds_eq_ok_of_boolean rfl
  have isList : holds endpoint.context "is_array_request_body" =
      .ok ((endpoint.body.map BodyType.isList).getD false) :=
    holds_eq_ok_of_boolean rfl
  have typeThere : endpoint.context.get? "request_body_type_name" =
      some (.ofText? (endpoint.body.bind BodyType.typeName?)) :=
    rfl
  have named := holds_eq_ok typeThere
  unfold bodyOfContext
  rw [bind_eq_of_ok hasBody, bind_eq_of_ok isList, bind_eq_of_ok named]
  cases body : endpoint.body with
  | none => rfl
  | some type =>
      rw [body] at typeThere
      cases type with
      | unresolved => rfl
      | listOf typeName =>
          have shownName : shown endpoint.context "request_body_type_name" = .ok typeName :=
            shown_eq_ok typeThere
          change shown endpoint.context "request_body_type_name" >>= _ = _
          rw [bind_eq_of_ok shownName]
          rfl
      | single typeName =>
          have shownName := shown_eq_ok typeThere
          by_cases empty : typeName = ""
          · subst empty
            rfl
          · change (if (Tree.text typeName).isTruthy then
              shown endpoint.context "request_body_type_name" >>= _ else _) = _
            have said : (BodyType.single typeName).text = typeName := by
              simp [BodyType.text, empty]
            rw [if_pos (Tree.isTruthy_text empty), bind_eq_of_ok shownName, Option.map_some, said]
            rfl

/-- The identifier of a call is read only where there is one. -/
theorem Source.Call.ofContext_context (endpoint : Endpoint) :
    Call.ofContext endpoint.context = .ok endpoint.toCall := by
  have idThere : endpoint.context.get? "operation_id" =
      some (.ofText? endpoint.operationId) :=
    rfl
  have hasId := holds_eq_ok idThere
  have neededMethod : need endpoint.context "http_method" = .ok (.text endpoint.method) :=
    need_eq_ok rfl
  have escapedName : escapedText endpoint.context "path_constant_name" =
      .ok endpoint.constantName :=
    escapedText_eq_ok rfl
  have method : shown endpoint.context "http_method" = .ok endpoint.method := shown_eq_ok rfl
  have summary : optionalText endpoint.context "summary" = .ok (endpoint.summary.getD "") :=
    optionalText_eq_ok rfl
  have path : shown endpoint.context "path" = .ok endpoint.path := shown_eq_ok rfl
  have queries : Context.items endpoint.context "query_params" =
      .ok (endpoint.queryParameters.map QueryParameter.context) :=
    items_eq_ok rfl
  have parameters : Context.items endpoint.context "path_params" =
      .ok (endpoint.pathParameters.map PathParameter.context) :=
    items_eq_ok rfl
  have constantName : nameText endpoint.context "path_constant_name" =
      .ok endpoint.constantName :=
    rfl
  unfold Call.ofContext
  rw [bind_eq_of_ok hasId, neededMethod, escapedName, method, summary, path, queries, parameters,
    constantName, bodyOfContext_context]
  simp only [bind, Except.bind, pure, Except.pure, mapM_map_eq_ok Query.ofContext_context,
    mapM_map_eq_ok parameterName_context, mapM_map_eq_ok parameterOfContext_context, ite_self,
    List.map_id']
  rcases Tree.isTruthy_ofText?_cases endpoint.operationId with
    ⟨value, given, truthy⟩ | ⟨empty, falsy⟩
  · have name : nameText endpoint.context "operation_id" = .ok value := by
      unfold nameText
      rw [idThere, given]
      rfl
    rw [if_pos truthy, name]
    simp only [Endpoint.toCall, given, Option.getD_some]
  · rw [if_neg (by simp [falsy])]
    simp only [Endpoint.toCall, empty]

theorem Source.ServiceClass.ofContext_context (service : Service) (settings : Settings) :
    ServiceClass.ofContext (service.context settings) = .ok (service.toServiceClass settings) := by
  have packageName : shown (service.context settings) "package_name" =
      .ok settings.servicePackage :=
    shown_eq_ok rfl
  have constantsPackage : shown (service.context settings) "constants_package" =
      .ok settings.constantsPackage :=
    shown_eq_ok rfl
  have relativeUrls : shown (service.context settings) "relative_urls_class" =
      .ok OpenApiJava.relativeUrlsClass :=
    shown_eq_ok rfl
  have baseName : shown (service.context settings) "base_name" = .ok service.baseName :=
    shown_eq_ok rfl
  have className : shown (service.context settings) "class_name" = .ok service.className :=
    shown_eq_ok rfl
  have host : escapedText (service.context settings) "host" = .ok service.host :=
    escapedText_eq_ok rfl
  have basePath : escapedText (service.context settings) "base_path" = .ok service.basePath :=
    escapedText_eq_ok rfl
  have operations : Context.items (service.context settings) "operations" =
      .ok (service.endpoints.map Endpoint.context) :=
    items_eq_ok rfl
  unfold ServiceClass.ofContext
  rw [bind_eq_of_ok packageName, bind_eq_of_ok constantsPackage, bind_eq_of_ok relativeUrls,
    bind_eq_of_ok baseName, bind_eq_of_ok className, bind_eq_of_ok host, bind_eq_of_ok basePath,
    bind_eq_of_ok operations, bind_eq_of_ok (mapM_map_eq_ok Call.ofContext_context _)]
  rfl

/-! ## Tables of constants -/

theorem Source.constantOfContext_context {nameOf : Tree → Except ContextFault String}
    (named : ∀ constant : UrlConstant, nameOf constant.context = .ok constant.name)
    (constant : UrlConstant) :
    constantOfContext nameOf constant.context = .ok constant := by
  have description : escapedText constant.context "description" = .ok constant.description :=
    escapedText_eq_ok rfl
  have value : escapedText constant.context "value" = .ok constant.value :=
    escapedText_eq_ok rfl
  unfold constantOfContext
  rw [bind_eq_of_ok description, bind_eq_of_ok (named constant), bind_eq_of_ok value]
  rfl

/-- The list of constants may have any name but those of the package and the class. -/
theorem Source.ConstantsClass.ofContext_context {listName : String}
    {nameOf : Tree → Except ContextFault String} {table : ConstantsClass}
    (named : ∀ constant : UrlConstant, nameOf constant.context = .ok constant.name)
    (listed : (table.context listName).get? listName =
      some (.list (table.constants.map UrlConstant.context))) :
    ConstantsClass.ofContext listName nameOf (table.context listName) = .ok table := by
  have packageName : shown (table.context listName) "package_name" = .ok table.packageName :=
    shown_eq_ok rfl
  have className : shown (table.context listName) "class_name" = .ok table.className :=
    shown_eq_ok rfl
  unfold ConstantsClass.ofContext
  rw [bind_eq_of_ok packageName, bind_eq_of_ok className, bind_eq_of_ok (items_eq_ok listed),
    bind_eq_of_ok (mapM_map_eq_ok (constantOfContext_context named) _), List.map_id']
  rfl

/-! ## Templates -/

namespace Source.Template

theorem render_dataClass (dto : Dto) :
    render .dataClass dto.context = .ok dto.source :=
  bind_eq_of_ok (DataClass.ofContext_context dto)

theorem render_serviceClass (service : Service) (settings : Settings) :
    render .serviceClass (service.context settings) = .ok (service.source settings) :=
  bind_eq_of_ok (ServiceClass.ofContext_context service settings)

theorem render_basePaths (table : ConstantsClass) :
    render .basePaths (table.context "servers") = .ok table.basePathSource :=
  bind_eq_of_ok (ConstantsClass.ofContext_context (fun _ => shown_eq_ok rfl) rfl)

theorem render_relativeUrls (table : ConstantsClass) :
    render .relativeUrls (table.context "paths") = .ok table.relativeUrlSource :=
  bind_eq_of_ok (ConstantsClass.ofContext_context (fun _ => rfl) rfl)

end Source.Template

/-! ## Rendered files -/

theorem Dto.artifact_sheet (settings : Settings) (dto : Dto) :
    (dto.sheet settings).artifact = .ok (dto.artifact settings) :=
  bind_eq_of_ok (Template.render_dataClass dto)

theorem Service.artifact_sheet (settings : Settings) (service : Service) :
    (service.sheet settings).artifact = .ok (service.artifact settings) :=
  bind_eq_of_ok (Template.render_serviceClass service settings)

/-- Sheets are rendered to these artifacts, or there are neither for the same reason. -/
inductive Rendered : Except NoServers (List Sheet) → Except NoServers (List Artifact) → Prop
  | planned {sheets : List Sheet} {artifacts : List Artifact} :
      List.Forall₂ (fun sheet artifact => sheet.artifact = .ok artifact) sheets artifacts →
      Rendered (.ok sheets) (.ok artifacts)
  | unplanned (fault : NoServers) :
      Rendered (.error fault) (.error fault)

theorem Rendered.of_map {α : Type} {sheet : α → Sheet} {artifact : α → Artifact}
    (each : ∀ item, (sheet item).artifact = .ok (artifact item)) (items : List α) :
    Rendered (.ok (items.map sheet)) (.ok (items.map artifact)) := by
  apply Rendered.planned
  rw [List.forall₂_map_left_iff, List.forall₂_map_right_iff, List.forall₂_same]
  exact fun item _ => each item

def Category.batch (document : Document) (settings : Settings) : Category → Batch
  | dtos => .dtos document settings
  | basePaths => .basePaths document settings
  | services => .services document settings
  | relativeUrls => .relativeUrls document settings

theorem Category.rendered (document : Document) (settings : Settings) (category : Category) :
    Rendered (category.sheets document settings) (category.batch document settings).artifacts := by
  cases category with
  | dtos => exact .of_map (Dto.artifact_sheet settings) _
  | basePaths => exact .planned (.cons (bind_eq_of_ok (Template.render_basePaths _)) .nil)
  | services =>
      change Rendered ((Service.ofDocument document).map _) ((Service.ofDocument document).map _)
      cases Service.ofDocument document with
      | error fault => exact .unplanned fault
      | ok services => exact .of_map (Service.artifact_sheet settings) services
  | relativeUrls => exact .planned (.cons (bind_eq_of_ok (Template.render_relativeUrls _)) .nil)

/-! ## Runs from templates -/

namespace Run

variable {document : Document} {settings : Settings}

theorem render_eq {sheet : Sheet} {artifact : Artifact}
    (rendered : sheet.artifact = .ok artifact) (category : Category) (run : Run) :
    render category sheet run = RenderingFault.ofResult (write category artifact run) := by
  unfold render
  rw [rendered]

theorem renderAll_eq {sheets : List Sheet} {artifacts : List Artifact}
    (rendered :
      List.Forall₂ (fun sheet artifact => sheet.artifact = .ok artifact) sheets artifacts)
    (category : Category) (run : Run) :
    renderAll category sheets run = RenderingFault.ofResult (writeAll category artifacts run) := by
  induction rendered generalizing run with
  | nil => rfl
  | cons first _ inductionHypothesis =>
      simp only [renderAll, writeAll, bind, EStateM.bind, render_eq first]
      cases write category _ run with
      | ok _ next => exact inductionHypothesis next
      | error fault next => rfl

theorem renderCategory_eq (category : Category) (run : Run) :
    renderCategory document settings category run =
      RenderingFault.ofResult (perform (category.batch document settings) run) := by
  have sameCategory : (category.batch document settings).category = category := by
    cases category <;> rfl
  have sameNotices :
      (category.batch document settings).notices = category.notices document := by
    cases category <;> rfl
  have rendered := category.rendered document settings
  unfold renderCategory perform
  rw [sameCategory, sameNotices]
  generalize category.sheets document settings = sheets at rendered ⊢
  generalize (category.batch document settings).artifacts = artifacts at rendered ⊢
  cases rendered with
  | planned each => exact renderAll_eq each category _
  | unplanned fault => rfl

theorem renderCategories_eq (categories : List Category) (run : Run) :
    renderCategories document settings categories run =
      RenderingFault.ofResult
        (performAll (categories.map (Category.batch document settings)) run) := by
  induction categories generalizing run with
  | nil => rfl
  | cons category rest inductionHypothesis =>
      simp only [renderCategories, List.map_cons, performAll, bind, EStateM.bind,
        renderCategory_eq]
      cases perform (category.batch document settings) run with
      | ok _ next => exact inductionHypothesis next
      | error fault next => rfl

end Run

/-- No template ever misses a value: a run from templates is the run that writes the sources. -/
theorem generateFromTemplates_eq (document : Document) (settings : Settings)
    (workspace : Workspace) :
    generateFromTemplates document settings workspace =
      RenderingFault.ofResult (generate document settings workspace) :=
  Run.renderCategories_eq Category.all (Run.start workspace)

end OpenApiJava
