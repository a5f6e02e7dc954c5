import OpenApiJava.Source.Template

/-!
# Contexts

Data classes, services and constants as trees of named values, from which templates write their
sources. What is not there is null, and what there may be several of is a list.
-/

namespace OpenApiJava

/-- A text, or null if there is none. -/
def Tree.ofText? : Option String → Tree
  | some value => .text value
  | none => .null

/-- The named values of a type. -/
def JavaType.context (type : JavaType) : Tree :=
  .mapping [
    (.text "type_name", .text type.name),
    (.text "required_imports", .list (type.imports.map fun needed => .text needed.name))]

/-- The named values of a field. -/
def DtoField.context (field : DtoField) : Tree :=
  .mapping [
    (.text "name", .text field.name),
    (.text "base_name", .text field.baseName),
    (.text "description", .ofText? field.description),
    (.text "resolved_type", field.type.context)]

/-- The named values of a data class. -/
def Dto.context (dto : Dto) : Tree :=
  .mapping [
    (.text "package_name", .text dto.packageName),
    (.text "class_name", .text dto.className),
    (.text "description", .ofText? dto.description),
    (.text "is_response_variant", .boolean dto.isResponse),
    (.text "fields", .list (dto.fields.map DtoField.context)),
    (.text "imports", .list (dto.imports.map fun needed => .text needed.name))]

/-- The named values of a path parameter. -/
def PathParameter.context (parameter : PathParameter) : Tree :=
  .mapping [
    (.text "name", .text parameter.name),
    (.text "placeholder_token", .text parameter.token)]

/-- The named values of a query parameter. -/
def QueryParameter.context (parameter : QueryParameter) : Tree :=
  .mapping [
    (.text "name", .text parameter.name),
    (.text "description", .ofText? parameter.description),
    (.text "required", .boolean parameter.required)]

/-- The named values of an endpoint. -/
def Endpoint.context (endpoint : Endpoint) : Tree :=
  .mapping [
    (.text "operation_id", .ofText? endpoint.operationId),
    (.text "summary", .ofText? endpoint.summary),
    (.text "path", .text endpoint.path),
    (.text "http_method", .text endpoint.method),
    (.text "path_constant_name", .text endpoint.constantName),
    (.text "path_params", .list (endpoint.pathParameters.map PathParameter.context)),
    (.text "query_params", .list (endpoint.queryParameters.map QueryParameter.context)),
    (.text "has_request_body", .boolean endpoint.body.isSome),
    (.text "request_body_type_name", .ofText? (endpoint.body.bind BodyType.typeName?)),
    (.text "is_array_request_body", .boolean ((endpoint.body.map BodyType.isList).getD false)),
    (.text "tag", .text endpoint.tag),
    (.text "has_path_params", .boolean (!endpoint.pathParameters.isEmpty)),
    (.text "has_query_params", .boolean (!endpoint.queryParameters.isEmpty))]

/-- The named values of a service, with those that depend on the settings. -/
def Service.context (service : Service) (settings : Settings) : Tree :=
  .mapping [
    (.text "class_name", .text service.className),
    (.text "base_name", .text service.baseName),
    (.text "host", .text service.host),
    (.text "base_path", .text service.basePath),
    (.text "operations", .list (service.endpoints.map Endpoint.context)),
    (.text "package_name", .text settings.servicePackage),
    (.text "constants_package", .text settings.constantsPackage),
    (.text "relative_urls_class", .text relativeUrlsClass)]

/-- The named values of a constant. -/
def UrlConstant.context (constant : UrlConstant) : Tree :=
  .mapping [
    (.text "constant_name", .text constant.name),
    (.text "value", .text constant.value),
    (.text "description", .text constant.description)]

/-- The named values of a class of constants, which are listed under a name. -/
def Source.ConstantsClass.context (listName : String) (table : Source.ConstantsClass) : Tree :=
  .mapping [
    (.text "package_name", .text table.packageName),
    (.text "class_name", .text table.className),
    (.text listName, .list (table.constants.map UrlConstant.context))]

end OpenApiJava
