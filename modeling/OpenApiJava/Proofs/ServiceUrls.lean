import OpenApiJava.Proofs.Completion
import OpenApiJava.Rendering

/-!
# URLs of services

A service takes the path of each of its calls from the table of relative URLs, by the identifier of
a constant, and puts its host and its base path in front. Main statement: the table has this
constant with the path of the call, and the three parts make up the URL of the first server with the
path behind it.
-/

namespace OpenApiJava

open OpenApiJava.Source OpenApiJava.Java

/-! ## Cutting a URL -/

theorem ServerUrl.splitChars_append (url : List Char) :
    (splitChars url).1 ++ (splitChars url).2 = url := by
  simp only [splitChars, List.append_assoc]
  rw [List.takeWhile_append_dropWhile, List.take_append_drop]

/-- The host and the base path of a URL make it up. -/
theorem ServerUrl.split_append (url : String) :
    (split url).1 ++ (split url).2 = url := by
  simp only [split]
  rw [← String.ofList_append, splitChars_append, String.ofList_toList]

/-! ## The services of a document -/

namespace Document

variable {document : Document} {server : Server} {others : List Server} {service : Service}

theorem ofDocument_eq_services (served : document.servers = server :: others) :
    Service.ofDocument document = .ok document.services := by
  rcases Service.ofDocument_cases document with ⟨noServer, _⟩ | ⟨_, planned⟩
  · rw [served] at noServer
    cases noServer
  · exact planned

/-- All services have the host and the base path of the first server. -/
theorem host_basePath_of_mem_services (served : document.servers = server :: others)
    (member : service ∈ document.services) :
    service.host = (ServerUrl.split server.url).1 ∧
      service.basePath = (ServerUrl.split server.url).2 := by
  obtain ⟨first, _, tag, isFirst, _, rfl⟩ := mem_services_iff.mp member
  obtain ⟨rfl, _⟩ := List.cons.inj (served.symm.trans isFirst)
  exact ⟨rfl, rfl⟩

theorem mem_endpoints_of_mem_services (member : service ∈ document.services) {endpoint : Endpoint}
    (offered : endpoint ∈ service.endpoints) :
    endpoint ∈ document.endpoints := by
  obtain ⟨_, _, tag, _, _, rfl⟩ := mem_services_iff.mp member
  exact (List.mem_filter.mp offered).1

/-- The path of every call has a constant, whose name is the one that the call goes by. -/
theorem exists_constant_of_mem_endpoints {endpoint : Endpoint}
    (member : endpoint ∈ document.endpoints) :
    ∃ constant ∈ UrlConstant.ofPaths document.paths,
      constant.name = endpoint.constantName ∧ constant.value = endpoint.path := by
  obtain ⟨path, item, method, operation, inPaths, _, rfl⟩ := mem_endpoints_iff.mp member
  have listed : UrlConstant.ofPath path item ∈ UrlConstant.ofPaths document.paths :=
    List.mem_map.mpr ⟨(path, item), inPaths, rfl⟩
  exact ⟨_, listed, rfl, rfl⟩

end Document

/-! ## The line with the path of a call -/

theorem Text.startsWith_append (front first rest : String) :
    startsWith front (first ++ rest) =
      front.toList.isPrefixOf (first.toList ++ rest.toList) := by
  unfold startsWith
  rw [String.toList_append]

theorem isInfix_flatMap {α β : Type} (inner : α → List β) {items : List α} {item : α}
    (member : item ∈ items) :
    inner item <:+: items.flatMap inner := by
  obtain ⟨before, after, rfl⟩ := List.append_of_mem member
  rw [List.flatMap_append, List.flatMap_cons, ← List.append_assoc]
  exact List.infix_append _ _ _

namespace Source

theorem filter_map_startsWith {α : Type} {front : String} {line : α → String} {items : List α}
    (other : ∀ item, Text.startsWith front (line item) = false) :
    (items.map line).filter (Text.startsWith front) = [] := by
  rw [List.filter_eq_nil_iff]
  intro text member
  obtain ⟨item, _, rfl⟩ := List.mem_map.mp member
  rw [other item]
  exact Bool.false_ne_true

namespace Call

/-- What the line starts with that takes the path of a call. -/
def pathLineFront : String := "        String path = "

/-- The line that takes the path of a call from a constant of a class. -/
def pathLine (className name : String) : String :=
  pathLineFront ++ className ++ "." ++ name ++ ";"

theorem filter_queries {front : String}
    (other : ∀ rest, Text.startsWith front ("     * Query parameter " ++ rest) = false)
    (call : Call) :
    (call.queries.map Query.line).filter (Text.startsWith front) = [] := by
  apply filter_map_startsWith
  intro query
  unfold Query.line
  simp only [String.append_assoc]
  exact other _

theorem filter_replacements {front : String}
    (other : ∀ rest, Text.startsWith front ("        path = path.replace(\"" ++ rest) = false)
    (call : Call) :
    (call.parameters.map replacementLine).filter (Text.startsWith front) = [] := by
  apply filter_map_startsWith
  intro parameter
  unfold replacementLine
  simp only [String.append_assoc]
  exact other _

/-- A call has one line that takes its path. -/
theorem filter_lines (className : String) (call : Call) :
    (call.lines className).filter (Text.startsWith pathLineFront) =
      [pathLine className (identifier call.constantName)] := by
  have noQuery : (call.queries.map Query.line).filter (Text.startsWith pathLineFront) = [] := by
    apply filter_queries
    intro rest
    rw [Text.startsWith_append]
    rfl
  have noReplacement :
      (call.parameters.map replacementLine).filter (Text.startsWith pathLineFront) = [] := by
    apply filter_replacements
    intro rest
    rw [Text.startsWith_append]
    rfl
  unfold lines
  simp only [List.filter_append, noQuery, noReplacement, String.append_assoc, List.append_nil]
  cases call.body with
  | none => simp [pathLine, pathLineFront, Text.startsWith, String.append_assoc]
  | some body => simp [pathLine, pathLineFront, Text.startsWith, String.append_assoc]

end Call

/-- The lines of a call stand together in the service class. -/
theorem ServiceClass.lines_isInfix {service : ServiceClass} {call : Call}
    (member : call ∈ service.calls) :
    call.lines service.relativeUrlsClass <:+: service.lines := by
  unfold lines
  exact (isInfix_flatMap (Call.lines service.relativeUrlsClass) member).trans
    (List.infix_append _ _ _)

/-- The lines of a constant stand together in the class of constants. -/
theorem ConstantsClass.lines_isInfix {table : ConstantsClass} {constant : UrlConstant}
    (member : constant ∈ table.constants) (headline : String) (naming : String → String) :
    constantLines (naming constant.name) constant <:+: table.lines headline naming := by
  have block :=
    isInfix_flatMap (fun constant => constantLines (naming constant.name) constant) member
  unfold lines
  exact block.trans (List.infix_append _ _ _)

end Source

/-! ## The constant of a call -/

/-- Where names do not repeat, an item has its name alone. -/
theorem not_mem_map_of_nodup {α β : Type} {name : α → β} {before after : List α} {item : α}
    (distinct : ((before ++ item :: after).map name).Nodup) :
    name item ∉ (before ++ after).map name := by
  rw [List.map_append, List.map_cons, List.nodup_middle, List.nodup_cons] at distinct
  rw [List.map_append]
  exact distinct.1

/-- Every call takes its path from a constant of the table of relative URLs, the only one of its
identifier where identifiers do not repeat, and its URL is that of the first server with the path
behind it. -/
theorem services_match_constants (document : Document) (settings : Settings) (server : Server)
    (others : List Server) (served : document.servers = server :: others) :
    ∃ services, Service.ofDocument document = .ok services ∧
      ∀ service ∈ services,
        (∃ first rest, UrlConstant.ofServers document.servers = first :: rest ∧
          service.basePath = first.value) ∧
        ∀ endpoint ∈ service.endpoints,
          endpoint.toCall.lines relativeUrlsClass <:+:
              (service.toServiceClass settings).lines ∧
            ∃ before constant after name,
              UrlConstant.ofPaths document.paths = before ++ constant :: after ∧
                constantLines name constant <:+:
                  (relativeUrlsTable document settings).lines
                    "Relative URLs of the API paths." identifier ∧
                (endpoint.toCall.lines relativeUrlsClass).filter
                    (Text.startsWith Call.pathLineFront) =
                  [Call.pathLine relativeUrlsClass name] ∧
                name = identifier endpoint.constantName ∧
                name = identifier constant.name ∧
                constant.value = endpoint.path ∧
                (((UrlConstant.ofPaths document.paths).map fun other =>
                    identifier other.name).Nodup →
                  ∀ other ∈ before ++ after, identifier other.name ≠ name) ∧
                service.host ++ service.basePath ++ constant.value =
                  server.url ++ endpoint.path := by
  refine ⟨document.services, Document.ofDocument_eq_services served, ?_⟩
  intro service member
  obtain ⟨host, basePath⟩ := Document.host_basePath_of_mem_services served member
  constructor
  · refine
      ⟨UrlConstant.ofServer 0 server, UrlConstant.ofServersFrom 1 others, ?_, basePath⟩
    rw [served]
    rfl
  intro endpoint offered
  have inCalls : endpoint.toCall ∈ (service.toServiceClass settings).calls :=
    List.mem_map_of_mem offered
  have block := ServiceClass.lines_isInfix inCalls
  obtain ⟨constant, inTable, sameName, sameValue⟩ :=
    Document.exists_constant_of_mem_endpoints
      (Document.mem_endpoints_of_mem_services member offered)
  have listed : constant ∈ (relativeUrlsTable document settings).constants := inTable
  have declared :=
    ConstantsClass.lines_isInfix listed "Relative URLs of the API paths." identifier
  obtain ⟨before, after, split⟩ := List.append_of_mem inTable
  refine ⟨block, before, constant, after, identifier constant.name, split, declared, ?_, ?_,
    rfl, sameValue, ?_, ?_⟩
  · rw [Call.filter_lines, sameName]
    rfl
  · rw [sameName]
  · intro distinct other elsewhere same
    rw [split] at distinct
    apply not_mem_map_of_nodup distinct
    exact List.mem_map.mpr ⟨other, elsewhere, same⟩
  · rw [host, basePath, ServerUrl.split_append, sameValue]

/-- The shops of the pet shop are found behind the URL of its server. -/
theorem petShop_serves_shops :
    ∃ before constant after,
      UrlConstant.ofPaths petShop.paths = before ++ constant :: after ∧
        identifier constant.name = "SHOPS" ∧
        (∀ other ∈ before ++ after, identifier other.name ≠ "SHOPS") ∧
        petService.host ++ petService.basePath ++ constant.value =
          "https://pets.example/v1/shops" := by
  have served : petShop.servers = [petServer] := rfl
  obtain ⟨services, built, each⟩ := services_match_constants petShop petSettings petServer [] served
  rw [Document.ofDocument_eq_services served] at built
  cases built
  have isService : petService ∈ petShop.services := by
    rw [services_petShop]
    exact List.mem_cons_of_mem _ List.mem_cons_self
  have offered : petService.endpoints.map (fun endpoint =>
      (identifier endpoint.constantName, endpoint.path)) = [("SHOPS", "/shops")] := by
    decide +kernel
  obtain ⟨endpoint, isOffered, named⟩ :
      ∃ endpoint ∈ petService.endpoints,
        (identifier endpoint.constantName, endpoint.path) = ("SHOPS", "/shops") := by
    rw [← List.mem_map, offered]
    exact List.mem_cons_self
  obtain ⟨identifierName, samePath⟩ := Prod.mk.inj named
  obtain ⟨_, before, constant, after, name, split, _, _, isCallName, isName, _, alone, url⟩ :=
    (each petService isService).2 endpoint isOffered
  rw [isCallName, identifierName] at isName alone
  refine ⟨before, constant, after, split, isName.symm, alone (by decide +kernel), ?_⟩
  rw [url, samePath]
  rfl

end OpenApiJava
