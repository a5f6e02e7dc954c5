import Mathlib.Data.Finset.Card
import OpenApiJava.Proofs.Writing

/-!
# The plan of a run

What a run writes depends on the document and the settings alone. Each category has a list of
artifacts: one for each variant of each schema, one for each tag in the order in which the tags
first occur, and one for each table of constants.
-/

namespace OpenApiJava

/-! ## Distinct tags -/

theorem mem_distinct {item : String} {items : List String} :
    item ∈ distinct items ↔ item ∈ items := by
  induction items with
  | nil => simp [distinct]
  | cons first rest inductionHypothesis =>
      by_cases same : item = first
      · simp [distinct, same]
      · simp [distinct, same, inductionHypothesis]

theorem nodup_distinct (items : List String) : (distinct items).Nodup := by
  induction items with
  | nil => exact List.nodup_nil
  | cons first rest inductionHypothesis =>
      unfold distinct
      refine List.nodup_cons.mpr ⟨?_, inductionHypothesis.filter _⟩
      simp

theorem length_distinct (items : List String) :
    (distinct items).length = items.toFinset.card := by
  have sameItems : (distinct items).toFinset = items.toFinset := by
    ext item
    simp [mem_distinct]
  rw [← sameItems, List.toFinset_card_of_nodup (nodup_distinct items)]

/-! ## Artifacts by category -/

theorem PathItem.mem_operations_iff {item : PathItem} {method : HttpMethod}
    {operation : Operation} :
    (method, operation) ∈ item.operations ↔ item.operation? method = some operation := by
  have listed : method ∈ HttpMethod.all := by cases method <;> decide
  simp [PathItem.operations, listed]

namespace Document

/-- The calls that a document describes. -/
def endpoints (document : Document) : List Endpoint :=
  Endpoint.ofPaths document.paths

/-- The tags of all calls, as often as they occur. -/
def tags (document : Document) : List String :=
  document.endpoints.map (·.tag)

def serviceOfTag (document : Document) (server : Server) (tag : String) : Service :=
  Service.ofGroup server (tag, document.endpoints.filter (·.tag == tag))

/-- One service for each tag, in the order in which the tags first occur, if there is a server. -/
def services (document : Document) : List Service :=
  match document.servers with
  | [] => []
  | server :: _ => (distinct document.tags).map (document.serviceOfTag server)

theorem mem_services_iff {document : Document} {service : Service} :
    service ∈ document.services ↔
      ∃ server others tag, document.servers = server :: others ∧ tag ∈ document.tags ∧
        service = document.serviceOfTag server tag := by
  unfold services
  cases servers : document.servers with
  | nil => simp
  | cons server others =>
      simp only [List.mem_map, mem_distinct]
      constructor
      · rintro ⟨tag, isTag, rfl⟩
        exact ⟨server, others, tag, rfl, isTag, rfl⟩
      · rintro ⟨_, _, tag, same, isTag, rfl⟩
        obtain ⟨rfl, _⟩ := List.cons.inj same
        exact ⟨tag, isTag, rfl⟩

/-- The calls are those of the operations of all paths. -/
theorem mem_endpoints_iff {document : Document} {endpoint : Endpoint} :
    endpoint ∈ document.endpoints ↔
      ∃ path item method operation, (path, item) ∈ document.paths ∧
        item.operation? method = some operation ∧
        endpoint = Endpoint.ofOperation operation path method.name := by
  constructor
  · intro member
    obtain ⟨⟨path, item⟩, inPaths, inItem⟩ := List.mem_flatMap.mp member
    obtain ⟨⟨method, operation⟩, inOperations, rfl⟩ := List.mem_map.mp inItem
    exact ⟨path, item, method, operation, inPaths, PathItem.mem_operations_iff.mp inOperations, rfl⟩
  · rintro ⟨path, item, method, operation, inPaths, there, rfl⟩
    refine List.mem_flatMap.mpr ⟨(path, item), inPaths, ?_⟩
    exact List.mem_map_of_mem (f := fun entry : HttpMethod × Operation =>
      Endpoint.ofOperation entry.2 path entry.1.name) (PathItem.mem_operations_iff.mpr there)

end Document

theorem Service.groups_eq (endpoints : List Endpoint) :
    Service.groups endpoints =
      (distinct (endpoints.map (·.tag))).map fun tag =>
        (tag, endpoints.filter (·.tag == tag)) :=
  rfl

theorem Service.groups_ne_nil {endpoints : List Endpoint} (some : endpoints ≠ []) :
    Service.groups endpoints ≠ [] := by
  cases endpoints with
  | nil => exact absurd rfl some
  | cons endpoint rest => simp [Service.groups_eq, distinct]

theorem Service.aggregate_nil {endpoints : List Endpoint} (some : endpoints ≠ []) :
    Service.aggregate endpoints [] = .error {} := by
  unfold Service.aggregate
  cases grouped : Service.groups endpoints with
  | nil => exact absurd grouped (Service.groups_ne_nil some)
  | cons group rest => rfl

theorem Service.aggregate_cons (endpoints : List Endpoint) (server : Server)
    (others : List Server) :
    Service.aggregate endpoints (server :: others) =
      .ok ((Service.groups endpoints).map (Service.ofGroup server)) := by
  unfold Service.aggregate
  cases Service.groups endpoints with
  | nil => rfl
  | cons group rest => rfl

/-- Services need a server as soon as there is a call. -/
theorem Service.ofDocument_cases (document : Document) :
    document.servers = [] ∧ document.endpoints ≠ [] ∧ Service.ofDocument document = .error {} ∨
      (document.servers = [] → document.endpoints = []) ∧
        Service.ofDocument document = .ok document.services := by
  unfold Service.ofDocument Document.services
  change _ ∨ _ ∧ Service.aggregate document.endpoints document.servers = _
  cases servers : document.servers with
  | nil =>
      by_cases none : document.endpoints = []
      · refine Or.inr ⟨fun _ => none, ?_⟩
        rw [none]
        rfl
      · exact Or.inl ⟨rfl, none, Service.aggregate_nil none⟩
  | cons server others =>
      refine Or.inr ⟨by simp, ?_⟩
      rw [Service.aggregate_cons, Service.groups_eq, List.map_map]
      rfl

namespace Category

/-- What is to be written in a category. -/
def artifacts (document : Document) (settings : Settings) : Category → List Artifact
  | dtos => (Dto.ofSchemas document.schemas settings).map (Dto.artifact settings)
  | basePaths => [
      ⟨settings.classFile settings.constantsPackage basePathsClass,
        basePathsSource document settings⟩]
  | services => document.services.map (Service.artifact settings)
  | relativeUrls => [
      ⟨settings.classFile settings.constantsPackage relativeUrlsClass,
        relativeUrlsSource document settings⟩]

def paths (document : Document) (settings : Settings) (category : Category) : List FilePath :=
  (category.artifacts document settings).map (·.path)

end Category

/-- Everything that is to be written, in order. -/
def plannedArtifacts (document : Document) (settings : Settings) : List Artifact :=
  Category.all.flatMap (Category.artifacts document settings)

/-- The artifacts of a batch. There are none if they cannot be planned. -/
def Batch.planned (batch : Batch) : List Artifact :=
  match batch.artifacts with
  | .ok artifacts => artifacts
  | .error _ => []

theorem Batch.planned_eq_of_ok {batch : Batch} {artifacts : List Artifact}
    (planned : batch.artifacts = .ok artifacts) :
    batch.planned = artifacts := by
  unfold Batch.planned
  rw [planned]

theorem Batch.planned_services (document : Document) (settings : Settings) :
    (Batch.services document settings).planned = Category.services.artifacts document settings := by
  unfold Batch.planned Batch.services Category.artifacts
  rcases Service.ofDocument_cases document with ⟨noServer, _, failed⟩ | ⟨_, planned⟩
  · simp [failed, Document.services, noServer, Except.map]
  · simp [planned, Except.map]

/-- The batches of a plan are the categories in order, each with its artifacts. -/
theorem Batch.plan_eq (document : Document) (settings : Settings) :
    (Batch.plan document settings).map (fun batch => (batch.category, batch.planned)) =
      Category.all.map fun category => (category, category.artifacts document settings) := by
  simp only [Batch.plan, Category.all, List.map_cons, List.map_nil, Batch.planned_services]
  rfl

theorem Batch.map_category_plan (document : Document) (settings : Settings) :
    (Batch.plan document settings).map (·.category) = Category.all :=
  rfl

theorem Batch.planned_of_mem_plan {document : Document} {settings : Settings} {batch : Batch}
    (member : batch ∈ Batch.plan document settings) :
    batch.planned = batch.category.artifacts document settings := by
  have listed : (batch.category, batch.planned) ∈
      (Batch.plan document settings).map fun batch => (batch.category, batch.planned) :=
    List.mem_map_of_mem (f := fun batch : Batch => (batch.category, batch.planned)) member
  rw [Batch.plan_eq] at listed
  obtain ⟨category, _, same⟩ := List.mem_map.mp listed
  obtain ⟨sameCategory, samePlanned⟩ := Prod.mk.inj same
  rw [← samePlanned, sameCategory]

/-- Only the services may fail to be planned, and only where calls have no server. -/
theorem Batch.eq_services_of_unplanned {document : Document} {settings : Settings} {batch : Batch}
    (member : batch ∈ Batch.plan document settings) {fault : NoServers}
    (unplanned : batch.artifacts = .error fault) :
    batch.category = .services ∧ document.servers = [] ∧ document.endpoints ≠ [] := by
  simp only [Batch.plan, List.mem_cons, List.not_mem_nil, or_false] at member
  rcases member with rfl | rfl | rfl | rfl
  · cases unplanned
  · cases unplanned
  · rcases Service.ofDocument_cases document with ⟨noServer, some, _⟩ | ⟨_, planned⟩
    · exact ⟨rfl, noServer, some⟩
    · simp [Batch.services, planned, Except.map] at unplanned
  · cases unplanned

/-! ## The size of a plan -/

theorem Dto.length_variants (name : String) :
    (Dto.variants name).length = if isResponseName name then 1 else 2 := by
  unfold Dto.variants
  split <;> rfl

/-- A schema has one class if its name says that it is a response, and otherwise two. -/
theorem Category.length_dtos (document : Document) (settings : Settings) :
    (Category.dtos.artifacts document settings).length =
      2 * document.schemas.countP (fun entry => !isResponseName entry.1) +
        document.schemas.countP fun entry => isResponseName entry.1 := by
  simp only [Category.artifacts, Dto.ofSchemas, List.length_map]
  induction document.schemas with
  | nil => rfl
  | cons entry rest inductionHypothesis =>
      rw [List.flatMap_cons, List.length_append, inductionHypothesis, List.length_map,
        Dto.length_variants, List.countP_cons, List.countP_cons]
      cases isResponseName entry.1 with
      | false =>
          simp only [Bool.not_false, if_true, Bool.false_eq_true, if_false]
          omega
      | true =>
          simp only [Bool.not_true, if_true, Bool.false_eq_true, if_false]
          omega

/-- There are as many services as different tags. -/
theorem Category.length_services {document : Document} (settings : Settings)
    (served : document.servers = [] → document.endpoints = []) :
    (Category.services.artifacts document settings).length = document.tags.toFinset.card := by
  unfold Category.artifacts Document.services
  cases servers : document.servers with
  | nil => simp [Document.tags, served servers]
  | cons server others => simp [length_distinct]

end OpenApiJava
