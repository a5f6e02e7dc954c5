import OpenApiJava.Proofs.Completion
import OpenApiJava.Proofs.Rendering

/-!
# Missing servers

Where every file can be written, one thing still stops a run: services need a server as soon as
there is an operation. Main statement: nothing else does, and no template ever misses a value.
-/

namespace OpenApiJava

open OpenApiJava.Source

/-! ## Operations -/

namespace Document

/-- Some path has an operation of one of the four methods. -/
def HasOperation (document : Document) : Prop :=
  ∃ path item method operation,
    (path, item) ∈ document.paths ∧ item.operation? method = some operation

theorem endpoints_ne_nil_iff {document : Document} :
    document.endpoints ≠ [] ↔ document.HasOperation := by
  constructor
  · intro nonempty
    obtain ⟨endpoint, member⟩ := List.exists_mem_of_ne_nil document.endpoints nonempty
    obtain ⟨path, item, method, operation, inPaths, there, _⟩ := mem_endpoints_iff.mp member
    exact ⟨path, item, method, operation, inPaths, there⟩
  · rintro ⟨path, item, method, operation, inPaths, there⟩
    exact List.ne_nil_of_mem
      (mem_endpoints_iff.mpr ⟨path, item, method, operation, inPaths, there, rfl⟩)

end Document

/-! ## Runs whose files can be written -/

/-- Every artifact can be written once those in front of it are. -/
def Workspace.takesAll : Workspace → List Artifact → Bool
  | _, [] => true
  | workspace, artifact :: rest =>
      match (artifact.write workspace).result with
      | .ok _ changed => changed.takesAll rest
      | .error _ _ => false

namespace Batch

/-- The fault of a batch that cannot be planned. -/
def fault? (batch : Batch) : Option GenerationFault :=
  (faultOf? batch.artifacts).map fun fault => ⟨batch.category, .noServers fault⟩

/-- The artifacts that a run sets out to write: those of the batches in front of the first that
cannot be planned. -/
def attempted : List Batch → List Artifact
  | [] => []
  | batch :: rest =>
      match batch.artifacts with
      | .ok artifacts => artifacts ++ attempted rest
      | .error _ => []

/-- Services without a server are the only batch of a plan that cannot be planned. -/
theorem findSome?_fault?_plan (document : Document) (settings : Settings) :
    (document.HasOperation ∧ document.servers = [] ∧
      (plan document settings).findSome? fault? = some ⟨.services, .noServers {}⟩) ∨
    (¬ (document.HasOperation ∧ document.servers = []) ∧
      (plan document settings).findSome? fault? = none) := by
  have onlyServices : (plan document settings).findSome? fault? =
      (services document settings).fault? := by
    have dtosPlanned : (dtos document settings).fault? = none := rfl
    have basePathsPlanned : (basePaths document settings).fault? = none := rfl
    have relativeUrlsPlanned : (relativeUrls document settings).fault? = none := rfl
    simp only [plan, findSome?_cons_or, List.findSome?_nil, dtosPlanned, basePathsPlanned,
      relativeUrlsPlanned, Option.none_or, Option.or_none]
  rw [onlyServices]
  unfold fault? services
  rcases Service.ofDocument_cases document with ⟨noServer, some, failed⟩ | ⟨served, planned⟩
  · rw [failed]
    exact Or.inl ⟨Document.endpoints_ne_nil_iff.mp some, noServer, rfl⟩
  · rw [planned]
    refine Or.inr ⟨?_, rfl⟩
    rintro ⟨hasOperation, noServer⟩
    exact Document.endpoints_ne_nil_iff.mpr hasOperation (served noServer)

end Batch

namespace Run

variable {run : Run}

theorem exists_write_eq_ok (category : Category) {artifact : Artifact} {rest : List Artifact}
    (takes : run.workspace.takesAll (artifact :: rest) = true) :
    ∃ final, write category artifact run = .ok () final ∧
      final.workspace.takesAll rest = true := by
  unfold Workspace.takesAll at takes
  cases written : (artifact.write run.workspace).result with
  | error fault changed =>
      rw [written] at takes
      cases takes
  | ok isNew changed =>
      rw [written] at takes
      simp only [write, written]
      exact ⟨_, rfl, takes⟩

theorem exists_writeAll_eq_ok (category : Category) {artifacts later : List Artifact}
    (takes : run.workspace.takesAll (artifacts ++ later) = true) :
    ∃ final, writeAll category artifacts run = .ok () final ∧
      final.workspace.takesAll later = true := by
  induction artifacts generalizing run with
  | nil => exact ⟨run, rfl, takes⟩
  | cons artifact rest inductionHypothesis =>
      obtain ⟨next, first, takesRest⟩ := exists_write_eq_ok category takes
      obtain ⟨final, others, takesLater⟩ := inductionHypothesis takesRest
      refine ⟨final, ?_, takesLater⟩
      simp only [writeAll, bind, EStateM.bind, first]
      exact others

theorem exists_perform_eq_ok {batch : Batch} {artifacts later : List Artifact}
    (planned : batch.artifacts = .ok artifacts)
    (takes : run.workspace.takesAll (artifacts ++ later) = true) :
    ∃ final, perform batch run = .ok () final ∧ final.workspace.takesAll later = true := by
  unfold perform
  rw [planned]
  exact exists_writeAll_eq_ok batch.category takes

/-- A run whose files can be written only stops at a batch that cannot be planned. -/
theorem fault?_performAll {batches : List Batch}
    (takes : run.workspace.takesAll (Batch.attempted batches) = true) :
    fault? (performAll batches run) = batches.findSome? Batch.fault? := by
  induction batches generalizing run with
  | nil => rfl
  | cons batch rest inductionHypothesis =>
      unfold Batch.attempted at takes
      simp only [performAll, bind, EStateM.bind, List.findSome?_cons, Batch.fault?]
      cases planned : batch.artifacts with
      | error fault =>
          unfold perform
          rw [planned]
          rfl
      | ok artifacts =>
          rw [planned] at takes
          obtain ⟨next, written, takesRest⟩ := exists_perform_eq_ok planned takes
          rw [written]
          exact inductionHypothesis takesRest

end Run

/-- Where every file can be written, a run from templates stops exactly if there is an operation and
no server, and then at the services. It is the run that writes the sources, since every template
finds all the values that it uses. -/
theorem generateFromTemplates_fails_iff :
    (∀ (document : Document) (settings : Settings) (workspace : Workspace),
      workspace.takesAll (Batch.attempted (Batch.plan document settings)) = true →
      ((∃ fault run, generateFromTemplates document settings workspace = .error fault run) ↔
          document.HasOperation ∧ document.servers = []) ∧
        ∀ fault run, generateFromTemplates document settings workspace = .error fault run →
          fault = .generation ⟨.services, .noServers {}⟩) ∧
      (∀ (document : Document) (settings : Settings) (workspace : Workspace),
        generateFromTemplates document settings workspace =
          RenderingFault.ofResult (generate document settings workspace)) ∧
      (∀ dto : Dto, Template.render .dataClass dto.context = .ok dto.source) ∧
      (∀ (service : Service) (settings : Settings),
        Template.render .serviceClass (service.context settings) =
          .ok (service.source settings)) ∧
      ∀ table : ConstantsClass,
        Template.render .basePaths (table.context "servers") = .ok table.basePathSource ∧
          Template.render .relativeUrls (table.context "paths") = .ok table.relativeUrlSource := by
  refine ⟨?_, generateFromTemplates_eq, Template.render_dataClass, Template.render_serviceClass,
    fun table => ⟨Template.render_basePaths table, Template.render_relativeUrls table⟩⟩
  intro document settings workspace takes
  have ends : Run.fault? (generate document settings workspace) = _ :=
    Run.fault?_performAll takes
  rw [generateFromTemplates_eq]
  rcases Batch.findSome?_fault?_plan document settings with
    ⟨hasOperation, noServer, failed⟩ | ⟨served, planned⟩
  · rw [failed] at ends
    obtain ⟨run, stopped⟩ := Run.exists_of_fault?_eq_some ends
    rw [stopped]
    refine ⟨⟨fun _ => ⟨hasOperation, noServer⟩, fun _ => ⟨_, run, rfl⟩⟩, ?_⟩
    intro fault other same
    cases same
    rfl
  · rw [planned] at ends
    obtain ⟨run, ended⟩ := Run.exists_of_fault?_eq_none ends
    rw [ended]
    refine ⟨⟨?_, fun missing => absurd missing served⟩, ?_⟩
    · rintro ⟨fault, other, same⟩
      cases same
    · intro fault other same
      cases same

/-- The pet shop has operations, so that it stops without a server and ends with one. -/
theorem petShop_needs_server :
    (∃ run, generateFromTemplates { petShop with servers := [] } petSettings petWorkspace =
        .error (.generation ⟨.services, .noServers {}⟩) run) ∧
      ∃ run, generateFromTemplates petShop petSettings petWorkspace = .ok () run := by
  have hasOperation : ({ petShop with servers := [] } : Document).HasOperation :=
    ⟨"/pets", _, .get, _, List.mem_cons_self, rfl⟩
  constructor
  · obtain ⟨fails, cause⟩ :=
      generateFromTemplates_fails_iff.1 { petShop with servers := [] } petSettings petWorkspace
        (by decide +kernel)
    obtain ⟨fault, run, stopped⟩ := fails.mpr ⟨hasOperation, rfl⟩
    rw [cause fault run stopped] at stopped
    exact ⟨run, stopped⟩
  · obtain ⟨fails, _⟩ :=
      generateFromTemplates_fails_iff.1 petShop petSettings petWorkspace (by decide +kernel)
    cases result : generateFromTemplates petShop petSettings petWorkspace with
    | ok _ run => exact ⟨run, rfl⟩
    | error fault run =>
        have noServer := (fails.mp ⟨fault, run, result⟩).2
        cases noServer

end OpenApiJava
