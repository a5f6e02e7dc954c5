import OpenApiJava.Proofs.Completion

/-!
# New files

A run writes its artifacts one after the other, and each of them is new or not at that moment. Main
statement: a run that ends has written its plan in such a chain, and it reports as created the
artifacts that were new.
-/

namespace OpenApiJava

/-! ## Chains of writes -/

/-- Artifacts are written one after the other, each with the answer whether it was new. -/
inductive Workspace.Writes : Workspace → List (Artifact × Bool) → Workspace → Prop
  | nil (workspace : Workspace) :
      Writes workspace [] workspace
  | cons {earlier next later : Workspace} {artifact : Artifact} {isNew : Bool}
      {rest : List (Artifact × Bool)} :
      (artifact.write earlier).result = .ok isNew next →
      Writes next rest later →
      Writes earlier ((artifact, isNew) :: rest) later

def newPaths (entries : List (Artifact × Bool)) : List FilePath :=
  (entries.filter Prod.snd).map fun entry => entry.1.path

theorem newPaths_append (entries more : List (Artifact × Bool)) :
    newPaths (entries ++ more) = newPaths entries ++ newPaths more := by
  simp only [newPaths, List.filter_append, List.map_append]

namespace Workspace.Writes

variable {first second third : Workspace} {entries more : List (Artifact × Bool)}

theorem append (writes : first.Writes entries second) (writesMore : second.Writes more third) :
    first.Writes (entries ++ more) third := by
  induction writes with
  | nil => exact writesMore
  | cons written _ inductionHypothesis => exact .cons written (inductionHypothesis writesMore)

theorem wrote (writes : first.Writes entries second) :
    first.Wrote (entries.map Prod.fst) second := by
  induction writes with
  | nil workspace => exact Wrote.of_grows (Grows.refl workspace)
  | cons written _ inductionHypothesis =>
      exact (Artifact.wrote_of_write written).append inductionHypothesis

end Workspace.Writes

/-! ## Runs as chains -/

namespace Run

/-- A run has gone on by a chain of writes and reported what was new. -/
structure Traced (before : Run) (entries : List (Artifact × Bool)) (after : Run) : Prop where
  writes : before.workspace.Writes entries after.workspace
  created_eq : after.report.created = before.report.created ++ newPaths entries

theorem Traced.nothing (run : Run) : run.Traced [] run where
  writes := .nil run.workspace
  created_eq := (List.append_nil _).symm

theorem Traced.append {first second third : Run} {entries more : List (Artifact × Bool)}
    (traced : first.Traced entries second) (tracedMore : second.Traced more third) :
    first.Traced (entries ++ more) third where
  writes := traced.writes.append tracedMore.writes
  created_eq := by
    rw [tracedMore.created_eq, traced.created_eq, newPaths_append, List.append_assoc]

variable {category : Category} {run final : Run}

theorem exists_traced_of_write {artifact : Artifact}
    (ended : write category artifact run = .ok () final) :
    ∃ isNew, run.Traced [(artifact, isNew)] final := by
  unfold write at ended
  simp only at ended
  split at ended
  · rename_i isNew changed written
    cases ended
    refine ⟨isNew, .cons written (.nil changed), ?_⟩
    cases isNew with
    | false => exact (List.append_nil _).symm
    | true => rfl
  · cases ended

theorem exists_traced_of_writeAll {artifacts : List Artifact}
    (ended : writeAll category artifacts run = .ok () final) :
    ∃ entries, entries.map Prod.fst = artifacts ∧ run.Traced entries final := by
  induction artifacts generalizing run with
  | nil =>
      cases ended
      exact ⟨[], rfl, Traced.nothing final⟩
  | cons artifact rest inductionHypothesis =>
      simp only [writeAll, bind, EStateM.bind] at ended
      split at ended
      · rename_i next first
        obtain ⟨isNew, traced⟩ := exists_traced_of_write first
        obtain ⟨entries, rfl, tracedRest⟩ := inductionHypothesis ended
        exact ⟨(artifact, isNew) :: entries, rfl, traced.append tracedRest⟩
      · cases ended

theorem exists_traced_of_perform {batch : Batch} (ended : perform batch run = .ok () final) :
    ∃ entries, entries.map Prod.fst = batch.planned ∧ run.Traced entries final := by
  unfold perform at ended
  simp only at ended
  split at ended
  · rename_i artifacts planned
    rw [Batch.planned_eq_of_ok planned]
    obtain ⟨entries, same, traced⟩ := exists_traced_of_writeAll ended
    exact ⟨entries, same, traced.writes, traced.created_eq⟩
  · cases ended

theorem exists_traced_of_performAll {batches : List Batch}
    (ended : performAll batches run = .ok () final) :
    ∃ entries, entries.map Prod.fst = batches.flatMap Batch.planned ∧ run.Traced entries final := by
  induction batches generalizing run with
  | nil =>
      cases ended
      exact ⟨[], rfl, Traced.nothing final⟩
  | cons batch rest inductionHypothesis =>
      simp only [performAll, bind, EStateM.bind] at ended
      split at ended
      · rename_i next first
        obtain ⟨entries, same, traced⟩ := exists_traced_of_perform first
        obtain ⟨others, sameRest, tracedRest⟩ := inductionHypothesis ended
        refine ⟨entries ++ others, ?_, traced.append tracedRest⟩
        rw [List.map_append, same, sameRest, List.flatMap_cons]
      · cases ended

end Run

/-- A run that ends has written its plan in a chain, and has reported as created what was new. -/
theorem exists_writes_of_generate {document : Document} {settings : Settings}
    {workspace : Workspace} {run : Run}
    (succeeded : generate document settings workspace = .ok () run) :
    ∃ entries, entries.map Prod.fst = plannedArtifacts document settings ∧
      workspace.Writes entries run.workspace ∧
      run.report.created = newPaths entries := by
  obtain ⟨entries, same, traced⟩ := Run.exists_traced_of_performAll succeeded
  rw [flatMap_planned_plan] at same
  exact ⟨entries, same, traced.writes, traced.created_eq⟩

end OpenApiJava
