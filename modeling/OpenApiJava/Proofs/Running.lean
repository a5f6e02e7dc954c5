import OpenApiJava.Proofs.Planning

/-!
# Runs

A run writes its batches in order and reports each artifact under its category. One lemma says what
the writing of an artifact does to a run, and inductions over the artifacts of a batch and over the
batches carry it to whole runs. A run that stops has written all batches before the one that stops
and a front part of that one.
-/

namespace OpenApiJava

/-! ## Reported paths -/

namespace Report

/-- The lists with more paths under a category. -/
def addPaths (category : String) (paths : List FilePath)
    (written : List (String × List FilePath)) : List (String × List FilePath) :=
  paths.foldl (fun lists path => addPath category path lists) written

variable {category : String} {written : List (String × List FilePath)}

theorem addPath_of_not_mem (new : category ∉ written.map Prod.fst) (path : FilePath) :
    addPath category path written = written ++ [(category, [path])] := by
  induction written with
  | nil => rfl
  | cons entry rest inductionHypothesis =>
      obtain ⟨name, paths⟩ := entry
      simp only [List.map_cons, List.mem_cons, not_or] at new
      simp only [addPath, if_neg (Ne.symm new.1), List.cons_append,
        inductionHypothesis new.2]

theorem addPath_append_last (new : category ∉ written.map Prod.fst)
    (paths : List FilePath) (path : FilePath) :
    addPath category path (written ++ [(category, paths)]) =
      written ++ [(category, paths ++ [path])] := by
  induction written with
  | nil => simp [addPath]
  | cons entry rest inductionHypothesis =>
      obtain ⟨name, others⟩ := entry
      simp only [List.map_cons, List.mem_cons, not_or] at new
      simp only [List.cons_append, addPath, if_neg (Ne.symm new.1),
        inductionHypothesis new.2]

theorem addPaths_append_last (new : category ∉ written.map Prod.fst)
    (paths more : List FilePath) :
    addPaths category more (written ++ [(category, paths)]) =
      written ++ [(category, paths ++ more)] := by
  induction more generalizing paths with
  | nil => simp [addPaths]
  | cons path rest inductionHypothesis =>
      calc
        addPaths category (path :: rest) (written ++ [(category, paths)])
            = addPaths category rest
                (addPath category path (written ++ [(category, paths)])) := rfl
        _ = addPaths category rest (written ++ [(category, paths ++ [path])]) := by
            rw [addPath_append_last new]
        _ = written ++ [(category, paths ++ path :: rest)] := by
            rw [inductionHypothesis, List.append_assoc, List.singleton_append]

/-- A category that is new comes last, and only if it has paths. -/
theorem addPaths_of_not_mem (new : category ∉ written.map Prod.fst) (paths : List FilePath) :
    addPaths category paths written =
      written ++ [(category, paths)].filter fun entry => !entry.2.isEmpty := by
  cases paths with
  | nil => simp [addPaths]
  | cons path rest =>
      calc
        addPaths category (path :: rest) written
            = addPaths category rest (addPath category path written) := rfl
        _ = addPaths category rest (written ++ [(category, [path])]) := by
            rw [addPath_of_not_mem new]
        _ = written ++ [(category, path :: rest)] := addPaths_append_last new [path] rest

/-- The lists with more paths under several categories, one after the other. -/
def addAll (written lists : List (String × List FilePath)) : List (String × List FilePath) :=
  lists.foldl (fun before entry => addPaths entry.1 entry.2 before) written

/-- Categories that are new come in their order, those without paths left out. -/
theorem addAll_of_disjoint {lists : List (String × List FilePath)}
    (different : (lists.map Prod.fst).Nodup)
    (new : ∀ name ∈ lists.map Prod.fst, name ∉ written.map Prod.fst) :
    addAll written lists = written ++ lists.filter fun entry => !entry.2.isEmpty := by
  induction lists generalizing written with
  | nil => simp [addAll]
  | cons entry rest inductionHypothesis =>
      obtain ⟨name, paths⟩ := entry
      obtain ⟨first, others⟩ := List.nodup_cons.mp different
      have added := addPaths_of_not_mem (new name List.mem_cons_self) paths
      have stillNew : ∀ other ∈ rest.map Prod.fst,
          other ∉ (addPaths name paths written).map Prod.fst := by
        intro other member
        rw [added, List.map_append, List.mem_append]
        rintro (old | here)
        · exact new other (List.mem_cons_of_mem name member) old
        · have same : other = name := by
            simp only [List.mem_map, List.mem_filter, List.mem_singleton] at here
            obtain ⟨_, ⟨rfl, _⟩, rfl⟩ := here
            rfl
          exact first (same ▸ member)
      calc
        addAll written ((name, paths) :: rest)
            = addAll (addPaths name paths written) rest := rfl
        _ = addPaths name paths written ++ rest.filter fun entry => !entry.2.isEmpty :=
            inductionHypothesis others stillNew
        _ = written ++ ((name, paths) :: rest).filter fun entry => !entry.2.isEmpty := by
            rw [added, List.append_assoc, ← List.filter_append, List.singleton_append]

end Report

/-! ## Batches -/

/-- The paths of a batch under the name of its category. -/
def Batch.listed (batch : Batch) : String × List FilePath :=
  (batch.category.name, batch.planned.map (·.path))

/-- How a batch stops: its artifacts cannot be planned, or one of them cannot be written after those
in front of it. -/
inductive Batch.Stops (batch : Batch) (earlier : Workspace) :
    List Artifact → GenerationFault → Workspace → Prop
  | unplanned {fault : NoServers} :
      batch.artifacts = .error fault →
      batch.Stops earlier [] ⟨batch.category, .noServers fault⟩ earlier
  | unwritten {done rest : List Artifact} {artifact : Artifact}
      {reached later : Workspace} {fault : DiskFault} :
      batch.artifacts = .ok (done ++ artifact :: rest) →
      earlier.Wrote done reached →
      (artifact.write reached).result = .error fault later →
      batch.Stops earlier done ⟨batch.category, .disk fault⟩ later

namespace Batch.Stops

variable {batch : Batch} {earlier later : Workspace} {done : List Artifact}
  {fault : GenerationFault}

theorem category_eq (stops : batch.Stops earlier done fault later) :
    fault.category = batch.category := by
  cases stops <;> rfl

theorem wrote (stops : batch.Stops earlier done fault later) :
    earlier.Wrote done later := by
  cases stops with
  | unplanned => exact Workspace.Wrote.of_grows (Workspace.Grows.refl earlier)
  | unwritten _ wrote failed =>
      simpa using wrote.append (Workspace.Wrote.of_grows (Artifact.grows_of_write_error failed))

theorem isPrefix_planned (stops : batch.Stops earlier done fault later) :
    done <+: batch.planned := by
  cases stops with
  | unplanned => exact List.nil_prefix
  | unwritten planned =>
      rw [Batch.planned_eq_of_ok planned]
      exact List.prefix_append done _

end Batch.Stops

/-! ## Steps of a run -/

namespace Run

/-- The fault that stops a run, if one does. -/
def fault? : EStateM.Result GenerationFault Run Unit → Option GenerationFault
  | .ok _ _ => none
  | .error fault _ => some fault

theorem exists_of_fault?_eq_none {result : EStateM.Result GenerationFault Run Unit}
    (ended : fault? result = none) :
    ∃ run, result = .ok () run := by
  cases result with
  | ok _ run => exact ⟨run, rfl⟩
  | error fault run => cases ended

theorem exists_of_fault?_eq_some {result : EStateM.Result GenerationFault Run Unit}
    {fault : GenerationFault} (stopped : fault? result = some fault) :
    ∃ run, result = .error fault run := by
  cases result with
  | ok _ run => cases stopped
  | error other run =>
      cases stopped
      exact ⟨run, rfl⟩

/-- What a step did that has ended: the artifacts that it wrote, each reported. -/
structure Did (before : Run) (artifacts : List Artifact)
    (lists : List (String × List FilePath)) (after : Run) : Prop where
  wrote : before.workspace.Wrote artifacts after.workspace
  written_eq : after.report.written = Report.addAll before.report.written lists

theorem Did.nothing (run : Run) : run.Did [] [] run where
  wrote := Workspace.Wrote.of_grows (Workspace.Grows.refl run.workspace)
  written_eq := rfl

theorem Did.append {first second third : Run} {artifacts more : List Artifact}
    {lists others : List (String × List FilePath)}
    (did : first.Did artifacts lists second) (didMore : second.Did more others third) :
    first.Did (artifacts ++ more) (lists ++ others) third where
  wrote := did.wrote.append didMore.wrote
  written_eq := by
    rw [didMore.written_eq, did.written_eq, Report.addAll, Report.addAll, Report.addAll,
      List.foldl_append]

variable {category : Category} {run final : Run} {fault : GenerationFault}

theorem did_of_write {artifact : Artifact}
    (ended : write category artifact run = .ok () final) :
    run.Did [artifact] [(category.name, [artifact.path])] final := by
  unfold write at ended
  simp only at ended
  split at ended
  · rename_i isNew changed written
    cases ended
    exact ⟨Artifact.wrote_of_write written, rfl⟩
  · cases ended

theorem exists_fault_of_write {artifact : Artifact}
    (stopped : write category artifact run = .error fault final) :
    ∃ problem, fault = ⟨category, .disk problem⟩ ∧
      (artifact.write run.workspace).result = .error problem final.workspace := by
  unfold write at stopped
  simp only at stopped
  split at stopped
  · cases stopped
  · rename_i problem changed failed
    cases stopped
    exact ⟨problem, rfl, failed⟩

theorem did_of_writeAll {artifacts : List Artifact}
    (ended : writeAll category artifacts run = .ok () final) :
    run.workspace.Wrote artifacts final.workspace ∧
      final.report.written =
        Report.addPaths category.name (artifacts.map (·.path)) run.report.written := by
  induction artifacts generalizing run with
  | nil =>
      cases ended
      exact ⟨(Did.nothing final).wrote, rfl⟩
  | cons artifact rest inductionHypothesis =>
      simp only [writeAll, bind, EStateM.bind] at ended
      split at ended
      · rename_i next first
        have did := did_of_write first
        obtain ⟨wroteRest, writtenRest⟩ := inductionHypothesis ended
        refine ⟨by simpa using did.wrote.append wroteRest, ?_⟩
        rw [writtenRest, did.written_eq]
        rfl
      · cases ended

theorem exists_done_of_writeAll {artifacts : List Artifact}
    (stopped : writeAll category artifacts run = .error fault final) :
    ∃ done artifact rest reached problem,
      artifacts = done ++ artifact :: rest ∧
        fault = ⟨category, .disk problem⟩ ∧
        run.workspace.Wrote done reached ∧
        (artifact.write reached).result = .error problem final.workspace := by
  induction artifacts generalizing run with
  | nil => cases stopped
  | cons artifact rest inductionHypothesis =>
      simp only [writeAll, bind, EStateM.bind] at stopped
      split at stopped
      · rename_i next first
        obtain ⟨done, failing, others, reached, problem, shape, cause, wrote, failed⟩ :=
          inductionHypothesis stopped
        refine
          ⟨artifact :: done, failing, others, reached, problem, ?_, cause, ?_, failed⟩
        · rw [shape, List.cons_append]
        · simpa using (did_of_write first).wrote.append wrote
      · rename_i first
        cases stopped
        obtain ⟨problem, cause, failed⟩ := exists_fault_of_write first
        exact
          ⟨[], artifact, rest, run.workspace, problem, rfl, cause,
            (Did.nothing run).wrote, failed⟩

theorem did_of_perform {batch : Batch} (ended : perform batch run = .ok () final) :
    batch.artifacts = .ok batch.planned ∧ run.Did batch.planned [batch.listed] final := by
  unfold perform at ended
  simp only at ended
  split at ended
  · rename_i artifacts planned
    obtain ⟨wrote, written⟩ := did_of_writeAll ended
    rw [Batch.listed, Batch.planned_eq_of_ok planned]
    exact ⟨planned, wrote, written⟩
  · cases ended

theorem exists_stops_of_perform {batch : Batch}
    (stopped : perform batch run = .error fault final) :
    ∃ done, batch.Stops run.workspace done fault final.workspace := by
  unfold perform at stopped
  simp only at stopped
  split at stopped
  · rename_i artifacts planned
    obtain ⟨done, artifact, rest, reached, problem, shape, cause, wrote, failed⟩ :=
      exists_done_of_writeAll stopped
    subst shape cause
    exact ⟨done, .unwritten planned wrote failed⟩
  · rename_i cause unplanned
    cases stopped
    exact ⟨[], .unplanned unplanned⟩

/-- A run that ends has planned and written all of its batches. -/
theorem did_of_performAll {batches : List Batch}
    (ended : performAll batches run = .ok () final) :
    (∀ batch ∈ batches, batch.artifacts = .ok batch.planned) ∧
      run.Did (batches.flatMap Batch.planned) (batches.map Batch.listed) final := by
  induction batches generalizing run with
  | nil =>
      cases ended
      exact ⟨by simp, Did.nothing final⟩
  | cons batch rest inductionHypothesis =>
      simp only [performAll, bind, EStateM.bind] at ended
      split at ended
      · rename_i next first
        obtain ⟨planned, did⟩ := did_of_perform first
        obtain ⟨allPlanned, didRest⟩ := inductionHypothesis ended
        refine ⟨?_, did.append didRest⟩
        intro other member
        rcases List.mem_cons.mp member with rfl | member
        · exact planned
        · exact allPlanned other member
      · cases ended

/-- A run that stops has written the batches in front of the one that stops. -/
theorem exists_stops_of_performAll {batches : List Batch}
    (stopped : performAll batches run = .error fault final) :
    ∃ before batch after reached done,
      batches = before ++ batch :: after ∧
        run.workspace.Wrote (before.flatMap Batch.planned) reached ∧
        batch.Stops reached done fault final.workspace := by
  induction batches generalizing run with
  | nil => cases stopped
  | cons batch rest inductionHypothesis =>
      simp only [performAll, bind, EStateM.bind] at stopped
      split at stopped
      · rename_i next first
        obtain ⟨before, failing, after, reached, done, shape, wrote, stops⟩ :=
          inductionHypothesis stopped
        refine ⟨batch :: before, failing, after, reached, done, ?_, ?_, stops⟩
        · rw [shape, List.cons_append]
        · exact (did_of_perform first).2.wrote.append wrote
      · rename_i first
        cases stopped
        obtain ⟨done, stops⟩ := exists_stops_of_perform first
        exact
          ⟨[], batch, rest, run.workspace, done, rfl, (Did.nothing run).wrote, stops⟩

end Run

end OpenApiJava
