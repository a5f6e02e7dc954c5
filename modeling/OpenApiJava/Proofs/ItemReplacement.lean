import OpenApiJava.Proofs.ItemKeys

/-!
# References in path items with other keys

The replacement of references looks at the methods of path items and at the components. Main
statement: from specifications that differ in nothing but the other keys of path items, and in the
order of all their keys, it comes to specifications that again differ in nothing else.
-/

namespace OpenApiJava

variable {α : Type}

/-! ## Revised entries -/

section Revising

variable {ε : Type} {change : Tree → Except ε Tree} {name : String}
  {entries after changed : Entries}

theorem Entries.Revised.map_fst {relation : String → Tree → Tree → Prop} {names : List String}
    (revised : Revised relation names entries changed) :
    changed.map Prod.fst = entries.map Prod.fst := by
  induction revised with
  | nil => rfl
  | named _ _ _ inductionHypothesis => rw [List.map_cons, List.map_cons, inductionHypothesis]
  | other _ _ inductionHypothesis => rw [List.map_cons, List.map_cons, inductionHypothesis]

theorem haveTextKeys_iff {entries : List (Tree × α)} :
    HaveTextKeys entries ↔ ∀ key ∈ entries.map Prod.fst, ∃ name, key = .text name := by
  rw [HaveTextKeys, List.forall_mem_map]

theorem haveTextKeys_revise_iff (revised : entries.revise name change = .ok after) :
    HaveTextKeys after ↔ HaveTextKeys entries := by
  have related : Entries.Revised (fun _ _ _ => True) [name] entries after :=
    .of_revise (fun _ _ _ => trivial) revised
  rw [haveTextKeys_iff, related.map_fst, haveTextKeys_iff]

theorem Entries.exists_find?_of_revise (revised : entries.revise name change = .ok after)
    {value : Tree} (found : entries.find? name = some value) :
    ∃ result, change value = .ok result ∧ after.find? name = some result := by
  have related : Revised (fun _ value result => change value = .ok result) [name] entries after :=
    .of_revise (fun _ _ => id) revised
  have values := related.find?_rel (List.mem_singleton_self name)
  rw [found] at values
  generalize after.find? name = foundAfter at values
  cases values with
  | some changes => exact ⟨_, changes, rfl⟩

theorem SameMethods.revise (same : SameMethods entries changed) (method : HttpMethod)
    (revised : entries.revise method.key change = .ok after) :
    ∃ others, changed.revise method.key change = .ok others ∧ SameMethods after others := by
  have sameFault : faultOf? (changed.revise method.key change) =
      faultOf? (entries.revise method.key change) := by
    rw [Entries.faultOf?_revise, Entries.faultOf?_revise, Entries.find?, same.same method,
      Entries.find?]
  obtain ⟨others, revisedAlso⟩ := exists_ok_of_faultOf?_eq sameFault revised
  refine ⟨others, revisedAlso, fun another => ?_, ?_⟩
  · by_cases isMethod : another.key = method.key
    · rw [isMethod]
      exact Entries.find?_of_revise_congr revised revisedAlso (same.same method)
    · have kept := Entries.find?_of_revise isMethod revised
      have keptAlso := Entries.find?_of_revise isMethod revisedAlso
      exact keptAlso.trans ((same.same another).trans kept.symm)
  · rw [haveTextKeys_revise_iff revised, haveTextKeys_revise_iff revisedAlso]
    exact same.keys

end Revising

/-! ## Replaced references -/

namespace Reference

variable {root item other result : Tree} {members others after : Entries}

theorem sameMethods_foldlM {methods : List HttpMethod} {entries changed after : Entries}
    (same : SameMethods entries changed)
    (folded :
      methods.foldlM
          (fun entries method => Entries.revise method.key (replaceInOperation root) entries)
          entries =
        .ok after) :
    ∃ afterAlso,
      methods.foldlM
          (fun entries method => Entries.revise method.key (replaceInOperation root) entries)
          changed =
        .ok afterAlso ∧ SameMethods after afterAlso := by
  induction methods generalizing entries changed with
  | nil =>
      cases folded
      exact ⟨changed, rfl, same⟩
  | cons method rest inductionHypothesis =>
      rw [List.foldlM_cons] at folded
      obtain ⟨next, revised, foldedRest⟩ := exists_ok_of_bind folded
      obtain ⟨nextAlso, revisedAlso, nextSame⟩ := same.revise method revised
      rw [List.foldlM_cons, bind_eq_of_ok revisedAlso]
      exact inductionHypothesis nextSame foldedRest

theorem replaceInPathItem_of_not_mapping (notMapping : ∀ entries, item ≠ .mapping entries) :
    replaceInPathItem root item = .ok item := by
  cases item with
  | mapping entries => exact absurd rfl (notMapping entries)
  | _ => rfl

theorem sameItem_replaceInPathItem (same : item.SameItem other)
    (replaced : replaceInPathItem root item = .ok result) :
    ∃ resultAlso, replaceInPathItem root other = .ok resultAlso ∧ result.SameItem resultAlso := by
  cases same with
  | mapping methods =>
      obtain ⟨entries, folded, built⟩ := exists_ok_of_bind replaced
      obtain ⟨entriesAlso, foldedAlso, methodsAlso⟩ := sameMethods_foldlM methods folded
      cases built
      exact ⟨.mapping entriesAlso, bind_eq_of_ok foldedAlso, .mapping methodsAlso⟩
  | other notMapping notMappingAlso =>
      rw [replaceInPathItem_of_not_mapping notMapping] at replaced
      cases replaced
      exact ⟨other, replaceInPathItem_of_not_mapping notMappingAlso,
        .other notMapping notMappingAlso⟩

theorem sameItems_reviseAll (same : members.SameItems others)
    (revised : members.reviseAll (replaceInPathItem root) = .ok after) :
    ∃ afterAlso, others.reviseAll (replaceInPathItem root) = .ok afterAlso ∧
      after.SameItems afterAlso := by
  induction same generalizing after with
  | nil =>
      cases revised
      exact ⟨[], rfl, .nil⟩
  | @cons member another rest othersRest related _ inductionHypothesis =>
      obtain ⟨key, tree⟩ := member
      obtain ⟨sameKey, treeAlso⟩ := another
      obtain rfl : sameKey = key := related.1
      obtain ⟨changed, replaced, revisedRest⟩ := exists_ok_of_bind revised
      obtain ⟨changedRest, restRevised, built⟩ := exists_ok_of_bind revisedRest
      cases built
      obtain ⟨changedAlso, replacedAlso, itemsSame⟩ :=
        sameItem_replaceInPathItem related.2 replaced
      obtain ⟨restAlso, restRevisedAlso, restSame⟩ := inductionHypothesis restRevised
      refine ⟨(sameKey, changedAlso) :: restAlso, ?_, .cons ⟨rfl, itemsSame⟩ restSame⟩
      rw [Entries.reviseAll, bind_eq_of_ok replacedAlso, bind_eq_of_ok restRevisedAlso]
      rfl

/-- References are replaced as well if path items change as much, and the results again have the
same path items. -/
theorem replaceAll_of_sameButItems {entries changed : Entries}
    (same : Entries.SameButItems entries changed members others)
    (replaced : replaceAll entries = .ok after) :
    ∃ afterAlso membersAfter othersAfter, replaceAll changed = .ok afterAlso ∧
      Entries.SameButItems after afterAlso membersAfter othersAfter := by
  have components : changed.find? "components" = entries.find? "components" :=
    same.same "components" (by simp [Document.readNames]) (by decide)
  obtain ⟨result, replacedPaths, pathsAfter⟩ :=
    Entries.exists_find?_of_revise replaced same.paths
  obtain ⟨membersAfter, revised, built⟩ := exists_ok_of_bind replacedPaths
  cases built
  obtain ⟨othersAfter, revisedAlso, itemsAfter⟩ := sameItems_reviseAll same.items revised
  have replacedPathsAlso : replaceInPaths (.mapping changed) (.mapping others) =
      .ok (.mapping othersAfter) := by
    rw [replaceInPaths_eq components, replaceInPaths, bind_eq_of_ok revisedAlso]
    rfl
  have noFault : faultOf? (replaceAll changed) = faultOf? (replaceAll entries) := by
    rw [replaced, replaceAll, Entries.faultOf?_revise, same.pathsAlso, Option.bind_some,
      replacedPathsAlso]
    rfl
  obtain ⟨afterAlso, replacedAlso⟩ := exists_ok_of_faultOf?_eq noFault replaced
  obtain ⟨resultAlso, samePaths, pathsAfterAlso⟩ :=
    Entries.exists_find?_of_revise replacedAlso same.pathsAlso
  rw [replacedPathsAlso] at samePaths
  cases samePaths
  refine ⟨afterAlso, membersAfter, othersAfter, replacedAlso, ?_, pathsAfter, pathsAfterAlso,
    itemsAfter⟩
  intro name isRead notPaths
  have kept := fun (name : String) (notPaths : name ≠ "paths") =>
    Entries.find?_of_revise notPaths replaced
  have sameHas : Entries.has after "schemas" = entries.has "schemas" := by
    rw [Entries.has, kept "schemas" (by decide), Entries.has]
  rw [sameHas] at isRead
  rw [Entries.find?_of_revise notPaths replacedAlso, kept name notPaths,
    same.same name isRead notPaths]

end Reference

end OpenApiJava
