import OpenApiJava.Document.Reference
import OpenApiJava.Proofs.Faults

/-!
# The order of replacement

The replacement of references looks at one entry after the other: path by path, method by method, at
the parameters in their order and then at the request body. Main statement: it stops with the fault
of the first entry that has one, and every target is taken from the specification as it was given.
-/

namespace OpenApiJava

/-! ## Revised entries -/

namespace Entries

variable {ε : Type} {name other : String} {change : Tree → Except ε Tree}

theorem faultOf?_revise (name : String) (change : Tree → Except ε Tree) (entries : Entries) :
    faultOf? (entries.revise name change) =
      (entries.find? name).bind fun value => faultOf? (change value) := by
  unfold find?
  fun_induction Entries.revise name change entries with
  | case1 => rfl
  | case2 value rest =>
      rw [findNamed?, if_pos rfl]
      exact faultOf?_bind_pure (change value) fun changed => (Tree.text name, changed) :: rest
  | case3 key value rest different inductionHypothesis =>
      rw [findNamed?, if_neg different, ← inductionHypothesis]
      exact faultOf?_bind_pure (revise name change rest) fun others => (.text key, value) :: others
  | case4 entry rest notText inductionHypothesis =>
      rw [findNamed?.eq_3 name entry rest notText, ← inductionHypothesis]
      exact faultOf?_bind_pure (revise name change rest) fun others => entry :: others

theorem faultOf?_reviseAll (change : Tree → Except ε Tree) (entries : Entries) :
    faultOf? (entries.reviseAll change) =
      entries.findSome? fun entry => faultOf? (change entry.2) := by
  induction entries with
  | nil => rfl
  | cons entry rest inductionHypothesis =>
      obtain ⟨key, value⟩ := entry
      rw [findSome?_cons_or, ← inductionHypothesis]
      refine faultOf?_bind ?_
      intro changed _
      exact faultOf?_bind_pure (reviseAll change rest) fun others => (key, changed) :: others

/-- An entry of another name is found unchanged. -/
theorem find?_of_revise {entries changed : Entries} (different : other ≠ name)
    (revised : entries.revise name change = .ok changed) :
    changed.find? other = entries.find? other := by
  unfold find?
  fun_induction Entries.revise name change entries generalizing changed with
  | case1 =>
      cases revised
      rfl
  | case2 value rest =>
      obtain ⟨inside, _, built⟩ := exists_ok_of_bind revised
      cases built
      rw [findNamed?, findNamed?, if_neg different.symm, if_neg different.symm]
  | case3 key value rest differentKey inductionHypothesis =>
      obtain ⟨others, revisedRest, built⟩ := exists_ok_of_bind revised
      cases built
      rw [findNamed?, findNamed?, inductionHypothesis revisedRest]
  | case4 entry rest notText inductionHypothesis =>
      obtain ⟨others, revisedRest, built⟩ := exists_ok_of_bind revised
      cases built
      rw [findNamed?.eq_3 other entry rest notText, findNamed?.eq_3 other entry others notText,
        inductionHypothesis revisedRest]

end Entries

/-! ## Visited entries -/

namespace Reference

/-- What is looked at in the value under a name. -/
def visitedAt (entries : Entries) (name : String) (visit : Tree → List (String × Tree)) :
    List (String × Tree) :=
  match entries.find? name with
  | some value => visit value
  | none => []

/-- The parameters that are looked at, each with the registry that it may refer to. -/
def visitedInParameters : Tree → List (String × Tree)
  | .list items => items.map fun item => (parameterRegistry, item)
  | _ => []

/-- The parameters of an operation and then its request body. -/
def visitedInOperation : Tree → List (String × Tree)
  | .mapping entries =>
      visitedAt entries "parameters" visitedInParameters ++
        visitedAt entries "requestBody" fun body => [(requestBodyRegistry, body)]
  | _ => []

/-- What is looked at in a path item, method by method. -/
def visitedInPathItem : Tree → List (String × Tree)
  | .mapping entries =>
      HttpMethod.all.flatMap fun method => visitedAt entries method.key visitedInOperation
  | _ => []

/-- What is looked at in a mapping of paths, path by path. -/
def visitedInPaths : Tree → List (String × Tree)
  | .mapping entries => entries.flatMap fun entry => visitedInPathItem entry.2
  | _ => []

/-- The entries of a specification that are looked at, in order. -/
def visited (specification : Entries) : List (String × Tree) :=
  visitedAt specification "paths" visitedInPaths

/-- The fault of an entry that is looked at, if it has one. -/
def entryFault? (root : Tree) (entry : String × Tree) : Option ReplacementFault :=
  faultOf? (replaced root entry.1 entry.2)

/-- The first fault among entries that are looked at. -/
def firstFault? (root : Tree) (entries : List (String × Tree)) : Option ReplacementFault :=
  entries.findSome? (entryFault? root)

/-- An entry has no text in place of a reference if and only if the value there has none: the text
of a reference is a text. -/
theorem entryFault?_eq_notPrintable_iff {root : Tree} {entry : String × Tree} :
    entryFault? root entry = some .notPrintable ↔
      ∃ value, entry.2.get? "$ref" = some value ∧ value.isPrintable = false := by
  unfold entryFault? replaced isPrintable
  cases refers : into? entry.1 entry.2 with
  | some reference =>
      have isText : ∃ spelled, entry.2.get? "$ref" = some (.text spelled) := by
        unfold into? at refers
        split at refers
        · rename_i spelled found
          exact ⟨spelled, found⟩
        · cases refers
      obtain ⟨spelled, found⟩ := isText
      have otherFault :
          faultOf? ((target root reference).mapError ReplacementFault.reference) ≠
            some .notPrintable := by
        intro same
        cases resolved : target root reference <;> rw [resolved] at same <;> cases same
      simp [otherFault, found, Tree.isPrintable]
  | none =>
      cases found : entry.2.get? "$ref" with
      | none => simp [faultOf?]
      | some value => cases printable : value.isPrintable <;> simp [printable, faultOf?]

/-- The first fault belongs to an entry, and no entry in front of it has one. -/
theorem firstFault?_eq_some_iff {root : Tree} {entries : List (String × Tree)}
    {fault : ReplacementFault} :
    firstFault? root entries = some fault ↔
      ∃ before entry after, entries = before ++ entry :: after ∧
        entryFault? root entry = some fault ∧
        ∀ other ∈ before, entryFault? root other = none :=
  List.findSome?_eq_some_iff

theorem firstFault?_eq_notPrintable_iff {root : Tree} {entries : List (String × Tree)} :
    firstFault? root entries = some .notPrintable ↔
      ∃ before entry after value,
        entries = before ++ entry :: after ∧
          (∀ other ∈ before, entryFault? root other = none) ∧
          entry.2.get? "$ref" = some value ∧ value.isPrintable = false := by
  rw [firstFault?_eq_some_iff]
  simp only [entryFault?_eq_notPrintable_iff]
  constructor
  · rintro ⟨before, entry, after, split, ⟨value, found, noText⟩, fine⟩
    exact ⟨before, entry, after, value, split, fine, found, noText⟩
  · rintro ⟨before, entry, after, value, split, fine, found, noText⟩
    exact ⟨before, entry, after, split, ⟨value, found, noText⟩, fine⟩

theorem firstFault?_eq_none_iff {root : Tree} {entries : List (String × Tree)} :
    firstFault? root entries = none ↔ ∀ entry ∈ entries, entryFault? root entry = none :=
  List.findSome?_eq_none_iff

section

variable {root : Tree}

theorem faultOf?_revise_visitedAt {name : String} {change : Tree → Except ReplacementFault Tree}
    {visit : Tree → List (String × Tree)}
    (agrees : ∀ value, faultOf? (change value) = firstFault? root (visit value))
    (entries : Entries) :
    faultOf? (entries.revise name change) = firstFault? root (visitedAt entries name visit) := by
  rw [Entries.faultOf?_revise]
  unfold visitedAt
  cases entries.find? name with
  | none => rfl
  | some value => exact agrees value

theorem visitedAt_of_revise {name other : String} {change : Tree → Except ReplacementFault Tree}
    {entries changed : Entries} (different : other ≠ name)
    (revised : entries.revise name change = .ok changed) (visit : Tree → List (String × Tree)) :
    visitedAt changed other visit = visitedAt entries other visit := by
  unfold visitedAt
  rw [Entries.find?_of_revise different revised]

theorem faultOf?_replaceParameters (tree : Tree) :
    faultOf? (replaceParameters root tree) = firstFault? root (visitedInParameters tree) := by
  cases tree with
  | list items =>
      unfold replaceParameters visitedInParameters firstFault?
      rw [faultOf?_bind_pure, faultOf?_mapM, List.findSome?_map]
      rfl
  | _ => rfl

theorem faultOf?_replaceInOperation (operation : Tree) :
    faultOf? (replaceInOperation root operation) =
      firstFault? root (visitedInOperation operation) := by
  cases operation with
  | mapping entries =>
      simp only [visitedInOperation, firstFault?, List.findSome?_append]
      rw [← firstFault?, ← faultOf?_revise_visitedAt faultOf?_replaceParameters]
      refine faultOf?_bind ?_
      intro first revised
      rw [faultOf?_bind_pure, ← firstFault?,
        ← visitedAt_of_revise (by decide : "requestBody" ≠ "parameters") revised]
      refine faultOf?_revise_visitedAt ?_ first
      intro body
      simp only [firstFault?, findSome?_cons_or, List.findSome?_nil, Option.or_none, entryFault?]
  | _ => rfl

/-- Methods with different keys do not disturb each other. -/
theorem faultOf?_foldlM_methods {methods : List HttpMethod}
    (different : (methods.map HttpMethod.key).Nodup) (entries : Entries) :
    faultOf?
        (methods.foldlM
          (fun entries method => Entries.revise method.key (replaceInOperation root) entries)
          entries) =
      firstFault? root
        (methods.flatMap fun method => visitedAt entries method.key visitedInOperation) := by
  induction methods generalizing entries with
  | nil => rfl
  | cons method rest inductionHypothesis =>
      obtain ⟨first, others⟩ := List.nodup_cons.mp different
      rw [List.foldlM_cons, List.flatMap_cons, firstFault?, List.findSome?_append, ← firstFault?,
        ← faultOf?_revise_visitedAt faultOf?_replaceInOperation]
      refine faultOf?_bind ?_
      intro changed revised
      -- The methods that follow are looked up in what this one has changed, under other keys.
      rw [inductionHypothesis others changed, ← firstFault?]
      congr 1
      rw [List.flatMap_def, List.flatMap_def]
      congr 1
      apply List.map_congr_left
      intro other member
      have differentKey : other.key ≠ method.key := by
        intro same
        exact first (same ▸ List.mem_map_of_mem member)
      exact visitedAt_of_revise differentKey revised visitedInOperation

theorem faultOf?_replaceInPathItem (item : Tree) :
    faultOf? (replaceInPathItem root item) = firstFault? root (visitedInPathItem item) := by
  cases item with
  | mapping entries =>
      unfold replaceInPathItem visitedInPathItem
      rw [faultOf?_bind_pure]
      exact faultOf?_foldlM_methods (by decide) entries
  | _ => rfl

theorem faultOf?_replaceInPaths (paths : Tree) :
    faultOf? (replaceInPaths root paths) = firstFault? root (visitedInPaths paths) := by
  cases paths with
  | mapping entries =>
      unfold replaceInPaths visitedInPaths firstFault?
      rw [faultOf?_bind_pure, Entries.faultOf?_reviseAll, findSome?_flatMap]
      simp only [faultOf?_replaceInPathItem, firstFault?]
  | _ => rfl

end

/-- The replacement of references stops with the fault of the first entry that has one. -/
theorem faultOf?_replaceAll (specification : Entries) :
    faultOf? (replaceAll specification) =
      firstFault? (.mapping specification) (visited specification) :=
  faultOf?_revise_visitedAt faultOf?_replaceInPaths specification

end Reference

end OpenApiJava
