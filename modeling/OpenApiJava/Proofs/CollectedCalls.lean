import OpenApiJava.Proofs.ItemGraphs
import OpenApiJava.Proofs.ItemReplacement

/-!
# Collected calls

The calls of a document are those of all its operations. Main statement: there is one call for each
path and each of the four methods with a value other than null, in the order of the paths and, on
one path, of the methods; no two calls have the same method and the same path; and neither the order
of the keys of a path item nor other keys in it change the calls or the relative URLs.
-/

namespace OpenApiJava

/-- A path, one of its methods, and the operation that is written there. -/
structure OperationPlace where
  path : String
  method : HttpMethod
  operation : Tree

/-- The call is that of the operation. -/
structure OperationPlace.Describes (place : OperationPlace) (call : Endpoint) : Prop where
  path : call.path = place.path
  method : call.method = place.method.name
  operation : ∃ operation, Operation.check place.operation = .valid operation ∧
    call = Endpoint.ofOperation operation place.path place.method.name

namespace Tree

/-- The entries of the paths. -/
def pathEntries (tree : Tree) : Entries :=
  Schema.entriesFound (tree.get? "paths")

/-- The value of the last entry whose key spells the name. -/
def lastSpelled (name : String) (entries : Entries) : Tree :=
  ((entries.filter fun entry => entry.1.asText? == some name).getLast?.map Prod.snd).getD .null

/-- The paths in the order in which they are first spelled, with their path items. -/
def pathItems (tree : Tree) : List (String × Tree) :=
  (distinct (tree.pathEntries.filterMap fun entry => entry.1.asText?)).map fun path =>
    (path, lastSpelled path tree.pathEntries)

/-- The value under a method, unless it is null. -/
def methodValue? (item : Tree) (method : HttpMethod) : Option Tree :=
  match item.get? method.key with
  | some .null => none
  | found => found

/-- The operations of a path item in the order of the methods. -/
def operationsOn (path : String) (item : Tree) : List OperationPlace :=
  HttpMethod.all.filterMap fun method =>
    (item.methodValue? method).map fun operation => ⟨path, method, operation⟩

/-- The operations of all paths. -/
def operationPlaces (tree : Tree) : List OperationPlace :=
  tree.pathItems.flatMap fun entry => operationsOn entry.1 entry.2

end Tree

/-- One path item has other keys, or the same in another order. -/
inductive Entries.ItemChange (entries : Entries) : Entries → Prop
  | change {front back item changed : Entries} {key : Tree} :
      entries.find? "paths" = some (.mapping (front ++ (key, .mapping item) :: back)) →
      ItemKeysChange item changed →
      ItemChange entries
        (entries.put (.text "paths") (.mapping (front ++ (key, .mapping changed) :: back)))

inductive Tree.ItemChange : Tree → Tree → Prop
  | mapping {entries changed : Entries} :
      entries.ItemChange changed → ItemChange (.mapping entries) (.mapping changed)

/-- One path item of a specification has other keys, or the same in another order. What is shared
is changed wherever it stands, so that the path item may stand under several paths but nowhere
else. -/
inductive Specification.ItemChange : Specification → Specification → Prop
  | plain {entries changed : Entries} :
      entries.ItemChange changed → ItemChange (.plain entries) (.plain changed)
  | shared {graph : Graph} {number : Nat} {item changed : List (Tree × Graph.Value)} :
      graph.StandsAsItem number → graph.collections[number]? = some (.mapping item) →
      ItemKeysChange item changed →
      ItemChange (.shared graph) (.shared (graph.put number (.mapping changed)))

/-! ## Path items of a tree -/

theorem Tree.lastSpelled_eq {name : String} {front back : Entries} {entry : Tree × Tree}
    (spells : entry.1.asText? = some name)
    (isLast : ∀ later ∈ back, later.1.asText? ≠ some name) :
    lastSpelled name (front ++ entry :: back) = entry.2 := by
  have noLater : back.filter (fun later => later.1.asText? == some name) = [] := by
    simpa [List.filter_eq_nil_iff] using isLast
  rw [lastSpelled, List.filter_append, List.filter_cons, spells, beq_self_eq_true, if_pos rfl,
    noLater]
  simp

/-- The items of paths are checked one by one. -/
theorem alikeNamed_of_checkNamed {α : Type} {check : Tree → Checked α} {members : Entries}
    {named : List (String × α)} (valid : checkNamed check members = .valid named) :
    AlikeNamed (fun tree value => check tree = .valid value)
      ((distinct (members.filterMap fun entry => entry.1.asText?)).map fun path =>
        (path, Tree.lastSpelled path members)) named := by
  rw [← map_fst_checkNamed valid, List.map_map]
  refine List.forall₂_map_left_iff.mpr (List.forall₂_same.mpr fun entry isEntry => ⟨rfl, ?_⟩)
  obtain ⟨front, member, back, rfl, spells, isValid, isLast⟩ :=
    last_of_mem_checkNamed valid isEntry
  rw [Function.comp_apply, Tree.lastSpelled_eq spells isLast]
  exact isValid

theorem Tree.methodValue?_eq_some {item value : Tree} {method : HttpMethod}
    (found : item.get? method.key = some value) (notNull : value ≠ .null) :
    item.methodValue? method = some value := by
  rw [methodValue?, found]
  cases value with
  | null => exact absurd rfl notNull
  | _ => rfl

namespace PathItem

variable {tree : Tree} {item : PathItem}

theorem methodValue?_rel (valid : check tree = .valid item) (method : HttpMethod) :
    Option.Rel (fun value operation => Operation.check value = .valid operation)
      (tree.methodValue? method) (item.operation? method) := by
  cases tree with
  | mapping entries =>
      have isOperation := (checks_of_valid valid).1 method
      unfold checkMethod Entries.optional at isOperation
      generalize item.operation? method = found at isOperation
      split at isOperation
      · rename_i absent
        cases isOperation
        rw [Tree.methodValue?, Tree.get?, absent]
        exact .none
      · rename_i isNull
        cases isOperation
        rw [Tree.methodValue?, Tree.get?, isNull]
        exact .none
      · rename_i value notNull isValue
        obtain ⟨operation, described, rfl⟩ :=
          Checked.map_eq_valid.mp (Checked.under_eq_valid.mp isOperation)
        have isFound : (Tree.mapping entries).get? method.key = some value := isValue
        rw [Tree.methodValue?_eq_some isFound notNull]
        exact .some described
  | _ => cases valid

theorem describes_operationsOn (valid : check tree = .valid item) (path : String) :
    List.Forall₂ OperationPlace.Describes (Tree.operationsOn path tree)
      (Endpoint.ofPathItem path item) := by
  unfold Tree.operationsOn Endpoint.ofPathItem operations
  induction HttpMethod.all with
  | nil => exact .nil
  | cons method rest inductionHypothesis =>
      have related := methodValue?_rel valid method
      rw [List.filterMap_cons, List.filterMap_cons]
      generalize tree.methodValue? method = value, item.operation? method = found at related
      cases related with
      | none => exact inductionHypothesis
      | @some value operation described =>
          have describes : OperationPlace.Describes ⟨path, method, value⟩
              (Endpoint.ofOperation operation path method.name) :=
            ⟨rfl, method.upper_name, operation, described, rfl⟩
          exact .cons describes inductionHypothesis

/-- The calls of paths are those of all operations, one by one. -/
theorem describes_flatMap_operationsOn {items : List (String × Tree)}
    {paths : List (String × PathItem)}
    (alike : AlikeNamed (fun tree item => check tree = .valid item) items paths) :
    List.Forall₂ OperationPlace.Describes
      (items.flatMap fun entry => Tree.operationsOn entry.1 entry.2) (Endpoint.ofPaths paths) := by
  unfold Endpoint.ofPaths
  induction alike with
  | nil => exact .nil
  | cons related _ inductionHypothesis =>
      rw [List.flatMap_cons, List.flatMap_cons, related.1]
      exact List.rel_append (describes_operationsOn related.2 _) inductionHypothesis

theorem nodup_methods (item : PathItem) : (item.operations.map Prod.fst).Nodup := by
  have inOrder : ∀ methods : List HttpMethod,
      ((methods.filterMap fun method =>
        (item.operation? method).map fun operation => (method, operation)).map Prod.fst).Sublist
        methods := by
    intro methods
    induction methods with
    | nil => exact .slnil
    | cons method rest inductionHypothesis =>
        rw [List.filterMap_cons]
        cases item.operation? method with
        | none => exact inductionHypothesis.cons method
        | some operation => exact inductionHypothesis.cons_cons method
  have nodup : HttpMethod.all.Nodup := by decide
  exact nodup.sublist (inOrder HttpMethod.all)

end PathItem

namespace Document

variable {tree : Tree} {document : Document}

theorem checkNamed_pathEntries (accepted : check tree = .ok (.valid document)) :
    checkNamed PathItem.check tree.pathEntries = .valid document.paths := by
  obtain ⟨entries, fields, rfl, lifted, valid⟩ := exists_lift_of_check accepted
  simp only [checkFields, Checked.seq_eq_valid, Checked.map_eq_valid] at valid
  obtain ⟨_, _, ⟨_, paths, ⟨_, _, ⟨_, _, ⟨_, _, rfl⟩, _, rfl⟩, _, rfl⟩, pathsValid, rfl⟩, _,
    rfl⟩ := valid
  unfold lift at lifted
  split at lifted
  · cases lifted
    exact checkNamed_of_named pathsValid
  · obtain ⟨info, _, lifted⟩ := exists_ok_of_bind lifted
    obtain ⟨components, _, lifted⟩ := exists_ok_of_bind lifted
    cases lifted
    exact checkNamed_of_named_orElse rfl pathsValid

theorem nodup_calls (distinct : document.HasDistinctNames) :
    (document.endpoints.map fun call => (call.method, call.path)).Nodup := by
  have calls : document.endpoints.map (fun call => (call.method, call.path)) =
      document.paths.flatMap fun entry =>
        entry.2.operations.map fun operation => (operation.1.name, entry.1) := by
    simp [endpoints, Endpoint.ofPaths, Endpoint.ofPathItem, Endpoint.ofOperation,
      HttpMethod.upper_name, List.map_flatMap, Function.comp_def]
  have differ : document.paths.Pairwise fun first second => first.1 ≠ second.1 :=
    List.pairwise_map.mp distinct.2
  rw [calls, List.nodup_flatMap]
  constructor
  · rintro ⟨path, item⟩ _
    have names : item.operations.map (fun operation => (operation.1.name, path)) =
        (item.operations.map Prod.fst).map fun method => (method.name, path) := by
      rw [List.map_map]
      rfl
    rw [names]
    refine (PathItem.nodup_methods item).map fun first second same => ?_
    revert same
    cases first <;> cases second <;> simp [HttpMethod.name]
  · refine differ.imp fun {first second} different call inFirst inSecond => ?_
    obtain ⟨_, _, rfl⟩ := List.mem_map.mp inFirst
    obtain ⟨_, _, same⟩ := List.mem_map.mp inSecond
    exact different (congrArg Prod.snd same).symm

end Document

/-! ## Other keys in path items -/

theorem Entries.ItemChange.exists_sameButItems {entries changed : Entries}
    (changes : entries.ItemChange changed) :
    ∃ members others, SameButItems entries changed members others := by
  cases changes with
  | @change front back item changed key found keysChange =>
      refine ⟨_, _, fun name _ notPaths => ?_, found, findNamed?_putEntry_self _ _, ?_⟩
      · exact findNamed?_putEntry (fun same => notPaths (Tree.text.inj same).symm) entries _
      · exact List.rel_append (sameItems_refl front)
          (.cons ⟨rfl, .mapping keysChange.sameMethods⟩ (sameItems_refl back))

theorem Document.check_of_itemChange {tree changed : Tree} {document : Document}
    (changes : tree.ItemChange changed) (accepted : check tree = .ok (.valid document)) :
    ∃ other, check changed = .ok (.valid other) ∧ document.SameCalls other := by
  cases changes with
  | mapping changes =>
      obtain ⟨members, others, same⟩ := changes.exists_sameButItems
      exact check_of_sameButItems same accepted

/-- A specification with another path item comes to a tree that differs in nothing but the other
keys of path items. -/
theorem Specification.replaced_of_itemChange {specification changed : Specification} {tree : Tree}
    (changes : specification.ItemChange changed) (replaced : specification.replaced = .ok tree) :
    ∃ fields fieldsAlso members others : Entries, tree = .mapping fields ∧
      changed.replaced = .ok (.mapping fieldsAlso) ∧
      Entries.SameButItems fields fieldsAlso members others := by
  cases changes with
  | plain changes =>
      obtain ⟨members, others, same⟩ := changes.exists_sameButItems
      obtain ⟨after, replacedAll, rfl⟩ := exists_ok_of_map replaced
      obtain ⟨afterAlso, membersAfter, othersAfter, replacedAlso, sameAfter⟩ :=
        Reference.replaceAll_of_sameButItems same replacedAll
      exact ⟨after, afterAlso, membersAfter, othersAfter, rfl,
        congrArg (Except.map Tree.mapping) replacedAlso, sameAfter⟩
  | shared standsAsItem found keysChange =>
      obtain ⟨after, replacedAll, rfl⟩ := exists_ok_of_map replaced
      obtain ⟨afterAlso, fields, fieldsAlso, itemsBefore, itemsAfter, replacedAlso, isTree,
        isTreeAlso, same⟩ :=
        Graph.replaceAll_put_item standsAsItem found keysChange.sameMethods replacedAll
      have mapped := congrArg (Except.map Graph.tree) replacedAlso
      exact ⟨fields, fieldsAlso, itemsBefore, itemsAfter, isTree,
        mapped.trans (congrArg Except.ok isTreeAlso), same⟩

namespace Document

theorem ofSpecification_eq_ok_iff {specification : Specification} {document : Document} :
    ofSpecification specification = .ok document ↔
      ∃ tree, specification.replaced = .ok tree ∧ check tree = .ok (.valid document) := by
  rw [ofSpecification_eq]
  cases specification.replaced with
  | error fault => simp
  | ok tree =>
      simp only [Except.ok.injEq, exists_eq_left']
      refine ⟨check_of_ofTree, fun accepted => ?_⟩
      rw [ofTree, accepted]

theorem ofSpecification_of_itemChange {specification changed : Specification} {document : Document}
    (changes : specification.ItemChange changed)
    (described : ofSpecification specification = .ok document) :
    ∃ other, ofSpecification changed = .ok other ∧ document.SameCalls other := by
  obtain ⟨tree, replaced, accepted⟩ := ofSpecification_eq_ok_iff.mp described
  obtain ⟨fields, fieldsAlso, members, others, rfl, replacedAlso, same⟩ :=
    Specification.replaced_of_itemChange changes replaced
  obtain ⟨other, acceptedAlso, sameCalls⟩ := check_of_sameButItems same accepted
  exact ⟨other, ofSpecification_eq_ok_iff.mpr ⟨_, replacedAlso, acceptedAlso⟩, sameCalls⟩

/-- What each change keeps is kept by changes one after the other. -/
theorem exists_sameCalls_of_changes {α : Type} {change : α → α → Prop}
    {Reads : α → Document → Prop}
    (keeps : ∀ before after document, change before after → Reads before document →
      ∃ other, Reads after other ∧ document.SameCalls other)
    {before after : α} {document : Document} (changes : Relation.ReflTransGen change before after)
    (reads : Reads before document) :
    ∃ other, Reads after other ∧ document.SameCalls other := by
  induction changes with
  | refl => exact ⟨document, reads, rfl, rfl⟩
  | tail _ changes inductionHypothesis =>
      obtain ⟨middle, readsMiddle, sameMiddle⟩ := inductionHypothesis
      obtain ⟨other, readsOther, sameOther⟩ := keeps _ _ middle changes readsMiddle
      exact ⟨other, readsOther, sameMiddle.trans sameOther⟩

end Document

/-- Every operation of a document is one call, in the order of the paths and of the methods, and no
two calls have the same method and the same path. The other keys of path items and the order of
their keys matter neither in a tree nor in a specification whose references come to it. -/
theorem calls_are_collected {tree : Tree} {document : Document}
    (accepted : Document.check tree = .ok (.valid document)) :
    List.Forall₂ OperationPlace.Describes tree.operationPlaces document.endpoints ∧
      (document.endpoints.map fun call => (call.method, call.path)).Nodup ∧
      (∀ changed, Relation.ReflTransGen Tree.ItemChange tree changed →
        ∃ other, Document.check changed = .ok (.valid other) ∧ document.SameCalls other) ∧
      ∀ specification changed, specification.replaced = .ok tree →
        Relation.ReflTransGen Specification.ItemChange specification changed →
          Document.ofSpecification specification = .ok document ∧
            ∃ other, Document.ofSpecification changed = .ok other ∧ document.SameCalls other := by
  have alike := alikeNamed_of_checkNamed (Document.checkNamed_pathEntries accepted)
  refine ⟨PathItem.describes_flatMap_operationsOn alike,
    Document.nodup_calls (Document.hasDistinctNames_of_check accepted), ?_, ?_⟩
  · intro changed changes
    have keeps : ∀ before after document, Tree.ItemChange before after →
        Document.check before = .ok (.valid document) →
        ∃ other, Document.check after = .ok (.valid other) ∧ document.SameCalls other :=
      fun _ _ _ => Document.check_of_itemChange
    exact Document.exists_sameCalls_of_changes keeps changes accepted
  · intro specification changed replaced changes
    have keeps : ∀ before after document, Specification.ItemChange before after →
        Document.ofSpecification before = .ok document →
        ∃ other, Document.ofSpecification after = .ok other ∧ document.SameCalls other :=
      fun _ _ _ => Document.ofSpecification_of_itemChange
    have described := Document.ofSpecification_eq_ok_iff.mpr ⟨tree, replaced, accepted⟩
    exact ⟨described, Document.exists_sameCalls_of_changes keeps changes described⟩

def allPets : Tree :=
  .mapping [(.text "summary", .text "All pets")]

/-- A tree with one path item. -/
def treeOfPets (item : Entries) : Tree :=
  .mapping [(.text "paths", .mapping [(.text "/pets", .mapping item)])]

def allPetsOperation : Operation :=
  { operationId := none, summary := some "All pets", description := none, tags := []
    parameters := [], requestBody := none }

def documentOfPets : Document :=
  { title := none, version := none, schemas := [], servers := []
    paths := [("/pets", {
      get := some allPetsOperation, post := some allPetsOperation, put := none, delete := none
      extras := [] })] }

def petMethods : List (Tree × Graph.Value) :=
  [(.text "post", .collection 3), (.text "get", .collection 3)]

/-- Pets with one operation under two methods. -/
def graphOfPets : Graph :=
  { collections := #[
      .mapping [(.text "paths", .collection 1)],
      .mapping [(.text "/pets", .collection 2)],
      .mapping petMethods,
      .mapping [(.text "summary", .leaf (.text "All pets"))]]
    root := .collection 0 }

theorem not_holds_petOperation : ¬ graphOfPets.Holds (.collection 3) 2 := by
  intro holds
  cases holds with
  | inside found isInner inner =>
      cases found
      cases List.mem_singleton.mp isInner
      cases inner

theorem standsAsItem_graphOfPets : graphOfPets.StandsAsItem 2 where
  notTop := nofun
  notPaths := nofun
  isItem := ⟨_, .text "/pets", rfl, List.mem_singleton_self _⟩
  apartFromParts := by
    intro name isPart value found
    have isKey := mem_of_findNamed? ((Graph.get?_root_eq rfl rfl name).symm.trans found)
    cases List.mem_singleton.mp isKey
    exact absurd isPart (by decide)
  apartFromOperations := by
    intro items isItems item isItem method operation found
    cases isItems
    cases List.mem_singleton.mp isItem
    have isMethod : (.text method.key, operation) ∈ petMethods := mem_of_findNamed? found
    have isOperation : operation = .collection 3 := by
      simp only [petMethods, List.mem_cons, Prod.mk.injEq, List.not_mem_nil, or_false] at isMethod
      obtain ⟨_, same⟩ | ⟨_, same⟩ := isMethod
      · exact same
      · exact same
    rw [isOperation]
    exact not_holds_petOperation

theorem calls_are_collected_treeOfPets :
    Document.check (treeOfPets [(.text "post", allPets), (.text "get", allPets)]) =
        .ok (.valid documentOfPets) ∧
      (∃ other, Document.check (treeOfPets [(.text "get", allPets), (.text "post", allPets)]) =
          .ok (.valid other) ∧ documentOfPets.SameCalls other) ∧
      ∃ other, Document.ofSpecification
          (.shared (graphOfPets.put 2
            (.mapping (putEntry petMethods (.text "x-all") (.collection 0))))) = .ok other ∧
        documentOfPets.SameCalls other := by
  have accepted : Document.check (treeOfPets [(.text "post", allPets), (.text "get", allPets)]) =
      .ok (.valid documentOfPets) := rfl
  obtain ⟨_, _, trees, specifications⟩ := calls_are_collected accepted
  refine ⟨accepted, ?_, ?_⟩
  · refine trees _ (.single (.mapping ?_))
    have swapped : ItemKeysChange [(Tree.text "post", allPets), (.text "get", allPets)]
        [(.text "get", allPets), (.text "post", allPets)] :=
      .reorder (by simp) (.swap _ _ _)
    exact @Entries.ItemChange.change _ [] [] _ _ (.text "/pets") rfl swapped
  · have replaced : (Specification.shared graphOfPets).replaced =
        .ok (treeOfPets [(.text "post", allPets), (.text "get", allPets)]) := rfl
    have noted : ItemKeysChange petMethods (putEntry petMethods (.text "x-all") (.collection 0)) :=
      .put _ (by decide)
    exact (specifications _ _ replaced
      (.single (.shared standsAsItem_graphOfPets rfl noted))).2

end OpenApiJava
