import OpenApiJava.Proofs.ItemKeys

/-!
# Graphs with other keys in a path item

The replacement of references writes to operations and to new collections alone. Main statement:
from two graphs that differ in nothing but a path item with other keys and the same methods, it
comes to graphs whose trees differ in nothing but the other keys of path items, if that path item
stands nowhere else.
-/

namespace OpenApiJava.Graph

/-- The keys of the paths with their path items, if the paths are a mapping. -/
def items? (graph : Graph) : Option (List (Tree × Value)) :=
  (graph.get? graph.root "paths").bind graph.entries?

/-- The names at the top that are looked at, the paths apart. -/
def partNames (graph : Graph) : List String :=
  (Document.readNames (graph.get? graph.root "schemas").isSome).filter (· != "paths")

/-- The collection is a path item and stands nowhere else where something is looked at: neither at
the top nor as the mapping of paths, and neither in a part of the document nor in an operation. -/
structure StandsAsItem (graph : Graph) (number : Nat) : Prop where
  notTop : graph.root ≠ .collection number
  notPaths : graph.get? graph.root "paths" ≠ some (.collection number)
  isItem : ∃ items key, graph.items? = some items ∧ (key, .collection number) ∈ items
  apartFromParts : ∀ name ∈ graph.partNames, ∀ value, graph.get? graph.root name = some value →
    ¬ graph.Holds value number
  apartFromOperations : ∀ items, graph.items? = some items → ∀ item ∈ items,
    ∀ (method : HttpMethod) (operation : Value), graph.get? item.2 method.key = some operation →
      ¬ graph.Holds operation number

/-- The collections in the parts of the document and in the operations, and all those that are yet
to come. -/
def InsideItems (graph : Graph) (items : List (Tree × Value)) (number : Nat) : Prop :=
  (∃ name ∈ graph.partNames, ∃ value, graph.get? graph.root name = some value ∧
    graph.Holds value number) ∨
  (∃ item ∈ items, ∃ (method : HttpMethod) (operation : Value),
    graph.get? item.2 method.key = some operation ∧ graph.Holds operation number) ∨
  graph.collections.size ≤ number

/-- The mapping at the top with the paths, which are a mapping to path items. -/
structure HasItems (graph : Graph) (top : Nat) (entries : List (Tree × Value)) (paths : Nat)
    (items : List (Tree × Value)) : Prop where
  isRoot : graph.root = .collection top
  isTop : graph.collections[top]? = some (.mapping entries)
  isNamed : findNamed? "paths" entries = some (.collection paths)
  isPaths : graph.collections[paths]? = some (.mapping items)

/-- All collections that are not inside stay. -/
def KeptOutside (inside : Nat → Prop) (before after : Graph) : Prop :=
  ∀ number, ¬ inside number → after.collections[number]? = before.collections[number]?

/-- The same collection, or a mapping with the same methods. -/
def SameCollection (before beforeAlso : Graph) (number : Nat) : Prop :=
  beforeAlso.collections[number]? = before.collections[number]? ∨
    ∃ entries changed, before.collections[number]? = some (.mapping entries) ∧
      beforeAlso.collections[number]? = some (.mapping changed) ∧ SameMethods entries changed

/-- The path items have the same methods in both graphs, and their operations stand inside. -/
structure SameItems (items : List (Tree × Value)) (inside : Nat → Prop)
    (before beforeAlso : Graph) : Prop where
  same : ∀ item ∈ items, ∀ number, item.2 = .collection number →
    SameCollection before beforeAlso number
  operationsIn : ∀ item ∈ items, ∀ (method : HttpMethod) (operation : Value),
    before.get? item.2 method.key = some operation → operation.StandsIn inside

/-- Two graphs that are alike inside, and outside still those they were. -/
structure AlikeButItems (top : Nat) (entries : List (Tree × Value)) (inside : Nat → Prop)
    (before beforeAlso first second : Graph) : Prop where
  alike : Alike top entries entries inside first second
  firstKept : KeptOutside inside before first
  secondKept : KeptOutside inside beforeAlso second

/-- If the action comes to a graph from the first one, then it does from the second one, and these
graphs are alike again. -/
def KeepsItems (top : Nat) (entries : List (Tree × Value)) (inside : Nat → Prop)
    (before beforeAlso : Graph) (action : Replacement Unit) : Prop :=
  ∀ first second after, AlikeButItems top entries inside before beforeAlso first second →
    action.run first = .ok ((), after) →
    ∃ afterAlso, action.run second = .ok ((), afterAlso) ∧
      AlikeButItems top entries inside before beforeAlso after afterAlso

variable {top paths number : Nat} {entries items : List (Tree × Value)} {inside : Nat → Prop}
  {graph before beforeAlso first second after : Graph} {value : Value} {names : List String}

/-! ## What stays outside -/

section Kept

theorem KeptOutside.refl (inside : Nat → Prop) (graph : Graph) : KeptOutside inside graph graph :=
  fun _ _ => rfl

theorem KeptOutside.trans (front : KeptOutside inside before graph)
    (back : KeptOutside inside graph after) :
    KeptOutside inside before after :=
  fun number outside => (back number outside).trans (front number outside)

theorem keptOutside_put (isInside : inside number) (collection : Collection) :
    KeptOutside inside graph (graph.put number collection) := by
  intro other outside
  have different : number ≠ other := fun same => outside (same ▸ isInside)
  rw [put, Array.getElem?_setIfInBounds_ne different]

theorem keptOutside_set (mappingIn : value.StandsIn inside) (name : String) (inner : Value) :
    KeptOutside inside graph (graph.set value name inner) := by
  unfold Graph.set
  split
  · exact keptOutside_put mappingIn _
  · exact .refl inside graph

theorem keptOutside_add (fresh : ∀ number, graph.collections.size ≤ number → inside number)
    (collection : Collection) :
    KeptOutside inside graph (graph.add collection).1 := by
  intro other outside
  have different : other ≠ graph.collections.size := fun same =>
    outside (fresh other (Nat.le_of_eq same.symm))
  rw [add, Array.getElem?_push, if_neg different]

theorem exists_run_of_bind {α β : Type} {action : Replacement α} {next : α → Replacement β}
    {result : β} (ran : (action >>= next).run graph = .ok (result, after)) :
    ∃ found middle, action.run graph = .ok (found, middle) ∧
      (next found).run middle = .ok (result, after) := by
  rw [StateT.run_bind] at ran
  obtain ⟨⟨found, middle⟩, ranFirst, ranNext⟩ := exists_ok_of_bind ran
  exact ⟨found, middle, ranFirst, ranNext⟩

/-- A reference is looked up without a write. -/
theorem eq_of_run_replaced {registry : String} {found : Value}
    (ran : (replaced registry value).run graph = .ok (found, after)) :
    after = graph := by
  unfold replaced at ran
  simp only [StateT.run_bind, StateT.run_get, pure_bind] at ran
  split at ran
  · cases ran
    rfl
  · split at ran
    · split at ran
      · cases ran
        rfl
      · cases ran
    · cases ran
      rfl
  · split at ran
    · cases ran
      rfl
    · cases ran

theorem eq_of_run_mapM_replaced {registry : String} {values found : List Value}
    (ran : (values.mapM (replaced registry)).run graph = .ok (found, after)) :
    after = graph := by
  induction values generalizing graph found with
  | nil =>
      cases ran
      rfl
  | cons value rest inductionHypothesis =>
      rw [List.mapM_cons] at ran
      obtain ⟨first, middle, ranFirst, ranRest⟩ := exists_run_of_bind ran
      obtain ⟨others, last, ranOthers, built⟩ := exists_run_of_bind ranRest
      cases built
      rw [inductionHypothesis ranOthers, eq_of_run_replaced ranFirst]

theorem keptOutside_replaceParameters
    (fresh : ∀ number, graph.collections.size ≤ number → inside number)
    (operationIn : value.StandsIn inside)
    (ran : (replaceParameters value).run graph = .ok ((), after)) :
    KeptOutside inside graph after := by
  unfold replaceParameters at ran
  simp only [StateT.run_bind, StateT.run_get, pure_bind] at ran
  split at ran
  · obtain ⟨⟨changed, middle⟩, ranItems, written⟩ := exists_ok_of_bind ran
    obtain rfl := eq_of_run_mapM_replaced ranItems
    cases written
    exact (keptOutside_add fresh _).trans (keptOutside_set operationIn "parameters" _)
  · cases ran
    exact .refl inside graph

theorem keptOutside_replaceBody (operationIn : value.StandsIn inside)
    (ran : (replaceBody value).run graph = .ok ((), after)) :
    KeptOutside inside graph after := by
  unfold replaceBody at ran
  simp only [StateT.run_bind, StateT.run_get, pure_bind] at ran
  split at ran
  · obtain ⟨⟨changed, middle⟩, ranBody, written⟩ := exists_ok_of_bind ran
    obtain rfl := eq_of_run_replaced ranBody
    cases written
    exact keptOutside_set operationIn "requestBody" _
  · cases ran
    exact .refl inside graph

end Kept

/-! ## Actions -/

section Actions

variable {action : Replacement Unit}

theorem keepsItems_of_keepsAlike
    (keeps : KeepsAlike top entries entries inside (fun _ => True) action)
    (kept : ∀ graph after, (∀ number, graph.collections.size ≤ number → inside number) →
      action.run graph = .ok ((), after) → KeptOutside inside graph after) :
    KeepsItems top entries inside before beforeAlso action := by
  intro first second after alikeItems ran
  obtain ⟨alike, firstKept, secondKept⟩ := alikeItems
  have outcome := keeps first second alike
  rw [ran] at outcome
  generalize ranAlso : action.run second = other at outcome
  cases outcome with
  | @ok _ _ afterAlso _ alikeAfter =>
      have freshAlso : ∀ number, second.collections.size ≤ number → inside number := by
        rw [alike.size]
        exact alike.fresh
      have firstStays := kept first after alike.fresh ran
      have secondStays := kept second afterAlso freshAlso ranAlso
      exact ⟨afterAlso, rfl, alikeAfter, firstKept.trans firstStays, secondKept.trans secondStays⟩

theorem keepsItems_pure : KeepsItems top entries inside before beforeAlso (pure ()) := by
  intro first second after alikeItems ran
  cases ran
  exact ⟨second, rfl, alikeItems⟩

theorem KeepsItems.bind {next : Unit → Replacement Unit}
    (keeps : KeepsItems top entries inside before beforeAlso action)
    (nextKeeps : KeepsItems top entries inside before beforeAlso (next ())) :
    KeepsItems top entries inside before beforeAlso (action >>= next) := by
  intro first second after alikeItems ran
  obtain ⟨⟨⟩, middle, ranFirst, ranNext⟩ := exists_run_of_bind ran
  obtain ⟨middleAlso, ranFirstAlso, alikeMiddle⟩ := keeps first second middle alikeItems ranFirst
  obtain ⟨afterAlso, ranNextAlso, alikeAfter⟩ :=
    nextKeeps middle middleAlso after alikeMiddle ranNext
  refine ⟨afterAlso, ?_, alikeAfter⟩
  rw [StateT.run_bind, bind_eq_of_ok ranFirstAlso]
  exact ranNextAlso

theorem KeepsItems.forM {α : Type} {action : α → Replacement Unit} {values : List α}
    (keeps : ∀ value ∈ values, KeepsItems top entries inside before beforeAlso (action value)) :
    KeepsItems top entries inside before beforeAlso (values.forM action) := by
  induction values with
  | nil => exact keepsItems_pure
  | cons value rest inductionHypothesis =>
      obtain ⟨keepsValue, keepsRest⟩ := List.forall_mem_cons.mp keeps
      exact keepsValue.bind (inductionHypothesis keepsRest)

end Actions

/-! ## Replacing in path items -/

theorem get?_collection_eq (same : second.collections[number]? = first.collections[number]?)
    (name : String) :
    second.get? (.collection number) name = first.get? (.collection number) name := by
  simp only [get?, entries?, collection?, same]

theorem KeptOutside.get?_eq (kept : KeptOutside inside before after)
    (outside : ¬ value.StandsIn inside) (name : String) :
    after.get? value name = before.get? value name := by
  cases value with
  | leaf tree => rfl
  | collection number => exact get?_collection_eq (kept number outside) name

theorem SameItems.get?_eq (sameItems : SameItems items inside before beforeAlso)
    {item : Tree × Value} (isItem : item ∈ items) (method : HttpMethod) :
    beforeAlso.get? item.2 method.key = before.get? item.2 method.key := by
  cases isValue : item.2 with
  | leaf tree => rfl
  | collection number =>
      obtain same | ⟨members, changed, found, foundAlso, methods⟩ :=
        sameItems.same item isItem number isValue
      · exact get?_collection_eq same method.key
      · simp only [get?, entries?, collection?, found, foundAlso, Option.bind_some, methods.same]

/-- At all times both graphs have the same operation under a method of a path item, and it stands
inside. -/
theorem AlikeButItems.get?_eq
    (alikeItems : AlikeButItems top entries inside before beforeAlso first second)
    (sameItems : SameItems items inside before beforeAlso) {item : Tree × Value}
    (isItem : item ∈ items) (method : HttpMethod) :
    second.get? item.2 method.key = first.get? item.2 method.key ∧
      ∀ operation, first.get? item.2 method.key = some operation → operation.StandsIn inside := by
  obtain ⟨alike, firstKept, secondKept⟩ := alikeItems
  by_cases standsIn : item.2.StandsIn inside
  · exact ⟨alike.get?_eq standsIn method.key, fun _ => alike.standsIn_of_get? standsIn⟩
  · rw [firstKept.get?_eq standsIn, secondKept.get?_eq standsIn]
    exact ⟨sameItems.get?_eq isItem method, sameItems.operationsIn item isItem method⟩

theorem keepsItems_replaceInPathItem (named : SameNamed names entries entries inside)
    (isName : "components" ∈ names) (sameItems : SameItems items inside before beforeAlso)
    {item : Tree × Value} (isItem : item ∈ items) :
    KeepsItems top entries inside before beforeAlso (replaceInPathItem item.2) := by
  refine .forM fun method _ => ?_
  intro first second after alikeItems ran
  obtain ⟨same, operationsIn⟩ := alikeItems.get?_eq sameItems isItem method
  simp only [StateT.run_bind, StateT.run_get, pure_bind] at ran ⊢
  rw [same]
  cases found : first.get? item.2 method.key with
  | none =>
      rw [found] at ran
      exact keepsItems_pure first second after alikeItems ran
  | some operation =>
      rw [found] at ran
      have operationIn := operationsIn operation found
      have keepsParameters : KeepsItems top entries inside before beforeAlso
          (replaceParameters operation) :=
        keepsItems_of_keepsAlike (keepsAlike_replaceParameters named isName operationIn)
          fun _ _ fresh => keptOutside_replaceParameters fresh operationIn
      have keepsBody : KeepsItems top entries inside before beforeAlso (replaceBody operation) :=
        keepsItems_of_keepsAlike (keepsAlike_replaceBody named isName operationIn)
          fun _ _ _ => keptOutside_replaceBody operationIn
      exact (keepsParameters.bind keepsBody) first second after alikeItems ran

/-! ## Unfolding path items -/

theorem sameMethods_map {α β : Type} {entries changed : List (Tree × α)} {form other : α → β}
    (same : SameMethods entries changed)
    (sameForm : ∀ (method : HttpMethod) (value : α), findNamed? method.key entries = some value →
      other value = form value) :
    SameMethods (entries.map fun entry => (entry.1, form entry.2))
      (changed.map fun entry => (entry.1, other entry.2)) := by
  constructor
  · intro method
    rw [findNamed?_map, findNamed?_map, same.same method]
    cases found : findNamed? method.key entries with
    | none => rfl
    | some value => rw [Option.map_some, Option.map_some, sameForm method value found]
  · intro textKeys
    have keys : HaveTextKeys entries := fun entry member =>
      textKeys _ (List.mem_map_of_mem (f := fun entry => (entry.1, form entry.2)) member)
    intro entry member
    obtain ⟨before, isBefore, rfl⟩ := List.mem_map.mp member
    exact same.keys keys before isBefore

/-- The tree of a value inside a collection, at a depth and inside further ones. -/
def treeWithin (graph : Graph) (depth : Nat) (around : List Nat) (outer : Nat) : Value → Tree
  | .leaf tree => tree
  | .collection inner =>
      if around.count outer < 2 then graph.treeInside depth (outer :: around) (.collection inner)
      else .null

theorem treeInside_succ (graph : Graph) (depth : Nat) (around : List Nat) (number : Nat) :
    graph.treeInside (depth + 1) around (.collection number) =
      match graph.collections[number]? with
      | some collection => collection.tree (graph.treeWithin depth around number)
      | none => .null := by
  rw [treeInside]
  cases graph.collections[number]? with
  | none => rfl
  | some collection =>
      refine Collection.tree_congr fun inner _ => ?_
      cases inner <;> rfl

theorem Collection.tree_ne_mapping {collection : Collection} {form : Value → Tree}
    (notMapping : ∀ entries, collection ≠ .mapping entries) (entries : Entries) :
    collection.tree form ≠ .mapping entries := by
  cases collection with
  | mapping entries => exact absurd rfl (notMapping entries)
  | _ => exact nofun

theorem Alike.treeWithin_eq {others : List (Tree × Value)}
    (alike : Alike top entries others inside first second) (depth : Nat) (around : List Nat)
    (outer : Nat) (standsIn : value.StandsIn inside) :
    second.treeWithin depth around outer value = first.treeWithin depth around outer value := by
  cases value with
  | leaf tree => rfl
  | collection inner => simp only [treeWithin, alike.treeInside_eq depth _ standsIn]

section Items

variable {item : Tree × Value}
  (alikeItems : AlikeButItems top entries inside before beforeAlso first second)
  (sameItems : SameItems items inside before beforeAlso) (isItem : item ∈ items)
include alikeItems sameItems isItem

/-- A path item with the same methods unfolds to a mapping with the same methods, as operations
stand inside. -/
theorem sameItem_tree_mapping (isValue : item.2 = .collection number) (depth : Nat)
    (around : List Nat) {members changed : List (Tree × Value)}
    (found : before.collections[number]? = some (.mapping members))
    (methods : SameMethods members changed) :
    Tree.SameItem ((Collection.mapping members).tree (first.treeWithin depth around number))
      ((Collection.mapping changed).tree (second.treeWithin depth around number)) := by
  refine .mapping (sameMethods_map methods fun method operation isOperation => ?_)
  have isFound : before.get? item.2 method.key = some operation := by
    rw [isValue]
    simp only [get?, entries?, collection?, found, Option.bind_some, isOperation]
  have operationIn := sameItems.operationsIn item isItem method operation isFound
  exact alikeItems.alike.treeWithin_eq depth around number operationIn

theorem sameItem_treeInside (depth : Nat) (around : List Nat) :
    Tree.SameItem (first.treeInside depth around item.2)
      (second.treeInside depth around item.2) := by
  by_cases standsIn : item.2.StandsIn inside
  · rw [alikeItems.alike.treeInside_eq depth around standsIn]
    exact Tree.sameItem_refl _
  · cases isValue : item.2 with
    | leaf tree =>
        rw [isValue] at standsIn
        exact absurd trivial standsIn
    | collection number =>
        rw [isValue] at standsIn
        cases depth with
        | zero => exact Tree.sameItem_refl _
        | succ depth =>
            rw [treeInside_succ, treeInside_succ, alikeItems.firstKept number standsIn,
              alikeItems.secondKept number standsIn]
            obtain same | ⟨members, changed, found, foundAlso, methods⟩ :=
              sameItems.same item isItem number isValue
            · rw [same]
              cases found : before.collections[number]? with
              | none => exact Tree.sameItem_refl _
              | some collection =>
                  cases collection with
                  | mapping members =>
                      exact sameItem_tree_mapping alikeItems sameItems isItem isValue depth around
                        found (sameMethods_refl members)
                  | _ =>
                      exact .other (Collection.tree_ne_mapping nofun)
                        (Collection.tree_ne_mapping nofun)
            · rw [found, foundAlso]
              exact sameItem_tree_mapping alikeItems sameItems isItem isValue depth around found
                methods

theorem sameItem_treeWithin (depth : Nat) (around : List Nat) (outer : Nat) :
    Tree.SameItem (first.treeWithin depth around outer item.2)
      (second.treeWithin depth around outer item.2) := by
  have unfolded := sameItem_treeInside alikeItems sameItems isItem depth (outer :: around)
  cases isValue : item.2 with
  | leaf tree => exact Tree.sameItem_refl tree
  | collection inner =>
      rw [isValue] at unfolded
      simp only [treeWithin]
      split
      · exact unfolded
      · exact Tree.sameItem_refl _

end Items

/-- The trees of path items among the paths of the mapping at the top. -/
def itemTrees (graph : Graph) (top paths : Nat) (items : List (Tree × Value)) : Entries :=
  items.map fun item => (item.1, graph.treeWithin (2 * graph.collections.size) [top] paths item.2)

theorem find?_paths_treeEntries (isNamed : findNamed? "paths" entries = some (.collection paths))
    (isPaths : graph.collections[paths]? = some (.mapping items)) :
    (graph.treeEntries top entries).find? "paths" =
      some (.mapping (graph.itemTrees top paths items)) := by
  rw [find?_treeEntries, isNamed, Option.map_some, treeBelow, treeInside_succ, isPaths]
  rfl

/-- Graphs that are alike but for path items unfold to trees that are. -/
theorem AlikeButItems.sameButItems
    (alikeItems : AlikeButItems top entries inside before beforeAlso first second)
    (sameItems : SameItems items inside before beforeAlso)
    (hasItems : before.HasItems top entries paths items)
    (hasItemsAlso : beforeAlso.HasItems top entries paths items) (outside : ¬ inside paths)
    (named : SameNamed before.partNames entries entries inside) :
    Entries.SameButItems (first.treeEntries top entries) (second.treeEntries top entries)
      (first.itemTrees top paths items) (second.itemTrees top paths items) where
  same := by
    intro name isRead notPaths
    have atTop := get?_root_eq hasItems.isRoot hasItems.isTop "schemas"
    rw [Entries.has, find?_treeEntries, Option.isSome_map, ← atTop] at isRead
    have isPart : name ∈ before.partNames :=
      List.mem_filter.mpr ⟨isRead, bne_iff_ne.mpr notPaths⟩
    exact alikeItems.alike.find?_treeEntries_eq named isPart
  paths := by
    have kept := alikeItems.firstKept paths outside
    exact find?_paths_treeEntries hasItems.isNamed (kept.trans hasItems.isPaths)
  pathsAlso := by
    have kept := alikeItems.secondKept paths outside
    exact find?_paths_treeEntries hasItems.isNamed (kept.trans hasItemsAlso.isPaths)
  items := by
    refine List.forall₂_map_left_iff.mpr (List.forall₂_map_right_iff.mpr ?_)
    refine List.forall₂_same.mpr fun item isItem => ⟨rfl, ?_⟩
    rw [alikeItems.alike.size]
    exact sameItem_treeWithin alikeItems sameItems isItem _ _ _

/-! ## Another mapping as a path item -/

theorem exists_collection_of_entries? {members : List (Tree × Value)}
    (isMapping : graph.entries? value = some members) :
    ∃ number, value = .collection number ∧
      graph.collections[number]? = some (.mapping members) := by
  have found := collection?_of_entries? isMapping
  cases value with
  | leaf tree => cases found
  | collection number => exact ⟨number, rfl, found⟩

theorem exists_hasItems (isItems : graph.items? = some items) :
    ∃ top entries paths, graph.HasItems top entries paths items := by
  obtain ⟨value, isValue, pathsMapping⟩ := Option.bind_eq_some_iff.mp isItems
  obtain ⟨entries, rootMapping, isNamed⟩ := Option.bind_eq_some_iff.mp isValue
  obtain ⟨paths, rfl, isPaths⟩ := exists_collection_of_entries? pathsMapping
  obtain ⟨top, isRoot, isTop⟩ := exists_collection_of_entries? rootMapping
  exact ⟨top, entries, paths, isRoot, isTop, isNamed, isPaths⟩

theorem HasItems.get?_paths (hasItems : graph.HasItems top entries paths items) :
    graph.get? graph.root "paths" = some (.collection paths) :=
  (get?_root_eq hasItems.isRoot hasItems.isTop "paths").trans hasItems.isNamed

theorem HasItems.items?_eq (hasItems : graph.HasItems top entries paths items) :
    graph.items? = some items := by
  rw [items?, hasItems.get?_paths, Option.bind_some, entries?, collection?, hasItems.isPaths]

theorem HasItems.run_replaceInPaths (hasItems : graph.HasItems top entries paths items) :
    replaceInPaths.run graph = (items.forM fun item => replaceInPathItem item.2).run graph := by
  have isItems := hasItems.items?_eq
  unfold items? at isItems
  unfold replaceInPaths
  simp only [StateT.run_bind, StateT.run_get, pure_bind, isItems]

theorem standsIn_insideItems {collection : Collection} (isInside : graph.InsideItems items number)
    (found : graph.collections[number]? = some collection) :
    ∀ inner ∈ collection.values, inner.StandsIn (graph.InsideItems items) := by
  intro inner isInner
  cases inner with
  | leaf tree => trivial
  | collection other =>
      obtain ⟨name, isName, value, isValue, holds⟩ |
        ⟨item, isItem, method, operation, isOperation, holds⟩ | large := isInside
      · exact .inl ⟨name, isName, value, isValue, holds.step found isInner⟩
      · exact .inr (.inl ⟨item, isItem, method, operation, isOperation, holds.step found isInner⟩)
      · have isNumber := (Array.getElem?_eq_some_iff.mp found).1
        exact absurd isNumber (Nat.not_lt.mpr large)

theorem getElem?_put_ne {other : Nat} (different : number ≠ other) (collection : Collection) :
    (graph.put number collection).collections[other]? = graph.collections[other]? := by
  rw [put, Array.getElem?_setIfInBounds_ne different]

section Put

variable {members changed : List (Tree × Value)} (standsAsItem : graph.StandsAsItem number)
  (hasItems : graph.HasItems top entries paths items)
  (found : graph.collections[number]? = some (.mapping members))
include standsAsItem hasItems

theorem hasItems_put (collection : Collection) :
    (graph.put number collection).HasItems top entries paths items where
  isRoot := hasItems.isRoot
  isTop := by
    have notTop : number ≠ top := fun isTop => standsAsItem.notTop (isTop ▸ hasItems.isRoot)
    rw [getElem?_put_ne notTop, hasItems.isTop]
  isNamed := hasItems.isNamed
  isPaths := by
    have notPaths : number ≠ paths := fun isPaths =>
      standsAsItem.notPaths (isPaths ▸ hasItems.get?_paths)
    rw [getElem?_put_ne notPaths, hasItems.isPaths]

theorem exists_key_mem_items : ∃ key, (key, .collection number) ∈ items := by
  obtain ⟨others, key, isItems, isItem⟩ := standsAsItem.isItem
  rw [hasItems.items?_eq] at isItems
  cases isItems
  exact ⟨key, isItem⟩

include found

theorem item_outside : ¬ graph.InsideItems items number := by
  rintro (⟨name, isName, value, isValue, holds⟩ |
    ⟨item, isItem, method, operation, isFound, holds⟩ | large)
  · exact standsAsItem.apartFromParts name isName value isValue holds
  · exact standsAsItem.apartFromOperations items hasItems.items?_eq item isItem method operation
      isFound holds
  · exact absurd (Array.getElem?_eq_some_iff.mp found).1 (Nat.not_lt.mpr large)

/-- The mapping of paths is not inside, as the path item would be inside with it. -/
theorem paths_outside : ¬ graph.InsideItems items paths := by
  intro isInside
  obtain ⟨key, isItem⟩ := exists_key_mem_items standsAsItem hasItems
  exact item_outside standsAsItem hasItems found
    (standsIn_insideItems isInside hasItems.isPaths _ (List.mem_map_of_mem (f := Prod.snd) isItem))

theorem top_outside : ¬ graph.InsideItems items top := by
  intro isInside
  have isMember := mem_of_findNamed? hasItems.isNamed
  exact paths_outside standsAsItem hasItems found
    (standsIn_insideItems isInside hasItems.isTop _ (List.mem_map_of_mem (f := Prod.snd) isMember))

theorem alike_put_item (collection : Collection) :
    Alike top entries entries (graph.InsideItems items) graph (graph.put number collection) where
  firstRoot := hasItems.isRoot
  secondRoot := hasItems.isRoot
  firstTop := hasItems.isTop
  secondTop := (hasItems_put standsAsItem hasItems collection).isTop
  outside := top_outside standsAsItem hasItems found
  size := by rw [put, Array.size_setIfInBounds]
  same := by
    intro other isInside
    have different : number ≠ other := by
      rintro rfl
      exact item_outside standsAsItem hasItems found isInside
    exact getElem?_put_ne different collection
  closed := fun _ _ isInside => standsIn_insideItems isInside
  fresh := fun _ large => .inr (.inr large)

omit standsAsItem hasItems

theorem sameItems_put (same : SameMethods members changed) :
    SameItems items (graph.InsideItems items) graph (graph.put number (.mapping changed)) := by
  refine ⟨fun item _ other _ => ?_, fun item isItem method operation isFound => ?_⟩
  · by_cases isOther : number = other
    · subst isOther
      have isNumber := (Array.getElem?_eq_some_iff.mp found).1
      refine .inr ⟨members, changed, found, ?_, same⟩
      rw [put, Array.getElem?_setIfInBounds_self_of_lt isNumber]
    · exact .inl (getElem?_put_ne isOther _)
  · cases operation with
    | leaf tree => trivial
    | collection other => exact .inr (.inl ⟨item, isItem, method, _, isFound, .here other⟩)

end Put

theorem sameNamed_insideItems (hasItems : graph.HasItems top entries paths items) :
    SameNamed graph.partNames entries entries (graph.InsideItems items) := by
  refine ⟨fun _ _ => rfl, fun name isName value isValue => ?_⟩
  cases value with
  | leaf tree => trivial
  | collection other =>
      have atTop := get?_root_eq hasItems.isRoot hasItems.isTop name
      exact .inl ⟨name, isName, _, atTop.trans isValue, .here other⟩

/-- With another mapping as a path item that has the same methods, the replacement comes to a graph
as well, and these graphs unfold to trees that differ in nothing but the other keys of path
items. -/
theorem replaceAll_put_item {members changed : List (Tree × Value)}
    (standsAsItem : graph.StandsAsItem number)
    (found : graph.collections[number]? = some (.mapping members))
    (same : SameMethods members changed) (replaced : graph.replaceAll = .ok after) :
    ∃ (afterAlso : Graph) (fields fieldsAlso itemsBefore itemsAfter : Entries),
      (graph.put number (.mapping changed)).replaceAll = .ok afterAlso ∧
        after.tree = .mapping fields ∧ afterAlso.tree = .mapping fieldsAlso ∧
        Entries.SameButItems fields fieldsAlso itemsBefore itemsAfter := by
  obtain ⟨items, _, isItems, _⟩ := standsAsItem.isItem
  obtain ⟨top, entries, paths, hasItems⟩ := exists_hasItems isItems
  have hasItemsAlso := hasItems_put standsAsItem hasItems (.mapping changed)
  have named := sameNamed_insideItems hasItems
  have sameItems : SameItems items (graph.InsideItems items) graph
      (graph.put number (.mapping changed)) := sameItems_put found same
  have start : AlikeButItems top entries (graph.InsideItems items) graph
      (graph.put number (.mapping changed)) graph (graph.put number (.mapping changed)) :=
    ⟨alike_put_item standsAsItem hasItems found _, .refl _ _, .refl _ _⟩
  have isComponents : "components" ∈ graph.partNames :=
    List.mem_filter.mpr ⟨by simp [Document.readNames], by decide⟩
  have keeps : KeepsItems top entries (graph.InsideItems items) graph
      (graph.put number (.mapping changed))
      (items.forM fun item => replaceInPathItem item.2) :=
    .forM fun item isItem => keepsItems_replaceInPathItem named isComponents sameItems isItem
  have ran : (items.forM fun item => replaceInPathItem item.2).run graph = .ok ((), after) := by
    rw [← hasItems.run_replaceInPaths]
    unfold replaceAll at replaced
    cases ranPaths : replaceInPaths.run graph with
    | error fault =>
        rw [ranPaths] at replaced
        cases replaced
    | ok outcome =>
        rw [ranPaths] at replaced
        cases replaced
        rfl
  obtain ⟨afterAlso, ranAlso, alikeItems⟩ := keeps _ _ after start ran
  refine ⟨afterAlso, _, _, _, _, ?_, tree_eq alikeItems.alike.firstRoot alikeItems.alike.firstTop,
    tree_eq alikeItems.alike.secondRoot alikeItems.alike.secondTop,
    alikeItems.sameButItems sameItems hasItems hasItemsAlso
      (paths_outside standsAsItem hasItems found) named⟩
  rw [replaceAll, hasItemsAlso.run_replaceInPaths, ranAlso]
  rfl

end OpenApiJava.Graph
