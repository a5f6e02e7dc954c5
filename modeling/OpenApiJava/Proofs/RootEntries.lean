import OpenApiJava.Graph.Reference
import OpenApiJava.Proofs.NamedEntries
import OpenApiJava.Proofs.Pointers

/-!
# Graphs with other entries at the top

The replacement of references looks at some entries of the mapping at the top, and at what stands
inside them. Main statement: from two graphs that have the same inside these entries, it comes to
the same fault, or to two graphs that have the same inside them again.
-/

namespace OpenApiJava

/-- The pointers into a registry start at the components. -/
theorem Reference.exists_keys_of_isPrefix {registry reference : String}
    (isRegistry : "#/components/".toList <+: registry.toList)
    (starts : registry.toList <+: reference.toList) :
    ∃ rest, keys reference = "components" :: rest := by
  obtain ⟨rest, same⟩ := isRegistry.trans starts
  have path : reference.toList.dropWhile (fun character => character == '#' || character == '/') =
      "components".toList ++ '/' :: rest := by
    rw [← same]
    rfl
  unfold keys
  simp only [path, Text.pieces_append_separator, List.map_append]
  exact ⟨_, rfl⟩

theorem Reference.isPrefix_parameterRegistry :
    "#/components/".toList <+: parameterRegistry.toList :=
  ⟨_, rfl⟩

theorem Reference.isPrefix_requestBodyRegistry :
    "#/components/".toList <+: requestBodyRegistry.toList :=
  ⟨_, rfl⟩

namespace Graph

/-- The values that a collection holds. -/
def Collection.values : Collection → List Value
  | .list items => items
  | .pairs items => items.flatMap fun item => [item.1, item.2]
  | .set _ => []
  | .mapping entries => entries.map Prod.snd

/-- The collection with the number stands in the value, at any depth. -/
inductive Holds (graph : Graph) : Value → Nat → Prop
  | here (number : Nat) : Holds graph (.collection number) number
  | inside {outer number : Nat} {collection : Collection} {value : Value} :
      graph.collections[outer]? = some collection → value ∈ collection.values →
      Holds graph value number → Holds graph (.collection outer) number

/-- A leaf, or a collection whose number is inside. -/
def Value.StandsIn (inside : Nat → Prop) : Value → Prop
  | .leaf _ => True
  | .collection number => inside number

/-- Two graphs with a mapping at the top that have the same collections inside. These hold one
another and no others, and the mapping at the top is none of them. New collections are inside. -/
structure Alike (top : Nat) (entries others : List (Tree × Value)) (inside : Nat → Prop)
    (first second : Graph) : Prop where
  firstRoot : first.root = .collection top
  secondRoot : second.root = .collection top
  firstTop : first.collections[top]? = some (.mapping entries)
  secondTop : second.collections[top]? = some (.mapping others)
  outside : ¬ inside top
  size : second.collections.size = first.collections.size
  same : ∀ number, inside number → second.collections[number]? = first.collections[number]?
  closed : ∀ number collection, inside number → first.collections[number]? = some collection →
    ∀ value ∈ collection.values, value.StandsIn inside
  fresh : ∀ number, first.collections.size ≤ number → inside number

/-- The entries at the top have the same values under the names, and these stand inside. -/
structure SameNamed (names : List String) (entries others : List (Tree × Value))
    (inside : Nat → Prop) : Prop where
  same : ∀ name ∈ names, findNamed? name others = findNamed? name entries
  standsIn : ∀ name ∈ names, ∀ value, findNamed? name entries = some value → value.StandsIn inside

variable {top : Nat} {entries others : List (Tree × Value)} {inside : Nat → Prop}
  {first second : Graph} {names : List String} {value : Value} {name : String}

/-! ## Another mapping at the top -/

theorem Holds.step {graph : Graph} {outer inner : Nat} {collection : Collection}
    (holds : graph.Holds value outer) (found : graph.collections[outer]? = some collection)
    (isInner : .collection inner ∈ collection.values) :
    graph.Holds value inner := by
  induction holds with
  | here number => exact .inside found isInner (.here inner)
  | inside isOuter isValue _ inductionHypothesis =>
      exact .inside isOuter isValue (inductionHypothesis found)

/-- The collections in what stands under the names, and all those that are yet to come. -/
def InsideNamed (graph : Graph) (names : List String) (entries : List (Tree × Value))
    (number : Nat) : Prop :=
  (∃ name ∈ names, ∃ value, findNamed? name entries = some value ∧ graph.Holds value number) ∨
    graph.collections.size ≤ number

theorem alike_put {graph : Graph} (others : List (Tree × Value))
    (isRoot : graph.root = .collection top)
    (isTop : graph.collections[top]? = some (.mapping entries))
    (apart : ∀ name ∈ names, ∀ value, findNamed? name entries = some value →
      ¬ graph.Holds value top) :
    Alike top entries others (graph.InsideNamed names entries) graph
      (graph.put top (.mapping others)) := by
  have isNumber : top < graph.collections.size := (Array.getElem?_eq_some_iff.mp isTop).1
  have outside : ¬ graph.InsideNamed names entries top := by
    rintro (⟨name, isName, value, found, holds⟩ | large)
    · exact apart name isName value found holds
    · exact absurd isNumber (Nat.not_lt.mpr large)
  refine ⟨isRoot, isRoot, isTop, ?_, outside, ?_, ?_, ?_, fun number => .inr⟩
  · rw [Graph.put, Array.getElem?_setIfInBounds_self_of_lt isNumber]
  · rw [Graph.put, Array.size_setIfInBounds]
  · intro number isInside
    have notTop : top ≠ number := fun same => outside (same ▸ isInside)
    rw [Graph.put, Array.getElem?_setIfInBounds_ne notTop]
  · intro number collection isInside isCollection inner isInner
    obtain ⟨name, isName, value, found, holds⟩ | large := isInside
    · cases inner with
      | leaf tree => trivial
      | collection other =>
          exact .inl ⟨name, isName, value, found, holds.step isCollection isInner⟩
    · have isNumber := (Array.getElem?_eq_some_iff.mp isCollection).1
      exact absurd isNumber (Nat.not_lt.mpr large)

theorem sameNamed_insideNamed {graph : Graph}
    (same : ∀ name ∈ names, findNamed? name others = findNamed? name entries) :
    SameNamed names entries others (graph.InsideNamed names entries) := by
  refine ⟨same, fun name isName value found => ?_⟩
  cases value with
  | leaf tree => trivial
  | collection number => exact .inl ⟨name, isName, _, found, .here number⟩

/-! ## Looking things up -/

theorem collection?_of_entries? {graph : Graph} {members : List (Tree × Value)}
    (isMapping : graph.entries? value = some members) :
    graph.collection? value = some (.mapping members) := by
  unfold entries? at isMapping
  split at isMapping
  · rename_i same
    cases isMapping
    exact same
  · cases isMapping

theorem entries?_root_eq {graph : Graph} (isRoot : graph.root = .collection top)
    (isTop : graph.collections[top]? = some (.mapping entries)) :
    graph.entries? graph.root = some entries := by
  rw [entries?, isRoot, collection?, isTop]

theorem get?_root_eq {graph : Graph} (isRoot : graph.root = .collection top)
    (isTop : graph.collections[top]? = some (.mapping entries)) (name : String) :
    graph.get? graph.root name = findNamed? name entries := by
  rw [get?, entries?_root_eq isRoot isTop]
  rfl

theorem get?_eq_some {graph : Graph} {members : List (Tree × Value)} {inner : Value}
    (isMapping : graph.entries? value = some members)
    (found : findNamed? name members = some inner) :
    graph.get? value name = some inner := by
  rw [get?, isMapping, Option.bind_some, found]

namespace Alike

theorem collection?_eq (alike : Alike top entries others inside first second)
    (standsIn : value.StandsIn inside) :
    second.collection? value = first.collection? value := by
  cases value with
  | leaf tree => rfl
  | collection number => exact alike.same number standsIn

theorem entries?_eq (alike : Alike top entries others inside first second)
    (standsIn : value.StandsIn inside) :
    second.entries? value = first.entries? value := by
  rw [entries?, alike.collection?_eq standsIn, entries?]

theorem get?_eq (alike : Alike top entries others inside first second)
    (standsIn : value.StandsIn inside) (name : String) :
    second.get? value name = first.get? value name := by
  rw [get?, alike.entries?_eq standsIn, get?]

theorem standsIn_of_mem_values (alike : Alike top entries others inside first second)
    (standsIn : value.StandsIn inside) {collection : Collection}
    (found : first.collection? value = some collection) :
    ∀ inner ∈ collection.values, inner.StandsIn inside := by
  cases value with
  | leaf tree => cases found
  | collection number => exact alike.closed number collection standsIn found

theorem standsIn_of_get? (alike : Alike top entries others inside first second)
    (standsIn : value.StandsIn inside) {inner : Value}
    (found : first.get? value name = some inner) :
    inner.StandsIn inside := by
  obtain ⟨members, isMapping, found⟩ := Option.bind_eq_some_iff.mp found
  have isMember := mem_of_findNamed? found
  exact alike.standsIn_of_mem_values standsIn (collection?_of_entries? isMapping) inner
    (List.mem_map_of_mem (f := Prod.snd) isMember)

/-! ## Writing -/

theorem put (alike : Alike top entries others inside first second) {number : Nat}
    (isInside : inside number) {collection : Collection}
    (standIn : ∀ inner ∈ collection.values, inner.StandsIn inside) :
    Alike top entries others inside (first.put number collection)
      (second.put number collection) := by
  -- The mappings at the top differ, so that a write to them would not leave the graphs alike.
  have notTop : number ≠ top := fun same => alike.outside (same ▸ isInside)
  refine { alike with
    firstTop := ?_, secondTop := ?_, size := ?_, same := ?_, closed := ?_, fresh := ?_ }
  · rw [Graph.put, Array.getElem?_setIfInBounds_ne notTop, alike.firstTop]
  · rw [Graph.put, Array.getElem?_setIfInBounds_ne notTop, alike.secondTop]
  · simp only [Graph.put, Array.size_setIfInBounds, alike.size]
  · intro other otherInside
    simp only [Graph.put, Array.getElem?_setIfInBounds, alike.size, alike.same other otherInside]
  · intro other found otherInside isFound
    simp only [Graph.put, Array.getElem?_setIfInBounds] at isFound
    split at isFound
    · split at isFound
      · cases isFound
        exact standIn
      · cases isFound
    · exact alike.closed other found otherInside isFound
  · intro other large
    simp only [Graph.put, Array.size_setIfInBounds] at large
    exact alike.fresh other large

theorem add (alike : Alike top entries others inside first second) (collection : Collection)
    (standIn : ∀ inner ∈ collection.values, inner.StandsIn inside) :
    Alike top entries others inside (first.add collection).1 (second.add collection).1 := by
  -- The new collection gets the next number, which is inside as all numbers to come are.
  have notLast : top < first.collections.size := by
    by_contra large
    exact alike.outside (alike.fresh top (Nat.le_of_not_lt large))
  refine { alike with
    firstTop := ?_, secondTop := ?_, size := ?_, same := ?_, closed := ?_, fresh := ?_ }
  · rw [Graph.add, Array.getElem?_push, if_neg (Nat.ne_of_lt notLast), alike.firstTop]
  · rw [Graph.add, Array.getElem?_push, alike.size, if_neg (Nat.ne_of_lt notLast), alike.secondTop]
  · simp only [Graph.add, Array.size_push, alike.size]
  · intro other otherInside
    simp only [Graph.add, Array.getElem?_push, alike.size, alike.same other otherInside]
  · intro other found otherInside isFound
    simp only [Graph.add, Array.getElem?_push] at isFound
    split at isFound
    · cases isFound
      exact standIn
    · exact alike.closed other found otherInside isFound
  · intro other large
    simp only [Graph.add, Array.size_push] at large
    exact alike.fresh other (Nat.le_of_succ_le large)

theorem add_snd_eq (alike : Alike top entries others inside first second)
    (collection : Collection) :
    (second.add collection).2 = (first.add collection).2 := by
  simp only [Graph.add, alike.size]

theorem standsIn_add (alike : Alike top entries others inside first second)
    (collection : Collection) :
    (first.add collection).2.StandsIn inside :=
  alike.fresh _ (Nat.le_refl _)

theorem set (alike : Alike top entries others inside first second) {mapping : Value}
    (mappingIn : mapping.StandsIn inside) (name : String) (standsIn : value.StandsIn inside) :
    Alike top entries others inside (first.set mapping name value)
      (second.set mapping name value) := by
  unfold Graph.set
  rw [alike.entries?_eq mappingIn]
  cases mapping with
  | leaf tree => exact alike
  | collection number =>
      cases isMapping : first.entries? (.collection number) with
      | none => exact alike
      | some members =>
          have membersIn :=
            alike.standsIn_of_mem_values mappingIn (collection?_of_entries? isMapping)
          refine alike.put mappingIn fun inner isInner => ?_
          cases mem_map_snd_putEntry isInner with
          | inl isValue => exact isValue ▸ standsIn
          | inr isOld => exact membersIn inner isOld

/-! ## Following references -/

theorem follow_eq (alike : Alike top entries others inside first second) (keys : List String)
    (standsIn : value.StandsIn inside) :
    second.follow keys value = first.follow keys value := by
  fun_induction Graph.follow first keys value with
  | case1 => rfl
  | case2 key rest value noMapping =>
      rw [Graph.follow, alike.entries?_eq standsIn, noMapping]
  | case3 key rest value members isMapping next found inductionHypothesis =>
      have nextIn : next.StandsIn inside :=
        alike.standsIn_of_get? standsIn (get?_eq_some isMapping found)
      rw [Graph.follow, alike.entries?_eq standsIn, isMapping]
      simp only [found, inductionHypothesis nextIn]
  | case4 key rest value members isMapping missing =>
      rw [Graph.follow, alike.entries?_eq standsIn, isMapping]
      simp only [missing]

theorem standsIn_of_follow (alike : Alike top entries others inside first second)
    {keys : List String} (standsIn : value.StandsIn inside) {last : Value}
    (leads : first.follow keys value = .ok last) :
    last.StandsIn inside := by
  fun_induction Graph.follow first keys value with
  | case1 =>
      cases leads
      exact standsIn
  | case2 => cases leads
  | case3 key rest value members isMapping next found inductionHypothesis =>
      have nextIn : next.StandsIn inside :=
        alike.standsIn_of_get? standsIn (get?_eq_some isMapping found)
      exact inductionHypothesis nextIn leads
  | case4 => cases leads

/-- A way that starts at a name of the top stays inside. -/
theorem follow_root_eq (alike : Alike top entries others inside first second)
    (named : SameNamed names entries others inside) (isName : name ∈ names) (rest : List String) :
    second.follow (name :: rest) second.root = first.follow (name :: rest) first.root ∧
      ∀ last, first.follow (name :: rest) first.root = .ok last → last.StandsIn inside := by
  have firstEntries := entries?_root_eq alike.firstRoot alike.firstTop
  have secondEntries := entries?_root_eq alike.secondRoot alike.secondTop
  simp only [Graph.follow, firstEntries, secondEntries, named.same name isName]
  cases found : findNamed? name entries with
  | none => exact ⟨rfl, nofun⟩
  | some next =>
      have nextIn := named.standsIn name isName next found
      exact ⟨alike.follow_eq rest nextIn, fun last leads => alike.standsIn_of_follow nextIn leads⟩

theorem target_eq (alike : Alike top entries others inside first second)
    (named : SameNamed names entries others inside) (isName : name ∈ names) {reference : String}
    {rest : List String} (keys : Reference.keys reference = name :: rest) :
    second.target reference = first.target reference ∧
      ∀ last, first.target reference = .ok last → last.StandsIn inside := by
  obtain ⟨sameWay, standsIn⟩ := alike.follow_root_eq named isName rest
  unfold Graph.target
  rw [keys, sameWay]
  cases followed : first.follow (name :: rest) first.root with
  | error fault => exact ⟨rfl, nofun⟩
  | ok last =>
      have lastIn := standsIn last followed
      simp only [alike.entries?_eq lastIn, true_and]
      intro target isTarget
      split at isTarget
      · cases isTarget
        exact lastIn
      · cases isTarget

end Alike

/-! ## Unfolding -/

theorem Collection.tree_congr {collection : Collection} {tree other : Value → Tree}
    (same : ∀ inner ∈ collection.values, other inner = tree inner) :
    collection.tree other = collection.tree tree := by
  cases collection with
  | list items =>
      exact congrArg Tree.list (List.map_congr_left same)
  | pairs items =>
      refine congrArg Tree.list (List.map_congr_left fun item isItem => ?_)
      have held : ∀ inner ∈ [item.1, item.2], other inner = tree inner := fun inner isInner =>
        same inner (List.mem_flatMap.mpr ⟨item, isItem, isInner⟩)
      rw [held item.1 List.mem_cons_self, held item.2 (by simp)]
  | set items => rfl
  | mapping members =>
      refine congrArg Tree.mapping (List.map_congr_left fun member isMember => ?_)
      rw [same member.2 (List.mem_map_of_mem (f := Prod.snd) isMember)]

namespace Alike

theorem treeInside_eq (alike : Alike top entries others inside first second) (depth : Nat)
    (around : List Nat) (standsIn : value.StandsIn inside) :
    second.treeInside depth around value = first.treeInside depth around value := by
  induction depth generalizing around value with
  | zero => cases value <;> rfl
  | succ depth inductionHypothesis =>
      cases value with
      | leaf tree => rfl
      | collection number =>
          simp only [treeInside, alike.same number standsIn]
          cases found : first.collections[number]? with
          | none => rfl
          | some collection =>
              refine Collection.tree_congr fun inner isInner => ?_
              have innerIn := alike.closed number collection standsIn found inner isInner
              cases inner with
              | leaf tree => rfl
              | collection other => simp only [inductionHypothesis _ innerIn]

theorem treeOf_eq (alike : Alike top entries others inside first second)
    (standsIn : value.StandsIn inside) :
    second.treeOf value = first.treeOf value := by
  rw [treeOf, treeOf, alike.size, alike.treeInside_eq _ _ standsIn]

end Alike

/-- The tree of a value in the mapping at the top. -/
def treeBelow (graph : Graph) (top : Nat) (value : Value) : Tree :=
  graph.treeInside (2 * graph.collections.size + 1) [top] value

/-- The entries of the tree, value by value. -/
def treeEntries (graph : Graph) (top : Nat) (entries : List (Tree × Value)) : Entries :=
  entries.map fun entry => (entry.1, graph.treeBelow top entry.2)

theorem tree_eq {graph : Graph} (isRoot : graph.root = .collection top)
    (isTop : graph.collections[top]? = some (.mapping entries)) :
    graph.tree = .mapping (graph.treeEntries top entries) := by
  rw [tree, treeOf, isRoot]
  simp only [treeInside, isTop, Collection.tree]
  refine congrArg Tree.mapping (List.map_congr_left fun entry _ => ?_)
  cases entry.2 <;> rfl

theorem find?_treeEntries (graph : Graph) (top : Nat) (entries : List (Tree × Value))
    (name : String) :
    (graph.treeEntries top entries).find? name =
      (findNamed? name entries).map (graph.treeBelow top) :=
  findNamed?_map _ _

theorem Alike.find?_treeEntries_eq (alike : Alike top entries others inside first second)
    (named : SameNamed names entries others inside) (isName : name ∈ names) :
    (second.treeEntries top others).find? name = (first.treeEntries top entries).find? name := by
  rw [find?_treeEntries, find?_treeEntries, named.same name isName]
  cases found : findNamed? name entries with
  | none => rfl
  | some value =>
      have standsIn := named.standsIn name isName value found
      simp only [Option.map_some, treeBelow, alike.size, alike.treeInside_eq _ _ standsIn]

/-! ## Replacing -/

/-- The same fault, or the same good value and graphs that are alike. -/
inductive SameOutcome {α : Type} (top : Nat) (entries others : List (Tree × Value))
    (inside : Nat → Prop) (Good : α → Prop) :
    Except ReplacementFault (α × Graph) → Except ReplacementFault (α × Graph) → Prop
  | ok {value : α} {first second : Graph} : Good value →
      Alike top entries others inside first second →
      SameOutcome top entries others inside Good (.ok (value, first)) (.ok (value, second))
  | error (fault : ReplacementFault) :
      SameOutcome top entries others inside Good (.error fault) (.error fault)

/-- From graphs that are alike, the action comes to the same. -/
def KeepsAlike {α : Type} (top : Nat) (entries others : List (Tree × Value)) (inside : Nat → Prop)
    (Good : α → Prop) (action : Replacement α) : Prop :=
  ∀ first second, Alike top entries others inside first second →
    SameOutcome top entries others inside Good (action.run first) (action.run second)

section Actions

variable {α β : Type} {Good : α → Prop} {Fine : β → Prop}

theorem KeepsAlike.pure {value : α} (good : Good value) :
    KeepsAlike top entries others inside Good (pure value) :=
  fun _ _ alike => .ok good alike

theorem KeepsAlike.bind {action : Replacement α} {next : α → Replacement β}
    (keeps : KeepsAlike top entries others inside Good action)
    (nextKeeps : ∀ value, Good value → KeepsAlike top entries others inside Fine (next value)) :
    KeepsAlike top entries others inside Fine (action >>= next) := by
  intro first second alike
  rw [StateT.run_bind, StateT.run_bind]
  have outcome := keeps first second alike
  generalize action.run first = result, action.run second = other at outcome
  cases outcome with
  | ok good after => exact nextKeeps _ good _ _ after
  | error fault => exact .error fault

theorem KeepsAlike.modify {change : Graph → Graph}
    (keeps : ∀ first second, Alike top entries others inside first second →
      Alike top entries others inside (change first) (change second)) :
    KeepsAlike top entries others inside (fun _ => True) (modify change) :=
  fun first second alike => .ok trivial (keeps first second alike)

theorem KeepsAlike.mapM {action : β → Replacement α} {items : List β}
    (keeps : ∀ item ∈ items, KeepsAlike top entries others inside Good (action item)) :
    KeepsAlike top entries others inside (fun values => ∀ value ∈ values, Good value)
      (items.mapM action) := by
  induction items with
  | nil => exact .pure (List.forall_mem_nil _)
  | cons item rest inductionHypothesis =>
      obtain ⟨keepsItem, keepsRest⟩ := List.forall_mem_cons.mp keeps
      rw [List.mapM_cons]
      refine keepsItem.bind fun value good => ?_
      refine (inductionHypothesis keepsRest).bind fun values allGood => ?_
      exact .pure (List.forall_mem_cons.mpr ⟨good, allGood⟩)

theorem KeepsAlike.forM {action : α → Replacement Unit} {items : List α}
    (keeps : ∀ item ∈ items, KeepsAlike top entries others inside (fun _ => True) (action item)) :
    KeepsAlike top entries others inside (fun _ => True) (items.forM action) := by
  induction items with
  | nil => exact .pure trivial
  | cons item rest inductionHypothesis =>
      obtain ⟨keepsItem, keepsRest⟩ := List.forall_mem_cons.mp keeps
      exact keepsItem.bind fun _ _ => inductionHypothesis keepsRest

end Actions

theorem keepsAlike_replaced (named : SameNamed names entries others inside)
    (isName : "components" ∈ names) {registry : String}
    (isRegistry : "#/components/".toList <+: registry.toList) (standsIn : value.StandsIn inside) :
    KeepsAlike top entries others inside (·.StandsIn inside) (replaced registry value) := by
  intro first second alike
  unfold replaced
  simp only [StateT.run_bind, StateT.run_get, pure_bind, alike.get?_eq standsIn]
  split
  · exact .ok standsIn alike
  · rename_i reference _
    split
    · rename_i starts
      obtain ⟨rest, keys⟩ :=
        Reference.exists_keys_of_isPrefix isRegistry (List.isPrefixOf_iff_prefix.mp starts)
      obtain ⟨sameTarget, targetIn⟩ := alike.target_eq named isName keys
      rw [sameTarget]
      cases found : first.target reference with
      | error fault => exact .error _
      | ok target => exact .ok (targetIn target found) alike
    · exact .ok standsIn alike
  · rename_i other _ found
    rw [alike.treeOf_eq (alike.standsIn_of_get? standsIn found)]
    split
    · exact .ok standsIn alike
    · exact .error _

theorem keepsAlike_replaceParameters (named : SameNamed names entries others inside)
    (isName : "components" ∈ names) (operationIn : value.StandsIn inside) :
    KeepsAlike top entries others inside (fun _ => True) (replaceParameters value) := by
  intro first second alike
  have sameList : (second.get? value "parameters").bind second.collection? =
      (first.get? value "parameters").bind first.collection? := by
    rw [alike.get?_eq operationIn]
    cases found : first.get? value "parameters" with
    | none => rfl
    | some parameters => exact alike.collection?_eq (alike.standsIn_of_get? operationIn found)
  unfold replaceParameters
  simp only [StateT.run_bind, StateT.run_get, pure_bind, sameList]
  cases found : (first.get? value "parameters").bind first.collection? with
  | none => exact .ok trivial alike
  | some collection =>
      cases collection with
      | list items =>
          obtain ⟨parameters, isParameters, isList⟩ := Option.bind_eq_some_iff.mp found
          have itemsIn := alike.standsIn_of_mem_values
            (alike.standsIn_of_get? operationIn isParameters) isList
          have keepsItems : KeepsAlike top entries others inside
              (fun values => ∀ value ∈ values, value.StandsIn inside)
              (items.mapM (replaced Reference.parameterRegistry)) :=
            .mapM fun item isItem => keepsAlike_replaced named isName
              Reference.isPrefix_parameterRegistry (itemsIn item isItem)
          refine keepsItems.bind (fun changed changedIn => ?_) first second alike
          refine .modify fun before after alike => ?_
          have larger := alike.add (.list changed) changedIn
          simp only [alike.add_snd_eq]
          exact larger.set operationIn "parameters" (alike.standsIn_add (.list changed))
      | _ => exact .ok trivial alike

theorem keepsAlike_replaceBody (named : SameNamed names entries others inside)
    (isName : "components" ∈ names) (operationIn : value.StandsIn inside) :
    KeepsAlike top entries others inside (fun _ => True) (replaceBody value) := by
  intro first second alike
  unfold replaceBody
  simp only [StateT.run_bind, StateT.run_get, pure_bind, alike.get?_eq operationIn]
  split
  · rename_i body found
    have bodyIn := alike.standsIn_of_get? operationIn found
    have keepsBody : KeepsAlike top entries others inside (·.StandsIn inside)
        (replaced Reference.requestBodyRegistry body) :=
      keepsAlike_replaced named isName Reference.isPrefix_requestBodyRegistry bodyIn
    refine keepsBody.bind (fun changed changedIn => ?_) first second alike
    exact .modify fun before after alike => alike.set operationIn "requestBody" changedIn
  · exact .ok trivial alike

theorem keepsAlike_replaceInPathItem (named : SameNamed names entries others inside)
    (isName : "components" ∈ names) (itemIn : value.StandsIn inside) :
    KeepsAlike top entries others inside (fun _ => True) (replaceInPathItem value) := by
  refine .forM fun method _ => ?_
  intro first second alike
  simp only [StateT.run_bind, StateT.run_get, pure_bind, alike.get?_eq itemIn]
  split
  · rename_i operation found
    have operationIn := alike.standsIn_of_get? itemIn found
    exact (keepsAlike_replaceParameters named isName operationIn).bind
      (fun _ _ => keepsAlike_replaceBody named isName operationIn) first second alike
  · exact .ok trivial alike

theorem keepsAlike_replaceInPaths (named : SameNamed names entries others inside)
    (isComponents : "components" ∈ names) (isPaths : "paths" ∈ names) :
    KeepsAlike top entries others inside (fun _ => True) replaceInPaths := by
  intro first second alike
  have firstPaths := get?_root_eq alike.firstRoot alike.firstTop "paths"
  have secondPaths := get?_root_eq alike.secondRoot alike.secondTop "paths"
  rw [named.same "paths" isPaths] at secondPaths
  have samePaths : (second.get? second.root "paths").bind second.entries? =
      (first.get? first.root "paths").bind first.entries? := by
    rw [firstPaths, secondPaths]
    cases found : findNamed? "paths" entries with
    | none => rfl
    | some paths => exact alike.entries?_eq (named.standsIn "paths" isPaths paths found)
  unfold replaceInPaths
  simp only [StateT.run_bind, StateT.run_get, pure_bind, samePaths]
  cases found : (first.get? first.root "paths").bind first.entries? with
  | none => exact .ok trivial alike
  | some items =>
      obtain ⟨paths, isPathsValue, isMapping⟩ := Option.bind_eq_some_iff.mp found
      have pathsIn := named.standsIn "paths" isPaths paths (firstPaths ▸ isPathsValue)
      have itemsIn := alike.standsIn_of_mem_values pathsIn (collection?_of_entries? isMapping)
      refine KeepsAlike.forM (fun item isItem => ?_) first second alike
      exact keepsAlike_replaceInPathItem named isComponents
        (itemsIn item.2 (List.mem_map_of_mem (f := Prod.snd) isItem))

/-- From graphs that are alike, the replacement comes to the same fault, or to graphs that are. -/
theorem replaceAll_alike (alike : Alike top entries others inside first second)
    (named : SameNamed names entries others inside) (isComponents : "components" ∈ names)
    (isPaths : "paths" ∈ names) :
    (∃ fault, first.replaceAll = .error fault ∧ second.replaceAll = .error fault) ∨
      ∃ after changed, first.replaceAll = .ok after ∧ second.replaceAll = .ok changed ∧
        Alike top entries others inside after changed := by
  have outcome := keepsAlike_replaceInPaths named isComponents isPaths first second alike
  unfold replaceAll
  generalize replaceInPaths.run first = result, replaceInPaths.run second = other at outcome
  cases outcome with
  | ok _ after => exact .inr ⟨_, _, rfl, rfl, after⟩
  | error fault => exact .inl ⟨fault, rfl, rfl⟩

/-- With another mapping at the top that has the same under the names, the replacement comes to the
same fault, or to a tree with the same under the names. -/
theorem replaceAll_put {graph : Graph} (isRoot : graph.root = .collection top)
    (isTop : graph.collections[top]? = some (.mapping entries))
    (same : ∀ name ∈ names, findNamed? name others = findNamed? name entries)
    (apart : ∀ name ∈ names, ∀ value, findNamed? name entries = some value →
      ¬ graph.Holds value top)
    (isComponents : "components" ∈ names) (isPaths : "paths" ∈ names) :
    (∃ fault, graph.replaceAll = .error fault ∧
        (graph.put top (.mapping others)).replaceAll = .error fault) ∨
      ∃ after changed : Entries, graph.replaceAll.map Graph.tree = .ok (.mapping after) ∧
        (graph.put top (.mapping others)).replaceAll.map Graph.tree = .ok (.mapping changed) ∧
        (∀ name, (after.find? name).isSome = (findNamed? name entries).isSome) ∧
        ∀ name ∈ names, changed.find? name = after.find? name := by
  have named : SameNamed names entries others (graph.InsideNamed names entries) :=
    sameNamed_insideNamed same
  have alike := alike_put others isRoot isTop apart
  obtain ⟨fault, failed, failedAlso⟩ | ⟨after, changed, replaced, replacedAlso, alikeAfter⟩ :=
    replaceAll_alike alike named isComponents isPaths
  · exact .inl ⟨fault, failed, failedAlso⟩
  · refine .inr ⟨after.treeEntries top entries, changed.treeEntries top others, ?_, ?_,
      fun name => ?_, fun name isName => alikeAfter.find?_treeEntries_eq named isName⟩
    · rw [← tree_eq alikeAfter.firstRoot alikeAfter.firstTop, replaced]
      rfl
    · rw [← tree_eq alikeAfter.secondRoot alikeAfter.secondTop, replacedAlso]
      rfl
    · rw [find?_treeEntries, Option.isSome_map]

end Graph

end OpenApiJava
