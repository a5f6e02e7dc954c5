import OpenApiJava.Proofs.Inlining

/-!
# Chains of references

A reference is followed once, whatever stands at its end. Main statement: references are left in the
result if and only if some reference leads to a reference into the same registry, and a second
replacement changes nothing if and only if every reference that is left leads to itself.
-/

namespace OpenApiJava

open Reference

/-! ## Visited entries of the result -/

namespace Reference

/-- What becomes of an entry that is looked at. It stays in its registry. -/
def Becomes (root : Tree) (entry changed : String × Tree) : Prop :=
  changed.1 = entry.1 ∧ Replaces root entry.1 entry.2 changed.2

variable {root before after : Tree}

theorem forall₂_visitedAt {step : String × Tree → String × Tree → Prop}
    {relation : String → Tree → Tree → Prop} {names : List String} {name : String}
    {entries changed : Entries} {visit : Tree → List (String × Tree)}
    (revised : Entries.Revised relation names entries changed) (member : name ∈ names)
    (agrees : ∀ value other, relation name value other →
      List.Forall₂ step (visit value) (visit other)) :
    List.Forall₂ step (visitedAt entries name visit) (visitedAt changed name visit) := by
  unfold visitedAt
  cases found : entries.find? name with
  | none =>
      have related := revised.find?_rel member
      rw [found] at related
      cases foundAfter : changed.find? name with
      | none => exact .nil
      | some other =>
          rw [foundAfter] at related
          cases related
  | some value =>
      have related := revised.find?_rel member
      rw [found] at related
      cases foundAfter : changed.find? name with
      | none =>
          rw [foundAfter] at related
          cases related
      | some other =>
          rw [foundAfter] at related
          cases related with
          | some related => exact agrees value other related

theorem forall₂_visitedInParameters (inlined : ParametersInlined root before after) :
    List.Forall₂ (Becomes root) (visitedInParameters before) (visitedInParameters after) := by
  cases before with
  | list items =>
      obtain ⟨changed, rfl, replaces⟩ := inlined
      unfold visitedInParameters
      rw [List.forall₂_map_left_iff, List.forall₂_map_right_iff]
      exact replaces.imp fun item other replacesItem => ⟨rfl, replacesItem⟩
  | _ =>
      obtain rfl := inlined
      exact .nil

theorem forall₂_visitedInOperation (inlined : OperationInlined root before after) :
    List.Forall₂ (Becomes root) (visitedInOperation before) (visitedInOperation after) := by
  cases before with
  | mapping entries =>
      obtain ⟨changed, rfl, revised⟩ := inlined
      refine List.rel_append ?_ ?_
      · exact
          forall₂_visitedAt revised (by decide) fun value other part =>
            forall₂_visitedInParameters part
      · exact
          forall₂_visitedAt revised (by decide) fun value other part => .cons ⟨rfl, part⟩ .nil
  | _ =>
      obtain rfl := inlined
      exact .nil

theorem forall₂_visitedInPathItem (inlined : PathItemInlined root before after) :
    List.Forall₂ (Becomes root) (visitedInPathItem before) (visitedInPathItem after) := by
  cases before with
  | mapping entries =>
      obtain ⟨changed, rfl, revised⟩ := inlined
      have sameMethods : List.Forall₂ Eq HttpMethod.all HttpMethod.all :=
        List.forall₂_same.mpr fun _ _ => rfl
      refine List.rel_flatMap sameMethods ?_
      rintro method _ rfl
      exact
        forall₂_visitedAt revised (by cases method <;> decide) fun value other operation =>
          forall₂_visitedInOperation operation
  | _ =>
      obtain rfl := inlined
      exact .nil

theorem forall₂_visitedInPaths (inlined : PathsInlined root before after) :
    List.Forall₂ (Becomes root) (visitedInPaths before) (visitedInPaths after) := by
  cases before with
  | mapping entries =>
      obtain ⟨changed, rfl, items⟩ := inlined
      exact List.rel_flatMap items fun _ _ item => forall₂_visitedInPathItem item.2
  | _ =>
      obtain rfl := inlined
      exact .nil

variable {specification result : Entries}

/-- The entries that are looked at in a result are those of the specification, each as it became. -/
theorem forall₂_visited (inlined : Inlined specification result) :
    List.Forall₂ (Becomes (.mapping specification)) (visited specification) (visited result) :=
  forall₂_visitedAt inlined (List.mem_singleton_self "paths") fun _ _ paths =>
    forall₂_visitedInPaths paths

/-! ## A second replacement -/

/-- The entry is replaced by itself. -/
def Stays (root : Tree) (entry : String × Tree) : Prop :=
  replaced root entry.1 entry.2 = .ok entry.2

theorem revise_eq_self {name : String} {change : Tree → Except ReplacementFault Tree}
    {visit : Tree → List (String × Tree)}
    (agrees : ∀ value, (∀ entry ∈ visit value, Stays root entry) → change value = .ok value)
    {entries : Entries} (stay : ∀ entry ∈ visitedAt entries name visit, Stays root entry) :
    Entries.revise name change entries = .ok entries := by
  have same : ∀ value, entries.find? name = some value → change value = .ok value := by
    intro value found
    refine agrees value fun entry member => stay entry ?_
    unfold visitedAt
    rwa [found]
  clear stay
  unfold Entries.find? at same
  fun_induction Entries.revise name change entries with
  | case1 => rfl
  | case2 value rest => exact bind_eq_of_ok (same value (by rw [findNamed?, if_pos rfl]))
  | case3 key value rest different inductionHypothesis =>
      rw [findNamed?, if_neg different] at same
      exact bind_eq_of_ok (inductionHypothesis same)
  | case4 entry rest notText inductionHypothesis =>
      rw [findNamed?.eq_3 name entry rest notText] at same
      exact bind_eq_of_ok (inductionHypothesis same)

theorem replaceParameters_eq_self {tree : Tree}
    (stay : ∀ entry ∈ visitedInParameters tree, Stays root entry) :
    replaceParameters root tree = .ok tree := by
  cases tree with
  | list items =>
      have same : ∀ item ∈ items, replaced root parameterRegistry item = .ok (id item) :=
        fun item member => stay (parameterRegistry, item) (List.mem_map_of_mem member)
      have kept := mapM_eq_ok_map same
      rw [List.map_id] at kept
      exact bind_eq_of_ok kept
  | _ => rfl

theorem replaceInOperation_eq_self {operation : Tree}
    (stay : ∀ entry ∈ visitedInOperation operation, Stays root entry) :
    replaceInOperation root operation = .ok operation := by
  cases operation with
  | mapping entries =>
      have parameters :
          Entries.revise "parameters" (replaceParameters root) entries = .ok entries :=
        revise_eq_self (fun _ => replaceParameters_eq_self) fun entry member =>
          stay entry (List.mem_append_left _ member)
      have body : ∀ value,
          (∀ entry ∈ [(requestBodyRegistry, value)], Stays root entry) →
            replaced root requestBodyRegistry value = .ok value :=
        fun value stays => stays _ (List.mem_singleton_self _)
      have requestBody :
          Entries.revise "requestBody" (replaced root requestBodyRegistry) entries = .ok entries :=
        revise_eq_self body fun entry member => stay entry (List.mem_append_right _ member)
      exact (bind_eq_of_ok parameters).trans (bind_eq_of_ok requestBody)
  | _ => rfl

theorem foldlM_methods_eq_self {methods : List HttpMethod} {entries : Entries}
    (stay : ∀ entry ∈ methods.flatMap fun method =>
      visitedAt entries method.key visitedInOperation, Stays root entry) :
    methods.foldlM
        (fun entries method => Entries.revise method.key (replaceInOperation root) entries)
        entries =
      .ok entries := by
  induction methods with
  | nil => rfl
  | cons method rest inductionHypothesis =>
      rw [List.flatMap_cons] at stay
      have first : Entries.revise method.key (replaceInOperation root) entries = .ok entries :=
        revise_eq_self (fun _ => replaceInOperation_eq_self) fun entry member =>
          stay entry (List.mem_append_left _ member)
      rw [List.foldlM_cons, bind_eq_of_ok first]
      exact inductionHypothesis fun entry member => stay entry (List.mem_append_right _ member)

theorem replaceInPathItem_eq_self {item : Tree}
    (stay : ∀ entry ∈ visitedInPathItem item, Stays root entry) :
    replaceInPathItem root item = .ok item := by
  cases item with
  | mapping entries => exact bind_eq_of_ok (foldlM_methods_eq_self stay)
  | _ => rfl

theorem reviseAll_eq_self {entries : Entries}
    (stay : ∀ entry ∈ entries.flatMap fun item => visitedInPathItem item.2, Stays root entry) :
    Entries.reviseAll (replaceInPathItem root) entries = .ok entries := by
  induction entries with
  | nil => rfl
  | cons entry rest inductionHypothesis =>
      rw [List.flatMap_cons] at stay
      have first := replaceInPathItem_eq_self fun other member =>
        stay other (List.mem_append_left _ member)
      have others := inductionHypothesis fun other member =>
        stay other (List.mem_append_right _ member)
      exact (bind_eq_of_ok first).trans (bind_eq_of_ok others)

theorem replaceInPaths_eq_self {paths : Tree}
    (stay : ∀ entry ∈ visitedInPaths paths, Stays root entry) :
    replaceInPaths root paths = .ok paths := by
  cases paths with
  | mapping entries => exact bind_eq_of_ok (reviseAll_eq_self stay)
  | _ => rfl

/-- A replacement changes nothing if and only if every entry that is looked at stays. -/
theorem replaceAll_eq_self_iff {entries : Entries} :
    replaceAll entries = .ok entries ↔
      ∀ entry ∈ visited entries, Stays (.mapping entries) entry := by
  constructor
  · intro same entry member
    have becomes := List.forall₂_same.mp (forall₂_visited (inlined_of_replaceAll same)) entry member
    have noFault : entryFault? (.mapping entries) entry = none := by
      have fine : firstFault? (.mapping entries) (visited entries) = none := by
        rw [← faultOf?_replaceAll, same]
        rfl
      exact firstFault?_eq_none_iff.mp fine entry member
    exact replaced_eq_ok_iff.mpr ⟨becomes.2, (entryFault?_eq_none_iff.mp noFault).2⟩
  · intro stay
    exact revise_eq_self (fun _ => replaceInPaths_eq_self) stay

/-! ## References that are left -/

/-- The entry is a reference into its registry. -/
def IsReference (entry : String × Tree) : Prop :=
  ∃ reference, RefersTo entry.1 entry.2 reference

/-- The reference of the entry leads to another one into the same registry. -/
def IsChained (root : Tree) (entry : String × Tree) : Prop :=
  ∃ reference target, RefersTo entry.1 entry.2 reference ∧ Leads (keys reference) root target ∧
    IsReference (entry.1, target)

theorem isReference_iff_isChained {entry changed : String × Tree}
    (becomes : Becomes root entry changed) :
    IsReference changed ↔ IsChained root entry := by
  obtain ⟨registry, value⟩ := changed
  obtain ⟨rfl, replaces⟩ := becomes
  cases replaces with
  | @target reference members refers leads =>
      constructor
      · intro isReference
        exact ⟨reference, _, refers, leads, isReference⟩
      · rintro ⟨other, target, refersAlso, leadsAlso, isReference⟩
        obtain rfl := refers.unique refersAlso
        obtain rfl := leads.unique leadsAlso
        exact isReference
  | same refersNot =>
      constructor
      · rintro ⟨reference, refers⟩
        exact absurd refers (refersNot reference)
      · rintro ⟨reference, _, refers, _⟩
        exact absurd refers (refersNot reference)

theorem exists_mem_iff_of_forall₂ {α β : Type} {relation : α → β → Prop} {first : α → Prop}
    {second : β → Prop} (agrees : ∀ item other, relation item other → (second other ↔ first item))
    {items : List α} {others : List β} (related : List.Forall₂ relation items others) :
    (∃ other ∈ others, second other) ↔ ∃ item ∈ items, first item := by
  induction related with
  | nil => simp
  | cons here _ inductionHypothesis =>
      simp only [List.exists_mem_cons_iff, agrees _ _ here, inductionHypothesis]

/-- An entry stays if and only if it has a text wherever it needs one and its reference, if it is
one, leads back to it. -/
theorem stays_iff {entry : String × Tree} :
    Stays root entry ↔
      isPrintable entry.2 = true ∧
        ∀ reference, RefersTo entry.1 entry.2 reference →
          Leads (keys reference) root entry.2 := by
  unfold Stays
  rw [replaced_eq_ok_iff, and_comm]
  refine and_congr_right fun _ => ?_
  constructor
  · intro replaces reference refers
    exact replaces.leads refers
  · intro leadsBack
    by_cases isReference : IsReference entry
    · obtain ⟨reference, refers⟩ := isReference
      exact .of_leads_back refers (leadsBack reference refers)
    · exact .same fun reference refers => isReference ⟨reference, refers⟩

end Reference

/-- References are left in a result if and only if the specification has a chain of them, and the
result is replaced by itself if and only if what is left in it leads back to where it stands. -/
theorem replaceAll_leaves_chains {specification result : Entries}
    (replaced : replaceAll specification = .ok result) :
    ((∃ entry ∈ visited result, IsReference entry) ↔
        ∃ entry ∈ visited specification, IsChained (.mapping specification) entry) ∧
      (replaceAll result = .ok result ↔
        ∀ entry ∈ visited result,
          isPrintable entry.2 = true ∧
            ∀ reference, RefersTo entry.1 entry.2 reference →
              Leads (keys reference) (.mapping result) entry.2) := by
  constructor
  · exact
      exists_mem_iff_of_forall₂ (fun _ _ becomes => isReference_iff_isChained becomes)
        (forall₂_visited (inlined_of_replaceAll replaced))
  · simp only [replaceAll_eq_self_iff, stays_iff]

/-! ## Pages of pets -/

def pageReference : Tree :=
  referenceTo (.text "#/components/parameters/Page")

/-- References to what is no reference are all inlined, and the result is replaced by itself. -/
theorem pagedPets_is_complete :
    replaceAll (pagedPets [limitReference] petReference) =
        .ok (pagedPets [limitParameter] petBody) ∧
      (¬ ∃ entry ∈ visited (pagedPets [limitParameter] petBody), IsReference entry) ∧
      replaceAll (pagedPets [limitParameter] petBody) =
        .ok (pagedPets [limitParameter] petBody) := by
  have replaced :
      replaceAll (pagedPets [limitReference] petReference) =
        .ok (pagedPets [limitParameter] petBody) :=
    rfl
  have seen : visited (pagedPets [limitParameter] petBody) =
      [(parameterRegistry, limitParameter), (requestBodyRegistry, petBody)] :=
    rfl
  obtain ⟨left, again⟩ := replaceAll_leaves_chains replaced
  have noChain :
      ¬ ∃ entry ∈ visited (pagedPets [limitReference] petReference),
        IsChained (.mapping (pagedPets [limitReference] petReference)) entry := by
    rintro ⟨entry, member, reference, target, refers, leads, next, refersNext, _⟩
    have followed := follow_eq_ok_iff.mpr leads
    have isFirstOrSecond : entry ∈
        [(parameterRegistry, limitReference), (requestBodyRegistry, petReference)] :=
      member
    simp only [List.mem_cons, List.not_mem_nil, or_false] at isFirstOrSecond
    rcases isFirstOrSecond with rfl | rfl
    · obtain rfl : "#/components/parameters/Limit" = reference :=
        Tree.text.inj (Option.some.inj refers.1)
      obtain rfl : limitParameter = target := Except.ok.inj followed
      cases refersNext
    · obtain rfl : "#/components/requestBodies/Pet" = reference :=
        Tree.text.inj (Option.some.inj refers.1)
      obtain rfl : petBody = target := Except.ok.inj followed
      cases refersNext
  have noneLeft := left.not.mpr noChain
  refine ⟨replaced, noneLeft, again.mpr ?_⟩
  intro entry member
  refine ⟨?_, fun reference refers => absurd ⟨entry, member, reference, refers⟩ noneLeft⟩
  rw [seen] at member
  simp only [List.mem_cons, List.not_mem_nil, or_false] at member
  rcases member with rfl | rfl <;> rfl

/-- A reference to a reference is replaced by the latter, which is left. -/
theorem pagedPets_leaves_reference :
    replaceAll (pagedPets [pageReference] petReference) =
        .ok (pagedPets [limitReference] petBody) ∧
      (∃ entry ∈ visited (pagedPets [limitReference] petBody), IsReference entry) ∧
      replaceAll (pagedPets [limitReference] petBody) ≠
        .ok (pagedPets [limitReference] petBody) := by
  refine ⟨rfl, ?_, ?_⟩
  · refine ⟨(parameterRegistry, limitReference), .head _, "#/components/parameters/Limit", rfl, ?_⟩
    decide +kernel
  · have again : replaceAll (pagedPets [limitReference] petBody) =
        .ok (pagedPets [limitParameter] petBody) :=
      rfl
    rw [again]
    simp [pagedPets, limitReference, limitParameter, referenceTo]

end OpenApiJava
