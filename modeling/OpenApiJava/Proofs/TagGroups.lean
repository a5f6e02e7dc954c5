import OpenApiJava.Proofs.Planning

/-!
# Calls by tag

Grouping by tag looks through all calls once for each tag. Main statement: the groups are those of
a single pass that puts each call behind the others of its tag, every call stands in exactly one of
them, and the service of a tag depends on its own calls and the first server alone.
-/

namespace OpenApiJava

/-! ## First occurrences -/

theorem distinct_append_singleton (items : List String) (last : String) :
    distinct (items ++ [last]) =
      if last ∈ items then distinct items else distinct items ++ [last] := by
  induction items with
  | nil => rfl
  | cons first rest inductionHypothesis =>
      simp only [List.cons_append, distinct, inductionHypothesis]
      by_cases same : last = first
      · subst same
        by_cases later : last ∈ rest
        · simp [later]
        · simp [later]
      · by_cases later : last ∈ rest
        · simp [later]
        · simp [same, later]

theorem pairwise_idxOf_distinct (items : List String) :
    (distinct items).Pairwise fun earlier later => items.idxOf earlier < items.idxOf later := by
  induction items with
  | nil => exact List.Pairwise.nil
  | cons first rest inductionHypothesis =>
      have other : ∀ item ∈ (distinct rest).filter (· != first), first ≠ item := by
        intro item member
        have kept := (List.mem_filter.mp member).2
        exact Ne.symm (bne_iff_ne.mp kept)
      refine List.pairwise_cons.mpr ⟨?_, ?_⟩
      · intro item member
        rw [List.idxOf_cons_self, List.idxOf_cons_ne _ (other item member)]
        omega
      · apply (inductionHypothesis.filter (· != first)).imp_of_mem
        intro earlier later isEarlier isLater order
        rw [List.idxOf_cons_ne _ (other earlier isEarlier),
          List.idxOf_cons_ne _ (other later isLater)]
        omega

namespace Service

/-! ## One pass -/

/-- The groups with one more call, behind the others of its tag. -/
def withCall (groups : List (String × List Endpoint)) (endpoint : Endpoint) :
    List (String × List Endpoint) :=
  match groups with
  | [] => [(endpoint.tag, [endpoint])]
  | (tag, members) :: rest =>
      if tag = endpoint.tag then (tag, members ++ [endpoint]) :: rest
      else (tag, members) :: withCall rest endpoint

/-- The groups that arise when the calls are taken one after the other. -/
def groupsInOnePass (endpoints : List Endpoint) : List (String × List Endpoint) :=
  endpoints.foldl withCall []

theorem withCall_map {tags : List String} (nodup : tags.Nodup)
    (members : String → List Endpoint) (endpoint : Endpoint) :
    withCall (tags.map fun tag => (tag, members tag)) endpoint =
      (tags.map fun tag => (tag, members tag ++ if endpoint.tag = tag then [endpoint] else [])) ++
        if endpoint.tag ∈ tags then [] else [(endpoint.tag, [endpoint])] := by
  induction tags with
  | nil => rfl
  | cons tag rest inductionHypothesis =>
      obtain ⟨notLater, restNodup⟩ := List.nodup_cons.mp nodup
      simp only [List.map_cons, withCall]
      by_cases same : tag = endpoint.tag
      · have others : ∀ other ∈ rest, endpoint.tag ≠ other := by
          rintro other member rfl
          exact notLater (same ▸ member)
        have unchanged :
            (rest.map fun other =>
                (other, members other ++ if endpoint.tag = other then [endpoint] else [])) =
              rest.map fun other => (other, members other) := by
          apply List.map_congr_left
          intro other member
          rw [if_neg (others other member), List.append_nil]
        rw [if_pos same, if_pos same.symm, unchanged,
          if_pos (List.mem_cons.mpr (Or.inl same.symm)), List.append_nil]
      · have otherTag : endpoint.tag ≠ tag := Ne.symm same
        rw [if_neg same, if_neg otherTag, List.append_nil, inductionHypothesis restNodup]
        by_cases later : endpoint.tag ∈ rest
        · rw [if_pos later, if_pos (List.mem_cons_of_mem tag later), List.cons_append]
        · have absent : endpoint.tag ∉ tag :: rest := by
            simp [otherTag, later]
          rw [if_neg later, if_neg absent, List.cons_append]

/-- One more call at the end of all calls joins the others of its tag. -/
theorem groups_append_singleton (endpoints : List Endpoint) (endpoint : Endpoint) :
    groups (endpoints ++ [endpoint]) = withCall (groups endpoints) endpoint := by
  have split : ∀ tag, (endpoints ++ [endpoint]).filter (·.tag == tag) =
      endpoints.filter (·.tag == tag) ++ if endpoint.tag = tag then [endpoint] else [] := by
    intro tag
    by_cases same : endpoint.tag = tag <;> simp [List.filter_append, same]
  rw [groups_eq, groups_eq, withCall_map (nodup_distinct _), List.map_append, List.map_singleton,
    distinct_append_singleton]
  simp only [split, mem_distinct]
  by_cases isTag : endpoint.tag ∈ endpoints.map (·.tag)
  · rw [if_pos isTag, if_pos isTag, List.append_nil]
  · have noCalls : endpoints.filter (·.tag == endpoint.tag) = [] := by
      apply List.filter_eq_nil_iff.mpr
      intro other member same
      exact isTag (List.mem_map.mpr ⟨other, member, beq_iff_eq.mp same⟩)
    rw [if_neg isTag, if_neg isTag, List.map_append, List.map_singleton, noCalls, if_pos rfl,
      List.nil_append]

theorem groups_eq_groupsInOnePass (endpoints : List Endpoint) :
    groups endpoints = groupsInOnePass endpoints := by
  induction endpoints using List.reverseRecOn with
  | nil => rfl
  | append_singleton front last inductionHypothesis =>
      rw [groups_append_singleton, inductionHypothesis, groupsInOnePass, groupsInOnePass,
        List.foldl_append]
      rfl

/-! ## Partitions -/

theorem flatMap_withCall_perm (groups : List (String × List Endpoint)) (endpoint : Endpoint) :
    ((withCall groups endpoint).flatMap Prod.snd).Perm
      (groups.flatMap Prod.snd ++ [endpoint]) := by
  induction groups with
  | nil => exact List.Perm.refl _
  | cons group rest inductionHypothesis =>
      obtain ⟨tag, members⟩ := group
      rw [withCall]
      split
      · simp only [List.flatMap_cons, List.append_assoc]
        exact List.Perm.append_left members List.perm_append_comm
      · simp only [List.flatMap_cons, List.append_assoc]
        exact List.Perm.append_left members inductionHypothesis

theorem flatMap_groups_perm (endpoints : List Endpoint) :
    ((groups endpoints).flatMap Prod.snd).Perm endpoints := by
  induction endpoints using List.reverseRecOn with
  | nil => exact List.Perm.refl _
  | append_singleton front last inductionHypothesis =>
      rw [groups_append_singleton]
      exact (flatMap_withCall_perm _ last).trans (inductionHypothesis.append_right [last])

/-- The groups have the calls by tag. The tags stand in the order in which they first occur, the
calls of a tag in their order among all calls. -/
structure IsStablePartition (endpoints : List Endpoint)
    (groups : List (String × List Endpoint)) : Prop where
  nodup : (groups.map Prod.fst).Nodup
  ordered : (groups.map Prod.fst).Pairwise fun earlier later =>
    (endpoints.map (·.tag)).idxOf earlier < (endpoints.map (·.tag)).idxOf later
  covers : ∀ endpoint ∈ endpoints, endpoint.tag ∈ groups.map Prod.fst
  nonempty : ∀ group ∈ groups, group.2 ≠ []
  members : ∀ group ∈ groups, group.2 = endpoints.filter fun endpoint => endpoint.tag == group.1
  complete : (groups.flatMap Prod.snd).Perm endpoints

theorem map_fst_groups (endpoints : List Endpoint) :
    (groups endpoints).map Prod.fst = distinct (endpoints.map (·.tag)) := by
  rw [groups_eq, List.map_map]
  exact List.map_id' _

theorem isStablePartition_groups (endpoints : List Endpoint) :
    IsStablePartition endpoints (groups endpoints) where
  nodup := by
    rw [map_fst_groups]
    exact nodup_distinct _
  ordered := by
    rw [map_fst_groups]
    exact pairwise_idxOf_distinct _
  covers := by
    intro endpoint member
    rw [map_fst_groups, mem_distinct]
    exact List.mem_map_of_mem member
  nonempty := by
    intro group member
    obtain ⟨tag, isTag, rfl⟩ := List.mem_map.mp member
    obtain ⟨endpoint, isCall, rfl⟩ := List.mem_map.mp (mem_distinct.mp isTag)
    have kept : endpoint ∈ endpoints.filter (·.tag == endpoint.tag) :=
      List.mem_filter.mpr ⟨isCall, beq_self_eq_true _⟩
    exact List.ne_nil_of_mem kept
  members := by
    intro group member
    obtain ⟨tag, _, rfl⟩ := List.mem_map.mp member
    rfl
  complete := flatMap_groups_perm endpoints

/-! ## The service of a tag -/

/-- The service that is built for the calls of a tag, if there are any. -/
def builtFor (tag : String) (endpoints : List Endpoint) (servers : List Server) :
    Except NoServers (Option Service) :=
  (aggregate endpoints servers).map fun services =>
    (((groups endpoints).map Prod.fst).zip services).lookup tag

/-- Calls of other tags are inserted and deleted, one after the other. -/
inductive OthersChange (tag : String) (endpoints : List Endpoint) : List Endpoint → Prop
  | same : OthersChange tag endpoints endpoints
  | insert {front back : List Endpoint} {other : Endpoint} :
      OthersChange tag endpoints (front ++ back) → other.tag ≠ tag →
      OthersChange tag endpoints (front ++ other :: back)
  | delete {front back : List Endpoint} {other : Endpoint} :
      OthersChange tag endpoints (front ++ other :: back) → other.tag ≠ tag →
      OthersChange tag endpoints (front ++ back)

theorem filter_append_cons {tag : String} {other : Endpoint} (otherTag : other.tag ≠ tag)
    (front back : List Endpoint) :
    (front ++ other :: back).filter (·.tag == tag) = (front ++ back).filter (·.tag == tag) := by
  have passed : ¬ (other.tag == tag) = true := by simpa using otherTag
  rw [List.filter_append, List.filter_append, List.filter_cons, if_neg passed]

theorem OthersChange.filter_eq {tag : String} {endpoints changed : List Endpoint}
    (changes : OthersChange tag endpoints changed) :
    changed.filter (·.tag == tag) = endpoints.filter (·.tag == tag) := by
  induction changes with
  | same => rfl
  | insert _ otherTag inductionHypothesis =>
      rw [filter_append_cons otherTag, inductionHypothesis]
  | delete _ otherTag inductionHypothesis =>
      rw [← filter_append_cons otherTag, inductionHypothesis]

theorem lookup_zip_map {β : Type} {tag : String} {tags : List String} (service : String → β)
    (member : tag ∈ tags) :
    (tags.zip (tags.map service)).lookup tag = some (service tag) := by
  induction tags with
  | nil => cases member
  | cons first rest inductionHypothesis =>
      rw [List.map_cons, List.zip_cons_cons, List.lookup_cons]
      by_cases same : tag = first
      · subst same
        simp
      · have inRest : tag ∈ rest := (List.mem_cons.mp member).resolve_left same
        have passed : (tag == first) = false := by simpa using same
        rw [passed]
        exact inductionHypothesis inRest

/-- The service of a tag that occurs is made of its calls and of the first server. -/
theorem builtFor_eq {tag : String} {endpoints : List Endpoint}
    (occurs : tag ∈ endpoints.map (·.tag)) (servers : List Server) :
    builtFor tag endpoints servers =
      match servers.head? with
      | none => .error {}
      | some server => .ok (some (ofGroup server (tag, endpoints.filter (·.tag == tag)))) := by
  unfold builtFor
  cases servers with
  | nil =>
      have nonempty : endpoints ≠ [] := by
        rintro rfl
        cases occurs
      rw [aggregate_nil nonempty]
      rfl
  | cons server others =>
      have found := lookup_zip_map (fun tag => ofGroup server (tag, endpoints.filter (·.tag == tag)))
        (mem_distinct.mpr occurs)
      rw [aggregate_cons, map_fst_groups, groups_eq, List.map_map]
      exact congrArg Except.ok found

theorem OthersChange.occurs {tag : String} {endpoints changed : List Endpoint}
    (changes : OthersChange tag endpoints changed) (occurs : tag ∈ endpoints.map (·.tag)) :
    tag ∈ changed.map (·.tag) := by
  obtain ⟨endpoint, member, rfl⟩ := List.mem_map.mp occurs
  have kept : endpoint ∈ endpoints.filter (·.tag == endpoint.tag) :=
    List.mem_filter.mpr ⟨member, beq_self_eq_true _⟩
  rw [← changes.filter_eq] at kept
  exact List.mem_map_of_mem (List.mem_of_mem_filter kept)

/-- Grouping is a stable partition, the same as in a single pass, and what becomes of a tag depends
on its own calls and the first server alone. -/
theorem groups_partition_calls (endpoints : List Endpoint) :
    IsStablePartition endpoints (groups endpoints) ∧
      groups endpoints = groupsInOnePass endpoints ∧
      ∀ tag ∈ endpoints.map (·.tag), ∀ changed, OthersChange tag endpoints changed →
        ∀ servers others : List Server, others.head? = servers.head? →
          builtFor tag changed others = builtFor tag endpoints servers ∧
            ∀ server ∈ servers.head?, builtFor tag endpoints servers =
              .ok (some (ofGroup server (tag, endpoints.filter (·.tag == tag)))) := by
  refine ⟨isStablePartition_groups endpoints, groups_eq_groupsInOnePass endpoints, ?_⟩
  intro tag occurs changed changes servers others sameHead
  have built := builtFor_eq occurs servers
  have builtAlso := builtFor_eq (changes.occurs occurs) others
  rw [changes.filter_eq, sameHead] at builtAlso
  refine ⟨builtAlso.trans built.symm, ?_⟩
  intro server isFirst
  rw [built, Option.mem_def.mp isFirst]

end Service

/-- A call of a tag, without anything else. -/
def callOf (tag path : String) : Endpoint :=
  let operation : Operation :=
    { operationId := none, summary := none, description := none, tags := [tag], parameters := []
      requestBody := none }
  Endpoint.ofOperation operation path HttpMethod.get.name

/-- The calls of two tags in turn, one of them twice. -/
def crossedCalls : List Endpoint :=
  [callOf "pets" "/pets", callOf "shops" "/shops", callOf "pets" "/pets"]

/-- The same calls of pets, but other calls of shops. -/
def recrossedCalls : List Endpoint :=
  [callOf "pets" "/pets", callOf "pets" "/pets", callOf "shops" "/shops/all"]

def mainServer : Server :=
  { url := "https://pets.example/v1", description := none }

def mirrorServer : Server :=
  { url := "https://mirror.example", description := some "Mirror" }

theorem crossedCalls_partition :
    Service.IsStablePartition crossedCalls (Service.groups crossedCalls) ∧
      Service.groups crossedCalls = Service.groupsInOnePass crossedCalls ∧
      Service.builtFor "pets" recrossedCalls [mainServer] =
        Service.builtFor "pets" crossedCalls [mainServer, mirrorServer] ∧
      Service.builtFor "pets" crossedCalls [mainServer, mirrorServer] =
        .ok (some (Service.ofGroup mainServer
          ("pets", [callOf "pets" "/pets", callOf "pets" "/pets"]))) := by
  have occurs : "pets" ∈ crossedCalls.map (·.tag) := List.mem_cons_self
  have otherTag : "shops" ≠ "pets" := by decide
  have deleted : Service.OthersChange "pets" crossedCalls
      ([callOf "pets" "/pets"] ++ [callOf "pets" "/pets"]) :=
    .delete .same otherTag
  have changes : Service.OthersChange "pets" crossedCalls recrossedCalls :=
    @Service.OthersChange.insert "pets" crossedCalls
      [callOf "pets" "/pets", callOf "pets" "/pets"] [] _ deleted otherTag
  obtain ⟨partitioned, inOnePass, built⟩ := Service.groups_partition_calls crossedCalls
  obtain ⟨same, isService⟩ := built "pets" occurs recrossedCalls changes
    [mainServer, mirrorServer] [mainServer] rfl
  exact ⟨partitioned, inOnePass, same, isService mainServer rfl⟩

end OpenApiJava
