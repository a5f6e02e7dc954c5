import OpenApiJava.Proofs.DistinctNames
import OpenApiJava.Proofs.NamedEntries
import OpenApiJava.Proofs.Planning

/-!
# The fields of a schema

The check of a schema walks through its entries, but what becomes of a field depends on the value
under its name alone. Main statements: each field is checked by what is found under its name; what
holds of a tree as soon as it holds of its items and of its properties holds of every tree; and the
values of a mapping with free keys stand in the order of its entries.
-/

namespace OpenApiJava

/-! ## Sizes of trees -/

theorem Tree.sizeOf_lt_of_mem {entries : Entries} {entry : Tree × Tree}
    (member : entry ∈ entries) :
    sizeOf entry.2 < sizeOf (mapping entries) := by
  have inEntries := List.sizeOf_lt_of_mem member
  have inEntry : sizeOf entry = 1 + sizeOf entry.1 + sizeOf entry.2 := by
    cases entry
    rfl
  rw [mapping.sizeOf_spec]
  omega

theorem Tree.sizeOf_lt_of_find? {entries : Entries} {name : String} {tree : Tree}
    (found : entries.find? name = some tree) :
    sizeOf tree < sizeOf (mapping entries) :=
  sizeOf_lt_of_mem (mem_of_findNamed? found)

/-! ## Named values -/

/-- The key is a text, or bytes that encode it. -/
theorem checkPlainText_eq_valid_iff {tree : Tree} {text : String} :
    checkPlainText tree = .valid text ↔ tree.asText? = some text := by
  unfold checkPlainText
  cases tree.asText? with
  | some value => simp
  | none => cases tree <;> simp [Checked.fault]

theorem checkKey_eq_valid_iff {key : Tree} {name : String} :
    checkKey key = .valid name ↔ key.asText? = some name := by
  simp only [checkKey, Checked.under_eq_valid, checkPlainText_eq_valid_iff]

section Named

variable {α : Type} {check : Tree → Checked α} {named : List (String × α)}

theorem checkNamed_cons_eq_valid_iff {key value : Tree} {rest : List (Tree × Tree)} :
    checkNamed check ((key, value) :: rest) = .valid named ↔
      ∃ name result others, key.asText? = some name ∧ check value = .valid result ∧
        checkNamed check rest = .valid others ∧ consNamed name result others = named := by
  simp only [checkNamed, Checked.seq_eq_valid, Checked.map_eq_valid, Checked.under_eq_valid,
    checkKey_eq_valid_iff]
  constructor
  · rintro ⟨_, others, ⟨_, result, ⟨name, isName, rfl⟩, valid, rfl⟩, restValid, same⟩
    exact ⟨name, result, others, isName, valid, restValid, same⟩
  · rintro ⟨name, result, others, isName, valid, restValid, same⟩
    exact ⟨_, others, ⟨_, result, ⟨name, isName, rfl⟩, valid, rfl⟩, restValid, same⟩

/-- The names stand in the order in which the keys first spell them. -/
theorem map_fst_checkNamed {members : List (Tree × Tree)}
    (valid : checkNamed check members = .valid named) :
    named.map Prod.fst = distinct (members.filterMap fun member => member.1.asText?) := by
  induction members generalizing named with
  | nil =>
      cases valid
      rfl
  | cons member rest inductionHypothesis =>
      obtain ⟨key, value⟩ := member
      obtain ⟨name, result, others, isName, _, restValid, rfl⟩ :=
        checkNamed_cons_eq_valid_iff.mp valid
      rw [map_fst_consNamed, inductionHypothesis restValid, List.filterMap_cons, isName]
      rfl

theorem mem_consNamed {name : String} {value : α} {others : List (String × α)}
    {entry : String × α} (member : entry ∈ consNamed name value others) :
    entry ∈ others ∨ entry = (name, value) ∧ name ∉ others.map Prod.fst := by
  unfold consNamed at member
  cases found : others.lookup name with
  | some later =>
      rw [found] at member
      refine .inl ?_
      cases List.mem_cons.mp member with
      | inl same =>
          obtain ⟨front, back, rfl, _⟩ := List.lookup_eq_some_iff.mp found
          rw [same]
          exact List.mem_append_right front List.mem_cons_self
      | inr inOthers => exact List.mem_of_mem_filter inOthers
  | none =>
      rw [found] at member
      cases List.mem_cons.mp member with
      | inl same =>
          refine .inr ⟨same, fun isName => ?_⟩
          obtain ⟨other, inOthers, rfl⟩ := List.mem_map.mp isName
          simpa using List.lookup_eq_none_iff.mp found other inOthers
      | inr inOthers => exact .inl inOthers

/-- A name has the value of the last entry whose key spells it. -/
theorem last_of_mem_checkNamed {members : List (Tree × Tree)} {entry : String × α}
    (valid : checkNamed check members = .valid named) (isEntry : entry ∈ named) :
    ∃ front member back, members = front ++ member :: back ∧
      member.1.asText? = some entry.1 ∧ check member.2 = .valid entry.2 ∧
      ∀ later ∈ back, later.1.asText? ≠ some entry.1 := by
  induction members generalizing named with
  | nil =>
      cases valid
      cases isEntry
  | cons member rest inductionHypothesis =>
      obtain ⟨key, value⟩ := member
      obtain ⟨name, result, others, isName, isResult, restValid, rfl⟩ :=
        checkNamed_cons_eq_valid_iff.mp valid
      cases mem_consNamed isEntry with
      | inl inOthers =>
          obtain ⟨front, member, back, rfl, isLast⟩ := inductionHypothesis restValid inOthers
          exact ⟨(key, value) :: front, member, back, rfl, isLast⟩
      | inr isFirst =>
          obtain ⟨rfl, notLater⟩ := isFirst
          refine ⟨[], (key, value), rest, rfl, isName, isResult, fun later inRest isText => ?_⟩
          rw [map_fst_checkNamed restValid, mem_distinct, List.mem_filterMap] at notLater
          exact notLater ⟨later, inRest, isText⟩

end Named

namespace Schema

/-- What holds of a mapping as soon as it holds of its items and its properties, and of whatever is
no mapping, holds of every tree. -/
theorem induction_on_tree {motive : Tree → Prop}
    (mapping : ∀ entries : Entries,
      (∀ items, entries.find? "items" = some items → motive items) →
      (∀ members, entries.find? "properties" = some (.mapping members) →
        ∀ member ∈ members, motive member.2) →
      motive (.mapping entries))
    (other : ∀ tree, (∀ entries, tree ≠ .mapping entries) → motive tree) (tree : Tree) :
    motive tree := by
  cases tree with
  | mapping entries =>
      refine mapping entries ?_ ?_
      · intro items found
        have smaller := Tree.sizeOf_lt_of_find? found
        exact induction_on_tree mapping other items
      · intro members found member isMember
        have smaller := Tree.sizeOf_lt_of_find? found
        have smallest := Tree.sizeOf_lt_of_mem isMember
        exact induction_on_tree mapping other member.2
  | _ => exact other _ nofun
termination_by sizeOf tree
decreasing_by all_goals simp only [Tree.mapping.sizeOf_spec] at *; omega

/-! ## Checks of fields -/

/-- The schema of the items that are found under their name. -/
def checkItemsFound : Option Tree → Checked (Option Schema)
  | none => .valid none
  | some .null => .valid none
  | some (.list _) => .valid none
  | some tree => (some <$> check tree).under (.key "items")

/-- The properties that are found under their name. -/
def checkPropertiesFound : Option Tree → Checked (List (String × Schema))
  | none => .valid []
  | some (.mapping members) => (checkNamed check members).under (.key "properties")
  | some tree =>
      if tree.isTruthy then (Checked.fault .notMapping).under (.key "properties") else .valid []

theorem checkItems_eq (entries : Entries) :
    checkItems entries = checkItemsFound (entries.find? "items") := by
  unfold Entries.find?
  fun_induction findNamed? "items" entries with
  | case1 => rw [checkItems, checkItemsFound]
  | case2 value rest =>
      unfold checkItems
      rw [if_pos rfl]
      cases value <;> rfl
  | case3 key value rest different inductionHypothesis =>
      unfold checkItems
      rw [if_neg different, inductionHypothesis]
  | case4 entry rest notText inductionHypothesis =>
      rw [checkItems, inductionHypothesis]
      exact notText

theorem checkEach_eq (members : Entries) : checkEach members = checkNamed check members := by
  induction members with
  | nil => rw [checkEach, checkNamed]
  | cons member rest inductionHypothesis =>
      obtain ⟨key, value⟩ := member
      rw [checkEach, checkNamed, inductionHypothesis]

theorem checkProperties_eq (entries : Entries) :
    checkProperties entries = checkPropertiesFound (entries.find? "properties") := by
  unfold Entries.find?
  fun_induction findNamed? "properties" entries with
  | case1 => rw [checkProperties, checkPropertiesFound]
  | case2 value rest =>
      unfold checkProperties
      rw [if_pos rfl]
      cases value with
      | mapping members => simp only [checkPropertiesFound, checkEach_eq]
      | _ => rfl
  | case3 key value rest different inductionHypothesis =>
      unfold checkProperties
      rw [if_neg different, inductionHypothesis]
  | case4 entry rest notText inductionHypothesis =>
      rw [checkProperties, inductionHypothesis]
      exact notText

/-- A mapping is checked field by field, each by what is found under its name. -/
theorem check_fields (entries : Entries) :
    check (.mapping entries) =
      Schema.mk <$> (checkText (typeOf (entries.find? "type"))).under (.key "type")
        <*> entries.optionalText "format"
        <*> entries.optionalText (entries.spelling "$ref" "reference")
        <*> checkItemsFound (entries.find? "items")
        <*> checkPropertiesFound (entries.find? "properties")
        <*> entries.optionalText "description" := by
  rw [check, checkItems_eq, checkProperties_eq]

theorem check_of_not_mapping {tree : Tree} (notMapping : ∀ entries, tree ≠ .mapping entries) :
    check tree = .fault .notRecord := by
  cases tree with
  | mapping entries => exact absurd rfl (notMapping entries)
  | _ => rfl

end Schema

end OpenApiJava
