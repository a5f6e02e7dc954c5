import OpenApiJava.Proofs.NamedEntries
import OpenApiJava.Proofs.Pointers

/-!
# What the replacement of references leaves

Only the parameters and the request body of an operation are looked at, for the four methods of a
path item. Main statement: everywhere else the result is the specification itself, at these places
an entry with a reference becomes what its pointer leads to in the specification, and there is no
result if and only if some entry is at fault.
-/

namespace OpenApiJava

/-! ## Revised entries -/

namespace Entries

/-- The same keys in the same order. The values under the names, each where it stands first, are
related; all other values are the same. -/
inductive Revised (relation : String → Tree → Tree → Prop) : List String → Entries → Entries → Prop
  | nil {names : List String} : Revised relation names [] []
  | named {names : List String} {key : String} {value changed : Tree} {rest others : Entries} :
      key ∈ names → relation key value changed → Revised relation (names.erase key) rest others →
      Revised relation names ((.text key, value) :: rest) ((.text key, changed) :: others)
  | other {names : List String} {key value : Tree} {rest others : Entries} :
      (∀ name ∈ names, key ≠ .text name) → Revised relation names rest others →
      Revised relation names ((key, value) :: rest) ((key, value) :: others)

namespace Revised

variable {relation : String → Tree → Tree → Prop} {names : List String} {name : String}
  {entries changed : Entries}

theorem of_no_names (entries : Entries) : Revised relation [] entries entries := by
  induction entries with
  | nil => exact .nil
  | cons entry rest inductionHypothesis => exact .other (by simp) inductionHypothesis

theorem eq_of_no_names (revised : Revised relation [] entries changed) : changed = entries := by
  generalize same : ([] : List String) = names at revised
  induction revised with
  | nil => rfl
  | named member => simp [← same] at member
  | other _ _ inductionHypothesis => rw [inductionHypothesis same]

theorem of_revise {ε : Type} {change : Tree → Except ε Tree}
    (related : ∀ value after, change value = .ok after → relation name value after)
    (revised : entries.revise name change = .ok changed) :
    Revised relation [name] entries changed := by
  fun_induction Entries.revise name change entries generalizing changed with
  | case1 =>
      cases revised
      exact .nil
  | case2 value rest =>
      obtain ⟨after, changedTo, built⟩ := exists_ok_of_bind revised
      cases built
      refine .named (List.mem_singleton_self name) (related value after changedTo) ?_
      rw [List.erase_cons_head]
      exact of_no_names rest
  | case3 key value rest different inductionHypothesis =>
      obtain ⟨others, revisedRest, built⟩ := exists_ok_of_bind revised
      cases built
      refine .other ?_ (inductionHypothesis revisedRest)
      intro other member same
      rw [List.mem_singleton.mp member] at same
      exact different (Tree.text.inj same)
  | case4 entry rest notText inductionHypothesis =>
      obtain ⟨others, revisedRest, built⟩ := exists_ok_of_bind revised
      cases built
      refine .other ?_ (inductionHypothesis revisedRest)
      intro other _ same
      exact notText other entry.2 (by rw [← same])

/-- Values under another name may be revised as well. -/
theorem cons {final : Entries} (first : Revised relation [name] entries changed)
    (new : name ∉ names) (more : Revised relation names changed final) :
    Revised relation (name :: names) entries final := by
  generalize single : [name] = one at first
  induction first generalizing names final with
  | nil =>
      cases more
      exact .nil
  | @named _ key value after rest others isName related revisedRest _ =>
      subst single
      obtain rfl := List.mem_singleton.mp isName
      rw [List.erase_cons_head] at revisedRest
      obtain rfl := revisedRest.eq_of_no_names
      cases more with
      | named isOther _ _ => exact absurd isOther new
      | other _ moreRest =>
          refine .named List.mem_cons_self related ?_
          rwa [List.erase_cons_head]
  | @other _ key value rest others notName _ inductionHypothesis =>
      subst single
      have different : key ≠ .text name := notName name (List.mem_singleton_self name)
      cases more with
      | @named _ key _ after _ _ isOther related moreRest =>
          have differentKey : key ≠ name := fun same => different (congrArg Tree.text same)
          have stillNew : name ∉ names.erase key := fun member => new (List.mem_of_mem_erase member)
          refine .named (List.mem_cons_of_mem name isOther) related ?_
          rw [List.erase_cons_tail (by simpa using differentKey.symm)]
          exact inductionHypothesis stillNew moreRest rfl
      | other notOther moreRest =>
          refine .other ?_ (inductionHypothesis new moreRest rfl)
          intro each member
          rcases List.mem_cons.mp member with rfl | member
          · exact different
          · exact notOther each member

/-- Under a name there is nothing before and after, or two related values. -/
theorem find?_rel (revised : Revised relation names entries changed) (member : name ∈ names) :
    Option.Rel (relation name) (entries.find? name) (changed.find? name) := by
  unfold find?
  induction revised with
  | nil => exact .none
  | @named names key value after rest others _ related _ inductionHypothesis =>
      by_cases same : key = name
      · subst same
        rw [findNamed?, findNamed?, if_pos rfl, if_pos rfl]
        exact .some related
      · rw [findNamed?, findNamed?, if_neg same, if_neg same]
        exact inductionHypothesis ((List.mem_erase_of_ne (Ne.symm same)).mpr member)
  | @other names key value rest others different _ inductionHypothesis =>
      have notName : key ≠ .text name := different name member
      rw [findNamed?_cons_of_ne notName, findNamed?_cons_of_ne notName]
      exact inductionHypothesis member

end Revised

end Entries

/-! ## Inlined references -/

namespace Reference

/-- Parameters with their references inlined, if they are a list. -/
def ParametersInlined (root : Tree) : Tree → Tree → Prop
  | .list items, after =>
      ∃ changed, after = .list changed ∧
        List.Forall₂ (Replaces root parameterRegistry) items changed
  | other, after => after = other

/-- What becomes of the parts of an operation, by their names. -/
def PartInlined (root : Tree) (name : String) : Tree → Tree → Prop :=
  if name = "parameters" then ParametersInlined root else Replaces root requestBodyRegistry

/-- An operation with the references of its parameters and of its request body inlined. -/
def OperationInlined (root : Tree) : Tree → Tree → Prop
  | .mapping entries, after =>
      ∃ changed, after = .mapping changed ∧
        Entries.Revised (PartInlined root) ["parameters", "requestBody"] entries changed
  | other, after => after = other

/-- A path item with the references of its four methods inlined. -/
def PathItemInlined (root : Tree) : Tree → Tree → Prop
  | .mapping entries, after =>
      ∃ changed, after = .mapping changed ∧
        Entries.Revised (fun _ => OperationInlined root) ["get", "post", "put", "delete"]
          entries changed
  | other, after => after = other

/-- A mapping of paths with the references of all path items inlined. -/
def PathsInlined (root : Tree) : Tree → Tree → Prop
  | .mapping entries, after =>
      ∃ changed, after = .mapping changed ∧
        List.Forall₂ (fun entry other => other.1 = entry.1 ∧ PathItemInlined root entry.2 other.2)
          entries changed
  | other, after => after = other

/-- A specification with its references inlined. Every target is taken from the specification. -/
def Inlined (specification result : Entries) : Prop :=
  Entries.Revised (fun _ => PathsInlined (.mapping specification)) ["paths"] specification result

variable {root before after : Tree}

theorem parametersInlined_of_replaceParameters
    (replaced : replaceParameters root before = .ok after) :
    ParametersInlined root before after := by
  cases before with
  | list items =>
      obtain ⟨changed, mapped, built⟩ := exists_ok_of_bind replaced
      cases built
      have related : ∀ item other, Reference.replaced root parameterRegistry item = .ok other →
          Replaces root parameterRegistry item other :=
        fun item other became => (replaced_eq_ok_iff.mp became).1
      exact ⟨changed, rfl, forall₂_of_mapM related mapped⟩
  | _ =>
      cases replaced
      rfl

theorem operationInlined_of_replaceInOperation
    (replaced : replaceInOperation root before = .ok after) :
    OperationInlined root before after := by
  cases before with
  | mapping entries =>
      obtain ⟨first, revisedFirst, rest⟩ := exists_ok_of_bind replaced
      obtain ⟨second, revisedSecond, built⟩ := exists_ok_of_bind rest
      cases built
      have parameters :
          Entries.Revised (PartInlined root) ["parameters"] entries first := by
        refine .of_revise ?_ revisedFirst
        intro value other became
        exact parametersInlined_of_replaceParameters became
      have requestBody :
          Entries.Revised (PartInlined root) ["requestBody"] first second := by
        refine .of_revise ?_ revisedSecond
        intro value other became
        exact (replaced_eq_ok_iff.mp became).1
      exact ⟨second, rfl, parameters.cons (by decide) requestBody⟩
  | _ =>
      cases replaced
      rfl

/-- Methods with different keys are revised one after the other. -/
theorem revised_of_foldlM_methods {methods : List HttpMethod}
    (different : (methods.map HttpMethod.key).Nodup) {entries changed : Entries}
    (folded :
      methods.foldlM
          (fun entries method => Entries.revise method.key (replaceInOperation root) entries)
          entries =
        .ok changed) :
    Entries.Revised (fun _ => OperationInlined root) (methods.map HttpMethod.key)
      entries changed := by
  induction methods generalizing entries with
  | nil =>
      cases folded
      exact .of_no_names _
  | cons method rest inductionHypothesis =>
      obtain ⟨new, others⟩ := List.nodup_cons.mp different
      rw [List.foldlM_cons] at folded
      obtain ⟨next, revised, foldedRest⟩ := exists_ok_of_bind folded
      have first : Entries.Revised (fun _ => OperationInlined root) [method.key] entries next :=
        .of_revise (fun value other became => operationInlined_of_replaceInOperation became) revised
      exact first.cons new (inductionHypothesis others foldedRest)

theorem pathItemInlined_of_replaceInPathItem
    (replaced : replaceInPathItem root before = .ok after) :
    PathItemInlined root before after := by
  cases before with
  | mapping entries =>
      obtain ⟨changed, folded, built⟩ := exists_ok_of_bind replaced
      cases built
      exact ⟨changed, rfl, revised_of_foldlM_methods (by decide) folded⟩
  | _ =>
      cases replaced
      rfl

theorem forall₂_of_reviseAll {ε : Type} {change : Tree → Except ε Tree}
    {relation : Tree → Tree → Prop}
    (related : ∀ value after, change value = .ok after → relation value after)
    {entries changed : Entries} (revised : entries.reviseAll change = .ok changed) :
    List.Forall₂ (fun entry other => other.1 = entry.1 ∧ relation entry.2 other.2)
      entries changed := by
  induction entries generalizing changed with
  | nil =>
      cases revised
      exact .nil
  | cons entry rest inductionHypothesis =>
      obtain ⟨key, value⟩ := entry
      obtain ⟨after, changedTo, revisedRest⟩ := exists_ok_of_bind revised
      obtain ⟨others, restTo, built⟩ := exists_ok_of_bind revisedRest
      cases built
      exact .cons ⟨rfl, related value after changedTo⟩ (inductionHypothesis restTo)

theorem pathsInlined_of_replaceInPaths (replaced : replaceInPaths root before = .ok after) :
    PathsInlined root before after := by
  cases before with
  | mapping entries =>
      obtain ⟨changed, revised, built⟩ := exists_ok_of_bind replaced
      cases built
      have related : ∀ value other, replaceInPathItem root value = .ok other →
          PathItemInlined root value other :=
        fun value other became => pathItemInlined_of_replaceInPathItem became
      exact ⟨changed, rfl, forall₂_of_reviseAll related revised⟩
  | _ =>
      cases replaced
      rfl

variable {specification result : Entries}

theorem inlined_of_replaceAll (replaced : replaceAll specification = .ok result) :
    Inlined specification result :=
  .of_revise (fun _ _ became => pathsInlined_of_replaceInPaths became) replaced

/-! ## Failing -/

theorem replaceAll_eq_error_iff {fault : ReplacementFault} :
    replaceAll specification = .error fault ↔
      firstFault? (.mapping specification) (visited specification) = some fault := by
  rw [← faultOf?_replaceAll]
  cases replaceAll specification <;> simp [faultOf?]

theorem isPrintable_eq_false_iff {entry : Tree} :
    isPrintable entry = false ↔
      ∃ value, entry.get? "$ref" = some value ∧ value.isPrintable = false := by
  unfold isPrintable
  cases entry.get? "$ref" <;> simp

/-- The entry has a reference whose pointer breaks or ends at something that is no mapping. -/
def Offends (root : Tree) (entry : String × Tree) : Prop :=
  ∃ reference fault, RefersTo entry.1 entry.2 reference ∧ Misses root reference fault

/-- What is said about a reference that misses names it. -/
theorem Misses.exists_message_eq {reference : String} {fault : ReferenceFault}
    (misses : Misses root reference fault) :
    ∃ front back, fault.message = front ++ reference ++ back := by
  cases misses with
  | breaks _ => exact ⟨"unresolved reference ", "", (String.append_empty).symm⟩
  | notMapping _ _ => exact ⟨"reference ", " does not point to a mapping", rfl⟩

/-- An entry without a fault does not offend, and has a text wherever it needs one. -/
theorem entryFault?_eq_none_iff {entry : String × Tree} :
    entryFault? root entry = none ↔ ¬ Offends root entry ∧ isPrintable entry.2 = true := by
  have offends : Offends root entry ↔
      ∃ fault, entryFault? root entry = some (.reference fault) := by
    simp only [entryFault?_eq_reference_iff]
    exact exists_comm
  have printable : isPrintable entry.2 = true ↔
      entryFault? root entry ≠ some .notPrintable := by
    rw [ne_eq, entryFault?_eq_notPrintable_iff, ← isPrintable_eq_false_iff, Bool.not_eq_false]
  rw [offends, printable]
  cases entryFault? root entry with
  | none => simp
  | some fault => cases fault <;> simp

/-- A reference stops the replacement if and only if an entry offends and all entries in front of it
have a text wherever they need one. -/
theorem exists_firstFault?_eq_reference_iff {entries : List (String × Tree)} :
    (∃ fault, firstFault? root entries = some (.reference fault)) ↔
      ∃ before entry after,
        entries = before ++ entry :: after ∧ Offends root entry ∧
          ∀ other ∈ before, isPrintable other.2 = true := by
  constructor
  · rintro ⟨fault, first⟩
    obtain ⟨before, entry, after, split, isFault, fine⟩ := firstFault?_eq_some_iff.mp first
    obtain ⟨reference, misses⟩ := entryFault?_eq_reference_iff.mp isFault
    refine ⟨before, entry, after, split, ⟨reference, fault, misses⟩, ?_⟩
    intro other member
    exact (entryFault?_eq_none_iff.mp (fine other member)).2
  · rintro ⟨before, entry, after, rfl, ⟨reference, fault, misses⟩, printable⟩
    have isFault := entryFault?_eq_reference_iff.mpr ⟨reference, misses⟩
    unfold firstFault?
    rw [List.findSome?_append, findSome?_cons_or, isFault]
    -- A fault in front of the entry is another reference, since there the texts are there.
    cases earlier : before.findSome? (entryFault? root) with
    | none => exact ⟨fault, rfl⟩
    | some first =>
        obtain ⟨other, member, isFirst⟩ := List.exists_of_findSome?_eq_some earlier
        cases first with
        | reference cause => exact ⟨cause, rfl⟩
        | notPrintable =>
            have unprintable :=
              isPrintable_eq_false_iff.mpr (entryFault?_eq_notPrintable_iff.mp isFirst)
            rw [printable other member] at unprintable
            cases unprintable

end Reference

open Reference

/-- A result is the specification with its references inlined. There is none if and only if an entry
is at fault, and the first such entry decides: its reference is named, or it has no text in place of
a reference. -/
theorem replaceAll_inlines (specification : Entries) :
    (∀ result, replaceAll specification = .ok result → Inlined specification result) ∧
      (∀ fault : ReferenceFault,
        replaceAll specification = .error (.reference fault) ↔
          ∃ before entry after reference,
            visited specification = before ++ entry :: after ∧
              RefersTo entry.1 entry.2 reference ∧
              Misses (.mapping specification) reference fault ∧
              (∃ front back, fault.message = front ++ reference ++ back) ∧
              ∀ other ∈ before,
                ¬ Offends (.mapping specification) other ∧ isPrintable other.2 = true) ∧
      ((∃ fault : ReferenceFault, replaceAll specification = .error (.reference fault)) ↔
        ∃ before entry after,
          visited specification = before ++ entry :: after ∧
            Offends (.mapping specification) entry ∧
            ∀ other ∈ before, isPrintable other.2 = true) ∧
      (replaceAll specification = .error .notPrintable ↔
        ∃ before entry after,
          visited specification = before ++ entry :: after ∧
            isPrintable entry.2 = false ∧
            ∀ other ∈ before,
              ¬ Offends (.mapping specification) other ∧ isPrintable other.2 = true) := by
  refine ⟨fun result replaced => inlined_of_replaceAll replaced, ?_, ?_, ?_⟩
  · intro fault
    rw [replaceAll_eq_error_iff, firstFault?_eq_some_iff]
    simp only [entryFault?_eq_reference_iff, entryFault?_eq_none_iff]
    constructor
    · rintro ⟨before, entry, after, split, ⟨reference, refers, misses⟩, fine⟩
      exact
        ⟨before, entry, after, reference, split, refers, misses, misses.exists_message_eq, fine⟩
    · rintro ⟨before, entry, after, reference, split, refers, misses, _, fine⟩
      exact ⟨before, entry, after, split, ⟨reference, refers, misses⟩, fine⟩
  · simp only [replaceAll_eq_error_iff]
    exact exists_firstFault?_eq_reference_iff
  · rw [replaceAll_eq_error_iff, firstFault?_eq_some_iff]
    simp only [entryFault?_eq_notPrintable_iff, ← isPrintable_eq_false_iff,
      entryFault?_eq_none_iff]

/-! ## Pages of pets -/

/-- An entry that refers to something. -/
def referenceTo (value : Tree) : Tree :=
  .mapping [(.text "$ref", value)]

def limitParameter : Tree :=
  .mapping [(.text "name", .text "limit"), (.text "in", .text "query")]

def offsetParameter : Tree :=
  .mapping [(.text "name", .text "offset"), (.text "in", .text "query")]

def petBody : Tree :=
  .mapping [(.text "content", .mapping [])]

def petReference : Tree :=
  referenceTo (.text "#/components/requestBodies/Pet")

/-- A specification whose calls have parameters and a request body. The last method is none of the
four. -/
def pagedPets (parameters : List Tree) (body : Tree) : Entries := [
  (.text "paths", .mapping [
    (.text "/pets", .mapping [
      (.text "get", .mapping [(.text "parameters", .list parameters)]),
      (.text "post", .mapping [(.text "requestBody", body), (.text "summary", .text "Add")]),
      (.text "patch", .mapping [(.text "requestBody", petReference)])])]),
  (.text "components", .mapping [
    (.text "parameters", .mapping [
      (.text "Limit", limitParameter),
      (.text "Page", referenceTo (.text "#/components/parameters/Limit"))]),
    (.text "requestBodies", .mapping [(.text "Pet", petBody)])])]

def limitReference : Tree :=
  referenceTo (.text "#/components/parameters/Limit")

def sizeReference : Tree :=
  referenceTo (.text "#/components/parameters/Size")

/-- References to what is there are inlined, and one to a parameter that is missing is named. -/
theorem pagedPets_inlines :
    replaceAll (pagedPets [limitReference, offsetParameter] petReference) =
        .ok (pagedPets [limitParameter, offsetParameter] petBody) ∧
      Inlined (pagedPets [limitReference, offsetParameter] petReference)
        (pagedPets [limitParameter, offsetParameter] petBody) ∧
      replaceAll (pagedPets [limitReference, sizeReference] petReference) =
        .error (.reference (.unresolved "#/components/parameters/Size")) := by
  have replaced :
      replaceAll (pagedPets [limitReference, offsetParameter] petReference) =
        .ok (pagedPets [limitParameter, offsetParameter] petBody) :=
    rfl
  refine ⟨replaced, (replaceAll_inlines _).1 _ replaced, ?_⟩
  refine ((replaceAll_inlines _).2.1 _).mpr
    ⟨[(parameterRegistry, limitReference)], (parameterRegistry, sizeReference),
      [(requestBodyRegistry, petReference)], "#/components/parameters/Size", rfl, ⟨rfl, ?_⟩, ?_,
      ⟨"unresolved reference ", "", rfl⟩, ?_⟩
  · decide +kernel
  · exact .breaks (follow_eq_error_iff.mp ⟨.missingKey, rfl⟩)
  · intro other member
    obtain rfl := List.mem_singleton.mp member
    exact entryFault?_eq_none_iff.mp rfl

theorem Tree.isPrintable_integer_eq_false {size : Nat}
    (long : Nat.pow 10 Decimal.longestNumeral ≤ size) :
    (integer (.ofNat size)).isPrintable = false := by
  unfold isPrintable
  exact decide_eq_false (Nat.not_lt.mpr long)

/-- A number that is too long to have a text. -/
def hugeNumber : Tree :=
  .integer (.ofNat (Nat.pow 10 Decimal.longestNumeral))

/-- A number without a text stands in front of a reference that leads nowhere. -/
def hugePets : Entries :=
  pagedPets [referenceTo hugeNumber, sizeReference] petReference

/-- The replacement stops at the number and does not name the reference. -/
theorem not_replaceAll_names_reference :
    ¬ ((∃ fault : ReferenceFault, replaceAll hugePets = .error (.reference fault)) ↔
        ∃ entry ∈ visited hugePets, Offends (.mapping hugePets) entry) := by
  have seen : visited hugePets =
      [] ++ (parameterRegistry, referenceTo hugeNumber) ::
        [(parameterRegistry, sizeReference), (requestBodyRegistry, petReference)] :=
    rfl
  have unprintable : hugeNumber.isPrintable = false :=
    Tree.isPrintable_integer_eq_false (Nat.le_refl _)
  have stopped : replaceAll hugePets = .error .notPrintable := by
    rw [replaceAll_eq_error_iff, firstFault?_eq_some_iff]
    refine ⟨_, _, _, seen, entryFault?_eq_notPrintable_iff.mpr ⟨hugeNumber, rfl, unprintable⟩, ?_⟩
    intro other member
    cases member
  have offends : Offends (.mapping hugePets) (parameterRegistry, sizeReference) := by
    refine ⟨"#/components/parameters/Size", _, ⟨rfl, ?_⟩,
      .breaks (follow_eq_error_iff.mp ⟨.missingKey, rfl⟩)⟩
    decide +kernel
  have isSeen : (parameterRegistry, sizeReference) ∈ visited hugePets := by
    rw [seen]
    exact .tail _ (.head _)
  intro claimed
  obtain ⟨fault, named⟩ := claimed.mpr ⟨_, isSeen, offends⟩
  rw [stopped] at named
  cases named

end OpenApiJava
