import OpenApiJava.Proofs.Replacement

/-!
# Where references lead

A pointer leads through mappings, from key to key. It breaks where a key is missing or where a tree
on the way is no mapping. Main statements: an entry is replaced by the mapping that its pointer
leads to, and it is at fault if and only if the pointer breaks or ends at something that is no
mapping.
-/

namespace OpenApiJava.Reference

/-! ## Pointers -/

/-- The keys lead from the first tree to the second, through mappings. -/
inductive Leads : List String → Tree → Tree → Prop
  | here (tree : Tree) : Leads [] tree tree
  | step {key : String} {rest : List String} {entries : Entries} {next last : Tree} :
      entries.find? key = some next → Leads rest next last →
      Leads (key :: rest) (.mapping entries) last

/-- On the way of the keys, one of them is missing or a tree is no mapping. -/
inductive Breaks : List String → Tree → Prop
  | missing {key : String} {rest : List String} {entries : Entries} :
      entries.find? key = none → Breaks (key :: rest) (.mapping entries)
  | notMapping {key : String} {rest : List String} {tree : Tree} :
      (∀ entries, tree ≠ .mapping entries) → Breaks (key :: rest) tree
  | later {key : String} {rest : List String} {entries : Entries} {next : Tree} :
      entries.find? key = some next → Breaks rest next → Breaks (key :: rest) (.mapping entries)

theorem follow_eq_ok_iff {keys : List String} {tree last : Tree} :
    follow keys tree = .ok last ↔ Leads keys tree last := by
  constructor
  · intro followed
    fun_induction follow keys tree with
    | case1 =>
        cases followed
        exact .here last
    | case2 key rest entries next found inductionHypothesis =>
        exact .step found (inductionHypothesis followed)
    | case3 key rest entries missing => cases followed
    | case4 key rest tree notMapping => cases followed
  · intro leads
    induction leads with
    | here tree => cases tree <;> rfl
    | step found _ inductionHypothesis => simpa only [follow, found] using inductionHypothesis

theorem follow_eq_error_iff {keys : List String} {tree : Tree} :
    (∃ fault, follow keys tree = .error fault) ↔ Breaks keys tree := by
  constructor
  · rintro ⟨fault, failed⟩
    fun_induction follow keys tree with
    | case1 => cases failed
    | case2 key rest entries next found inductionHypothesis =>
        exact .later found (inductionHypothesis failed)
    | case3 key rest entries missing => exact .missing missing
    | case4 key rest tree notMapping => exact .notMapping notMapping
  · intro breaks
    induction breaks with
    | missing missing => exact ⟨.missingKey, by simp only [follow, missing]⟩
    | @notMapping key rest tree notMapping =>
        refine ⟨.notMapping, ?_⟩
        cases tree with
        | mapping entries => exact absurd rfl (notMapping entries)
        | _ => rfl
    | later found _ inductionHypothesis => simpa only [follow, found] using inductionHypothesis

theorem Leads.unique {keys : List String} {tree last other : Tree} (leads : Leads keys tree last)
    (leadsAlso : Leads keys tree other) :
    other = last := by
  have same := (follow_eq_ok_iff.mpr leadsAlso).symm.trans (follow_eq_ok_iff.mpr leads)
  exact Except.ok.inj same

/-! ## Entries -/

/-- The entry is a mapping with a reference into the registry. -/
def RefersTo (registry : String) (entry : Tree) (reference : String) : Prop :=
  entry.get? "$ref" = some (.text reference) ∧ registry.toList <+: reference.toList

/-- What keeps the reference from being replaced: its pointer breaks, or it ends at something that
is no mapping. -/
inductive Misses (root : Tree) (reference : String) : ReferenceFault → Prop
  | breaks : Breaks (keys reference) root → Misses root reference (.unresolved reference)
  | notMapping {last : Tree} :
      Leads (keys reference) root last → (∀ members, last ≠ .mapping members) →
      Misses root reference (.notMapping reference)

/-- What stands in place of an entry: the mapping that its reference leads to, or else the entry. -/
inductive Replaces (root : Tree) (registry : String) (entry : Tree) : Tree → Prop
  | target {reference : String} {members : Entries} :
      RefersTo registry entry reference → Leads (keys reference) root (.mapping members) →
      Replaces root registry entry (.mapping members)
  | same : (∀ reference, ¬ RefersTo registry entry reference) → Replaces root registry entry entry

variable {root entry after : Tree} {registry reference : String} {fault : ReferenceFault}

theorem RefersTo.unique {other : String} (refers : RefersTo registry entry reference)
    (refersAlso : RefersTo registry entry other) :
    other = reference := by
  have same := refersAlso.1.symm.trans refers.1
  exact Tree.text.inj (Option.some.inj same)

theorem into?_eq_some_iff :
    into? registry entry = some reference ↔ RefersTo registry entry reference := by
  unfold into? RefersTo
  split
  · rename_i spelled found
    rw [found]
    constructor
    · intro inRegistry
      split at inRegistry
      · rename_i starts
        cases inRegistry
        exact ⟨rfl, List.isPrefixOf_iff_prefix.mp starts⟩
      · cases inRegistry
    · rintro ⟨same, starts⟩
      cases same
      exact if_pos (List.isPrefixOf_iff_prefix.mpr starts)
  · rename_i notText
    constructor
    · intro impossible
      cases impossible
    · rintro ⟨found, _⟩
      exact absurd found (notText reference)

theorem into?_eq_none_iff :
    into? registry entry = none ↔ ∀ reference, ¬ RefersTo registry entry reference := by
  simp only [Option.eq_none_iff_forall_ne_some, ne_eq, into?_eq_some_iff]

/-- Only mappings refer to something. -/
theorem RefersTo.exists_eq_mapping (refers : RefersTo registry entry reference) :
    ∃ members, entry = .mapping members := by
  obtain ⟨found, _⟩ := refers
  cases entry with
  | mapping members => exact ⟨members, rfl⟩
  | _ => cases found

theorem Replaces.leads (replaces : Replaces root registry entry after)
    (refers : RefersTo registry entry reference) :
    Leads (keys reference) root after := by
  cases replaces with
  | target refersAlso leads =>
      obtain rfl := refers.unique refersAlso
      exact leads
  | same refersNot => exact absurd refers (refersNot reference)

/-- An entry whose reference leads back to it is replaced by itself. -/
theorem Replaces.of_leads_back (refers : RefersTo registry entry reference)
    (leads : Leads (keys reference) root entry) :
    Replaces root registry entry entry := by
  obtain ⟨members, rfl⟩ := refers.exists_eq_mapping
  exact .target refers leads

/-- A reference is a text, and so has one. -/
theorem RefersTo.isPrintable (refers : RefersTo registry entry reference) :
    isPrintable entry = true := by
  unfold Reference.isPrintable
  rw [refers.1]
  rfl

theorem target_eq_ok_iff :
    target root reference = .ok after ↔
      Leads (keys reference) root after ∧ ∃ members, after = .mapping members := by
  rw [← follow_eq_ok_iff]
  unfold target resolve
  cases followed : follow (keys reference) root with
  | error cause => simp
  | ok last =>
      constructor
      · intro found
        cases last with
        | mapping members =>
            cases found
            exact ⟨rfl, members, rfl⟩
        | _ => cases found
      · rintro ⟨same, members, rfl⟩
        cases same
        rfl

theorem target_eq_error_iff :
    target root reference = .error fault ↔ Misses root reference fault := by
  constructor
  · unfold target resolve
    cases followed : follow (keys reference) root with
    | error cause =>
        intro missed
        cases missed
        exact .breaks (follow_eq_error_iff.mp ⟨cause, followed⟩)
    | ok last =>
        have leads := follow_eq_ok_iff.mp followed
        intro missed
        cases last with
        | mapping members => cases missed
        | _ =>
            cases missed
            exact .notMapping leads (by simp)
  · intro missed
    unfold target resolve
    cases missed with
    | breaks breaks =>
        obtain ⟨cause, followed⟩ := follow_eq_error_iff.mpr breaks
        rw [followed]
    | @notMapping last leads notMapping =>
        rw [follow_eq_ok_iff.mpr leads]
        cases last with
        | mapping members => exact absurd rfl (notMapping members)
        | _ => rfl

/-- An entry is replaced as its pointer says, unless there is no text in place of a reference. -/
theorem replaced_eq_ok_iff :
    replaced root registry entry = .ok after ↔
      Replaces root registry entry after ∧ isPrintable entry = true := by
  unfold replaced
  cases refers : into? registry entry with
  | some reference =>
      have refersTo := into?_eq_some_iff.mp refers
      have resolved :
          (target root reference).mapError ReplacementFault.reference = .ok after ↔
            target root reference = .ok after := by
        cases target root reference <;> simp [Except.mapError]
      simp only [resolved, target_eq_ok_iff, refersTo.isPrintable, and_true]
      constructor
      · rintro ⟨leads, members, rfl⟩
        exact .target refersTo leads
      · intro replaces
        cases replaces with
        | @target other members refersAlso leads =>
            rw [refersTo.unique refersAlso] at leads
            exact ⟨leads, members, rfl⟩
        | same refersNot => exact absurd refersTo (refersNot reference)
  | none =>
      have refersNot := into?_eq_none_iff.mp refers
      have unchanged : Replaces root registry entry after ↔ after = entry := by
        constructor
        · intro replaces
          cases replaces with
          | target refersTo _ => exact absurd refersTo (refersNot _)
          | same _ => rfl
        · rintro rfl
          exact .same refersNot
      rw [unchanged]
      cases printable : isPrintable entry <;> simp [eq_comm]

/-- An entry is at fault for its reference if and only if it has one that misses. -/
theorem entryFault?_eq_reference_iff {entry : String × Tree} :
    entryFault? root entry = some (.reference fault) ↔
      ∃ reference, RefersTo entry.1 entry.2 reference ∧ Misses root reference fault := by
  unfold entryFault? replaced
  cases refers : into? entry.1 entry.2 with
  | some reference =>
      have refersTo := into?_eq_some_iff.mp refers
      have missed :
          faultOf? ((target root reference).mapError ReplacementFault.reference) =
              some (.reference fault) ↔
            target root reference = .error fault := by
        cases target root reference <;> simp [Except.mapError, faultOf?]
      rw [missed, target_eq_error_iff]
      constructor
      · intro misses
        exact ⟨reference, refersTo, misses⟩
      · rintro ⟨other, refersAlso, misses⟩
        rwa [refersTo.unique refersAlso] at misses
  | none =>
      have refersNot := into?_eq_none_iff.mp refers
      have noFault :
          faultOf? (if isPrintable entry.2 then Except.ok entry.2
            else .error ReplacementFault.notPrintable) ≠ some (.reference fault) := by
        split <;> simp [faultOf?]
      simp only [noFault, false_iff, not_exists, not_and]
      intro reference refersTo
      exact absurd refersTo (refersNot reference)

end OpenApiJava.Reference
