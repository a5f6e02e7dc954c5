import OpenApiJava.Loading

/-!
# Distinct names

A mapping with free keys may spell one name in two ways, as a text and as bytes. The check puts such
entries together, so that in a document no two schemas and no two paths have the same name.
-/

namespace OpenApiJava

variable {α : Type}

theorem map_fst_consNamed (name : String) (value : α) (others : List (String × α)) :
    (consNamed name value others).map Prod.fst =
      name :: (others.map Prod.fst).filter (· != name) := by
  unfold consNamed
  cases found : others.lookup name with
  | some later =>
      simp only [List.map_cons, List.filter_map, Function.comp_def]
  | none =>
      have absent : ∀ entry ∈ others, entry.1 ≠ name := by
        intro entry member same
        have different := List.lookup_eq_none_iff.mp found entry member
        rw [same] at different
        simp at different
      have kept : (others.map Prod.fst).filter (· != name) = others.map Prod.fst := by
        rw [List.filter_eq_self]
        intro other member
        obtain ⟨entry, isEntry, rfl⟩ := List.mem_map.mp member
        exact bne_iff_ne.mpr (absent entry isEntry)
      simp only [List.map_cons, kept]

theorem nodup_consNamed {name : String} {value : α} {others : List (String × α)}
    (distinct : (others.map Prod.fst).Nodup) :
    ((consNamed name value others).map Prod.fst).Nodup := by
  rw [map_fst_consNamed]
  refine List.nodup_cons.mpr ⟨?_, distinct.filter _⟩
  simp

theorem nodup_of_checkNamed {check : Tree → Checked α} {members : List (Tree × Tree)}
    {named : List (String × α)} (valid : checkNamed check members = .valid named) :
    (named.map Prod.fst).Nodup := by
  induction members generalizing named with
  | nil =>
      cases valid
      exact List.nodup_nil
  | cons entry rest inductionHypothesis =>
      obtain ⟨key, value⟩ := entry
      simp only [checkNamed, Checked.seq_eq_valid, Checked.map_eq_valid] at valid
      obtain ⟨_, others, ⟨_, _, ⟨name, _, rfl⟩, _, rfl⟩, restValid, rfl⟩ := valid
      exact nodup_consNamed (inductionHypothesis restValid)

theorem Entries.nodup_of_named {entries : Entries} {field : String} {check : Tree → Checked α}
    {named : List (String × α)} (valid : entries.named field check = .valid named) :
    (named.map Prod.fst).Nodup := by
  unfold Entries.named at valid
  split at valid
  · cases valid
    exact List.nodup_nil
  · exact nodup_of_checkNamed (Checked.under_eq_valid.mp valid)
  · cases valid

namespace Document

/-- No two schemas and no two paths have the same name. -/
def HasDistinctNames (document : Document) : Prop :=
  (document.schemas.map Prod.fst).Nodup ∧ (document.paths.map Prod.fst).Nodup

theorem hasDistinctNames_of_checkFields {entries : Entries} {document : Document}
    (valid : checkFields entries = .valid document) :
    document.HasDistinctNames := by
  simp only [checkFields, Checked.seq_eq_valid, Checked.map_eq_valid] at valid
  obtain ⟨_, _, ⟨_, paths, ⟨_, schemas, ⟨_, _, ⟨_, _, rfl⟩, _, rfl⟩, schemasValid, rfl⟩,
    pathsValid, rfl⟩, _, rfl⟩ := valid
  exact ⟨Entries.nodup_of_named schemasValid, Entries.nodup_of_named pathsValid⟩

/-- A mapping is checked by its fields once they are lifted. -/
theorem check_mapping (entries : Entries) :
    check (.mapping entries) =
      if hasPrintableVersion entries then (lift entries).map checkFields
      else .ok (.fault .notPrintable) := by
  simp only [check]
  split
  · cases lift entries <;> rfl
  · rfl

/-- A document that a tree describes is that of the fields that are lifted out of its entries. -/
theorem exists_lift_of_check {tree : Tree} {document : Document}
    (accepted : check tree = .ok (.valid document)) :
    ∃ entries fields, tree = .mapping entries ∧ lift entries = .ok fields ∧
      checkFields fields = .valid document := by
  cases tree with
  | mapping entries =>
      rw [check_mapping] at accepted
      split at accepted
      · cases lifted : lift entries with
        | error part =>
            rw [lifted] at accepted
            cases accepted
        | ok fields =>
            rw [lifted] at accepted
            exact ⟨entries, fields, rfl, lifted, Except.ok.inj accepted⟩
      · cases accepted
  | _ => cases accepted

theorem hasDistinctNames_of_check {tree : Tree} {document : Document}
    (valid : check tree = .ok (.valid document)) :
    document.HasDistinctNames := by
  obtain ⟨_, _, _, _, fieldsValid⟩ := exists_lift_of_check valid
  exact hasDistinctNames_of_checkFields fieldsValid

theorem check_of_ofTree {tree : Tree} {document : Document}
    (described : ofTree tree = .ok document) :
    check tree = .ok (.valid document) := by
  unfold ofTree at described
  split at described
  · cases described
  · cases described
  · rename_i valid
    cases described
    exact valid

theorem hasDistinctNames_of_ofTree {tree : Tree} {document : Document}
    (described : ofTree tree = .ok document) :
    document.HasDistinctNames :=
  hasDistinctNames_of_check (check_of_ofTree described)

/-- The document of a specification has distinct names. -/
theorem hasDistinctNames_of_ofSpecification {specification : Specification} {document : Document}
    (described : ofSpecification specification = .ok document) :
    document.HasDistinctNames := by
  cases specification with
  | plain entries =>
      simp only [ofSpecification, read] at described
      split at described
      · cases described
      · exact hasDistinctNames_of_ofTree described
  | shared graph =>
      simp only [ofSpecification, readGraph] at described
      split at described
      · cases described
      · exact hasDistinctNames_of_ofTree described

end Document

end OpenApiJava
