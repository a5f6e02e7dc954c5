import OpenApiJava.Tree.Basic

/-!
# Entries by name

What is found under a name among the entries of a mapping. Main statements: a change to the entry of
one key, whatever it is, changes nothing under a name that is another key; and neither does another
order of the entries, if their keys are distinct.
-/

namespace OpenApiJava

variable {α β : Type} {name : String}

theorem mem_of_findNamed? {entries : List (Tree × α)} {value : α}
    (found : findNamed? name entries = some value) :
    (.text name, value) ∈ entries := by
  fun_induction findNamed? name entries with
  | case1 => cases found
  | case2 other rest =>
      cases found
      exact List.mem_cons_self
  | case3 key other rest different inductionHypothesis =>
      exact List.mem_cons_of_mem _ (inductionHypothesis found)
  | case4 entry rest notText inductionHypothesis =>
      exact List.mem_cons_of_mem _ (inductionHypothesis found)

theorem findNamed?_map (change : α → β) (entries : List (Tree × α)) :
    findNamed? name (entries.map fun entry => (entry.1, change entry.2)) =
      (findNamed? name entries).map change := by
  fun_induction findNamed? name entries with
  | case1 => rfl
  | case2 value rest => rw [List.map_cons, findNamed?, if_pos rfl, Option.map_some]
  | case3 key value rest different inductionHypothesis =>
      rw [List.map_cons, findNamed?, if_neg different, inductionHypothesis]
  | case4 entry rest notText inductionHypothesis =>
      rw [List.map_cons, findNamed?, inductionHypothesis]
      intro key value same
      exact notText key entry.2 (Prod.ext (Prod.mk.inj same).1 rfl)

/-- An entry of another key is passed over. -/
theorem findNamed?_cons_of_ne {key : Tree} {value : α} {rest : List (Tree × α)}
    (different : key ≠ .text name) :
    findNamed? name ((key, value) :: rest) = findNamed? name rest := by
  cases key with
  | text other =>
      rw [findNamed?, if_neg]
      exact fun same => different (congrArg Tree.text same)
  | _ => rfl

theorem mem_map_snd_putEntry {entries : List (Tree × α)} {key : Tree} {value inner : α}
    (isInner : inner ∈ (putEntry entries key value).map Prod.snd) :
    inner = value ∨ inner ∈ entries.map Prod.snd := by
  induction entries with
  | nil => exact .inl (List.mem_singleton.mp isInner)
  | cons entry rest inductionHypothesis =>
      obtain ⟨other, old⟩ := entry
      rw [putEntry] at isInner
      split at isInner
      · exact (List.mem_cons.mp isInner).imp_right (List.mem_cons_of_mem _)
      · cases List.mem_cons.mp isInner with
        | inl isOld => exact .inr (List.mem_cons.mpr (.inl isOld))
        | inr inRest => exact (inductionHypothesis inRest).imp_right (List.mem_cons_of_mem _)

/-! ## Distinct keys -/

theorem findNamed?_eq_some_iff {entries : List (Tree × α)} (distinct : (entries.map Prod.fst).Nodup)
    {value : α} :
    findNamed? name entries = some value ↔ (.text name, value) ∈ entries := by
  refine ⟨mem_of_findNamed?, fun member => ?_⟩
  induction entries with
  | nil => cases member
  | cons entry rest inductionHypothesis =>
      obtain ⟨notInRest, restDistinct⟩ := List.nodup_cons.mp distinct
      cases List.mem_cons.mp member with
      | inl isFirst => rw [← isFirst, findNamed?, if_pos rfl]
      | inr inRest =>
          have different : entry.1 ≠ .text name := fun same =>
            notInRest (List.mem_map.mpr ⟨_, inRest, same.symm⟩)
          rw [findNamed?_cons_of_ne different]
          exact inductionHypothesis restDistinct inRest

theorem findNamed?_eq_of_perm {entries changed : List (Tree × α)}
    (distinct : (entries.map Prod.fst).Nodup) (reordered : entries.Perm changed) (name : String) :
    findNamed? name changed = findNamed? name entries := by
  have distinctAlso : (changed.map Prod.fst).Nodup := (reordered.map Prod.fst).nodup_iff.mp distinct
  refine Option.ext fun value => ?_
  rw [findNamed?_eq_some_iff distinctAlso, findNamed?_eq_some_iff distinct, reordered.mem_iff]

/-! ## Changes to one key -/

/-- Only a text is the same key as a text. -/
theorem Tree.sameKey_text_iff {key : Tree} :
    (Tree.text name).sameKey key = true ↔ key = .text name := by
  cases key with
  | text other =>
      simp only [sameKey, beq_iff_eq, Tree.text.injEq]
      exact eq_comm
  | _ => simp [sameKey, asInteger?]

/-- The entries of all other keys. -/
def withoutKey (key : Tree) (entries : List (Tree × α)) : List (Tree × α) :=
  entries.filter fun entry => !entry.1.sameKey key

/-- The key gets a value, another one if it has one already, or is taken away. -/
inductive KeyChanges (key : Tree) (entries : List (Tree × α)) : List (Tree × α) → Prop
  | put (value : α) : KeyChanges key entries (putEntry entries key value)
  | remove : KeyChanges key entries (withoutKey key entries)

theorem findNamed?_putEntry {key : Tree} (different : key ≠ .text name)
    (entries : List (Tree × α)) (value : α) :
    findNamed? name (putEntry entries key value) = findNamed? name entries := by
  induction entries with
  | nil => exact findNamed?_cons_of_ne different
  | cons entry rest inductionHypothesis =>
      obtain ⟨other, old⟩ := entry
      rw [putEntry]
      by_cases isName : other = .text name
      · subst isName
        rw [if_neg fun same => different (Tree.sameKey_text_iff.mp same)]
        simp only [findNamed?, if_true]
      · split
        · rw [findNamed?_cons_of_ne isName, findNamed?_cons_of_ne isName]
        · rw [findNamed?_cons_of_ne isName, findNamed?_cons_of_ne isName, inductionHypothesis]

theorem Tree.sameKey_text_right_iff {key : Tree} :
    key.sameKey (.text name) = true ↔ key = .text name := by
  cases key with
  | text other => simp only [sameKey, beq_iff_eq, Tree.text.injEq]
  | _ => simp [sameKey, asInteger?]

theorem findNamed?_putEntry_self (entries : List (Tree × α)) (value : α) :
    findNamed? name (putEntry entries (.text name) value) = some value := by
  induction entries with
  | nil => rw [putEntry, findNamed?, if_pos rfl]
  | cons entry rest inductionHypothesis =>
      obtain ⟨other, old⟩ := entry
      rw [putEntry]
      by_cases isName : other = .text name
      · rw [if_pos (Tree.sameKey_text_right_iff.mpr isName), isName, findNamed?, if_pos rfl]
      · rw [if_neg (fun same => isName (Tree.sameKey_text_right_iff.mp same)),
          findNamed?_cons_of_ne isName, inductionHypothesis]

theorem findNamed?_withoutKey {key : Tree} (different : key ≠ .text name)
    (entries : List (Tree × α)) :
    findNamed? name (withoutKey key entries) = findNamed? name entries := by
  unfold withoutKey
  induction entries with
  | nil => rfl
  | cons entry rest inductionHypothesis =>
      obtain ⟨other, value⟩ := entry
      by_cases isName : other = .text name
      · subst isName
        have kept : (Tree.text name).sameKey key = false :=
          Bool.eq_false_iff.mpr fun same => different (Tree.sameKey_text_iff.mp same)
        rw [List.filter_cons_of_pos (by simp [kept])]
        simp only [findNamed?, if_true]
      · rw [findNamed?_cons_of_ne isName, ← inductionHypothesis, List.filter_cons]
        split
        · rw [findNamed?_cons_of_ne isName]
        · rfl

theorem KeyChanges.findNamed?_eq {key : Tree} {entries changed : List (Tree × α)}
    (changes : KeyChanges key entries changed) (different : key ≠ .text name) :
    findNamed? name changed = findNamed? name entries := by
  cases changes with
  | put value => exact findNamed?_putEntry different entries value
  | remove => exact findNamed?_withoutKey different entries

end OpenApiJava
