import Mathlib.Data.List.Forall2

/-!
# Results and faults

Steps that are done one after the other give a result if each of them does, and the fault of the
first one that does not. Main statements: what a step, or one step for each item of a list, leaves
in either outcome.
-/

namespace OpenApiJava

/-- The fault that a result is, if it is one. -/
def faultOf? {ε α : Type} : Except ε α → Option ε
  | .ok _ => none
  | .error fault => some fault

section

variable {ε α β : Type}

/-! ## One step after another -/

theorem exists_ok_of_bind {first : Except ε α} {next : α → Except ε β} {result : β}
    (succeeded : first >>= next = .ok result) :
    ∃ value, first = .ok value ∧ next value = .ok result := by
  cases first with
  | error fault => cases succeeded
  | ok value => exact ⟨value, rfl, succeeded⟩

theorem bind_eq_of_ok {first : Except ε α} {next : α → Except ε β} {value : α}
    (done : first = .ok value) :
    first >>= next = next value := by
  rw [done]
  rfl

/-- What comes after a result adds its fault if the result is none. -/
theorem faultOf?_bind {first : Except ε α} {next : α → Except ε β} {rest : Option ε}
    (after : ∀ value, first = .ok value → faultOf? (next value) = rest) :
    faultOf? (first >>= next) = (faultOf? first).or rest := by
  cases result : first with
  | error fault => rfl
  | ok value =>
      calc
        faultOf? (Except.ok value >>= next) = faultOf? (next value) := rfl
        _ = rest := after value result
        _ = (faultOf? (.ok value : Except ε α)).or rest := rfl

theorem faultOf?_bind_pure (first : Except ε α) (next : α → β) :
    faultOf? (first >>= fun value => pure (next value)) = faultOf? first := by
  have noMore : ∀ value, first = .ok value →
      faultOf? (pure (next value) : Except ε β) = none :=
    fun value _ => rfl
  rw [faultOf?_bind noMore, Option.or_none]

theorem exists_ok_of_map {form : α → β} {result : Except ε α} {value : β}
    (mapped : result.map form = .ok value) :
    ∃ inner, result = .ok inner ∧ form inner = value := by
  cases result with
  | error fault => cases mapped
  | ok inner => exact ⟨inner, rfl, Except.ok.inj mapped⟩

theorem exists_ok_of_faultOf?_eq {first second : Except ε α} {value : α}
    (same : faultOf? second = faultOf? first) (done : first = .ok value) :
    ∃ other, second = .ok other := by
  cases second with
  | ok other => exact ⟨other, rfl⟩
  | error fault =>
      rw [done] at same
      cases same

/-! ## One step for each item -/

theorem findSome?_cons_or (search : α → Option β) (item : α) (rest : List α) :
    (item :: rest).findSome? search = (search item).or (rest.findSome? search) := by
  rw [List.findSome?_cons]
  cases search item <;> rfl

theorem findSome?_flatMap {γ : Type} (search : β → Option γ) (inner : α → List β)
    (items : List α) :
    (items.flatMap inner).findSome? search =
      items.findSome? fun item => (inner item).findSome? search := by
  induction items with
  | nil => rfl
  | cons item rest inductionHypothesis =>
      rw [List.flatMap_cons, List.findSome?_append, findSome?_cons_or, inductionHypothesis]

theorem faultOf?_mapM (change : α → Except ε β) (items : List α) :
    faultOf? (items.mapM change) = items.findSome? fun item => faultOf? (change item) := by
  induction items with
  | nil => rfl
  | cons item rest inductionHypothesis =>
      rw [List.mapM_cons, findSome?_cons_or, ← inductionHypothesis]
      refine faultOf?_bind ?_
      intro changed _
      exact faultOf?_bind_pure (rest.mapM change) fun others => changed :: others

theorem forall₂_of_mapM {change : α → Except ε β} {relation : α → β → Prop}
    (related : ∀ item after, change item = .ok after → relation item after)
    {items : List α} {changed : List β} (mapped : items.mapM change = .ok changed) :
    List.Forall₂ relation items changed := by
  induction items generalizing changed with
  | nil =>
      cases mapped
      exact .nil
  | cons item rest inductionHypothesis =>
      rw [List.mapM_cons] at mapped
      obtain ⟨after, changedTo, mappedRest⟩ := exists_ok_of_bind mapped
      obtain ⟨others, restTo, built⟩ := exists_ok_of_bind mappedRest
      cases built
      exact .cons (related item after changedTo) (inductionHypothesis restTo)

theorem mapM_eq_ok_map {change : α → Except ε β} {image : α → β} {items : List α}
    (each : ∀ item ∈ items, change item = .ok (image item)) :
    items.mapM change = .ok (items.map image) := by
  induction items with
  | nil => rfl
  | cons item rest inductionHypothesis =>
      have first := each item List.mem_cons_self
      have others := inductionHypothesis fun other member => each other (.tail item member)
      rw [List.mapM_cons, bind_eq_of_ok first, bind_eq_of_ok others]
      rfl

end

end OpenApiJava
