import OpenApiJava.Proofs.LegalNames

/-!
# Shared names

Different texts may have one identifier. Main statement: they do if they differ only in characters
that are no word characters, or if one of them is no name, since it is empty, starts with a digit or
is reserved, and the other is what is made of it.
-/

namespace OpenApiJava.Java

open OpenApiJava.Text

/-- The text with an underscore in place of every character that is no word character. -/
def wordForm (text : List Char) : List Char :=
  text.map nameCharacter

/-- The first text is no name, and the second is what is made of it. -/
inductive BecomesName : List Char → List Char → Prop
  | empty :
      BecomesName [] emptyName.toList
  | digit {first : Char} (rest : List Char) (digit : isDigit first = true) :
      BecomesName (first :: rest) ('_' :: first :: rest)
  | reserved {word : List Char} (reserved : isReserved word = true) :
      BecomesName word (word ++ ['_'])

/-- The texts have one identifier. -/
def SharesName (first second : List Char) : Prop :=
  wordForm first = wordForm second ∨ BecomesName (wordForm first) (wordForm second) ∨
    BecomesName (wordForm second) (wordForm first)

theorem not_isDigit_of_isReserved {first : Char} {rest : List Char}
    (reserved : isReserved (first :: rest) = true) : isDigit first = false := by
  have noDigits : ∀ word ∈ reservedWords, word.toList.head?.all (!isDigit ·) = true := by decide
  obtain ⟨word, isListed, same⟩ := isReserved_iff.mp reserved
  simpa [same] using noDigits word isListed

namespace BecomesName

variable {text name : List Char}

theorem legalName_eq (becomes : BecomesName text name) : legalName text = name := by
  cases becomes with
  | empty => rfl
  | digit rest digit => rw [legalName, if_pos digit]
  | reserved reserved =>
      cases text with
      | nil => exact absurd reserved (by decide)
      | cons first rest =>
          have noDigit := not_isDigit_of_isReserved reserved
          rw [legalName, if_neg (by simp [noDigit]), if_pos reserved]

/-- What is made of a text is not changed again. -/
theorem legalName_eq_self (becomes : BecomesName text name) : legalName name = name := by
  cases becomes with
  | empty => decide
  | digit rest digit =>
      have noDigit : isDigit '_' = false := by decide
      simp [legalName, noDigit, isReserved_underscore_cons]
  | reserved reserved =>
      cases text with
      | nil => exact absurd reserved (by decide)
      | cons first rest =>
          have noDigit := not_isDigit_of_isReserved reserved
          have free := isReserved_append_underscore reserved
          rw [List.cons_append] at free ⊢
          rw [legalName, if_neg (by simp [noDigit]), if_neg (by simp [free])]

theorem ne_of_digit_of_reserved {first : Char} {rest word : List Char}
    (digit : isDigit first = true) (reserved : isReserved word = true) :
    '_' :: first :: rest ≠ word ++ ['_'] := by
  intro same
  have noDigit : isDigit '_' = false := by decide
  cases word with
  | nil => exact absurd reserved (by decide)
  | cons front others =>
      obtain ⟨rfl, sameRest⟩ := List.cons.inj same
      cases others with
      | nil =>
          rw [(List.cons.inj sameRest).1, noDigit] at digit
          cases digit
      | cons next others =>
          rw [isReserved_underscore_cons] at reserved
          cases reserved

/-- Different texts become different names. -/
theorem unique {other : List Char} (becomes : BecomesName text name)
    (alsoBecomes : BecomesName other name) : text = other := by
  have noUnderscore : '_' ∉ emptyName.toList := by decide
  generalize same : name = target at alsoBecomes
  cases becomes with
  | empty =>
      cases alsoBecomes with
      | empty => rfl
      | digit rest digit => exact absurd (same ▸ List.mem_cons_self) noUnderscore
      | reserved reserved =>
          exact absurd (same ▸ List.mem_append_right _ List.mem_cons_self) noUnderscore
  | digit rest digit =>
      cases alsoBecomes with
      | empty => exact absurd (same ▸ List.mem_cons_self) noUnderscore
      | digit otherRest otherDigit => exact (List.cons.inj same).2
      | reserved reserved => exact absurd same (ne_of_digit_of_reserved digit reserved)
  | reserved reserved =>
      cases alsoBecomes with
      | empty => exact absurd (same ▸ List.mem_append_right _ List.mem_cons_self) noUnderscore
      | digit rest digit => exact absurd same.symm (ne_of_digit_of_reserved digit reserved)
      | reserved otherReserved => exact List.append_cancel_right same

end BecomesName

/-- A text stays as it is, or it becomes a name. -/
theorem legalName_cases (text : List Char) :
    legalName text = text ∨ BecomesName text (legalName text) := by
  fun_cases legalName text with
  | case1 => exact Or.inr BecomesName.empty
  | case2 first rest digit => exact Or.inr (BecomesName.digit rest digit)
  | case3 first rest noDigit reserved => exact Or.inr (BecomesName.reserved reserved)
  | case4 first rest noDigit free => exact Or.inl rfl

theorem legalName_eq_legalName_iff {first second : List Char} :
    legalName first = legalName second ↔
      first = second ∨ BecomesName first second ∨ BecomesName second first := by
  constructor
  · intro same
    rcases legalName_cases first with firstStays | firstBecomes
    · rcases legalName_cases second with secondStays | secondBecomes
      · exact Or.inl (firstStays.symm.trans (same.trans secondStays))
      · rw [← same, firstStays] at secondBecomes
        exact Or.inr (Or.inr secondBecomes)
    · rcases legalName_cases second with secondStays | secondBecomes
      · rw [same, secondStays] at firstBecomes
        exact Or.inr (Or.inl firstBecomes)
      · rw [same] at firstBecomes
        exact Or.inl (firstBecomes.unique secondBecomes)
  · rintro (rfl | becomes | becomes)
    · rfl
    · rw [becomes.legalName_eq, becomes.legalName_eq_self]
    · rw [becomes.legalName_eq, becomes.legalName_eq_self]

theorem nameOf_eq_nameOf_iff {first second : List Char} :
    nameOf first = nameOf second ↔ SharesName first second :=
  legalName_eq_legalName_iff

instance (first second : List Char) : Decidable (SharesName first second) :=
  decidable_of_iff _ nameOf_eq_nameOf_iff

/-- Two texts have one identifier exactly if they share their name. -/
theorem identifier_eq_identifier_iff {first second : String} :
    identifier first = identifier second ↔ SharesName first.toList second.toList := by
  rw [← nameOf_eq_nameOf_iff, ← String.toList_inj, identifier, identifier, toList_onString,
    toList_onString]

/-- Where items that share a name have the same one, names do not repeat exactly if no two items
share theirs. -/
theorem nodup_map_iff_pairwise {α β : Type} {name : α → β} {shares : α → α → Prop} {items : List α}
    (same : ∀ first ∈ items, ∀ second ∈ items, name first = name second ↔ shares first second) :
    (items.map name).Nodup ↔ items.Pairwise fun first second => ¬ shares first second := by
  rw [List.Nodup, List.pairwise_map]
  exact List.Pairwise.iff_of_mem fun isFirst isSecond => not_congr (same _ isFirst _ isSecond)

/-- Names do not repeat exactly if no two of the texts that they stand for share them. -/
theorem nodup_map_iff_pairwise_map {α β γ : Type} {name : α → β} {text : α → γ}
    {shares : γ → γ → Prop}
    (same : ∀ first second, name first = name second ↔ shares (text first) (text second))
    (items : List α) :
    (items.map name).Nodup ↔
      (items.map text).Pairwise fun first second => ¬ shares first second := by
  rw [nodup_map_iff_pairwise fun first _ second _ => same first second, List.pairwise_map]

/-- A name without underscores, but for that of the empty text, stands for itself alone. -/
theorem nameOf_eq_iff_of_underscore_not_mem {text name : List Char} (plain : '_' ∉ name)
    (legal : IsLegal name) (proper : name ≠ emptyName.toList) :
    nameOf text = name ↔ text = name := by
  constructor
  · intro same
    have kept : wordForm text = name := by
      rcases legalName_cases (wordForm text) with stays | becomes
      · exact stays.symm.trans same
      · have isName : legalName (wordForm text) = name := same
        rw [isName] at becomes
        generalize wordForm text = given at becomes
        cases becomes with
        | empty => exact absurd rfl proper
        | digit rest digit => exact absurd List.mem_cons_self plain
        | reserved reserved =>
            exact absurd (List.mem_append_right _ List.mem_cons_self) plain
    have each : ∀ character ∈ text, nameCharacter character = character := by
      intro character member
      by_cases word : isWord character = true
      · exact if_pos word
      · have replaced : nameCharacter character = '_' := if_neg word
        have inName : nameCharacter character ∈ name := kept ▸ List.mem_map_of_mem member
        rw [replaced] at inName
        exact absurd inName plain
    rw [← kept]
    exact ((List.map_congr_left each).trans (List.map_id' text)).symm
  · rintro rfl
    exact nameOf_of_isLegal legal

end OpenApiJava.Java
