import OpenApiJava.Proofs.LegalNames
import OpenApiJava.Proofs.LetterTables

/-!
# Identifiers that Java accepts

Java takes letters, numbers written as letters, decimal digits and underscores in an identifier, and
no decimal digit in front. Word characters are more than these: they include superscripts, fractions
and circled digits. Main statement: the identifier of a text is one of Java exactly if the text has
none of these other numbers, whatever else it has.
-/

namespace OpenApiJava.Java

open OpenApiJava.Text

/-- A letter, a number written as a letter, a decimal digit or an underscore. -/
def isIdentifierPart (character : Char) : Bool :=
  isLetter character || isLetterNumber character || isDecimalDigit character || character == '_'

/-- The text is an identifier by the rules of Java. -/
structure IsIdentifier (name : List Char) : Prop where
  nonempty : name ≠ []
  parts : ∀ character ∈ name, isIdentifierPart character = true
  noDigit : ∀ first ∈ name.head?, isDecimalDigit first = false
  free : isReserved name = false

theorem isIdentifierPart_iff {character : Char} :
    isIdentifierPart character = true ↔
      isWord character = true ∧ isOtherNumber character = false := by
  have parts : isIdentifierPart character = true ↔
      isLetter character = true ∨ isLetterNumber character = true ∨
        isDecimalDigit character = true ∨ character = '_' := by
    simp only [isIdentifierPart, Bool.or_eq_true, beq_iff_eq, or_assoc]
  rw [parts, isWord_iff]
  cases otherNumber : isOtherNumber character with
  | false => simp
  | true =>
      obtain ⟨noLetter, noLetterNumber, noDecimal, noUnderscore⟩ :=
        not_other_kind_of_isOtherNumber otherNumber
      simp [noLetter, noLetterNumber, noDecimal, noUnderscore]

theorem isIdentifierPart_nameCharacter_iff {character : Char} :
    isIdentifierPart (nameCharacter character) = true ↔ isOtherNumber character = false := by
  unfold nameCharacter
  split
  · rename_i word
    rw [isIdentifierPart_iff, and_iff_right word]
  · rename_i noWord
    have underscore : isIdentifierPart '_' = true := by decide
    have noNumber : isOtherNumber character = false := by
      rw [Bool.eq_false_iff]
      intro number
      exact noWord (isWord_iff.mpr (by simp [number]))
    simp [underscore, noNumber]

/-- What is made of a name has the characters of the name and otherwise only ordinary ones. -/
theorem forall_mem_legalName_iff {good : Char → Prop}
    (letters : ∀ character ∈ emptyName.toList, good character) (underscore : good '_')
    (name : List Char) :
    (∀ character ∈ legalName name, good character) ↔ ∀ character ∈ name, good character := by
  fun_cases legalName name with
  | case1 => simpa using letters
  | case2 first rest digit => simp [underscore]
  | case3 first rest noDigit reserved => simp [or_imp, forall_and, underscore]
  | case4 first rest noDigit free => rfl

theorem parts_nameOf_iff (text : List Char) :
    (∀ character ∈ nameOf text, isIdentifierPart character = true) ↔
      ∀ character ∈ text, isOtherNumber character = false := by
  have letters : emptyName.toList.all isIdentifierPart = true := by decide
  rw [List.all_eq_true] at letters
  rw [nameOf, forall_mem_legalName_iff letters (by decide), List.forall_mem_map]
  exact forall₂_congr fun character _ => isIdentifierPart_nameCharacter_iff

/-- The identifier of a text is one of Java exactly if the text has no numbers but decimal digits
and those written as letters. Whatever the text, its identifier has word characters only and no
decimal digit in front. -/
theorem isIdentifier_identifier_iff (text : String) :
    (IsIdentifier (identifier text).toList ↔
        ∀ character ∈ text.toList, isOtherNumber character = false) ∧
      ((∀ character ∈ (identifier text).toList, isIdentifierPart character = true) ↔
        ∀ character ∈ text.toList, isOtherNumber character = false) ∧
      (∀ character ∈ (identifier text).toList,
        isIdentifierPart character = true ∨ isOtherNumber character = true) ∧
      ∀ first ∈ (identifier text).toList.head?, isDecimalDigit first = false := by
  rw [identifier, toList_onString]
  have legal := isLegal_nameOf text.toList
  have parts := parts_nameOf_iff text.toList
  have noDigit : ∀ first ∈ (nameOf text.toList).head?, isDecimalDigit first = false := by
    intro first isFirst
    rw [Bool.eq_false_iff]
    intro digit
    have noDigit := legal.noDigit first isFirst
    rw [isDigit_of_isDecimalDigit digit] at noDigit
    cases noDigit
  refine ⟨⟨fun accepted => parts.mp accepted.parts, fun noNumbers => ?_⟩, parts, ?_, noDigit⟩
  · exact ⟨legal.nonempty, parts.mpr noNumbers, noDigit, legal.free⟩
  · intro character member
    have word := legal.words character member
    cases number : isOtherNumber character with
    | false => exact Or.inl (isIdentifierPart_iff.mpr ⟨word, number⟩)
    | true => exact Or.inr rfl

/-- A superscript stays in the identifier, which Java then refuses. -/
theorem squared_not_isIdentifier :
    identifier "x²" = "x²" ∧
      (∃ character ∈ (identifier "x²").toList, isIdentifierPart character = false) ∧
      ¬ IsIdentifier (identifier "x²").toList := by
  have same : identifier "x²" = "x²" := by decide +kernel
  have superscript : isIdentifierPart '²' = false := by decide +kernel
  rw [same]
  refine ⟨rfl, ⟨'²', by decide, superscript⟩, fun accepted => ?_⟩
  rw [accepted.parts '²' (by decide)] at superscript
  cases superscript

end OpenApiJava.Java
