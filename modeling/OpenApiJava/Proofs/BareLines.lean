import OpenApiJava.Proofs.BareText
import OpenApiJava.Proofs.CaseForms
import OpenApiJava.Proofs.LegalNames
import OpenApiJava.Source.Lines

/-!
# Lines with the same bare text

A source is put together from lines that start and end in the code. Main statements: lines without
quotes and slashes stay in the code, identifiers never hold either, and a line or a block that is a
comment may change, come and go.
-/

namespace OpenApiJava.Source

open OpenApiJava.Java OpenApiJava.Text

/-! ## Texts that stay in the code -/

/-- No character of the text opens a literal or a comment. -/
def StaysCode (text : String) : Prop :=
  ∀ character ∈ text.toList, character ≠ '"' ∧ character ≠ '/'

instance (text : String) : Decidable (StaysCode text) :=
  List.decidableBAll (fun character => character ≠ '"' ∧ character ≠ '/') text.toList

@[simp]
theorem staysCode_append {first second : String} :
    StaysCode (first ++ second) ↔ StaysCode first ∧ StaysCode second := by
  simp only [StaysCode, String.toList_append, List.forall_mem_append]

theorem staysCode_of_forall {text : String} {allowed : Char → Prop}
    (each : ∀ character ∈ text.toList, allowed character) (noQuote : ¬ allowed '"')
    (noSlash : ¬ allowed '/') :
    StaysCode text := by
  intro character member
  have isAllowed := each character member
  constructor
  · rintro rfl
    exact noQuote isAllowed
  · rintro rfl
    exact noSlash isAllowed

theorem staysCode_lineIf {line : String} (stays : StaysCode line) (condition : Bool) :
    ∀ other ∈ lineIf condition line, StaysCode other := by
  cases condition with
  | true => simpa [lineIf] using stays
  | false => simp [lineIf]

theorem staysCode_identifier (text : String) : StaysCode (identifier text) := by
  have words : ∀ character ∈ (identifier text).toList, isWord character = true := by
    intro character member
    rw [identifier, toList_onString] at member
    exact (isLegal_nameOf text.toList).words character member
  exact staysCode_of_forall words (by decide) (by decide)

theorem staysCode_upperFirst {text : String} (stays : StaysCode text) :
    StaysCode (onString upperFirst text) := by
  intro character member
  rw [toList_onString] at member
  constructor
  · rintro rfl
    exact (stays _ (mem_of_mem_upperFirst member rfl)).1 rfl
  · rintro rfl
    exact (stays _ (mem_of_mem_upperFirst member rfl)).2 rfl

/-! ## Lines with the same bare text -/

theorem toList_ofLines_append (first second : List String) :
    (ofLines (first ++ second)).toList = (ofLines first).toList ++ (ofLines second).toList := by
  simp only [toList_ofLines, List.flatMap_append]

/-- Both lists of lines start and end in the code and leave the same bare text. -/
def SameCode (first second : List String) : Prop :=
  ∃ kept, Reads .code (ofLines first).toList kept .code ∧
    Reads .code (ofLines second).toList kept .code

namespace SameCode

variable {first second third fourth : List String}

theorem bareText_eq (same : SameCode first second) :
    bareText (ofLines first) = bareText (ofLines second) := by
  obtain ⟨kept, readsFirst, readsSecond⟩ := same
  have left := readsFirst []
  have right := readsSecond []
  rw [List.append_nil] at left right
  rw [bareText, bareText, left, right]

theorem append (front : SameCode first second) (back : SameCode third fourth) :
    SameCode (first ++ third) (second ++ fourth) := by
  obtain ⟨keptFront, readsFirst, readsSecond⟩ := front
  obtain ⟨keptBack, readsThird, readsFourth⟩ := back
  refine ⟨keptFront ++ keptBack, ?_, ?_⟩
  · rw [toList_ofLines_append]
    exact readsFirst.append readsThird
  · rw [toList_ofLines_append]
    exact readsSecond.append readsFourth

theorem nil : SameCode [] [] :=
  ⟨[], Reads.nil .code, Reads.nil .code⟩

theorem flatMap {α : Type} {left right : α → List String} {items : List α}
    (each : ∀ item ∈ items, SameCode (left item) (right item)) :
    SameCode (items.flatMap left) (items.flatMap right) := by
  induction items with
  | nil => exact nil
  | cons item others inductionHypothesis =>
      obtain ⟨here, elsewhere⟩ := List.forall_mem_cons.mp each
      exact here.append (inductionHypothesis elsewhere)

theorem cons_of_reads {line : String} {kept : List Char} (reads : Reads .code line.toList kept .code)
    (others : SameCode first second) :
    SameCode (line :: first) (line :: second) := by
  have whole : Reads .code (ofLines [line]).toList kept .code := by
    have ends : Reads .code ['\n'] [] .code := fun _ => rfl
    have both := reads.append ends
    rw [toList_ofLines, List.flatMap_singleton]
    rwa [List.append_nil] at both
  have here : SameCode [line] [line] := ⟨kept, whole, whole⟩
  exact here.append others

theorem cons {line : String} (stays : StaysCode line) (others : SameCode first second) :
    SameCode (line :: first) (line :: second) :=
  cons_of_reads (Reads.code stays) others

theorem of_staysCode {lines : List String} (stay : ∀ line ∈ lines, StaysCode line) :
    SameCode lines lines := by
  induction lines with
  | nil => exact nil
  | cons line others inductionHypothesis =>
      obtain ⟨here, elsewhere⟩ := List.forall_mem_cons.mp stay
      exact cons here (inductionHypothesis elsewhere)

/-- Lines that are comments may change, come and go. -/
theorem of_comments (silentFirst : Reads .code (ofLines first).toList [] .code)
    (silentSecond : Reads .code (ofLines second).toList [] .code) :
    SameCode first second :=
  ⟨[], silentFirst, silentSecond⟩

end SameCode

/-! ## Comments -/

/-- A text that holds no mark leaves nothing where it stands in a comment on lines of its own. -/
theorem reads_around {opening front text back : List Char}
    (opens : Reads .code opening [] .comment) (stays : text.IsChain StaysOpen)
    (frontStays : ¬ HoldsCloseMark front) (noStar : '*' ∉ front.getLast?)
    (backStays : ¬ HoldsCloseMark back) (noSlash : '/' ∉ back.head?) :
    Reads .code (opening ++ (front ++ text ++ back ++ ['*', '/']) ++ ['\n']) [] .code := by
  have inside : (front ++ text ++ back).IsChain StaysOpen :=
    (isChain_between_iff (isChain_staysOpen_iff.mpr frontStays) noStar
      (isChain_staysOpen_iff.mpr backStays) noSlash).mpr stays
  have ends : Reads .code ['\n'] [] .code := fun _ => rfl
  exact (opens.append (Reads.comment inside)).append ends

theorem reads_lineComment {text : String} (stays : text.toList.IsChain StaysOpen) :
    Reads .code (ofLines ["    /** " ++ text ++ " */"]).toList [] .code := by
  have opens : Reads .code "    /*".toList [] .comment := fun _ => rfl
  have same : (ofLines ["    /** " ++ text ++ " */"]).toList =
      "    /*".toList ++ ("* ".toList ++ text.toList ++ [' '] ++ ['*', '/']) ++ ['\n'] := by
    simp [toList_ofLines]
  rw [same]
  exact reads_around opens stays (by decide) (by decide) (by decide) (by decide)

theorem reads_blockComment {text : String} (stays : text.toList.IsChain StaysOpen) :
    Reads .code (ofLines ["/**", " * " ++ text, " */"]).toList [] .code := by
  have opens : Reads .code "/*".toList [] .comment := fun _ => rfl
  have same : (ofLines ["/**", " * " ++ text, " */"]).toList =
      "/*".toList ++ ("*\n * ".toList ++ text.toList ++ "\n ".toList ++ ['*', '/']) ++
        ['\n'] := by
    simp [toList_ofLines]
  rw [same]
  exact reads_around opens stays (by decide) (by decide) (by decide) (by decide)

theorem reads_lineIf {line : String} (silent : Reads .code (ofLines [line]).toList [] .code)
    (condition : Bool) :
    Reads .code (ofLines (lineIf condition line)).toList [] .code := by
  cases condition with
  | true => exact silent
  | false => exact Reads.nil .code

end OpenApiJava.Source
