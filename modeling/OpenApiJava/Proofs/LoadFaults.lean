import OpenApiJava.CommandLine.Command
import OpenApiJava.Proofs.DistinctNames
import OpenApiJava.Proofs.Replacement

/-!
# Faults without words

A specification that is no document is reported in words, unless reading it breaks off: at a value
in place of a reference that has no text, or at a section that is there and is no mapping. Main
statement: reading breaks off under these conditions and under no others, and so does the command.
-/

namespace OpenApiJava

/-! ## Sections that are no mappings -/

namespace Document

variable {entries changed : Entries} {part other : Section}

/-- The section is there, neither null nor empty, and is no mapping. -/
def IsBroken (entries : Entries) (part : Section) : Prop :=
  ∃ tree, entries.find? part.name = some tree ∧ tree.isTruthy = true ∧
    ∀ members, tree ≠ .mapping members

/-- The lifting of parts breaks off at a section: it comes to the info first, and to the components
only if the version has a text. -/
def BreaksAt (entries : Entries) : Section → Prop
  | .info => entries.has "schemas" = false ∧ IsBroken entries .info
  | .components =>
      entries.has "schemas" = false ∧ ¬ IsBroken entries .info ∧
        hasPrintableVersion entries = true ∧ IsBroken entries .components

theorem sectionEntries_of_not_mapping {tree : Tree} (found : entries.find? part.name = some tree)
    (notMapping : ∀ members, tree ≠ .mapping members) :
    sectionEntries entries part = if tree.isTruthy then .error part else .ok [] := by
  unfold sectionEntries
  rw [found]
  cases tree with
  | mapping members => exact absurd rfl (notMapping members)
  | _ => rfl

theorem sectionEntries_eq_error_iff :
    sectionEntries entries part = .error other ↔ other = part ∧ IsBroken entries part := by
  cases found : entries.find? part.name with
  | none => simp [sectionEntries, IsBroken, found]
  | some tree =>
      by_cases isMapping : ∃ members, tree = .mapping members
      · obtain ⟨members, rfl⟩ := isMapping
        simp [sectionEntries, IsBroken, found]
      · have notMapping : ∀ members, tree ≠ .mapping members := by
          simpa using isMapping
        rw [sectionEntries_of_not_mapping found notMapping]
        cases truthy : tree.isTruthy with
        | false => simp [IsBroken, found, truthy]
        | true =>
            have isBroken : IsBroken entries part := ⟨tree, found, truthy, notMapping⟩
            constructor
            · intro failed
              exact ⟨(Except.error.inj failed).symm, isBroken⟩
            · rintro ⟨rfl, _⟩
              rfl

theorem lift_eq_error_iff :
    lift entries = .error part ↔
      entries.has "schemas" = false ∧
        (part = .info ∧ IsBroken entries .info ∨
          part = .components ∧ ¬ IsBroken entries .info ∧ IsBroken entries .components) := by
  unfold lift
  cases lifted : entries.has "schemas" with
  | true => simp
  | false =>
      cases info : sectionEntries entries .info with
      | error broken =>
          obtain ⟨rfl, isBroken⟩ := sectionEntries_eq_error_iff.mp info
          simp [bind, Except.bind, isBroken, eq_comm]
      | ok infoEntries =>
          have infoFine : ¬ IsBroken entries .info := by
            intro isBroken
            have failed := sectionEntries_eq_error_iff.mpr ⟨rfl, isBroken⟩
            rw [info] at failed
            cases failed
          cases components : sectionEntries entries .components with
          | error broken =>
              obtain ⟨rfl, isBroken⟩ := sectionEntries_eq_error_iff.mp components
              simp [bind, Except.bind, infoFine, isBroken, eq_comm]
          | ok componentEntries =>
              have componentsFine : ¬ IsBroken entries .components := by
                intro isBroken
                have failed := sectionEntries_eq_error_iff.mpr ⟨rfl, isBroken⟩
                rw [components] at failed
                cases failed
              simp [bind, Except.bind, pure, Except.pure, infoFine, componentsFine]

/-- A version that has no text stands in an info that is a mapping. -/
theorem not_isBroken_info_of_not_printable (unprintable : hasPrintableVersion entries = false) :
    ¬ IsBroken entries .info := by
  intro isBroken
  have failed := sectionEntries_eq_error_iff.mpr ⟨rfl, isBroken⟩
  unfold hasPrintableVersion at unprintable
  rw [failed] at unprintable
  cases lifted : entries.has "schemas" <;> simp [lifted] at unprintable

theorem check_mapping_eq_error_iff :
    check (.mapping entries) = .error part ↔ BreaksAt entries part := by
  rw [check_mapping]
  cases printable : hasPrintableVersion entries with
  | false =>
      have infoFine := not_isBroken_info_of_not_printable printable
      cases part <;> simp [BreaksAt, infoFine, printable]
  | true =>
      have failed : (lift entries).map checkFields = .error part ↔ lift entries = .error part := by
        cases lift entries <;> simp [Except.map]
      rw [if_pos rfl, failed, lift_eq_error_iff]
      cases part <;> simp [BreaksAt, printable]

/-- Whether lifting breaks off depends on three entries alone. -/
theorem breaksAt_congr (info : changed.find? "info" = entries.find? "info")
    (components : changed.find? "components" = entries.find? "components")
    (schemas : changed.find? "schemas" = entries.find? "schemas") :
    BreaksAt changed part ↔ BreaksAt entries part := by
  have sameInfo : IsBroken changed .info ↔ IsBroken entries .info := by
    simp only [IsBroken, Section.name, info]
  have sameComponents : IsBroken changed .components ↔ IsBroken entries .components := by
    simp only [IsBroken, Section.name, components]
  have sameVersion : hasPrintableVersion changed = hasPrintableVersion entries := by
    simp only [hasPrintableVersion, Entries.has, sectionEntries, Section.name, info, schemas]
  cases part with
  | info => simp only [BreaksAt, Entries.has, schemas, sameInfo]
  | components =>
      simp only [BreaksAt, Entries.has, schemas, sameInfo, sameComponents, sameVersion]

end Document

/-! ## Specifications that break off -/

namespace Specification

/-- The tree of a specification once its references are replaced. -/
def replaced : Specification → Except ReplacementFault Tree
  | plain entries => (Reference.replaceAll entries).map .mapping
  | shared graph => graph.replaceAll.map Graph.tree

/-- Reading a specification ends without words: a value in place of a reference has no text, or a
section is there and is no mapping. -/
def BreaksOff (specification : Specification) : Prop :=
  specification.replaced = .error .notPrintable ∨
    ∃ entries part, specification.replaced = .ok (.mapping entries) ∧
      Document.BreaksAt entries part

end Specification

namespace Document

/-- There is a document, or it is said why not. -/
def IsReported (result : Except DocumentFault Document) : Prop :=
  (∃ document, result = .ok document) ∨
    ∃ fault message, result = .error fault ∧ fault.report = .ok message

theorem ofSpecification_eq (specification : Specification) :
    ofSpecification specification =
      match specification.replaced with
      | .error fault => .error (.ofReplacement fault)
      | .ok tree => ofTree tree := by
  cases specification with
  | plain entries =>
      simp only [ofSpecification, read, Specification.replaced]
      cases Reference.replaceAll entries <;> rfl
  | shared graph =>
      simp only [ofSpecification, readGraph, Specification.replaced]
      cases graph.replaceAll <;> rfl

theorem isReported_ofTree_iff (tree : Tree) :
    IsReported (ofTree tree) ↔
      ∀ entries part, tree = .mapping entries → ¬ BreaksAt entries part := by
  unfold ofTree
  cases checked : check tree with
  | error part =>
      have broken : ∃ entries, tree = .mapping entries ∧ BreaksAt entries part := by
        cases tree with
        | mapping entries => exact ⟨entries, rfl, check_mapping_eq_error_iff.mp checked⟩
        | _ => cases checked
      obtain ⟨entries, rfl, breaks⟩ := broken
      constructor
      · rintro (⟨document, found⟩ | ⟨fault, message, found, reported⟩)
        · cases found
        · cases found
          cases reported
      · intro fine
        exact absurd breaks (fine entries part rfl)
  | ok result =>
      constructor
      · rintro _ entries part rfl breaks
        rw [check_mapping_eq_error_iff.mpr breaks] at checked
        cases checked
      · intro _
        cases result with
        | valid document => exact Or.inl ⟨document, rfl⟩
        | invalid issues => exact Or.inr ⟨.issues issues, structureMessage, rfl, rfl⟩

theorem isReported_ofSpecification_iff (specification : Specification) :
    IsReported (ofSpecification specification) ↔ ¬ specification.BreaksOff := by
  rw [ofSpecification_eq]
  unfold Specification.BreaksOff
  cases specification.replaced with
  | error fault =>
      cases fault with
      | reference cause =>
          simp only [Except.error.injEq, reduceCtorEq, false_and, exists_false, or_self,
            not_false_eq_true, iff_true]
          exact Or.inr ⟨.reference cause, cause.message, rfl, rfl⟩
      | notPrintable =>
          simp only [true_or, not_true, iff_false]
          rintro (⟨document, found⟩ | ⟨fault, message, found, reported⟩)
          · cases found
          · cases found
            cases reported
  | ok tree =>
      rw [isReported_ofTree_iff]
      simp only [reduceCtorEq, Except.ok.injEq, false_or, not_exists, not_and]

end Document

/-- Without shared parts, the first fault among the references decides, and then the sections do. -/
theorem Specification.breaksOff_plain_iff (entries : Entries) :
    (plain entries).BreaksOff ↔
      (∃ before entry after value,
          Reference.visited entries = before ++ entry :: after ∧
            (∀ other ∈ before, Reference.entryFault? (.mapping entries) other = none) ∧
            entry.2.get? "$ref" = some value ∧ value.isPrintable = false) ∨
        (∀ entry ∈ Reference.visited entries,
            Reference.entryFault? (.mapping entries) entry = none) ∧
          ∃ part, Document.BreaksAt entries part := by
  rw [← Reference.firstFault?_eq_notPrintable_iff, ← Reference.firstFault?_eq_none_iff,
    ← Reference.faultOf?_replaceAll]
  unfold BreaksOff replaced
  cases replacement : Reference.replaceAll entries with
  | error fault => simp [Except.map, replacement, faultOf?]
  | ok changed =>
      have sameBreaks : ∀ part,
          Document.BreaksAt changed part ↔ Document.BreaksAt entries part := fun part =>
        Document.breaksAt_congr
          (Entries.find?_of_revise (by decide) replacement)
          (Entries.find?_of_revise (by decide) replacement)
          (Entries.find?_of_revise (by decide) replacement)
      simp [Except.map, replacement, faultOf?, sameBreaks]

/-! ## The command -/

namespace CommandLine

variable {pages : Web.Pages} {workspace : Workspace} {source : String} {settings : Settings}
  {verbose : Bool}

/-- The command crashes on a specification that was found if and only if reading it breaks off. -/
theorem crashes_loadAndGenerate_iff {specification : Specification}
    (found : (Specification.load workspace pages true source).result = .ok specification) :
    (∃ crash, (loadAndGenerate pages workspace source settings verbose).ending = .crashed crash) ↔
      specification.BreaksOff := by
  have crashes :
      (∃ crash, (loadAndGenerate pages workspace source settings verbose).ending =
          .crashed crash) ↔
        ¬ Document.IsReported (Document.ofSpecification specification) := by
    simp only [loadAndGenerate, Document.ofReading, found]
    cases Document.ofSpecification specification with
    | error fault =>
        simp only [LoadFault.report, Document.IsReported]
        cases reported : fault.report <;> simp [reported]
    | ok document =>
        have isReported : Document.IsReported (.ok document) := Or.inl ⟨document, rfl⟩
        simp only [isReported, not_true, iff_false]
        cases generate document settings workspace <;> simp
  rw [crashes, Document.isReported_ofSpecification_iff, Classical.not_not]

end CommandLine

/-- A specification becomes a document or is reported in words, unless reading it breaks off. The
command on a specification that was found crashes under the same condition, and what is found and is
no mapping is reported. -/
theorem isReported_iff_not_breaksOff (specification : Specification) :
    (Document.IsReported (Document.ofSpecification specification) ↔
        ¬ specification.BreaksOff) ∧
      (∀ entries, specification = .plain entries →
        (specification.BreaksOff ↔
          (∃ before entry after value,
              Reference.visited entries = before ++ entry :: after ∧
                (∀ other ∈ before, Reference.entryFault? (.mapping entries) other = none) ∧
                entry.2.get? "$ref" = some value ∧ value.isPrintable = false) ∨
            (∀ entry ∈ Reference.visited entries,
                Reference.entryFault? (.mapping entries) entry = none) ∧
              ∃ part, Document.BreaksAt entries part)) ∧
      ∀ pages workspace source settings verbose,
        ((Specification.load workspace pages true source).result = .ok specification →
          ((∃ crash,
              (CommandLine.loadAndGenerate pages workspace source settings verbose).ending =
                .crashed crash) ↔
            specification.BreaksOff)) ∧
          ∀ name, (Specification.load workspace pages true source).result =
              .error (.notMapping name) →
            (CommandLine.loadAndGenerate pages workspace source settings verbose).ending =
              .failed ("spec " ++ name ++ " is not a mapping at the top level") := by
  refine ⟨Document.isReported_ofSpecification_iff specification, ?_, ?_⟩
  · rintro entries rfl
    exact Specification.breaksOff_plain_iff entries
  · intro pages workspace source settings verbose
    refine ⟨CommandLine.crashes_loadAndGenerate_iff, ?_⟩
    intro name failed
    simp only [CommandLine.loadAndGenerate, Document.ofReading, failed, LoadFault.report,
      SpecificationFault.report]

/-! ## An info that is a text -/

def textInfo : Entries :=
  [(.text "info", .text "text")]

/-- A workspace with the specification in a file. -/
def textInfoWorkspace : Workspace :=
  Workspace.empty.put ["tmp", "work", "spec.json"] (.file "\x7b\"info\": \"text\"\x7d".toUTF8)

theorem breaksAt_textInfo : Document.BreaksAt textInfo .info := by
  refine ⟨rfl, .text "text", rfl, rfl, ?_⟩
  intro members same
  cases same

/-- The command crashes on a file whose info is a text. -/
theorem textInfo_breaksOff :
    (Specification.load textInfoWorkspace [] true "spec.json").result = .ok (.plain textInfo) ∧
      (Specification.plain textInfo).BreaksOff ∧
      ∃ crash,
        (CommandLine.loadAndGenerate [] textInfoWorkspace "spec.json" ⟨.ofString ".", "shop"⟩
          false).ending = .crashed crash := by
  have found : (Specification.load textInfoWorkspace [] true "spec.json").result =
      .ok (.plain textInfo) := rfl
  have nothingVisited : ∀ entry ∈ Reference.visited textInfo,
      Reference.entryFault? (.mapping textInfo) entry = none := by
    intro entry member
    cases member
  obtain ⟨_, withoutSharing, command⟩ := isReported_iff_not_breaksOff (.plain textInfo)
  have breaks :=
    (withoutSharing textInfo rfl).mpr (Or.inr ⟨nothingVisited, .info, breaksAt_textInfo⟩)
  exact ⟨found, breaks, ((command _ _ _ _ _).1 found).mpr breaks⟩

/-- An info that is a text is neither read nor reported. -/
theorem not_isReported_textInfo :
    ¬ Document.IsReported (Document.ofSpecification (.plain textInfo)) ∧
      (CommandLine.run [] [] textInfoWorkspace ["--spec", "spec.json"]).ending =
        .crashed (.brokenSection .info) := by
  have broken : Document.ofSpecification (.plain textInfo) = .error (.brokenSection .info) := rfl
  refine ⟨?_, rfl⟩
  rw [broken]
  rintro (⟨document, found⟩ | ⟨fault, message, found, reported⟩)
  · cases found
  · cases found
    cases reported

end OpenApiJava
