import OpenApiJava.Proofs.NormalForms
import OpenApiJava.Proofs.ServiceComments
import OpenApiJava.Proofs.WordForms

/-!
# Keys of methods

The four methods that have operations are recognised by their keys in lower case, the skipped ones
in any case. Main statement: a key that names a method in any case is found among the operations or
among the skipped methods exactly if it names one that is skipped or its lower-case form is a key
with a value; and then its method is described or its skipping is told.
-/

namespace OpenApiJava

namespace Text

/-! ## Lower case in ASCII -/

theorem lowerRuns_keepOutside :
    (lowerRuns.all fun run => run.codes.all fun code =>
      Nat.ble 128 (shifted code run.shift).toNat || shifted code run.shift == 'k') = true := by
  decide +kernel

theorem keepsOutside_mapByRuns {character : Char} (outside : 128 ≤ character.toNat) :
    128 ≤ (mapByRuns lowerRuns character).toNat ∨ mapByRuns lowerRuns character = 'k' := by
  unfold mapByRuns
  split
  · rename_i run found
    have member : run ∈ lowerRuns := List.mem_of_find?_eq_some found
    have held : run.has character.toNat = true := by simpa using List.find?_some found
    have shifts := List.all_eq_true.mp lowerRuns_keepOutside run member
    simpa using List.all_eq_true.mp shifts _ (CaseRun.mem_codes held)
  · exact Or.inl outside

theorem exists_outside_of_lowerChar {character : Char} (outside : 128 ≤ character.toNat) :
    ∃ lowered ∈ lowerChar character, 128 ≤ lowered.toNat ∨ lowered = 'k' := by
  unfold lowerChar
  rw [if_neg (Nat.not_lt.mpr outside)]
  split
  · exact ⟨'\u0307', by decide, by decide⟩
  · exact ⟨_, List.mem_singleton_self _, keepsOutside_mapByRuns outside⟩

/-- The Kelvin sign apart, no character outside ASCII has a lower-case form inside. -/
theorem isAscii_of_lowerAfter {before text : List Char} (ascii : IsAscii (lowerAfter before text))
    (noKelvin : 'k' ∉ lowerAfter before text) :
    IsAscii text := by
  induction text generalizing before with
  | nil => exact ascii
  | cons character rest inductionHypothesis =>
      rw [lowerAfter] at ascii noKelvin
      obtain ⟨asciiFirst, asciiRest⟩ := isAscii_append.mp ascii
      have noKelvinRest := fun member => noKelvin (List.mem_append_right _ member)
      refine isAscii_cons.mpr ⟨?_, inductionHypothesis asciiRest noKelvinRest⟩
      by_contra outside
      by_cases sigma : character = 'Σ'
      · subst sigma
        have small := asciiFirst _ (List.mem_singleton_self _)
        split at small <;> exact absurd small (by decide)
      · rw [if_neg (by simpa using sigma)] at asciiFirst noKelvin
        obtain ⟨lowered, member, far | isKelvin⟩ :=
          exists_outside_of_lowerChar (Nat.le_of_not_lt outside)
        · exact absurd (asciiFirst lowered member) (Nat.not_lt.mpr far)
        · subst isKelvin
          exact noKelvin (List.mem_append_left _ member)

theorem upper_lower_eq_upper {text : List Char} (ascii : IsAscii (lower text))
    (noKelvin : 'k' ∉ lower text) :
    upper (lower text) = upper text := by
  have isAscii := isAscii_of_lowerAfter ascii noKelvin
  rw [upper_lower_of_isAscii isAscii, upper_of_isAscii isAscii]

end Text

namespace PathItem

/-! ## Fields of a path item -/

variable {entries : Entries} {item : PathItem}

theorem checks_of_valid (valid : check (.mapping entries) = .valid item) :
    (∀ method, checkMethod entries method = .valid (item.operation? method)) ∧
      checkExtras entries = .valid item.extras := by
  simp only [check, Checked.seq_eq_valid, Checked.map_eq_valid] at valid
  obtain ⟨_, extras, ⟨_, delete, ⟨_, put, ⟨_, post, ⟨get, getValid, rfl⟩, postValid, rfl⟩,
    putValid, rfl⟩, deleteValid, rfl⟩, extrasValid, rfl⟩ := valid
  refine ⟨?_, extrasValid⟩
  intro method
  cases method with
  | get => exact getValid
  | post => exact postValid
  | put => exact putValid
  | delete => exact deleteValid

theorem operation?_isSome_iff (valid : check (.mapping entries) = .valid item)
    (method : HttpMethod) :
    (item.operation? method).isSome = true ↔
      ∃ tree, entries.find? method.key = some tree ∧ tree ≠ .null := by
  have isOperation := (checks_of_valid valid).1 method
  unfold checkMethod Entries.optional at isOperation
  generalize item.operation? method = operation at isOperation
  split at isOperation
  · rename_i absent
    cases isOperation
    simp [absent]
  · rename_i isNull
    cases isOperation
    simp [isNull]
  · rename_i tree notNull found
    obtain ⟨described, _, rfl⟩ := Checked.map_eq_valid.mp (Checked.under_eq_valid.mp isOperation)
    exact iff_of_true rfl ⟨tree, found, notNull⟩

theorem exists_operation_of_find? (valid : check (.mapping entries) = .valid item)
    {method : HttpMethod} {members : Entries}
    (found : entries.find? method.key = some (.mapping members)) :
    ∃ operation, Operation.check (.mapping members) = .valid operation ∧
      item.operation? method = some operation := by
  have isOperation := (checks_of_valid valid).1 method
  unfold checkMethod Entries.optional at isOperation
  rw [found] at isOperation
  obtain ⟨operation, described, same⟩ :=
    Checked.map_eq_valid.mp (Checked.under_eq_valid.mp isOperation)
  exact ⟨operation, described, same.symm⟩

/-! ## Keys in any case -/

def lowerKey (key : String) : String :=
  Text.onString Text.lower key

def upperKey (key : String) : String :=
  Text.onString Text.upper key

/-- The keys of all methods, in lower case. -/
def methodWords : List String :=
  HttpMethod.all.map HttpMethod.key ++ skippedMethods

/-- The key names an operation or a skipped method of the path item. -/
def Shows (item : PathItem) (key : String) : Prop :=
  upperKey key ∈ item.operations.map (·.1.name) ∨ upperKey key ∈ item.unsupportedMethods

theorem isSkipped_iff {key : String} : isSkipped key = true ↔ lowerKey key ∈ skippedMethods := by
  rw [isSkipped, List.contains_iff_mem]
  rfl

theorem lowerKey_method (method : HttpMethod) : lowerKey method.key = method.key := by
  cases method <;> rfl

theorem upperKey_method (method : HttpMethod) : upperKey method.key = method.name := by
  cases method <;> rfl

theorem upperKey_lowerKey {key : String} (isMethod : lowerKey key ∈ methodWords) :
    upperKey (lowerKey key) = upperKey key := by
  have plain : ∀ word ∈ methodWords, Text.IsAscii word.toList ∧ 'k' ∉ word.toList := by
    decide
  obtain ⟨ascii, noKelvin⟩ := plain _ isMethod
  rw [lowerKey, Text.toList_onString] at ascii noKelvin
  rw [upperKey, upperKey, Text.onString, Text.onString, lowerKey, Text.toList_onString,
    Text.upper_lower_eq_upper ascii noKelvin]

/-- Keys of methods are told apart by their upper case as by their lower case. -/
theorem lowerKey_eq_of_upperKey_eq {first second : String}
    (isMethod : lowerKey first ∈ methodWords) (isAlso : lowerKey second ∈ methodWords)
    (same : upperKey first = upperKey second) :
    lowerKey first = lowerKey second := by
  have apart : ∀ word ∈ methodWords, ∀ other ∈ methodWords,
      upperKey word = upperKey other → word = other := by
    decide
  apply apart _ isMethod _ isAlso
  rw [upperKey_lowerKey isMethod, upperKey_lowerKey isAlso, same]

variable {entries : Entries} {item : PathItem} {key : String}

theorem mem_methodWords (method : HttpMethod) : lowerKey method.key ∈ methodWords := by
  rw [lowerKey_method]
  cases method <;> decide

theorem not_isSkipped_method (method : HttpMethod) : isSkipped method.key = false := by
  cases method <;> decide

theorem upperKey_mem_operations_iff (valid : check (.mapping entries) = .valid item)
    (isMethod : lowerKey key ∈ methodWords) :
    upperKey key ∈ item.operations.map (·.1.name) ↔
      ∃ method : HttpMethod, lowerKey key = method.key ∧
        ∃ tree, entries.find? method.key = some tree ∧ tree ≠ .null := by
  constructor
  · intro member
    obtain ⟨⟨method, operation⟩, isOperation, same⟩ := List.mem_map.mp member
    have there : (item.operation? method).isSome = true := by
      rw [mem_operations_iff.mp isOperation]
      rfl
    have sameUpper : upperKey key = upperKey method.key := by
      rw [upperKey_method]
      exact same.symm
    have sameLower := lowerKey_eq_of_upperKey_eq isMethod (mem_methodWords method) sameUpper
    exact ⟨method, sameLower.trans (lowerKey_method method),
      (operation?_isSome_iff valid method).mp there⟩
  · rintro ⟨method, same, found⟩
    obtain ⟨operation, isOperation⟩ :=
      Option.isSome_iff_exists.mp ((operation?_isSome_iff valid method).mpr found)
    refine List.mem_map.mpr ⟨(method, operation), mem_operations_iff.mpr isOperation, ?_⟩
    rw [← upperKey_lowerKey isMethod, same, upperKey_method]

theorem upperKey_mem_unsupportedMethods_iff (valid : check (.mapping entries) = .valid item)
    (isMethod : lowerKey key ∈ methodWords) {tree : Tree} (found : entries.find? key = some tree) :
    upperKey key ∈ item.unsupportedMethods ↔ isSkipped key = true := by
  constructor
  · intro member
    obtain ⟨⟨other, value⟩, kept, same⟩ := List.mem_map.mp member
    have skips : lowerKey other ∈ skippedMethods := isSkipped_iff.mp (List.mem_filter.mp kept).2
    have sameLower := lowerKey_eq_of_upperKey_eq isMethod (List.mem_append_right _ skips) same.symm
    rw [isSkipped_iff, sameLower]
    exact skips
  · intro skips
    have noMethod : isMethodKey key = false := by
      apply Bool.eq_false_iff.mpr
      intro isMethodKey
      obtain ⟨method, _, isKey⟩ := List.any_eq_true.mp isMethodKey
      rw [← beq_iff_eq.mp isKey, not_isSkipped_method] at skips
      cases skips
    have extra : (key, tree) ∈ item.extras :=
      (mem_extras_iff (checks_of_valid valid).2).mpr ⟨mem_of_findNamed? found, noMethod⟩
    exact List.mem_map.mpr ⟨(key, tree), List.mem_filter.mpr ⟨extra, skips⟩, rfl⟩

/-- A key in any case is shown if its method is a skipped one or has a value under its key in lower
case. -/
theorem shows_iff (valid : check (.mapping entries) = .valid item)
    (isMethod : lowerKey key ∈ methodWords) {tree : Tree} (found : entries.find? key = some tree) :
    item.Shows key ↔
      isSkipped key = true ∨ ∃ value, entries.find? (lowerKey key) = some value ∧ value ≠ .null := by
  unfold Shows
  rw [upperKey_mem_operations_iff valid isMethod,
    upperKey_mem_unsupportedMethods_iff valid isMethod found, or_comm]
  rcases List.mem_append.mp isMethod with isWord | skips
  · obtain ⟨method, _, same⟩ := List.mem_map.mp isWord
    rw [← same]
    have methods : (∃ other : HttpMethod, method.key = other.key ∧
        ∃ value, entries.find? other.key = some value ∧ value ≠ .null) ↔
        ∃ value, entries.find? method.key = some value ∧ value ≠ .null := by
      constructor
      · rintro ⟨other, sameKey, valued⟩
        rw [sameKey]
        exact valued
      · exact fun valued => ⟨method, rfl, valued⟩
    rw [methods]
  · have isSkip := isSkipped_iff.mpr skips
    exact iff_of_true (Or.inl isSkip) (Or.inl isSkip)

end PathItem

/-! ## Calls and notices -/

theorem Endpoint.skippedMethod_not_mem_notices (operation : Operation) (method path : String) :
    Notice.skippedMethod method path ∉ notices operation := by
  unfold notices RequestBody.notices BodyType.notices referenceNotices
  repeat' split
  all_goals simp

theorem Endpoint.skippedMethod_mem_pathsNotices_iff {paths : List (String × PathItem)}
    {method path : String} :
    Notice.skippedMethod method path ∈ pathsNotices paths ↔
      ∃ item, (path, item) ∈ paths ∧ method ∈ item.unsupportedMethods := by
  constructor
  · intro member
    obtain ⟨⟨other, item⟩, inPaths, told⟩ := List.mem_flatMap.mp member
    rcases List.mem_append.mp told with skipped | described
    · obtain ⟨name, isName, same⟩ := List.mem_map.mp skipped
      cases same
      exact ⟨item, inPaths, isName⟩
    · obtain ⟨⟨_, operation⟩, _, inNotices⟩ := List.mem_flatMap.mp described
      exact absurd inNotices (skippedMethod_not_mem_notices operation method path)
  · rintro ⟨item, inPaths, isName⟩
    refine List.mem_flatMap.mpr ⟨(path, item), inPaths, List.mem_append_left _ ?_⟩
    exact List.mem_map_of_mem isName

namespace Document

variable {document : Document} {path : String} {item : PathItem}

theorem eq_of_mem_paths (distinct : document.HasDistinctNames) {other : PathItem}
    (isItem : (path, item) ∈ document.paths) (isOther : (path, other) ∈ document.paths) :
    other = item := by
  have same := List.inj_on_of_nodup_map distinct.2 isOther isItem rfl
  exact (Prod.mk.inj same).2

/-- A method is shown exactly if it becomes a call of the path or its skipping is told. -/
theorem shows_iff_described_or_told (distinct : document.HasDistinctNames)
    (isItem : (path, item) ∈ document.paths) {key : String} :
    item.Shows key ↔
      (∃ endpoint ∈ document.endpoints,
          endpoint.path = path ∧ endpoint.method = PathItem.upperKey key) ∨
        Notice.skippedMethod (PathItem.upperKey key) path ∈
          Endpoint.pathsNotices document.paths := by
  unfold PathItem.Shows
  refine or_congr ?_ ?_
  · constructor
    · intro member
      obtain ⟨⟨method, operation⟩, isOperation, same⟩ := List.mem_map.mp member
      refine ⟨Endpoint.ofOperation operation path method.name, ?_, rfl, ?_⟩
      · exact mem_endpoints_iff.mpr ⟨path, item, method, operation, isItem,
          PathItem.mem_operations_iff.mp isOperation, rfl⟩
      · exact method.upper_name.trans same
    · rintro ⟨_, member, isPath, isMethod⟩
      obtain ⟨other, otherItem, method, operation, isOther, isOperation, rfl⟩ :=
        mem_endpoints_iff.mp member
      cases isPath
      cases eq_of_mem_paths distinct isItem isOther
      refine List.mem_map.mpr ⟨(method, operation), PathItem.mem_operations_iff.mpr isOperation, ?_⟩
      exact method.upper_name.symm.trans isMethod
  · rw [Endpoint.skippedMethod_mem_pathsNotices_iff]
    constructor
    · exact fun isName => ⟨item, isItem, isName⟩
    · rintro ⟨other, isOther, isName⟩
      cases eq_of_mem_paths distinct isItem isOther
      exact isName

end Document

/-- A key that names a method in any case is shown exactly if it names a skipped one or its
lower-case form is a key with a value. What is shown becomes a call of the path or is told to be
skipped, and an operation under its own key becomes a call of its own. -/
theorem methodKeys_shown_iff {entries members : Entries} {item : PathItem} {key : String}
    (valid : PathItem.check (.mapping entries) = .valid item)
    (isMethod : PathItem.lowerKey key ∈ PathItem.methodWords)
    (found : entries.find? key = some (.mapping members)) :
    (item.Shows key ↔ PathItem.isSkipped key = true ∨
        ∃ value, entries.find? (PathItem.lowerKey key) = some value ∧ value ≠ .null) ∧
      ∀ (document : Document) (path : String), document.HasDistinctNames →
        (path, item) ∈ document.paths →
        (item.Shows key ↔
          (∃ endpoint ∈ document.endpoints,
              endpoint.path = path ∧ endpoint.method = PathItem.upperKey key) ∨
            Notice.skippedMethod (PathItem.upperKey key) path ∈
              Endpoint.pathsNotices document.paths) ∧
        (PathItem.isMethodKey key = true → ∃ operation,
          Operation.check (.mapping members) = .valid operation ∧
            Endpoint.ofOperation operation path (PathItem.upperKey key) ∈ document.endpoints) := by
  refine ⟨PathItem.shows_iff valid isMethod found, ?_⟩
  intro document path distinct isItem
  refine ⟨Document.shows_iff_described_or_told distinct isItem, ?_⟩
  intro isMethodKey
  obtain ⟨method, _, same⟩ := List.any_eq_true.mp isMethodKey
  cases beq_iff_eq.mp same
  obtain ⟨operation, checked, isOperation⟩ := PathItem.exists_operation_of_find? valid found
  refine ⟨operation, checked, ?_⟩
  rw [PathItem.upperKey_method]
  exact Document.mem_endpoints_iff.mpr
    ⟨path, item, method, operation, isItem, isOperation, rfl⟩

/-- A method with operations in lower case, and a skipped one in mixed case. -/
def spelledEntries : Entries :=
  [(.text "Patch", .mapping []), (.text "get", .mapping [(.text "summary", .text "All pets")])]

def spelledItem : PathItem :=
  { get := some {
      operationId := none, summary := some "All pets", description := none, tags := []
      parameters := [], requestBody := none }
    post := none, put := none, delete := none
    extras := [("Patch", .mapping [])] }

def spelledDocument : Document :=
  { title := none, version := none, schemas := [], paths := [("/pets", spelledItem)], servers := [] }

theorem spelledEntries_shown :
    spelledItem.Shows "Patch" ∧
      ((∃ endpoint ∈ spelledDocument.endpoints,
          endpoint.path = "/pets" ∧ endpoint.method = PathItem.upperKey "Patch") ∨
        Notice.skippedMethod (PathItem.upperKey "Patch") "/pets" ∈
          Endpoint.pathsNotices spelledDocument.paths) ∧
      ∃ operation,
        Operation.check (.mapping [(.text "summary", .text "All pets")]) = .valid operation ∧
          Endpoint.ofOperation operation "/pets" (PathItem.upperKey "get") ∈
            spelledDocument.endpoints := by
  have valid : PathItem.check (.mapping spelledEntries) = .valid spelledItem := rfl
  have distinct : spelledDocument.HasDistinctNames := ⟨List.nodup_nil, List.nodup_singleton _⟩
  have isItem : ("/pets", spelledItem) ∈ spelledDocument.paths := List.mem_cons_self
  have skips : PathItem.isSkipped "Patch" = true := by decide
  have patchMethod : PathItem.lowerKey "Patch" ∈ PathItem.methodWords := by decide
  have getMethod : PathItem.lowerKey "get" ∈ PathItem.methodWords := by decide
  obtain ⟨patchShown, patchTold⟩ := methodKeys_shown_iff valid patchMethod rfl
  obtain ⟨_, getDescribed⟩ := methodKeys_shown_iff valid getMethod rfl
  have shown := patchShown.mpr (Or.inl skips)
  exact ⟨shown, (patchTold spelledDocument "/pets" distinct isItem).1.mp shown,
    (getDescribed spelledDocument "/pets" distinct isItem).2 (by decide)⟩

theorem not_forall_methodKeys_shown :
    ¬ ∀ (entries members : Entries) (item : PathItem) (key : String),
      PathItem.check (.mapping entries) = .valid item →
      PathItem.lowerKey key ∈ PathItem.methodWords →
      entries.find? key = some (.mapping members) →
      item.Shows key := by
  intro shown
  have valid : PathItem.check (.mapping [(.text "GET", .mapping [])]) =
      .valid { get := none, post := none, put := none, delete := none
               extras := [("GET", .mapping [])] } :=
    rfl
  have isMethod : PathItem.lowerKey "GET" ∈ PathItem.methodWords := by decide
  rcases shown _ [] _ "GET" valid isMethod rfl with inOperations | inSkipped
  · exact absurd inOperations (by decide)
  · exact absurd inSkipped (by decide)

end OpenApiJava
