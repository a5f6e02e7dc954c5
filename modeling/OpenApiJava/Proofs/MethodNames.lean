import OpenApiJava.Proofs.LegalNames
import OpenApiJava.Proofs.ServiceComments
import OpenApiJava.Proofs.WordForms

/-!
# Names of methods

A call is made by a method that is named after the call, or after its HTTP method and its path if
the call has no name. Main statement: a method that is named after a call has a legal name unless
the call starts with the one letter whose lower-case form has a mark of its own. One that is named
after a path has a legal name exactly if the words of the path have word characters only.
-/

namespace OpenApiJava

open OpenApiJava.Java OpenApiJava.Text

namespace Java

/-! ## Words of paths -/

theorem isAscii_markParametersFrom {name : Option (List Char)} {text : List Char}
    (asciiName : ∀ known ∈ name, IsAscii known) (ascii : IsAscii text) :
    IsAscii (markParametersFrom name text) := by
  have brace : ('{' : Char).toNat < 128 := by decide
  have marks : IsAscii parameterMarker.toList ∧ IsAscii ['{', '}'] := by decide
  -- The name of a parameter that is still open belongs to the state of the scan.
  fun_induction markParametersFrom name text with
  | case1 => exact ascii
  | case2 known => exact isAscii_cons.mpr ⟨brace, asciiName known rfl⟩
  | case3 character rest _ inductionHypothesis =>
      exact inductionHypothesis (by simp [IsAscii]) (isAscii_cons.mp ascii).2
  | case4 character rest _ inductionHypothesis =>
      obtain ⟨first, others⟩ := isAscii_cons.mp ascii
      exact isAscii_cons.mpr ⟨first, inductionHypothesis (by simp) others⟩
  | case5 known character rest _ inductionHypothesis =>
      refine isAscii_append.mpr ⟨?_, inductionHypothesis (by simp) (isAscii_cons.mp ascii).2⟩
      split
      · exact marks.2
      · exact isAscii_append.mpr ⟨marks.1, asciiName known rfl⟩
  | case6 known character rest _ inductionHypothesis =>
      obtain ⟨first, others⟩ := isAscii_cons.mp ascii
      have longer : IsAscii (known ++ [character]) :=
        isAscii_append.mpr ⟨asciiName known rfl, List.forall_mem_singleton.mpr first⟩
      exact inductionHypothesis (by simpa using longer) others

theorem isAscii_withoutSlash {path : List Char} (ascii : IsAscii path) :
    IsAscii (withoutSlash path) := by
  unfold withoutSlash
  split
  · exact (isAscii_cons.mp ascii).2
  · exact ascii

theorem isAscii_replaceChar {old new : Char} (ascii : new.toNat < 128) {text : List Char}
    (asciiText : IsAscii text) :
    IsAscii (replaceChar old new text) := by
  apply isAscii_map _ asciiText
  intro character asciiCharacter
  split
  · exact ascii
  · exact asciiCharacter

theorem replaceChar_words_iff {old : Char} {text : List Char} {allowed : Char → Prop}
    (isAllowed : allowed '_') :
    (∀ character ∈ replaceChar old '_' text, allowed character) ↔
      ∀ character ∈ text, allowed character ∨ character = old := by
  rw [replaceChar, List.forall_mem_map]
  refine forall₂_congr fun character _ => ?_
  by_cases same : character = old
  · simp [same, isAllowed]
  · simp [same]

theorem pascalWord_words_iff {text : List Char} (ascii : IsAscii text) :
    (∀ character ∈ pascalWord text, isWord character = true) ↔
      ∀ character ∈ text, isWord character = true := by
  have asciiPieces : ∀ piece ∈ wordsBy (· == '_') text, IsAscii piece := by
    intro piece isPiece character inPiece
    exact ascii character (mem_of_mem_wordsBy isPiece inPiece)
  constructor
  · intro each character inText
    by_cases underscore : character = '_'
    · rw [underscore]
      decide
    · have joins : (character == '_') = false := beq_eq_false_iff_ne.mpr underscore
      have inWord : ∃ piece ∈ wordsBy (· == '_') text, character ∈ piece :=
        exists_mem_wordsBy_iff.mpr ⟨inText, joins⟩
      obtain ⟨piece, isPiece, inPiece⟩ := inWord
      have inPascal : ∀ other ∈ capitalized piece, isWord other = true := by
        intro other member
        exact each other (List.mem_flatMap.mpr ⟨piece, isPiece, member⟩)
      exact (capitalized_words_iff (asciiPieces piece isPiece)).mp inPascal character inPiece
  · intro each character member
    obtain ⟨piece, isPiece, inPascal⟩ := List.mem_flatMap.mp member
    have words : ∀ other ∈ piece, isWord other = true := by
      intro other inPiece
      exact each other (mem_of_mem_wordsBy isPiece inPiece)
    exact (capitalized_words_iff (asciiPieces piece isPiece)).mpr words character inPascal

theorem isAscii_replaceChar_markParameters {path : List Char} (ascii : IsAscii path) :
    IsAscii (replaceChar '-' '_' (replaceChar '/' '_' (markParameters (withoutSlash path)))) := by
  have underscore : ('_' : Char).toNat < 128 := by decide
  have marked : IsAscii (markParameters (withoutSlash path)) :=
    isAscii_markParametersFrom (by simp) (isAscii_withoutSlash ascii)
  exact isAscii_replaceChar underscore (isAscii_replaceChar underscore marked)

/-- Slashes and dashes part the words of a path, and no other sign does. -/
theorem pascal_constantName_words_iff {path : String} (ascii : IsAscii path.toList) :
    (∀ character ∈ (pascal (constantName path)).toList, isWord character = true) ↔
      ∀ character ∈ markParameters (withoutSlash path.toList),
        isWord character = true ∨ character = '/' ∨ character = '-' := by
  have underscore : isWord '_' = true := by decide
  have replaced := isAscii_replaceChar_markParameters ascii
  rw [pascal, constantName, toList_onString, toList_onString, constantWord,
    pascalWord_words_iff (isAscii_upper replaced), upper_words_iff replaced,
    replaceChar_words_iff underscore, replaceChar_words_iff (Or.inl underscore)]
  exact forall₂_congr fun character _ => by rw [or_assoc, or_comm (a := character = '-')]

/-! ## Names of calls -/

theorem head?_nameOf_eq_iff {text : List Char} (nonempty : text ≠ []) :
    (nameOf text).head? = some 'İ' ↔ text.head? = some 'İ' := by
  have marked : isWord 'İ' = true ∧ isDigit 'İ' = false := by decide +kernel
  cases text with
  | nil => exact absurd rfl nonempty
  | cons first rest =>
      have sameFirst : nameCharacter first = 'İ' ↔ first = 'İ' := by
        by_cases word : isWord first = true
        · rw [nameCharacter, if_pos word]
        · rw [nameCharacter, if_neg word]
          constructor
          · intro same
            exact absurd same (by decide)
          · rintro rfl
            exact absurd marked.1 word
      have noDigit : isDigit (nameCharacter first) = true → first ≠ 'İ' := by
        rintro digit rfl
        rw [sameFirst.mpr rfl, marked.2] at digit
        cases digit
      rw [nameOf, List.map_cons, List.head?_cons, Option.some_inj, ← sameFirst]
      by_cases digit : isDigit (nameCharacter first) = true
      · have other : nameCharacter first ≠ 'İ' := fun same => noDigit digit (sameFirst.mp same)
        have underscore : '_' ≠ 'İ' := by decide
        simp [legalName, digit, other, underscore]
      · rw [legalName, if_neg digit]
        split <;> simp

/-- An identifier may have its first character in lower case unless that gets a mark of its own. -/
theorem lowerFirst_nameOf_iff {text : List Char} (nonempty : text ≠ []) :
    ((∀ character ∈ lowerFirst (nameOf text), isWord character = true) ∧
        ∀ front ∈ (lowerFirst (nameOf text)).head?, isDigit front = false) ↔
      text.head? ≠ some 'İ' := by
  have legal : IsLegal (nameOf text) := isLegal_nameOf text
  rw [ne_eq, ← head?_nameOf_eq_iff nonempty]
  obtain ⟨first, rest, split⟩ := List.exists_cons_of_ne_nil legal.nonempty
  rw [split] at legal ⊢
  rw [lowerFirst_words_iff legal.words (legal.noDigit first rfl), List.head?_cons, Option.some_inj]

end Java

namespace Source.Call

/-- The name of the method that builds the URL of a call. -/
def urlName (call : Call) : String :=
  call.methodName ++ "Url"

/-- The source declares the method under that name. -/
theorem urlName_mem_lines (relativeUrlsClass : String) (call : Call) :
    "    public String " ++ call.urlName ++ "(" ++ call.signature ++ ") \x7b" ∈
      call.lines relativeUrlsClass := by
  have spelled : "    public String " ++ call.urlName ++ "(" ++ call.signature ++ ") \x7b" =
      "    public String " ++ call.methodName ++ "Url(" ++ call.signature ++ ") \x7b" := by
    simp [urlName, ← String.toList_inj]
  rw [spelled]
  simp [lines]

theorem isLegal_urlName_iff (call : Call) :
    IsLegal call.urlName.toList ↔
      (∀ character ∈ call.methodName.toList, isWord character = true) ∧
        ∀ first ∈ call.methodName.toList.head?, isDigit first = false := by
  rw [urlName, String.toList_append]
  exact isLegal_append_iff (by decide) (by decide) (by decide) (by decide)

end Source.Call

/-- The name of the method that builds the URL of an operation. -/
def Operation.urlName (operation : Operation) (path : String) (method : HttpMethod) : String :=
  (Endpoint.ofOperation operation path method.name).toCall.urlName

namespace Operation

variable {operation : Operation}

theorem isLegal_urlName_of_named {given : String} (named : operation.operationId = some given)
    (nonempty : given ≠ "") (path : String) (method : HttpMethod) :
    IsLegal (operation.urlName path method).toList ↔ given.toList.head? ≠ some 'İ' := by
  have characters : given.toList ≠ [] := by
    intro empty
    exact nonempty (String.toList_inj.mp empty)
  have proper : given.isEmpty = false := by simpa using nonempty
  have name : (Endpoint.ofOperation operation path method.name).toCall.methodName =
      onString lowerFirst (identifier given) := by
    simp [Source.Call.methodName, Endpoint.toCall, Endpoint.ofOperation, named, proper]
  rw [urlName, Source.Call.isLegal_urlName_iff, name, toList_onString, identifier,
    toList_onString]
  exact lowerFirst_nameOf_iff characters

theorem isLegal_urlName_of_unnamed
    (unnamed : operation.operationId = none ∨ operation.operationId = some "") (path : String)
    (method : HttpMethod) :
    IsLegal (operation.urlName path method).toList ↔
      ∀ character ∈ (pascal (constantName path)).toList, isWord character = true := by
  have empty : operation.operationId.getD "" = "" := by
    rcases unnamed with none | empty
    · rw [none]
      rfl
    · rw [empty]
      rfl
  have name : (Endpoint.ofOperation operation path method.name).toCall.methodName =
      onString lower method.name ++ pascal (constantName path) := by
    simp [Source.Call.methodName, Endpoint.toCall, Endpoint.ofOperation, empty,
      HttpMethod.upper_name]
  have methodWords : (lower method.name.toList).all isWord = true := by
    cases method <;> decide
  have methodStarts : ∃ first, (lower method.name.toList).head? = some first ∧
      isDigit first = false := by
    cases method <;> exact ⟨_, rfl, by decide⟩
  rw [urlName, Source.Call.isLegal_urlName_iff, name, String.toList_append, toList_onString,
    List.forall_mem_append]
  constructor
  · exact fun legal => legal.1.2
  · intro words
    refine ⟨⟨List.all_eq_true.mp methodWords, words⟩, ?_⟩
    obtain ⟨front, isFront, noDigit⟩ := methodStarts
    intro first isFirst
    rw [List.head?_append, isFront] at isFirst
    rw [← Option.some.inj isFirst]
    exact noDigit

end Operation

/-- The method of an operation with a name has a legal name itself, unless the operation starts
with the letter that gets a mark in lower case. That of an operation without a name has one exactly
if the words of the path have word characters only; in a path of ASCII, that is if there are no
other characters than slashes and dashes between them once the parameters are marked. -/
theorem urlNames_legal_iff (operation : Operation) (path : String) (method : HttpMethod) :
    (∀ given, operation.operationId = some given → given ≠ "" →
      (identifier (operation.urlName path method) = operation.urlName path method ↔
        given.toList.head? ≠ some 'İ')) ∧
    (operation.operationId = none ∨ operation.operationId = some "" →
      (identifier (operation.urlName path method) = operation.urlName path method ↔
        ∀ character ∈ (pascal (constantName path)).toList, isWord character = true) ∧
      (IsAscii path.toList →
        (identifier (operation.urlName path method) = operation.urlName path method ↔
          ∀ character ∈ markParameters (withoutSlash path.toList),
            isWord character = true ∨ character = '/' ∨ character = '-'))) := by
  rw [identifier_eq_self_iff]
  constructor
  · intro given named nonempty
    exact Operation.isLegal_urlName_of_named named nonempty path method
  · intro unnamed
    have legal := Operation.isLegal_urlName_of_unnamed unnamed path method
    refine ⟨legal, ?_⟩
    intro ascii
    exact legal.trans (pascal_constantName_words_iff ascii)

/-- An operation of this name, if any, and nothing else. -/
def Operation.bare (operationId : Option String) : Operation :=
  ⟨operationId, none, none, [], [], none⟩

theorem bare_urlNames_legal :
    identifier ((Operation.bare (some "class")).urlName "/pet-shops/{shopId}" .get) =
        (Operation.bare (some "class")).urlName "/pet-shops/{shopId}" .get ∧
      identifier ((Operation.bare none).urlName "/pet-shops/{shopId}" .get) =
        (Operation.bare none).urlName "/pet-shops/{shopId}" .get := by
  have ascii : IsAscii "/pet-shops/{shopId}".toList := by decide
  have named := (urlNames_legal_iff (.bare (some "class")) "/pet-shops/{shopId}" .get).1
  have unnamed := (urlNames_legal_iff (.bare none) "/pet-shops/{shopId}" .get).2 (Or.inl rfl)
  constructor
  · exact (named "class" rfl (by decide)).mpr (by decide)
  · have plain : (markParameters (withoutSlash "/pet-shops/{shopId}".toList)).all
        (fun character => isWord character || character == '/' || character == '-') = true := by
      decide
    refine (unnamed.2 ascii).mpr fun character member => ?_
    simpa [or_assoc] using List.all_eq_true.mp plain character member

/-- A path with a dot, and a name that starts with the letter that gets a mark in lower case, both
give a method a name that is not legal. -/
theorem dotted_urlName_illegal :
    (Operation.bare none).urlName "/files.json" .get = "getFiles.jsonUrl" ∧
      identifier "getFiles.jsonUrl" = "getFiles_jsonUrl" ∧
      (Operation.bare (some "İade")).urlName "/files" .get = "i\u0307adeUrl" ∧
      identifier "i\u0307adeUrl" = "i_adeUrl" := by
  decide +kernel

end OpenApiJava
