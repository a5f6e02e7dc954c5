import OpenApiJava.Proofs.Descriptions

/-!
# Reading constants back

The constants of a class can be read from its source: a reader passes over block comments and takes
each declaration of a public text, from the name to the quote that closes the literal. Main
statement: from the sources of both classes of constants it reads the names and the values that they
were written from, in order.
-/

namespace OpenApiJava

open OpenApiJava.Java OpenApiJava.Text

namespace Java

/-! ## The reader -/

/-- What a declaration of a public text starts with. -/
def declarationMark : List Char := "public static final String ".toList

/-- What stands between the name and the value of a declaration. -/
def valueMark : List Char := " = \"".toList

/-- The text of a literal up to the quote that closes it, and what is behind the quote. A backslash
is left out and keeps the character behind it. -/
def readLiteral? : List Char → Option (List Char × List Char)
  | [] => none
  | '"' :: rest => some ([], rest)
  | '\\' :: character :: rest => (readLiteral? rest).map fun (value, behind) =>
      (character :: value, behind)
  | character :: rest => (readLiteral? rest).map fun (value, behind) =>
      (character :: value, behind)

/-- The name and the value of a declaration at the front of the text, and what is behind it. -/
def readDeclaration? (text : List Char) : Option ((String × String) × List Char) := do
  let named ← declarationMark.isPrefixOf? text
  let literal ← valueMark.isPrefixOf? (named.dropWhile (· != ' '))
  let (value, behind) ← readLiteral? literal
  return ((String.ofList (named.takeWhile (· != ' ')), String.ofList value), behind)

theorem length_afterComment?_le {text behind : List Char}
    (found : afterComment? text = some behind) :
    behind.length ≤ text.length := by
  obtain ⟨body, rfl, _⟩ := afterComment?_sound found
  simp only [List.length_append, List.length_cons]
  omega

theorem length_readLiteral?_le {text value behind : List Char}
    (found : readLiteral? text = some (value, behind)) :
    behind.length ≤ text.length := by
  induction text using readLiteral?.induct generalizing value with
  | case1 => cases found
  | case2 rest =>
      cases found
      simp
  | case3 character rest inductionHypothesis =>
      obtain ⟨⟨others, after⟩, read, same⟩ := Option.map_eq_some_iff.mp found
      cases same
      have shorter := inductionHypothesis read
      simp only [List.length_cons]
      omega
  | case4 character rest noQuote noEscape inductionHypothesis =>
      rw [readLiteral?.eq_4 _ _ noQuote noEscape] at found
      obtain ⟨⟨others, after⟩, read, same⟩ := Option.map_eq_some_iff.mp found
      cases same
      have shorter := inductionHypothesis read
      simp only [List.length_cons]
      omega

/-- What is read of a declaration, from front to back. -/
theorem readDeclaration?_sound {text behind : List Char} {constant : String × String}
    (found : readDeclaration? text = some (constant, behind)) :
    ∃ named literal value, text = declarationMark ++ named ∧
      named.dropWhile (· != ' ') = valueMark ++ literal ∧
      readLiteral? literal = some (value, behind) := by
  simp only [readDeclaration?, Option.bind_eq_bind, Option.bind_eq_some_iff, Option.pure_def,
    Option.some.injEq, Prod.mk.injEq] at found
  obtain ⟨named, isNamed, literal, isLiteral, ⟨value, after⟩, read, _, rfl⟩ := found
  exact ⟨named, literal, value, (List.isPrefixOf?_eq_some_iff_append_eq.mp isNamed).symm,
    (List.isPrefixOf?_eq_some_iff_append_eq.mp isLiteral).symm, read⟩

theorem length_readDeclaration?_lt {text behind : List Char} {constant : String × String}
    (found : readDeclaration? text = some (constant, behind)) :
    behind.length < text.length := by
  obtain ⟨named, literal, value, rfl, split, read⟩ := readDeclaration?_sound found
  have dropped : (named.dropWhile (· != ' ')).length ≤ named.length :=
    (List.dropWhile_sublist _).length_le
  have shorter : behind.length ≤ literal.length := length_readLiteral?_le read
  have marked : 0 < declarationMark.length := by decide
  rw [split, List.length_append] at dropped
  rw [List.length_append]
  omega

/-- The names and the values of the constants that are declared outside of comments, in order. -/
def declaredConstants : List Char → List (String × String)
  | [] => []
  | '/' :: '*' :: rest =>
      match _ : afterComment? rest with
      | some behind => declaredConstants behind
      | none => []
  | character :: rest =>
      match _ : readDeclaration? (character :: rest) with
      | some (constant, behind) => constant :: declaredConstants behind
      | none => declaredConstants rest
termination_by text => text.length
decreasing_by
  · have shorter := length_afterComment?_le ‹afterComment? rest = some behind›
    simp only [List.length_cons]
    omega
  · exact length_readDeclaration?_lt ‹_›
  · simp

theorem declaredConstants_comment {body : List Char} (stays : body.IsChain StaysOpen)
    (rest : List Char) :
    declaredConstants ('/' :: '*' :: (body ++ '*' :: '/' :: rest)) = declaredConstants rest := by
  rw [declaredConstants]
  split
  · rename_i behind found
    rw [afterComment?_complete rest stays] at found
    rw [Option.some.inj found]
  · rename_i missing
    rw [afterComment?_complete rest stays] at missing
    cases missing

theorem declaredConstants_declaration {text behind : List Char} {constant : String × String}
    (found : readDeclaration? text = some (constant, behind)) :
    declaredConstants text = constant :: declaredConstants behind := by
  obtain ⟨named, _, _, same, _, _⟩ := readDeclaration?_sound found
  have front : ∃ rest, text = 'p' :: rest := ⟨declarationMark.tail ++ named, same⟩
  obtain ⟨rest, rfl⟩ := front
  rw [declaredConstants]
  · split
    · rename_i other after foundOther
      rw [found] at foundOther
      cases foundOther
      rfl
    · rename_i missing
      rw [found] at missing
      cases missing
  · intro _ slash
    exact absurd slash (by decide)

theorem declaredConstants_cons {character : Char} {rest : List Char} (noSlash : character ≠ '/')
    (noMark : ¬ declarationMark <+: character :: rest) :
    declaredConstants (character :: rest) = declaredConstants rest := by
  rw [declaredConstants]
  · split
    · rename_i found
      obtain ⟨named, _, _, same, _, _⟩ := readDeclaration?_sound found
      exact absurd ⟨named, same.symm⟩ noMark
    · rfl
  · exact fun _ slash _ => noSlash slash

theorem readLiteral?_escapedChars (value rest : List Char) :
    readLiteral? (escapedChars value ++ '"' :: rest) = some (value, rest) := by
  induction value with
  | nil => rfl
  | cons character others inductionHypothesis =>
      have split : escapedChars (character :: others) ++ '"' :: rest =
          escapedChar character ++ (escapedChars others ++ '"' :: rest) := by
        simp [escapedChars]
      rw [split, escapedChar]
      by_cases special : (character == '\\' || character == '"') = true
      · rw [if_pos special, List.cons_append, List.cons_append, List.nil_append, readLiteral?,
          inductionHypothesis]
        rfl
      · have plain : character ≠ '\\' ∧ character ≠ '"' := by simpa using special
        rw [if_neg special, List.singleton_append, readLiteral?, inductionHypothesis]
        · rfl
        · exact plain.2
        · exact fun _ _ backslash _ => plain.1 backslash

theorem readDeclaration?_complete {name literal value behind : List Char} (noSpace : ' ' ∉ name)
    (read : readLiteral? literal = some (value, behind)) :
    readDeclaration? (declarationMark ++ (name ++ (valueMark ++ literal))) =
      some ((String.ofList name, String.ofList value), behind) := by
  have proper : ∀ character ∈ name, (character != ' ') = true := by
    intro character member
    rw [bne_iff_ne]
    rintro rfl
    exact noSpace member
  have front : declarationMark.isPrefixOf? (declarationMark ++ (name ++ (valueMark ++ literal))) =
      some (name ++ (valueMark ++ literal)) :=
    List.isPrefixOf?_eq_some_iff_append_eq.mpr rfl
  have named : (name ++ (valueMark ++ literal)).takeWhile (· != ' ') = name := by
    rw [List.takeWhile_append_of_pos proper]
    exact List.append_nil name
  have dropped : (name ++ (valueMark ++ literal)).dropWhile (· != ' ') = valueMark ++ literal := by
    rw [List.dropWhile_append_of_pos proper]
    rfl
  have between : valueMark.isPrefixOf? (valueMark ++ literal) = some literal :=
    List.isPrefixOf?_eq_some_iff_append_eq.mpr rfl
  simp only [readDeclaration?, front, named, dropped, between, read, Option.bind_eq_bind,
    Option.bind_some, Option.pure_def]

/-! ## Parts of a source -/

/-- The reader takes these constants from the text, whatever is behind it. -/
def Declares (text : List Char) (constants : List (String × String)) : Prop :=
  ∀ rest, declaredConstants (text ++ rest) = constants ++ declaredConstants rest

theorem isPrefix_of_isPrefix_append {mark text rest : List Char} {separator : Char}
    (absent : separator ∉ mark) (found : mark <+: text ++ separator :: rest) :
    mark <+: text := by
  rcases List.prefix_or_prefix_of_prefix found (List.prefix_append text _) with inText | ⟨tail, rfl⟩
  · exact inText
  · rw [List.prefix_append_right_inj] at found
    cases tail with
    | nil => exact ⟨[], by simp⟩
    | cons first others =>
        rw [List.cons_prefix_cons] at found
        exact absurd (List.mem_append_right text (found.1 ▸ List.mem_cons_self)) absent

namespace Declares

variable {first second text : List Char} {constants others : List (String × String)}

theorem declaredConstants_eq (declares : Declares text constants) :
    declaredConstants text = constants := by
  have whole := declares []
  rw [List.append_nil, declaredConstants, List.append_nil] at whole
  exact whole

theorem nil : Declares [] [] :=
  fun _ => rfl

theorem append (declaresFirst : Declares first constants)
    (declaresSecond : Declares second others) :
    Declares (first ++ second) (constants ++ others) := by
  intro rest
  rw [List.append_assoc, declaresFirst, declaresSecond, List.append_assoc]

/-- A mark that starts in a line ends in it, so that a line without one declares nothing. -/
theorem line {line : List Char} (noSlash : '/' ∉ line) (noMark : ¬ declarationMark <:+: line) :
    Declares (line ++ ['\n']) [] := by
  have noBreak : '\n' ∉ declarationMark := by decide
  intro rest
  rw [List.append_assoc, List.singleton_append, List.nil_append]
  induction line with
  | nil =>
      have notHere : ¬ declarationMark <+: '\n' :: rest := fun found =>
        noMark (isPrefix_of_isPrefix_append noBreak found).isInfix
      exact declaredConstants_cons (by decide) notHere
  | cons character others inductionHypothesis =>
      have notHere : ¬ declarationMark <+: character :: (others ++ '\n' :: rest) := fun found =>
        noMark (isPrefix_of_isPrefix_append noBreak found).isInfix
      have notLater : ¬ declarationMark <:+: others := fun found =>
        noMark (found.trans (List.suffix_cons character others).isInfix)
      rw [List.cons_append,
        declaredConstants_cons (List.ne_of_not_mem_cons noSlash).symm notHere]
      exact inductionHypothesis (List.not_mem_of_not_mem_cons noSlash) notLater

/-- Characters that start neither a comment nor a declaration are passed over. -/
theorem of_not_mem (noSlash : '/' ∉ text) (noStart : 'p' ∉ text) : Declares text [] := by
  induction text with
  | nil => exact nil
  | cons character others inductionHypothesis =>
      have passed : Declares others [] := inductionHypothesis
        (List.not_mem_of_not_mem_cons noSlash) (List.not_mem_of_not_mem_cons noStart)
      intro rest
      have notHere : ¬ declarationMark <+: character :: (others ++ rest) := by
        rintro ⟨named, same⟩
        exact List.ne_of_not_mem_cons noStart (List.cons.inj same).1
      rw [List.cons_append,
        declaredConstants_cons (List.ne_of_not_mem_cons noSlash).symm notHere]
      exact passed rest

theorem comment {body : List Char} (stays : body.IsChain StaysOpen) :
    Declares ('/' :: '*' :: (body ++ ['*', '/'])) [] := by
  intro rest
  have ended : ('/' :: '*' :: (body ++ ['*', '/'])) ++ rest =
      '/' :: '*' :: (body ++ '*' :: '/' :: rest) := by
    simp
  rw [ended]
  exact declaredConstants_comment stays rest

theorem declaration {name : List Char} (noSpace : ' ' ∉ name) (value : List Char) :
    Declares (declarationMark ++ (name ++ (valueMark ++ (escapedChars value ++ ['"']))))
      [(String.ofList name, String.ofList value)] := by
  intro rest
  have read := readDeclaration?_complete noSpace (readLiteral?_escapedChars value rest)
  have whole := declaredConstants_declaration read
  simpa only [List.append_assoc, List.singleton_append] using whole

end Declares

end Java

/-! ## Lines of a class of constants -/

theorem IsPlainName.space_not_mem {text : String} (plain : IsPlainName text) :
    ' ' ∉ text.toList :=
  fun member => absurd (plain ' ' member) (by decide)

namespace Source

/-- The line holds neither a slash nor the mark of a declaration. -/
def IsPassed (line : String) : Prop :=
  '/' ∉ line.toList ∧ ¬ declarationMark <:+: line.toList

instance (line : String) : Decidable (IsPassed line) :=
  inferInstanceAs (Decidable (_ ∧ _))

theorem declares_ofLines {lines : List String} (passed : ∀ line ∈ lines, IsPassed line) :
    Declares (ofLines lines).toList [] := by
  induction lines with
  | nil => exact .nil
  | cons line others inductionHypothesis =>
      obtain ⟨⟨noSlash, noMark⟩, passedOthers⟩ := List.forall_mem_cons.mp passed
      have here : Declares (line.toList ++ ['\n']) [] := .line noSlash noMark
      have both := here.append (inductionHypothesis passedOthers)
      rwa [toList_ofLines, ← List.flatMap_cons (f := fun line : String => line.toList ++ ['\n']),
        ← toList_ofLines] at both

/-- A package has no blanks in its name, and a declaration has more of them than its line. -/
theorem isPassed_package {packageName : String} (plain : IsPlainName packageName) :
    IsPassed ("package " ++ packageName ++ ";") := by
  have noSlash : '/' ∉ packageName.toList := fun member => absurd (plain '/' member) (by decide)
  have noSpace : ' ' ∉ packageName.toList := plain.space_not_mem
  constructor
  · simp [noSlash]
  · intro found
    have fewer := found.sublist.count_le ' '
    have marked : declarationMark.count ' ' = 4 := by decide
    have single : ("package " ++ packageName ++ ";").toList.count ' ' = 1 := by
      simp [List.count_append, List.count_eq_zero.mpr noSpace]
    omega

theorem declares_blockComment {text : String} (stays : text.toList.IsChain StaysOpen) :
    Declares (ofLines ["/**", " * " ++ text, " */"]).toList [] := by
  have inside : ("*\n * ".toList ++ text.toList ++ "\n ".toList).IsChain StaysOpen :=
    (isChain_between_iff (isChain_staysOpen_iff.mpr (by decide)) (by decide)
      (isChain_staysOpen_iff.mpr (by decide)) (by decide)).mpr stays
  have ends : Declares ['\n'] [] := .of_not_mem (by decide) (by decide)
  have whole := (Declares.comment inside).append ends
  simpa [toList_ofLines] using whole

theorem declares_lineComment {text : String} (stays : text.toList.IsChain StaysOpen) :
    Declares (ofLines ["    /** " ++ text ++ " */"]).toList [] := by
  have inside : ("* ".toList ++ text.toList ++ [' ']).IsChain StaysOpen :=
    (isChain_between_iff (isChain_staysOpen_iff.mpr (by decide)) (by decide)
      (isChain_staysOpen_iff.mpr (by decide)) (by decide)).mpr stays
  have indent : Declares "    ".toList [] := .of_not_mem (by decide) (by decide)
  have ends : Declares ['\n'] [] := .of_not_mem (by decide) (by decide)
  have whole := (indent.append (.comment inside)).append ends
  simpa [toList_ofLines] using whole

theorem declares_declarationLine {name : String} (noSpace : ' ' ∉ name.toList) (value : String) :
    Declares
      (ofLines ["    public static final String " ++ name ++ " = \"" ++ literalBody value ++
        "\";"]).toList
      [(name, value)] := by
  have indent : Declares "    ".toList [] := .of_not_mem (by decide) (by decide)
  have ends : Declares ";\n".toList [] := .of_not_mem (by decide) (by decide)
  have declares := Declares.declaration noSpace value.toList
  have whole := (indent.append declares).append ends
  rw [String.ofList_toList, String.ofList_toList] at whole
  have front : "    public static final String ".toList = "    ".toList ++ declarationMark := by
    decide
  have back : "\";".toList ++ ['\n'] = ['"'] ++ ";\n".toList := by decide
  have same : (ofLines ["    public static final String " ++ name ++ " = \"" ++
      literalBody value ++ "\";"]).toList =
      "    ".toList ++ (declarationMark ++ (name.toList ++ (valueMark ++
        (escapedChars value.toList ++ ['"'])))) ++ ";\n".toList := by
    simp only [toList_ofLines, List.flatMap_singleton, String.toList_append, literalBody,
      toList_onString, List.append_assoc, front, back, valueMark]
  rw [same]
  exact whole

theorem declares_constantLines {name : String} (noSpace : ' ' ∉ name.toList)
    (constant : UrlConstant) :
    Declares (ofLines (constantLines name constant)).toList [(name, constant.value)] := by
  have blank : Declares (ofLines [""]).toList [] := declares_ofLines (by decide)
  have comment := declares_lineComment (isChain_commentText constant.description)
  have line := declares_declarationLine noSpace constant.value
  have whole := (blank.append comment).append line
  rwa [← toList_ofLines_append, ← toList_ofLines_append] at whole

theorem declares_flatMap {constants : List UrlConstant} {naming : String → String}
    (noSpaces : ∀ constant ∈ constants, ' ' ∉ (naming constant.name).toList) :
    Declares
      (ofLines (constants.flatMap fun constant =>
        constantLines (naming constant.name) constant)).toList
      (constants.map fun constant => (naming constant.name, constant.value)) := by
  induction constants with
  | nil => exact .nil
  | cons constant others inductionHypothesis =>
      obtain ⟨noSpace, noOther⟩ := List.forall_mem_cons.mp noSpaces
      have here := declares_constantLines noSpace constant
      have both := here.append (inductionHypothesis noOther)
      rwa [← toList_ofLines_append] at both

/-- The reader takes the constants of a class from its lines, and nothing else. -/
theorem ConstantsClass.declaredConstants_lines {headline : String} {naming : String → String}
    {table : ConstantsClass} (stays : headline.toList.IsChain StaysOpen)
    (plainPackage : IsPlainName table.packageName)
    (passedClass : ∀ line ∈ ["public final class " ++ table.className ++ " \x7b", "",
      "    private " ++ table.className ++ "() \x7b", "    \x7d"], IsPassed line)
    (noSpaces : ∀ constant ∈ table.constants, ' ' ∉ (naming constant.name).toList) :
    declaredConstants (ofLines (table.lines headline naming)).toList =
      table.constants.map fun constant => (naming constant.name, constant.value) := by
  have package : ∀ line ∈ ["package " ++ table.packageName ++ ";", ""], IsPassed line :=
    List.forall_mem_cons.mpr ⟨isPassed_package plainPackage, by decide⟩
  have brace : ∀ line ∈ ["\x7d"], IsPassed line := by decide
  have front := ((declares_ofLines package).append (declares_blockComment stays)).append
    (declares_ofLines passedClass)
  have whole := (front.append (declares_flatMap noSpaces)).append (declares_ofLines brace)
  simp only [← toList_ofLines_append, List.nil_append, List.append_nil] at whole
  exact whole.declaredConstants_eq

end Source

open Source

/-! ## Both classes of constants -/

/-- From the source of each class of constants, the names and the values can be read back. -/
theorem constants_read_back {packageName : String} (plain : IsPlainName packageName) :
    (∀ constants : List UrlConstant, ∃ source,
      Template.relativeUrls.render
          ((ConstantsClass.mk packageName relativeUrlsClass constants).context "paths") =
        .ok source ∧
      declaredConstants source.toList =
        constants.map fun constant => (identifier constant.name, constant.value)) ∧
    ∀ servers : List Server, ∃ source,
      Template.basePaths.render
          ((ConstantsClass.mk packageName basePathsClass (UrlConstant.ofServers servers)).context
            "servers") =
        .ok source ∧
      declaredConstants source.toList =
        (UrlConstant.ofServers servers).map fun constant => (constant.name, constant.value) := by
  constructor
  · intro constants
    have passed : ∀ line ∈ ["public final class " ++ relativeUrlsClass ++ " \x7b", "",
        "    private " ++ relativeUrlsClass ++ "() \x7b", "    \x7d"], IsPassed line := by
      decide
    have noSpaces : ∀ constant ∈ constants, ' ' ∉ (identifier constant.name).toList := by
      intro constant _ member
      rw [identifier, toList_onString] at member
      exact absurd ((isLegal_nameOf constant.name.toList).words ' ' member) (by decide)
    exact ⟨_, Template.render_relativeUrls _, ConstantsClass.declaredConstants_lines
      (isChain_staysOpen_iff.mpr (by decide)) plain passed noSpaces⟩
  · intro servers
    have passed : ∀ line ∈ ["public final class " ++ basePathsClass ++ " \x7b", "",
        "    private " ++ basePathsClass ++ "() \x7b", "    \x7d"], IsPassed line := by
      decide
    have noSpaces : ∀ constant ∈ UrlConstant.ofServers servers, ' ' ∉ (id constant.name).toList :=
      fun _ isConstant => (isPlainName_of_mem_ofServersFrom isConstant).space_not_mem
    exact ⟨_, Template.render_basePaths _, ConstantsClass.declaredConstants_lines
      (isChain_staysOpen_iff.mpr (by decide)) plain passed noSpaces⟩

/-- Values and descriptions that look like other parts of a source are read back as well. -/
theorem trickyConstants_read_back :
    (∃ source,
      Template.relativeUrls.render
          ((ConstantsClass.mk "shop.constants" relativeUrlsClass
            [⟨"/a.b", "/*\"; public static final String X = \"\\", "\" */ \""⟩,
              ⟨"class", "", "*/ public static final String Y = \"y\";"⟩]).context "paths") =
        .ok source ∧
      declaredConstants source.toList =
        [("_a_b", "/*\"; public static final String X = \"\\"), ("class_", "")]) ∧
    ∃ source,
      Template.basePaths.render
          ((ConstantsClass.mk "shop.constants" basePathsClass
            (UrlConstant.ofServers [petServer, ⟨"https://pets.example/a\"b", none⟩])).context
            "servers") =
        .ok source ∧
      declaredConstants source.toList = [("DEFAULT", "/v1"), ("SERVER_1", "/a\"b")] := by
  have plain : IsPlainName "shop.constants" := by decide
  obtain ⟨relative, base⟩ := constants_read_back plain
  constructor
  · obtain ⟨source, rendered, read⟩ := relative
      [⟨"/a.b", "/*\"; public static final String X = \"\\", "\" */ \""⟩,
        ⟨"class", "", "*/ public static final String Y = \"y\";"⟩]
    exact ⟨source, rendered, read.trans (by decide +kernel)⟩
  · obtain ⟨source, rendered, read⟩ := base [petServer, ⟨"https://pets.example/a\"b", none⟩]
    exact ⟨source, rendered, read.trans (by decide +kernel)⟩

end OpenApiJava
