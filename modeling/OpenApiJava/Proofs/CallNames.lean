import OpenApiJava.Proofs.DeclaredNames
import OpenApiJava.Proofs.MethodNames

/-!
# Names of calls

Each call of a service class has a method that builds its URL and a constant that holds its HTTP
method, both named after the identifier of the call or after its HTTP method and its path. Main
statement: two calls share such a name exactly if what their identifiers become is the same, if
neither has an identifier and both have the same HTTP method and what their constants become is the
same, or if the identifier of one becomes what the other is called without one. Within ASCII, the
constants tell identifiers apart up to case, and paths up to underscores.
-/

namespace OpenApiJava

open OpenApiJava.Java OpenApiJava.Text

namespace Java

/-! ## Names within ASCII -/

theorem isAscii_legalName {text : List Char} (ascii : IsAscii text) :
    IsAscii (legalName text) := by
  have signs : IsAscii ['_'] ∧ IsAscii emptyName.toList := by decide
  fun_cases legalName text with
  | case1 => exact signs.2
  | case2 first rest digit => exact isAscii_append.mpr ⟨signs.1, ascii⟩
  | case3 first rest noDigit reserved => exact isAscii_append.mpr ⟨ascii, signs.1⟩
  | case4 first rest noDigit free => exact ascii

theorem isAscii_nameOf {text : List Char} (ascii : IsAscii text) : IsAscii (nameOf text) := by
  apply isAscii_legalName
  apply isAscii_map _ ascii
  intro character asciiCharacter
  unfold nameCharacter
  split
  · exact asciiCharacter
  · decide

/-- In upper case, the words of a text follow each other without the underscores between them. -/
theorem upper_pascalWord_of_isAscii {text : List Char} (ascii : IsAscii text) :
    upper (pascalWord text) = (text.filter (· != '_')).map Char.toUpper := by
  have pieces : ∀ piece ∈ wordsBy (· == '_') text,
      upper (capitalized piece) = piece.map Char.toUpper := by
    intro piece isPiece
    exact upper_capitalized_of_isAscii fun character inPiece =>
      ascii character (mem_of_mem_wordsBy isPiece inPiece)
  calc upper (pascalWord text)
      = (wordsBy (· == '_') text).flatMap fun piece => upper (capitalized piece) :=
        List.flatMap_assoc
    _ = (wordsBy (· == '_') text).flatMap fun piece => piece.map Char.toUpper :=
        List.flatMap_congr pieces
    _ = (wordsBy (· == '_') text).flatten.map Char.toUpper := by
        rw [List.map_flatten, List.flatMap_def]
    _ = (text.filter (· != '_')).map Char.toUpper := by
        rw [flatten_wordsBy]
        rfl

/-- The words of a constant are in upper case already. -/
theorem upper_pascalWord_constantWord {path : List Char} (ascii : IsAscii path) :
    upper (pascalWord (constantWord path)) = (constantWord path).filter (· != '_') := by
  have replaced := isAscii_replaceChar_markParameters ascii
  have capital : ∀ character ∈ (constantWord path).filter (· != '_'),
      character.toUpper = character := by
    intro character member
    have inWord := List.mem_of_mem_filter member
    rw [constantWord, upper_of_isAscii replaced] at inWord
    obtain ⟨given, inText, rfl⟩ := List.mem_map.mp inWord
    exact toUpper_toUpper given (replaced given inText)
  have asciiWord : IsAscii (constantWord path) := isAscii_upper replaced
  rw [upper_pascalWord_of_isAscii asciiWord]
  exact (List.map_congr_left capital).trans (List.map_id' _)

end Java

namespace Source

/-! ## Rules for names -/

/-- A rule for the names of calls: what identifiers become, and what the HTTP method and the
constant of a call without one do. -/
structure CallNaming where
  given : List Char → List Char
  method : List Char → List Char
  constant : List Char → List Char

namespace CallNaming

def name (naming : CallNaming) (call : Call) : List Char :=
  if call.operationId.isEmpty then
    naming.method call.method.toList ++ naming.constant call.constantName.toList
  else naming.given call.operationId.toList

/-- Different HTTP methods do not start alike. -/
def TellsMethods (naming : CallNaming) : Prop :=
  ∀ first second : HttpMethod,
    naming.method first.name.toList <+: naming.method second.name.toList → first = second

/-- The calls have one name. -/
inductive Shares (naming : CallNaming) (first second : Call) : Prop
  | given (named : first.operationId ≠ "") (alsoNamed : second.operationId ≠ "")
      (same : naming.given first.operationId.toList = naming.given second.operationId.toList)
  | derived (unnamed : first.operationId = "") (alsoUnnamed : second.operationId = "")
      (sameMethod : first.method = second.method)
      (same : naming.constant first.constantName.toList =
        naming.constant second.constantName.toList)
  | givenFirst (named : first.operationId ≠ "") (unnamed : second.operationId = "")
      (same : naming.given first.operationId.toList =
        naming.method second.method.toList ++ naming.constant second.constantName.toList)
  | givenSecond (unnamed : first.operationId = "") (named : second.operationId ≠ "")
      (same : naming.method first.method.toList ++ naming.constant first.constantName.toList =
        naming.given second.operationId.toList)

theorem name_of_named (naming : CallNaming) {call : Call} (named : call.operationId ≠ "") :
    naming.name call = naming.given call.operationId.toList :=
  if_neg (by simpa using named)

theorem name_of_unnamed (naming : CallNaming) {call : Call} (unnamed : call.operationId = "") :
    naming.name call =
      naming.method call.method.toList ++ naming.constant call.constantName.toList :=
  if_pos (by simpa using unnamed)

variable {naming : CallNaming} {first second : Call}

theorem TellsMethods.append_eq_append (tells : naming.TellsMethods) {method other : HttpMethod}
    {rest others : List Char}
    (same : naming.method method.name.toList ++ rest =
      naming.method other.name.toList ++ others) :
    method = other ∧ rest = others := by
  have sameMethod : method = other := by
    have front : naming.method method.name.toList <+: naming.method other.name.toList ++ others :=
      ⟨rest, same⟩
    rcases List.prefix_or_prefix_of_prefix front (List.prefix_append _ _) with shorter | longer
    · exact tells method other shorter
    · exact (tells other method longer).symm
  subst sameMethod
  exact ⟨rfl, List.append_cancel_left same⟩

theorem name_eq_name_iff (tells : naming.TellsMethods)
    (offered : ∃ method : HttpMethod, first.method = method.name)
    (alsoOffered : ∃ method : HttpMethod, second.method = method.name) :
    naming.name first = naming.name second ↔ naming.Shares first second := by
  rcases eq_or_ne first.operationId "" with unnamed | named
  · rcases eq_or_ne second.operationId "" with alsoUnnamed | otherNamed
    · rw [naming.name_of_unnamed unnamed, naming.name_of_unnamed alsoUnnamed]
      constructor
      · intro same
        obtain ⟨method, isMethod⟩ := offered
        obtain ⟨other, isOther⟩ := alsoOffered
        rw [isMethod, isOther] at same
        obtain ⟨rfl, sameConstant⟩ := tells.append_eq_append same
        exact .derived unnamed alsoUnnamed (isMethod.trans isOther.symm) sameConstant
      · intro shares
        cases shares with
        | given named | givenFirst named => exact absurd unnamed named
        | givenSecond _ named => exact absurd alsoUnnamed named
        | derived _ _ sameMethod same => rw [sameMethod, same]
    · rw [naming.name_of_unnamed unnamed, naming.name_of_named otherNamed]
      constructor
      · exact .givenSecond unnamed otherNamed
      · intro shares
        cases shares with
        | given named | givenFirst named => exact absurd unnamed named
        | givenSecond _ _ same => exact same
        | derived _ alsoUnnamed => exact absurd alsoUnnamed otherNamed
  · rcases eq_or_ne second.operationId "" with otherUnnamed | alsoNamed
    · rw [naming.name_of_named named, naming.name_of_unnamed otherUnnamed]
      constructor
      · exact .givenFirst named otherUnnamed
      · intro shares
        cases shares with
        | given _ alsoNamed | givenSecond _ alsoNamed => exact absurd otherUnnamed alsoNamed
        | givenFirst _ _ same => exact same
        | derived unnamed => exact absurd unnamed named
    · rw [naming.name_of_named named, naming.name_of_named alsoNamed]
      constructor
      · exact .given named alsoNamed
      · intro shares
        cases shares with
        | given _ _ same => exact same
        | givenFirst _ otherUnnamed => exact absurd otherUnnamed alsoNamed
        | derived unnamed | givenSecond unnamed => exact absurd unnamed named

/-- The rule for methods that build URLs. -/
def ofMethods : CallNaming where
  given := fun text => lowerFirst (nameOf text)
  method := lower
  constant := pascalWord

/-- The rule for constants that hold HTTP methods. -/
def ofConstants : CallNaming where
  given := fun text => upper (lowerFirst (nameOf text))
  method := fun text => upper (lower text)
  constant := fun text => upper (pascalWord text)

/-- The rule for constants of calls within ASCII. -/
def ofLetters : CallNaming where
  given := fun text => (nameOf text).map Char.toUpper
  method := id
  constant := fun text => text.filter (· != '_')

theorem tellsMethods_ofMethods : ofMethods.TellsMethods := by
  intro first second front
  revert front
  cases first <;> cases second <;> decide

theorem tellsMethods_ofConstants : ofConstants.TellsMethods := by
  intro first second front
  revert front
  cases first <;> cases second <;> decide

theorem tellsMethods_ofLetters : ofLetters.TellsMethods := by
  intro first second front
  revert front
  cases first <;> cases second <;> decide

end CallNaming

/-! ## Names of a call -/

namespace Call

theorem toList_methodName (call : Call) :
    call.methodName.toList = CallNaming.ofMethods.name call := by
  unfold methodName CallNaming.name
  split
  · rw [String.toList_append, toList_onString]
    exact congrArg _ (toList_onString pascalWord call.constantName)
  · rw [toList_onString, identifier, toList_onString]
    rfl

/-- The name of the constant that holds the HTTP method of a call. -/
def methodConstant (call : Call) : String :=
  onString upper call.methodName ++ "_METHOD"

theorem upper_methodName (call : Call) :
    upper call.methodName.toList = CallNaming.ofConstants.name call := by
  rw [toList_methodName]
  unfold CallNaming.name
  split
  · exact upper_append _ _
  · rfl

/-- The line that declares the constant. -/
def methodConstantLine (call : Call) : String :=
  ConstantsClass.constantFront ++ call.methodConstant ++ " = \"" ++ call.method ++ "\";"

/-- What the line of a method starts with. -/
def urlFront : String := "    public String "

/-- The line that declares the method. -/
def urlLine (call : Call) : String :=
  urlFront ++ call.urlName ++ "(" ++ call.signature ++ ") \x7b"

/-- A call has one line that declares its constant. -/
theorem filter_lines_constant (className : String) (call : Call) :
    (call.lines className).filter (startsWith ConstantsClass.constantFront) =
      [call.methodConstantLine] := by
  have noQuery : (call.queries.map Query.line).filter
      (startsWith ConstantsClass.constantFront) = [] := by
    apply filter_queries
    intro rest
    rw [startsWith_append]
    rfl
  have noReplacement : (call.parameters.map replacementLine).filter
      (startsWith ConstantsClass.constantFront) = [] := by
    apply filter_replacements
    intro rest
    rw [startsWith_append]
    rfl
  unfold lines
  simp only [List.filter_append, noQuery, noReplacement, String.append_assoc, List.append_nil]
  cases call.body <;>
    simp [methodConstantLine, methodConstant, ConstantsClass.constantFront, startsWith,
      String.append_assoc]

/-- A call has one line that declares its method. -/
theorem filter_lines_url (className : String) (call : Call) :
    (call.lines className).filter (startsWith urlFront) = [call.urlLine] := by
  have noQuery : (call.queries.map Query.line).filter (startsWith urlFront) = [] := by
    apply filter_queries
    intro rest
    rw [startsWith_append]
    rfl
  have noReplacement : (call.parameters.map replacementLine).filter (startsWith urlFront) = [] := by
    apply filter_replacements
    intro rest
    rw [startsWith_append]
    rfl
  unfold lines
  simp only [List.filter_append, noQuery, noReplacement, String.append_assoc, List.append_nil]
  cases call.body <;>
    simp [urlLine, urlName, urlFront, startsWith, String.append_assoc]

/-- The call is that of an operation: it has one of the four HTTP methods, and its constant is named
after its path. -/
structure IsOffered (call : Call) : Prop where
  method : ∃ method : HttpMethod, call.method = method.name
  constant : call.constantName = Java.constantName call.path

variable {first second : Call}

theorem urlName_eq_urlName_iff (offered : first.IsOffered) (alsoOffered : second.IsOffered) :
    first.urlName = second.urlName ↔ CallNaming.ofMethods.Shares first second := by
  rw [urlName, urlName, String.append_left_inj, ← String.toList_inj, toList_methodName,
    toList_methodName]
  exact CallNaming.name_eq_name_iff CallNaming.tellsMethods_ofMethods offered.method
    alsoOffered.method

theorem methodConstant_eq_methodConstant_iff_name :
    first.methodConstant = second.methodConstant ↔
      CallNaming.ofConstants.name first = CallNaming.ofConstants.name second := by
  rw [methodConstant, methodConstant, String.append_left_inj, ← String.toList_inj, toList_onString,
    toList_onString, upper_methodName, upper_methodName]

theorem methodConstant_eq_methodConstant_iff (offered : first.IsOffered)
    (alsoOffered : second.IsOffered) :
    first.methodConstant = second.methodConstant ↔
      CallNaming.ofConstants.Shares first second :=
  methodConstant_eq_methodConstant_iff_name.trans
    (CallNaming.name_eq_name_iff CallNaming.tellsMethods_ofConstants offered.method
      alsoOffered.method)

/-- The identifier and the path of the call have characters of ASCII only. -/
structure HasAscii (call : Call) : Prop where
  operationId : IsAscii call.operationId.toList
  path : IsAscii call.path.toList

theorem name_ofConstants_of_hasAscii {call : Call} (offered : call.IsOffered)
    (ascii : call.HasAscii) :
    CallNaming.ofConstants.name call = CallNaming.ofLetters.name call := by
  rcases eq_or_ne call.operationId "" with unnamed | named
  · obtain ⟨method, isMethod⟩ := offered.method
    have sameMethod : upper (lower method.name.toList) = method.name.toList := by
      cases method <;> rfl
    have word : call.constantName.toList = constantWord call.path.toList := by
      rw [offered.constant, Java.constantName, toList_onString]
    have sameConstant : upper (pascalWord call.constantName.toList) =
        call.constantName.toList.filter (· != '_') := by
      rw [word]
      exact upper_pascalWord_constantWord ascii.path
    rw [CallNaming.name_of_unnamed _ unnamed, CallNaming.name_of_unnamed _ unnamed, isMethod]
    exact congrArg₂ _ sameMethod sameConstant
  · rw [CallNaming.name_of_named _ named, CallNaming.name_of_named _ named]
    exact upper_lowerFirst_of_isAscii (isAscii_nameOf ascii.operationId)

theorem methodConstant_eq_methodConstant_iff_of_hasAscii (offered : first.IsOffered)
    (alsoOffered : second.IsOffered) (ascii : first.HasAscii) (alsoAscii : second.HasAscii) :
    first.methodConstant = second.methodConstant ↔ CallNaming.ofLetters.Shares first second := by
  rw [methodConstant_eq_methodConstant_iff_name, name_ofConstants_of_hasAscii offered ascii,
    name_ofConstants_of_hasAscii alsoOffered alsoAscii]
  exact CallNaming.name_eq_name_iff CallNaming.tellsMethods_ofLetters offered.method
    alsoOffered.method

instance (call : Call) : Decidable call.HasAscii :=
  decidable_of_iff (IsAscii call.operationId.toList ∧ IsAscii call.path.toList)
    ⟨fun ⟨operationId, path⟩ => ⟨operationId, path⟩, fun ⟨operationId, path⟩ => ⟨operationId, path⟩⟩

end Call

/-! ## Names in a service class -/

namespace ServiceClass

/-- A service class declares the host, the base path and the constants of its calls. -/
theorem filter_lines_constant (service : ServiceClass) :
    service.lines.filter (startsWith ConstantsClass.constantFront) =
      (ConstantsClass.constantFront ++ "HOST = \"" ++ literalBody service.host ++ "\";") ::
        (ConstantsClass.constantFront ++ "BASE_PATH = \"" ++ literalBody service.basePath ++
          "\";") ::
        service.calls.map Call.methodConstantLine := by
  unfold lines
  rw [List.filter_append, List.filter_append,
    filter_flatMap_startsWith (Call.filter_lines_constant _), ← List.map_eq_flatMap]
  simp [ConstantsClass.constantFront, startsWith]

/-- A service class declares the methods of its calls and no others. -/
theorem filter_lines_url (service : ServiceClass) :
    service.lines.filter (startsWith Call.urlFront) = service.calls.map Call.urlLine := by
  unfold lines
  rw [List.filter_append, List.filter_append,
    filter_flatMap_startsWith (Call.filter_lines_url _), ← List.map_eq_flatMap]
  simp [Call.urlFront, startsWith, String.append_assoc]

end ServiceClass

end Source

open Source

/-- The calls of a service are those of operations. -/
theorem Service.isOffered_of_mem_calls {document : Document} {service : Service}
    (member : service ∈ document.services) {settings : Settings} {call : Call}
    (isCall : call ∈ (service.toServiceClass settings).calls) :
    call.IsOffered := by
  obtain ⟨endpoint, offered, rfl⟩ := List.mem_map.mp isCall
  obtain ⟨path, _, method, _, _, _, rfl⟩ :=
    Document.mem_endpoints_iff.mp (Document.mem_endpoints_of_mem_services member offered)
  exact ⟨⟨method, method.upper_name⟩, rfl⟩

/-- The methods of a service have names of their own exactly if no two calls share one, and so have
the constants. Within ASCII, calls share a constant if they do once their identifiers are in upper
case and their constants have no underscores. -/
theorem callNames_nodup_iff (document : Document) (settings : Settings) (services : List Service)
    (planned : Service.ofDocument document = .ok services) :
    ∀ service ∈ services,
      let calls := (service.toServiceClass settings).calls
      ((calls.map Call.urlName).Nodup ↔
          calls.Pairwise fun first second => ¬ CallNaming.ofMethods.Shares first second) ∧
        ((calls.map Call.methodConstant).Nodup ↔
          calls.Pairwise fun first second => ¬ CallNaming.ofConstants.Shares first second) ∧
        ((∀ call ∈ calls, call.HasAscii) →
          ((calls.map Call.methodConstant).Nodup ↔
            calls.Pairwise fun first second => ¬ CallNaming.ofLetters.Shares first second)) := by
  intro service member calls
  rw [Document.eq_services_of_ofDocument planned] at member
  have offered : ∀ call ∈ calls, call.IsOffered := fun call isCall =>
    Service.isOffered_of_mem_calls member isCall
  refine ⟨nodup_map_iff_pairwise ?_, nodup_map_iff_pairwise ?_, fun ascii =>
    nodup_map_iff_pairwise ?_⟩
  · intro first isFirst second isSecond
    exact Call.urlName_eq_urlName_iff (offered first isFirst) (offered second isSecond)
  · intro first isFirst second isSecond
    exact Call.methodConstant_eq_methodConstant_iff (offered first isFirst)
      (offered second isSecond)
  · intro first isFirst second isSecond
    exact Call.methodConstant_eq_methodConstant_iff_of_hasAscii (offered first isFirst)
      (offered second isSecond) (ascii first isFirst) (ascii second isSecond)

/-- A shop with one operation at each path, under the identifier given and without tags. -/
def shopOfCalls (operations : List (String × Option String)) : Document :=
  { petShop with
    paths := operations.map fun operation =>
      (operation.1, { PathItem.bare with get := some (.bare operation.2) }) }

/-- Two operations with an identifier and two without one all have names of their own. -/
theorem shopOfCalls_tells_apart :
    let document := shopOfCalls [("/pets", some "listPets"), ("/shops", none),
      ("/shops/{shopId}", none), ("/class", some "class")]
    ∃ service ∈ document.services,
      let calls := (service.toServiceClass petSettings).calls
      calls.map Call.urlName = ["listPetsUrl", "getShopsUrl", "getShopsByShopidUrl", "class_Url"] ∧
        (calls.Pairwise fun first second => ¬ CallNaming.ofMethods.Shares first second) ∧
        (calls.Pairwise fun first second => ¬ CallNaming.ofConstants.Shares first second) ∧
        calls.Pairwise fun first second => ¬ CallNaming.ofLetters.Shares first second := by
  intro document
  have planned : Service.ofDocument document = .ok document.services :=
    Document.ofDocument_eq_services rfl
  have isService : document.serviceOfTag petServer Endpoint.defaultTag ∈ document.services :=
    Document.mem_services_iff.mpr ⟨petServer, [], _, rfl, List.mem_cons_self, rfl⟩
  refine ⟨_, isService, ?_⟩
  intro calls
  obtain ⟨methods, constants, letters⟩ :=
    callNames_nodup_iff document petSettings document.services planned _ isService
  have ascii : ∀ call ∈ calls, call.HasAscii := by decide
  have distinctConstants : (calls.map Call.methodConstant).Nodup := by decide
  exact ⟨by decide, methods.mp (by decide), constants.mp distinctConstants,
    (letters ascii).mp distinctConstants⟩

/-- Two identifiers that differ in a dash have one method and one constant. -/
theorem shopOfCalls_repeats_names :
    let document := shopOfCalls [("/pets", some "list-pets"), ("/shops", some "list_pets")]
    (document.endpoints.filterMap (·.operationId)).Nodup ∧
      ((UrlConstant.ofPaths document.paths).map (·.name)).Nodup ∧
      ∃ services, Service.ofDocument document = .ok services ∧
        ∃ service ∈ services,
          let calls := (service.toServiceClass petSettings).calls
          ¬ (calls.map Call.methodConstant).Nodup ∧ ¬ (calls.map Call.urlName).Nodup := by
  intro document
  have planned : Service.ofDocument document = .ok document.services :=
    Document.ofDocument_eq_services rfl
  have isService : document.serviceOfTag petServer Endpoint.defaultTag ∈ document.services :=
    Document.mem_services_iff.mpr ⟨petServer, [], _, rfl, List.mem_cons_self, rfl⟩
  have identifiers : document.endpoints.filterMap (·.operationId) = ["list-pets", "list_pets"] := by
    decide
  have paths : (UrlConstant.ofPaths document.paths).map (·.name) = ["PETS", "SHOPS"] := by decide
  refine ⟨?_, ?_, document.services, planned, _, isService, ?_⟩
  · rw [identifiers]
    decide
  · rw [paths]
    decide
  · intro calls
    have constants : calls.map Call.methodConstant = ["LIST_PETS_METHOD", "LIST_PETS_METHOD"] := by
      decide
    have methods : calls.map Call.urlName = ["list_petsUrl", "list_petsUrl"] := by decide
    rw [constants, methods]
    decide

end OpenApiJava
